import StationScript.Proofs.Lua.Answers

/-!
The globals of a script behave as a table without metatable would.

Main statement: along every history, each instruction that reads or assigns a global ends in the
next instruction or in an error, as it would without the guard, apart from the key of the device's
id.
-/

set_option autoImplicit false

namespace StationScript.Lua

open Library (componentKey)

namespace Machine

section Access

variable (a : Activation) (m : Machine)

/-- What an instruction that reads a field reads it from, with the machine it leaves, the register
for the value, the object and the key. -/
def reading? : Instruction → Option (Machine × Nat × Value × Value)
  | .getUpvalueField r up k => some (m, r, m.captive (a.cells.getD up 0), constant a k)
  | .getIndexed r t k => some (m, r, m.register a t, m.register a k)
  | .getInteger r t n => some (m, r, m.register a t, .integer (Int64.ofNat n))
  | .getField r t k => some (m, r, m.register a t, constant a k)
  | .method r object key =>
    some (m.setRegister a (r + 1) (m.register a object), r, m.register a object,
      m.sourceValue a key)
  | _ => none

variable {a m} {instruction : Instruction}

theorem runInstruction_of_reading {m₀ : Machine} {r : Nat} {object index : Value}
    (reading : m.reading? a instruction = some (m₀, r, object, index)) (position : Nat) :
    m₀.heap = m.heap ∧ m.stores a instruction = [] ∧ ∃ holder,
      m.runInstruction a position instruction = m₀.readField a position r object holder index := by
  cases instruction with
  | getUpvalueField | getIndexed | getInteger | getField | method =>
    cases reading
    exact ⟨rfl, rfl, _, rfl⟩
  | _ => cases reading

theorem runInstruction_of_assignment {object index value : Value}
    (assignment : m.assignment? a instruction = some (object, index, value)) (position : Nat) :
    m.stores a instruction = m.heap.assignStores hopLimit object index value ∧ ∃ holder,
      m.runInstruction a position instruction =
        m.writeField a position object holder index value := by
  cases instruction with
  | setUpvalueField | setIndexed | setInteger | setField =>
    cases assignment
    exact ⟨rfl, _, rfl⟩
  | _ => cases assignment

end Access

end Machine

/-! ### What an access comes to -/

section Outcomes

variable (library : StandardLibrary) (component : String) (program : Prototype)
  (assigned : List (Key × Value)) (a : Activation) (position : Nat) (m : Machine)

/-- The instruction goes on with a value in a register and changes nothing else. -/
def Yields (m₀ : Machine) (r : Nat) (value : Value) : Prop :=
  ∃ m',
    Comes library component program (.script a position m) (m'.put a position r value) assigned ∧
    m₀.AgreesBelow a.limit m' ∧ m₀.heap.Keeps m'.heap

/-- The instruction goes on when a value is assigned to a global, and changes nothing else. -/
def Assigns (key : Key) (value : Value) : Prop :=
  ∃ m', Comes library component program (.script a position m) (m'.next a position)
      (assigned ++ [(key, value)]) ∧
    m.AgreesBelow a.limit m' ∧ (m.heap.perform ⟨Heap.globalsRef, key, value⟩).Keeps m'.heap

/-- The instruction goes on when a value is assigned to a global, both as they are after they have
passed through the host, and changes nothing else. -/
def Creates (index value : Value) : Prop :=
  ∃ m' index' value' key',
    Comes library component program (.script a position m) (m'.next a position)
      (assigned ++ [(key', value')]) ∧
    m.heap.IsPassed m'.heap index index' ∧ m.heap.IsPassed m'.heap value value' ∧
    Key.ofValue index' = .ok key' ∧ m.AgreesBelow a.limit m' ∧
    (m.heap.perform ⟨Heap.globalsRef, key', value'⟩).Keeps m'.heap

/-- The instruction raises a failure that says what cannot be assigned, and changes nothing. -/
def Refuses : Prop :=
  ∃ ref m',
    Comes library component program (.script a position m) (.raising (.failure ref) m') assigned ∧
    (∃ trace, m'.heap.failureText ref = "runtime error: SmartComponent is read-only\n" ++ trace) ∧
    m.heap.Keeps m'.heap

/-- The instruction raises an error about the limits of the machine, and changes nothing. -/
def Overflows : Prop :=
  ∃ place m', Comes library component program (.script a position m)
      (.raising (.ofText (place ++ "stack overflow")) m') assigned ∧
    m'.heap = m.heap

end Outcomes

/-! ### Accesses along a history -/

section Accesses

variable {library : StandardLibrary} {component : String} {program : Prototype}
  {assigned : List (Key × Value)} {a : Activation} {position : Nat} {m : Machine}
  {index : Value} {key : Key}
  (history : History library component program (.script a position m) assigned)
include history

section Reading

variable {m₀ : Machine} {r : Nat}

/-- An instruction that reads a global is followed by what reading the field comes to. -/
theorem History.after_reading
    (reading : m.reading? a (a.prototype.instruction position) =
      some (m₀, r, .table Heap.globalsRef, index)) :
    m₀.heap = m.heap ∧ ∃ holder, (State.script a position m).step =
        m₀.readField a position r (.table Heap.globalsRef) holder index ∧
      History library component program
        (m₀.readField a position r (.table Heap.globalsRef) holder index)
        assigned := by
  obtain ⟨heap, nothing, holder, runs⟩ := Machine.runInstruction_of_reading reading position
  have next := history.quiet (State.not_tampers_of_quiet nothing id id) nothing
  rw [show (State.script a position m).step = _ from runs] at next
  exact ⟨heap, holder, runs, next⟩

/-- A global that is not nil is read by its name in one step. -/
theorem History.after_name {name : String}
    (reading : m.reading? a (a.prototype.instruction position) =
      some (m, r, .table Heap.globalsRef, .ofText name))
    (held : globalAfter library assigned (.ofText name) ≠ .nil) :
    History library component program
      (m.put a position r (globalAfter library assigned (.ofText name)))
      assigned := by
  have holds : GlobalsHold library component assigned m.heap := history.holds
  have value : m.heap.globals.get (.ofText name) = globalAfter library assigned (.ofText name) :=
    holds.get _
  obtain ⟨_, holder, _, next⟩ := history.after_reading reading
  rwa [Machine.readField_of_name holds.guarded (by rwa [value]), value] at next

variable (reading : m.reading? a (a.prototype.instruction position) =
    some (m₀, r, .table Heap.globalsRef, index)) (valid : Key.ofValue index = .ok key)
include reading valid

/-- One key reads as the device's id and any other one as in a table without metatable. -/
theorem History.yields
    (present :
      globalAfter library assigned key ≠ .nil ∨ Machine.HasRoom a.limit 2 (a.nesting + 1)) :
    Yields library component program assigned a position m m₀ r
      (if key = componentKey then .ofText component else globalAfter library assigned key) := by
  obtain ⟨heap, holder, step, next⟩ := history.after_reading reading
  have holds : GlobalsHold library component assigned m₀.heap := heap ▸ history.holds
  by_cases held : globalAfter library assigned key = .nil
  · have absent : m₀.heap.globals.get key = .nil := (holds.get key).trans held
    have room := present.resolve_left fun other => other held
    rw [Machine.readField_of_absent holds.guarded valid absent] at step next
    obtain ⟨m', comes, agrees, same⟩ := comes_of_readComponent next room
    rw [if_congr (Library.isComponentKey_of_valid valid) rfl rfl, holds.component, ← held] at comes
    exact ⟨m', .after step comes, agrees, .of_eq same.symm⟩
  · have present : m₀.heap.globals.get key ≠ .nil := by rwa [holds.get]
    have plain : key ≠ componentKey := by
      rintro rfl
      exact held holds.reserved
    obtain ⟨m', read, agrees, keeps⟩ :=
      Machine.readField_of_held holds.guarded valid present r holder
    rw [read, holds.get] at next step
    rw [if_neg plain]
    exact ⟨m', .after step (.here next), agrees, keeps⟩

theorem History.overflows_reading (absent : globalAfter library assigned key = .nil)
    (full : ¬ Machine.HasRoom a.limit 2 (a.nesting + 1)) :
    Overflows library component program assigned a position m := by
  obtain ⟨heap, holder, step, next⟩ := history.after_reading reading
  have holds : GlobalsHold library component assigned m₀.heap := heap ▸ history.holds
  have missing : m₀.heap.globals.get key = .nil := (holds.get key).trans absent
  rw [Machine.readField_of_absent holds.guarded valid missing] at step next
  obtain ⟨place, m', comes, same⟩ := comes_of_full next nofun nofun full
  exact ⟨place, m', .after step comes, same.trans heap⟩

end Reading

section Assignment

variable {value : Value} (assignment : m.assignment? a (a.prototype.instruction position) =
    some (.table Heap.globalsRef, index, value)) (valid : Key.ofValue index = .ok key)
include assignment valid

/-- An instruction that assigns to a global is followed by what assigning the field comes to. -/
theorem History.after_assignment : ∃ holder, (State.script a position m).step =
      m.writeField a position (.table Heap.globalsRef) holder index value ∧
    History library component program
      (m.writeField a position (.table Heap.globalsRef) holder index value)
      (assigned ++ assignmentsIn
        (m.heap.assignStores hopLimit (.table Heap.globalsRef) index value)) := by
  obtain ⟨stores, holder, runs⟩ := Machine.runInstruction_of_assignment assignment position
  have guarded : m.heap.Guarded := history.holds.guarded
  have faithful : ¬ (State.script a position m).Tampers := by
    rintro (raw | change | ⟨store, among, here⟩)
    · exact raw
    · exact change
    · rw [show (State.script a position m).stores = _ from stores,
        Heap.assignStores_globals guarded valid] at among
      split at among
      · cases among
      · rw [List.mem_singleton.mp among] at here
        exact Nat.zero_ne_one here
  have next := history.step faithful
  rw [show (State.script a position m).stores = _ from stores,
    show (State.script a position m).step = _ from runs] at next
  exact ⟨holder, runs, next⟩

/-- A global that is not nil is assigned as in a table without metatable. -/
theorem History.assigns (held : globalAfter library assigned key ≠ .nil) :
    Assigns library component program assigned a position m key value := by
  have holds : GlobalsHold library component assigned m.heap := history.holds
  have present : m.heap.globals.get key ≠ .nil := by rwa [holds.get]
  obtain ⟨holder, step, next⟩ := history.after_assignment assignment valid
  rw [Heap.assignStores_of_held holds.guarded valid present] at next
  rw [Machine.writeField_of_held holds.guarded valid present] at step next
  exact ⟨m.onHeap fun heap => heap.setRaw Heap.globalsRef key value, .after step (.here next),
    .onHeap m a.limit ⟨rfl, rfl⟩, .refl _⟩

section Absent

variable (absent : globalAfter library assigned key = .nil)
include absent

/-- The guard is asked to assign to a global that is nil. -/
theorem History.after_absent_assignment :
    (State.script a position m).step = m.ask a position (.slots 0 (some 0))
        (.function .writeComponent) [.table Heap.globalsRef, index, value] ∧
      History library component program
        (m.ask a position (.slots 0 (some 0)) (.function .writeComponent)
        [.table Heap.globalsRef, index, value]) assigned := by
  have holds : GlobalsHold library component assigned m.heap := history.holds
  have missing : m.heap.globals.get key = .nil := (holds.get key).trans absent
  obtain ⟨holder, step, next⟩ := history.after_assignment assignment valid
  rw [Heap.assignStores_globals holds.guarded valid, missing] at next
  rw [Machine.writeField_of_absent holds.guarded valid missing] at step next
  exact ⟨step, List.append_nil assigned ▸ next⟩

theorem History.overflows_assigning (full : ¬ Machine.HasRoom a.limit 3 (a.nesting + 1)) :
    Overflows library component program assigned a position m := by
  obtain ⟨step, next⟩ := history.after_absent_assignment assignment valid absent
  obtain ⟨place, m', comes, same⟩ := comes_of_full next nofun nofun full
  exact ⟨place, m', .after step comes, same⟩

variable (room : Machine.HasRoom a.limit 3 (a.nesting + 1))
include room

/-- A global that is nil is assigned by the guard. -/
theorem History.creates (plain : key ≠ componentKey) :
    Creates library component program assigned a position m index value := by
  obtain ⟨step, next⟩ := history.after_absent_assignment assignment valid absent
  have other : Library.isComponentKey index = false :=
    Bool.eq_false_iff.mpr fun same => plain ((Library.isComponentKey_of_valid valid).mp same)
  obtain ⟨m', index', value', key', comes, rest⟩ := comes_of_writeComponent next room other valid
  exact ⟨m', index', value', key', .after step comes, rest⟩

/-- The guard refuses to assign to the reserved key, whatever the value. -/
theorem History.refuses (reserved : key = componentKey) :
    Refuses library component program assigned a position m := by
  obtain ⟨step, next⟩ := history.after_absent_assignment assignment valid absent
  obtain ⟨ref, m', comes, rest⟩ :=
    comes_of_reserved next room ((Library.isComponentKey_of_valid valid).mpr reserved)
  exact ⟨ref, m', .after step comes, rest⟩

end Absent

end Assignment

/-- Along every history the globals behave as a table without metatable would, but for the key of
the device's id, failures in assignments that create a global, and the limits of the machine. -/
theorem History.globals_transparent :
    (∀ (m₀ : Machine) (r : Nat) (index : Value) (key : Key),
      m.reading? a (a.prototype.instruction position) =
        some (m₀, r, .table Heap.globalsRef, index) →
      Key.ofValue index = .ok key →
        (globalAfter library assigned key ≠ .nil ∨ Machine.HasRoom a.limit 2 (a.nesting + 1) →
          Yields library component program assigned a position m m₀ r
            (if key = componentKey then .ofText component else globalAfter library assigned key)) ∧
        (globalAfter library assigned key = .nil → ¬ Machine.HasRoom a.limit 2 (a.nesting + 1) →
          Overflows library component program assigned a position m)) ∧
    (∀ (index value : Value) (key : Key),
      m.assignment? a (a.prototype.instruction position) =
        some (.table Heap.globalsRef, index, value) →
      Key.ofValue index = .ok key →
        (globalAfter library assigned key ≠ .nil →
          Assigns library component program assigned a position m key value) ∧
        (globalAfter library assigned key = .nil → Machine.HasRoom a.limit 3 (a.nesting + 1) →
          key ≠ componentKey →
          Creates library component program assigned a position m index value) ∧
        (Machine.HasRoom a.limit 3 (a.nesting + 1) → key = componentKey →
          Refuses library component program assigned a position m) ∧
        (globalAfter library assigned key = .nil → ¬ Machine.HasRoom a.limit 3 (a.nesting + 1) →
          Overflows library component program assigned a position m)) := by
  constructor
  · intro m₀ r index key reading valid
    exact ⟨history.yields reading valid, history.overflows_reading reading valid⟩
  · intro index value key assignment valid
    refine ⟨history.assigns assignment valid, history.creates assignment valid, ?_,
      history.overflows_assigning assignment valid⟩
    rintro room rfl
    exact history.refuses assignment valid history.holds.reserved room rfl

end Accesses

/-! ### Two programs -/

/-- A whole program captures nothing but the globals. -/
def wholeProgram (code : Array Instruction) (constants : Array Value) (registers : Nat) :
    Prototype where
  code
  lines := #[]
  constants
  functions := #[]
  captures := #[{ name := "_ENV", fromRegister := true, position := 0 }]
  locals := #[]
  parameters := 0
  variadic := true
  registers
  line := 0

/-- The call of a whole program by the host. -/
def wholeActivation (program : Prototype) : Activation :=
  { closure := 0, prototype := program, cells := #[0], slot := 3, origin := 2, nesting := 1 }

/-- The program `SmartComponent = nil`. -/
def clearing : Prototype :=
  wholeProgram #[.prepareVarargs, .setUpvalueField 0 0 (.constant 1), .answer 0 (some 0)]
    #[.ofText "SmartComponent", .nil] 2

/-- The program `local ok, e = pcall(set_status); x = e; local y = x`. -/
def capturing : Prototype :=
  wholeProgram
    #[.prepareVarargs, .getUpvalueField 0 0 0, .getUpvalueField 1 0 1, .call 0 (some 1) (some 2),
      .setUpvalueField 0 2 (.register 1), .getUpvalueField 2 0 2, .answer 3 (some 0)]
    #[.ofText "pcall", .ofText "set_status", .ofText "x"] 3

deriving instance DecidableEq for Instruction

example : ((Prototype.ofSource "SmartComponent = nil").toOption.map fun p =>
    (p.code, p.constants.map Value.toBytes?, p.registers)) =
      some (clearing.code, clearing.constants.map Value.toBytes?, clearing.registers) := by
  decide +kernel

example : ((Prototype.ofSource "local ok, e = pcall(set_status); x = e; local y = x").toOption.map
    fun p => (p.code, p.constants.map Value.toBytes?, p.registers)) =
      some (capturing.code, capturing.constants.map Value.toBytes?, capturing.registers) := by
  decide +kernel

/-- The assignment of nil to the reserved key is refused. -/
theorem component_not_cleared : ∃ m, History .standard "Gripper:1" clearing
      (.script (wholeActivation clearing) 1 m) [] ∧
    m.assignment? (wholeActivation clearing) (clearing.instruction 1) =
      some (.table Heap.globalsRef, .ofText "SmartComponent", .nil) ∧
    Refuses .standard "Gripper:1" clearing [] (wholeActivation clearing) 1 m := by
  have entered := (@History.start .standard "Gripper:1" clearing).quiet
    (State.not_tampers_of_quiet rfl nofun nofun) rfl
  have reached := entered.quiet (State.not_tampers_of_quiet rfl nofun nofun) rfl
  have assignments :=
    reached.globals_transparent.2 (.ofText "SmartComponent") .nil componentKey rfl rfl
  exact ⟨_, reached, rfl, assignments.2.2.1 (by decide) rfl⟩

/-- The program comes to the assignment with the failure in hand. -/
theorem capturing_catches : ∃ m, History .standard "Gripper:1" capturing
      (.script (wholeActivation capturing) 4 m) [] ∧
    m.assignment? (wholeActivation capturing) (capturing.instruction 4) =
      some (.table Heap.globalsRef, .ofText "x", .failure 0) ∧
    m.heap.failures.size = 1 ∧ m.heap.cell 0 = .detached (.table Heap.globalsRef) := by
  have entered := (@History.start .standard "Gripper:1" capturing).quiet
    (State.not_tampers_of_quiet rfl nofun nofun) rfl
  have begun := entered.quiet (State.not_tampers_of_quiet rfl nofun nofun) rfl
  have catcher := begun.after_name rfl nofun
  have caught := catcher.after_name rfl nofun
  have calls := caught.quiet (State.not_tampers_of_quiet rfl nofun nofun) rfl
  have protects := calls.quiet (State.not_tampers_of_quiet rfl nofun nofun) rfl
  have asks := protects.quiet (State.not_tampers_of_quiet rfl nofun nofun) rfl
  have refused := asks.reply (.error ⟨1, .notText "nil"⟩)
  have delivers := refused.quiet (State.not_tampers_of_quiet rfl nofun nofun) rfl
  have reached := delivers.quiet (State.not_tampers_of_quiet rfl nofun nofun) rfl
  exact ⟨_, reached, rfl, rfl, rfl⟩

/-- A caught failure that is assigned to a new global is another one when the global is read. -/
theorem caught_failure_reads_as_another : ∃ m, History .standard "Gripper:1" capturing
      (.script (wholeActivation capturing) 4 m) [] ∧
    m.assignment? (wholeActivation capturing) (capturing.instruction 4) =
      some (.table Heap.globalsRef, .ofText "x", .failure 0) ∧
    ∃ m' copy, Comes .standard "Gripper:1" capturing (.script (wholeActivation capturing) 4 m)
        (.script (wholeActivation capturing) 5 m') [(.ofText "x", .failure copy)] ∧
      m'.reading? (wholeActivation capturing) (capturing.instruction 5) =
        some (m', 2, .table Heap.globalsRef, .ofText "x") ∧
      Yields .standard "Gripper:1" capturing [(.ofText "x", .failure copy)]
        (wholeActivation capturing) 5
        m' m' 2 (.failure copy) ∧
      copy ≠ 0 := by
  obtain ⟨m, reached, assignment, one, globals⟩ := capturing_catches
  have absent : globalAfter .standard [] (.ofText "x") = .nil := rfl
  obtain ⟨m', index', value', key', comes, same, passed, valid, agrees, _⟩ :=
    reached.creates assignment rfl absent (by decide) (by decide)
  obtain rfl : index' = .ofText "x" := same
  obtain rfl : key' = .ofText "x" := (Except.ok.inj valid).symm
  obtain ⟨copy, rfl, fresh, _⟩ := passed
  have reading : m'.reading? (wholeActivation capturing) (capturing.instruction 5) =
      some (m', 2, .table Heap.globalsRef, .ofText "x") := by
    show some (m', 2, m'.captive 0, Value.ofText "x") = _
    rw [agrees.captive globals]
  have named : Key.ofValue (.ofText "x") = .ok (.ofText "x") := rfl
  have value := globalAfter_assigned .standard [] (.ofText "x") (.failure copy)
  obtain ⟨n, steps, history⟩ := comes
  have reads := history.yields reading named (.inl (by rw [value]; exact nofun))
  rw [if_neg (by decide), value] at reads
  exact ⟨m, reached, assignment, m', copy, ⟨n, steps, history⟩, reading, reads, by omega⟩

end StationScript.Lua
