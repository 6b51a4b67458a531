import StationScript.Proofs.Lua.Guard

/-!
The global variables of a script.

A history is a run of a program in a fresh machine with any library, with whatever the host replies
and calls, in which nothing stores into the globals without regard to their metatable, and nothing
changes that metatable. It records what is assigned to globals. Of a library function that is known
by its name only it takes for granted no more than that; such a function may call others, never
return, or go on somewhere else. The collector may come at any time and have finalizers called. Main
statement: along every history the guard is in place and each global holds what was assigned to it
last.
-/

set_option autoImplicit false

namespace StationScript.Lua

open Library (componentKey)

/-! ### What globals are assigned -/

/-- The value that a key was given last, or the one it had before. -/
def lastGiven (entries : List (Key × Value)) (key : Key) (held : Value) : Value :=
  entries.foldl (fun held entry => if entry.1 = key then entry.2 else held) held

/-- What the globals hold in a fresh machine. -/
def initialEntries (library : StandardLibrary) : List (Key × Value) :=
  (globalFields library).map fun field => (.ofText field.1, field.2)

/-- What a global reads as in a table without metatable: the value assigned to it last, or else its
initial value, or else nil. -/
def globalAfter (library : StandardLibrary) (assigned : List (Key × Value)) (key : Key) : Value :=
  lastGiven assigned key (lastGiven (initialEntries library) key .nil)

/-- The stores among some that are assignments to globals. -/
def assignmentsIn (stores : List Store) : List (Key × Value) :=
  stores.filterMap fun store =>
    if store.ref = Heap.globalsRef then some (store.key, store.value) else none

theorem lastGiven_of_not_mem {entries : List (Key × Value)} {key : Key}
    (absent : key ∉ entries.map Prod.fst) (held : Value) : lastGiven entries key held = held := by
  unfold lastGiven
  induction entries with
  | nil => rfl
  | cons entry rest ih =>
    rw [List.map_cons, List.mem_cons, not_or] at absent
    rw [List.foldl_cons, if_neg fun same => absent.1 same.symm]
    exact ih absent.2

theorem globalAfter_append (library : StandardLibrary) (assigned later : List (Key × Value))
    (key : Key) : globalAfter library (assigned ++ later) key =
      lastGiven later key (globalAfter library assigned key) := List.foldl_append

/-- A global reads as the value assigned to it last. -/
theorem globalAfter_assigned (library : StandardLibrary) (assigned : List (Key × Value)) (key : Key)
    (value : Value) : globalAfter library (assigned ++ [(key, value)]) key = value :=
  (globalAfter_append library assigned _ key).trans (if_pos rfl)

/-- The reserved key is no key of the library or of the host. -/
theorem componentKey_not_mem (library : StandardLibrary) :
    componentKey ∉ (initialEntries library).map Prod.fst := by
  intro among
  obtain ⟨entry, listed, same⟩ := List.mem_map.mp among
  obtain ⟨field, given, rfl⟩ := List.mem_map.mp listed
  have name : field.1 = Library.componentName :=
    String.toByteArray_inj.mp (Key.string.inj same)
  have hosts : ∀ f ∈ HostFunction.all, f.name ≠ Library.componentName := by decide
  rcases List.mem_append.mp given with early | late
  · exact library.unreserved field early name
  · obtain ⟨f, installed, rfl⟩ := List.mem_map.mp late
    exact hosts f installed name

theorem lastStored_globals (stores : List Store) (key : Key) (held : Value) :
    Heap.lastStored stores Heap.globalsRef key held =
      lastGiven (assignmentsIn stores) key held := by
  unfold Heap.lastStored lastGiven assignmentsIn
  induction stores generalizing held with
  | nil => rfl
  | cons store rest ih =>
    by_cases here : store.ref = Heap.globalsRef
    · rw [List.foldl_cons, ih, List.filterMap_cons, if_pos here, List.foldl_cons]
      simp only [here, true_and]
    · rw [List.foldl_cons, ih, List.filterMap_cons, if_neg here, if_neg fun both => here both.1]

theorem get_tableOf (fields : List (String × Value)) (key : Key) :
    (tableOf fields).get key =
      lastGiven (fields.map fun field => (.ofText field.1, field.2)) key .nil := by
  have filled (table : Table) :
      (fields.foldl (fun table field => table.setText field.1 field.2) table).get key =
        lastGiven (fields.map fun field => (.ofText field.1, field.2)) key (table.get key) := by
    unfold lastGiven
    induction fields generalizing table with
    | nil => rfl
    | cons field rest ih =>
      rw [List.foldl_cons, ih, List.map_cons, List.foldl_cons]
      congr 1
      unfold Table.setText
      split
      · rename_i same
        rw [← same, Table.get_set_self]
      · rename_i other
        exact Table.get_set_of_ne table _ fun same => other same.symm
  rw [← Table.get_empty key]
  exact filled {}

/-! ### Histories -/

/-- The host calls a function in a fresh stack. -/
def Heap.callState (heap : Heap) (function : Value) (arguments : List Value) : State :=
  let m : Machine := { heap }
  .calling entrySlot arguments.length 1
    ((m.reserve (entrySlot + 1 + arguments.length)).setSlots entrySlot (function :: arguments))

/-- A fresh machine with the program and the globals that it captures. -/
def freshHeap (library : StandardLibrary) (component : String) (program : Prototype) :
    Heap × Value :=
  let (heap, cell) :=
    (Heap.initial library component).addCell (.detached (.table Heap.globalsRef))
  let (heap, ref) := heap.addClosure ⟨program, #[cell]⟩
  (heap, .function (.closure ref))

/-- The host calls a program. -/
def startState (library : StandardLibrary) (component : String) (program : Prototype) : State :=
  (freshHeap library component program).1.callState (freshHeap library component program).2 []

theorem runProgram_eq_bind (component : String) (program : Prototype) :
    runProgram component program =
      (State.run budget (startState .standard component program)).bind fun
        | (.ok _, heap) => .done (.ok heap)
        | (.error raised, heap) =>
          heap.release.bind fun _ => .done (.error (raised.message heap)) :=
  rfl

/-- A finalizer is called like any other function. -/
theorem Heap.finalize_eq_bind (heap : Heap) (ref : Nat) : heap.finalize ref =
    match heap.metafield (.table ref) "gc" with
    | .nil => .done heap
    | handler => (State.run budget (heap.callState handler [.table ref])).bind fun ended =>
      .done ended.2 := rfl

/-- The next step stores into the globals without regard to their metatable, or changes that. -/
def State.Tampers (s : State) : Prop :=
  s.CallsOnGlobals .rawset ∨ s.CallsOnGlobals .setmetatable ∨
    ∃ store ∈ s.stores, store.ref = Heap.guardRef

/-- The globals and their guard stay as they are, whatever becomes of the rest of the memory. -/
structure Heap.Spares (before after : Heap) : Prop where
  size : before.tables.size ≤ after.tables.size
  component : after.component = before.component
  globals : ∀ key, after.globals.get key = before.globals.get key
  metatable : after.globals.metatable = before.globals.metatable
  guard : ∀ key, (after.table guardRef).get key = (before.table guardRef).get key

/-- A function of which only the name is known has its turn: it is at work, or it may catch what was
raised. -/
def State.Abroad : State → Prop
  | .abroad _ _ => True
  | .raising _ m => ∃ native name, .native native ∈ m.frames ∧ native.function = .foreign name
  | _ => False

def State.withHeap (heap : Heap) : State → State
  | .script a position m => .script a position { m with heap }
  | .calling slot count nesting m => .calling slot count nesting { m with heap }
  | .delivering results m => .delivering results { m with heap }
  | .raising value m => .raising value { m with heap }
  | .asking f arguments m => .asking f arguments { m with heap }
  | .abroad native m => .abroad native { m with heap }
  | .ended outcome _ => .ended outcome heap

/-- Before the next instruction a finalizer is called. Nobody hears of its results or of an
error. -/
def Machine.finalizing (a : Activation) (position : Nat) (m : Machine) (handler object : Value) :
    State :=
  (m.await a position .again).callWith
    (.native { function := .foreign "collectgarbage", arguments := [], slot := a.limit,
               nesting := a.nesting + 1, next := .protect })
    a.limit handler [object]

/-- The states that a program comes to by steps that do not tamper with the globals, and what has
been assigned to globals by then. -/
inductive History (library : StandardLibrary) (component : String) (program : Prototype) :
    State → List (Key × Value) → Prop where
  | start : History library component program (startState library component program) []
  | step {s : State} {assigned : List (Key × Value)}
      (history : History library component program s assigned)
      (faithful : ¬ s.Tampers) :
      History library component program s.step (assigned ++ assignmentsIn s.stores)
  /-- The host replies as it likes. -/
  | reply {f : HostFunction} {arguments : List Value} {m : Machine} {assigned : List (Key × Value)}
      (history : History library component program (.asking f arguments m) assigned)
      (reply : Reply) : History library component program (m.answered reply) assigned
  /-- When one call has ended, the host calls what it likes. -/
  | call {outcome : Except Raised (List Value)} {heap : Heap} {assigned : List (Key × Value)}
      (history : History library component program (.ended outcome heap) assigned)
      (function : Value) (arguments : List Value) :
      History library component program (heap.callState function arguments) assigned
  /-- When one call has ended, the host looks up what it likes. -/
  | lookup {outcome : Except Raised (List Value)} {heap : Heap} {assigned : List (Key × Value)}
      (history : History library component program (.ended outcome heap) assigned) {name : String}
      {handler object : Value}
      (asks : heap.read (.ofText name) hopLimit true (.table Heap.globalsRef) =
        .asks handler object) :
      History library component program
        (({ heap } : Machine).callWith .host entrySlot handler [object, .ofText name]) assigned
  /-- A function of which only the name is known does anything but assign to globals. -/
  | work {s after : State} {assigned : List (Key × Value)}
      (history : History library component program s assigned) (abroad : s.Abroad)
      (spares : s.heap.Spares after.heap) : History library component program after assigned
  /-- Such a function assigns to a global that is not nil. To another one it assigns as a script
  does, by a call of the guard. -/
  | assign {native : NativeCall} {m : Machine} {key : Key} {assigned : List (Key × Value)}
      (history : History library component program (.abroad native m) assigned)
      (held : m.heap.globals.get key ≠ .nil) (value : Value) :
      History library component program
        (.abroad native (m.onHeap fun heap => heap.perform ⟨Heap.globalsRef, key, value⟩))
        (assigned ++ [(key, value)])
  /-- What is out of use is removed, or marked for its finalizer. -/
  | collect {s : State} {assigned : List (Key × Value)}
      (history : History library component program s assigned) {heap : Heap}
      (spares : s.heap.Spares heap) : History library component program (s.withHeap heap) assigned
  | finalize {a : Activation} {position : Nat} {m : Machine} {assigned : List (Key × Value)}
      (history : History library component program (.script a position m) assigned)
      (handler object : Value) :
      History library component program (m.finalizing a position handler object) assigned

/-! ### What holds along a history -/

/-- The guard is in place, and the globals hold what was assigned to them, which the reserved key
never is. -/
structure GlobalsHold (library : StandardLibrary) (component : String)
    (assigned : List (Key × Value)) (heap : Heap) : Prop where
  guarded : heap.Guarded
  component : heap.component = component
  get : ∀ key, heap.globals.get key = globalAfter library assigned key
  reserved : globalAfter library assigned componentKey = .nil

namespace GlobalsHold

variable {library : StandardLibrary} {component : String} {assigned : List (Key × Value)}
  {heap after : Heap}

theorem initial (library : StandardLibrary) (component : String) :
    GlobalsHold library component [] (Heap.initial library component) := by
  have early {ref : Nat} (first : ref < 2) : (Heap.initial library component).table ref =
      #[{ tableOf (globalFields library) with metatable := some Heap.guardRef },
        tableOf [("__index", .function .readComponent),
          ("__newindex", .function .writeComponent)]].getD ref {} := by
    unfold Heap.table Heap.initial
    rw [Array.getD_eq_getD_getElem?, Array.getD_eq_getD_getElem?, Array.getElem?_append_left first]
  have globals : (Heap.initial library component).globals =
      { tableOf (globalFields library) with metatable := some Heap.guardRef } :=
    early Nat.two_pos
  have guard : (Heap.initial library component).table Heap.guardRef =
      tableOf [("__index", .function .readComponent),
        ("__newindex", .function .writeComponent)] := early Nat.one_lt_two
  refine ⟨⟨?_, ?_, ?_, ?_⟩, rfl, ?_, ?_⟩
  · show 1 < (#[_, _] ++ library.tables).size
    rw [Array.size_append]
    exact Nat.lt_add_right _ Nat.one_lt_two
  · rw [globals]
  · rw [guard, Table.getText, get_tableOf]
    rfl
  · rw [guard, Table.getText, get_tableOf]
    rfl
  · intro key
    rw [globals]
    exact get_tableOf (globalFields library) key
  · exact lastGiven_of_not_mem (componentKey_not_mem library) .nil

/-- Stores outside the guard that spare the reserved key of the globals are the only assignments. -/
theorem of_keeps {stores : List Store} (holds : GlobalsHold library component assigned heap)
    (spared : ∀ store ∈ stores, store.ref ≠ Heap.guardRef)
    (unreserved : ∀ store ∈ stores, store.ref = Heap.globalsRef → store.key ≠ componentKey)
    (keeps : (heap.performAll stores).Keeps after) :
    GlobalsHold library component (assigned ++ assignmentsIn stores) after := by
  have inside : Heap.globalsRef < heap.tables.size := Nat.zero_lt_of_lt holds.guarded.size
  refine ⟨holds.guarded.of_keeps spared keeps, ?_, ?_, ?_⟩
  · rw [keeps.component, Heap.component_performAll, holds.component]
  · intro key
    unfold Heap.globals
    rw [keeps.get _ (by rwa [Heap.size_performAll]), Heap.get_performAll inside, lastStored_globals,
      globalAfter_append, ← holds.get]
    rfl
  · rw [globalAfter_append, holds.reserved, ← lastStored_globals]
    exact Heap.lastStored_of_other _ _ unreserved

theorem of_same (holds : GlobalsHold library component assigned heap) (keeps : heap.Keeps after) :
    GlobalsHold library component assigned after := by
  have same := @of_keeps _ _ _ _ _ [] holds (List.forall_mem_nil _) (List.forall_mem_nil _) keeps
  rwa [show assignmentsIn [] = [] from rfl, List.append_nil] at same

/-- What spares the globals and their guard is of no concern. -/
theorem of_spares (holds : GlobalsHold library component assigned heap)
    (spares : heap.Spares after) : GlobalsHold library component assigned after := by
  obtain ⟨size, metatable, index, newindex⟩ := holds.guarded
  refine ⟨⟨Nat.lt_of_lt_of_le size spares.size, spares.metatable.trans metatable,
    (spares.guard _).trans index, (spares.guard _).trans newindex⟩,
    spares.component.trans holds.component, fun key => ?_, holds.reserved⟩
  rw [spares.globals, holds.get]

/-- A global that is not nil can be assigned at once: it is not the reserved one. -/
theorem assign (holds : GlobalsHold library component assigned heap) {key : Key}
    (held : heap.globals.get key ≠ .nil) (value : Value) :
    GlobalsHold library component (assigned ++ [(key, value)])
      (heap.perform ⟨Heap.globalsRef, key, value⟩) := by
  have plain : key ≠ componentKey := by
    rintro rfl
    exact held ((holds.get _).trans holds.reserved)
  refine @of_keeps _ _ _ _ _ [⟨Heap.globalsRef, key, value⟩] holds ?_ ?_ (.refl _)
  · exact List.forall_mem_singleton.mpr Nat.zero_ne_one
  · exact List.forall_mem_singleton.mpr fun _ => plain

end GlobalsHold

theorem Heap.heap_callState (heap : Heap) (function : Value) (arguments : List Value) :
    (heap.callState function arguments).heap = heap := Machine.heap_setSlots _ _ _

theorem State.heap_withHeap (heap : Heap) (s : State) : (s.withHeap heap).heap = heap := by
  cases s <;> rfl

/-- The globals hold their assignments at the end of every history. -/
theorem History.holds {library : StandardLibrary} {component : String} {program : Prototype}
    {s : State} {assigned : List (Key × Value)}
    (history : History library component program s assigned) :
    GlobalsHold library component assigned s.heap := by
  induction history with
  | start =>
    unfold startState
    rw [Heap.heap_callState]
    refine (GlobalsHold.initial library component).of_same ?_
    exact (Heap.Keeps.addCell _ _).trans (Heap.Keeps.addClosure _ _)
  | @step s assigned _ faithful holds =>
    have spared : ∀ store ∈ s.stores, store.ref ≠ Heap.guardRef :=
      fun store among here => faithful (.inr (.inr ⟨store, among, here⟩))
    refine holds.of_keeps spared (fun store among here => ?_) ?_
    · refine State.key_ne_of_stores holds.guarded ?_ (fun raw => faithful (.inl raw)) among here
      rw [holds.get, holds.reserved]
    · exact s.keeps_step fun change => faithful (.inr (.inl change))
  | @reply f arguments m assigned _ reply holds =>
    exact holds.of_same (Machine.keeps_answered m reply)
  | call _ function arguments holds =>
    rw [Heap.heap_callState]
    exact holds
  | lookup _ _ holds =>
    rw [Machine.heap_callWith]
    exact holds
  | work _ _ spares holds => exact holds.of_spares spares
  | assign _ held value holds => exact holds.assign held value
  | collect _ spares holds =>
    rw [State.heap_withHeap]
    exact holds.of_spares spares
  | finalize _ handler object holds =>
    unfold Machine.finalizing
    rw [Machine.heap_callWith]
    exact holds

end StationScript.Lua
