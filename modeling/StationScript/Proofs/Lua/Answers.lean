import Mathlib.Logic.Function.Iterate
import StationScript.Proofs.Lua.Globals

/-!
What accesses of globals come to along a history.

A global that the table holds is read or assigned at once. The guard is asked about any other, which
takes a call of a native function: without room for it the call is an error, else the guard answers
with the device's id or with nil, refuses, or stores.
-/

set_option autoImplicit false

namespace StationScript.Lua

namespace Machine

section Fields

variable {a : Activation} {position : Nat} {m : Machine} {index : Value} {key : Key}
  (guarded : m.heap.Guarded) (valid : Key.ofValue index = .ok key)
include guarded valid

/-- A global that the table holds is read at once. -/
theorem readField_of_held (held : m.heap.globals.get key ≠ .nil) (r : Nat) (holder : Holder) :
    ∃ m' : Machine, m.readField a position r (.table Heap.globalsRef) holder index =
        m'.put a position r (m.heap.globals.get key) ∧
      m.AgreesBelow a.limit m' ∧ m.heap.Keeps m'.heap := by
  have noted : m.heap.Keeps (m.heap.noteReading index hopLimit (.table Heap.globalsRef)) :=
    .noteReading _ _ _ _
  have functions := Heap.KeepsFunctions.noteReading index hopLimit (.table Heap.globalsRef) m.heap
  unfold readField
  rw [Heap.read_of_held guarded valid held]
  dsimp only
  split
  · exact ⟨m.onHeap fun heap => heap.noteReading _ hopLimit (.table Heap.globalsRef), rfl,
      .onHeap m a.limit functions, noted⟩
  · exact ⟨m.onHeap fun heap => heap.noteReading _ hopLimit (.table Heap.globalsRef), rfl,
      .onHeap m a.limit functions, noted⟩
  · exact ⟨m, rfl, .refl m a.limit, .refl _⟩

omit valid in
/-- Reading such a global by its name leaves the memory as it is. -/
theorem readField_of_name {name : String} (held : m.heap.globals.get (.ofText name) ≠ .nil)
    (r : Nat)
    (holder : Holder) : m.readField a position r (.table Heap.globalsRef) holder (.ofText name) =
      m.put a position r (m.heap.globals.get (.ofText name)) := by
  have valid : Key.ofValue (.ofText name) = .ok (.ofText name) := rfl
  unfold readField
  rw [Heap.read_of_held guarded valid held]
  rfl

/-- The guard is asked for any other global. -/
theorem readField_of_absent (absent : m.heap.globals.get key = .nil) (r : Nat) (holder : Holder) :
    m.readField a position r (.table Heap.globalsRef) holder index =
      m.ask a position (into a r) (.function .readComponent) [.table Heap.globalsRef, index] := by
  unfold readField
  rw [Heap.read_globals guarded valid, absent]

theorem writeField_of_held (held : m.heap.globals.get key ≠ .nil) (holder : Holder)
    (value : Value) :
    m.writeField a position (.table Heap.globalsRef) holder index value =
      next a position (m.onHeap fun heap => heap.setRaw Heap.globalsRef key value) := by
  unfold writeField
  dsimp only
  rw [Heap.assign_of_held guarded valid held]
  rfl

theorem writeField_of_absent (absent : m.heap.globals.get key = .nil) (holder : Holder)
    (value : Value) : m.writeField a position (.table Heap.globalsRef) holder index value =
      m.ask a position (.slots 0 (some 0)) (.function .writeComponent)
        [.table Heap.globalsRef, index, value] := by
  unfold writeField
  dsimp only
  rw [Heap.assign_globals guarded valid, absent]

end Fields

/-! ### Asking the guard along a history -/

section Asking

variable (a : Activation) (position : Nat) (m : Machine) (delivery : Delivery) (f : Callable)
  (arguments : List Value)

theorem stores_ask : (m.ask a position delivery (.function f) arguments).stores =
    if HasRoom a.limit arguments.length (a.nesting + 1) then nativeStores m.heap arguments f
    else [] := by
  have callee := m.callee_asking a position delivery f arguments
  have heap : (m.asking a position delivery f arguments).heap = m.heap :=
    heap_ask a position m _ _ _
  rw [ask_eq]
  unfold State.stores
  dsimp only
  unfold callStores
  rw [callee.1, callee.2, heap]

theorem not_tampers_ask (guards : ∀ g, f ≠ .library g)
    (spared : ∀ store ∈ (m.ask a position delivery (.function f) arguments).stores,
      store.ref ≠ Heap.guardRef) :
    ¬ (m.ask a position delivery (.function f) arguments).Tampers := by
  have callee := m.callee_asking a position delivery f arguments
  have other (g : LibraryFunction) :
      ¬ (m.ask a position delivery (.function f) arguments).CallsOnGlobals g := by
    rintro ⟨called, _⟩
    exact guards g (Value.function.inj (callee.1.symm.trans called))
  rintro (raw | change | ⟨store, among, here⟩)
  · exact other _ raw
  · exact other _ change
  · exact spared store among here

end Asking

end Machine

/-- The script comes from one state to another, and the second one is a state of a history with
these assignments to globals. -/
def Comes (library : StandardLibrary) (component : String) (program : Prototype) (s s' : State)
    (assigned : List (Key × Value)) : Prop :=
  ∃ n, State.step^[n] s = s' ∧ History library component program s' assigned

namespace Comes

variable {library : StandardLibrary} {component : String} {program : Prototype}
  {s s' : State} {assigned : List (Key × Value)}

theorem here (history : History library component program s assigned) :
    Comes library component program s s assigned := ⟨0, rfl, history⟩

/-- One more step in front. -/
theorem after {middle : State} (step : s.step = middle)
    (comes : Comes library component program middle s' assigned) :
    Comes library component program s s' assigned := by
  subst step
  obtain ⟨n, same, history⟩ := comes
  exact ⟨n + 1, same, history⟩

end Comes

theorem History.quiet {library : StandardLibrary} {component : String} {program : Prototype}
    {s : State} {assigned : List (Key × Value)}
    (history : History library component program s assigned)
    (faithful : ¬ s.Tampers) (nothing : s.stores = []) :
    History library component program s.step assigned := by
  have step := history.step faithful
  rwa [nothing, show assignmentsIn [] = [] from rfl, List.append_nil] at step

/-- What stores nothing tampers only by a call. -/
theorem State.not_tampers_of_quiet {s : State} (nothing : s.stores = [])
    (raw : ¬ s.CallsOnGlobals .rawset) (change : ¬ s.CallsOnGlobals .setmetatable) :
    ¬ s.Tampers := by
  rintro (calls | calls | ⟨store, among, _⟩)
  · exact raw calls
  · exact change calls
  · rw [nothing] at among
    cases among

theorem State.not_tampers_of_delivering (results : List Value) (m : Machine) :
    ¬ (State.delivering results m).Tampers := not_tampers_of_quiet rfl id id

/-- A message is placed at its end. -/
theorem Frame.placed_eq (frames : List Frame) (level : Nat) (message : String) :
    ∃ place, placed frames level message = place ++ message := by
  unfold placed
  split
  · exact ⟨_, rfl⟩
  · exact ⟨"", (String.empty_append).symm⟩

section Asked

variable {library : StandardLibrary} {component : String} {program : Prototype}
  {assigned : List (Key × Value)} {a : Activation} {position : Nat} {m : Machine}
  {index value : Value}

open Machine

/-- A function that has no room is not asked, and nothing changes. -/
theorem comes_of_full {delivery : Delivery} {f : Callable} {arguments : List Value}
    (history : History library component program (m.ask a position delivery (.function f) arguments)
      assigned)
    (guards : ∀ g, f ≠ .library g) (native : ∀ ref, f ≠ .closure ref)
    (full : ¬ HasRoom a.limit arguments.length (a.nesting + 1)) :
    ∃ place m', Comes library component program (m.ask a position delivery (.function f) arguments)
      (.raising (.ofText (place ++ "stack overflow")) m') assigned ∧ m'.heap = m.heap := by
  have nothing : (m.ask a position delivery (.function f) arguments).stores = [] := by
    rw [stores_ask, if_neg full]
  have faithful : ¬ (m.ask a position delivery (.function f) arguments).Tampers := by
    refine not_tampers_ask a position m delivery f arguments guards ?_
    rw [nothing]
    exact List.forall_mem_nil _
  obtain ⟨what, step⟩ := step_ask_full a position m delivery f arguments native full
  obtain ⟨place, placed⟩ := Frame.placed_eq (m.asking a position delivery f arguments).frames 0
    (what ++ "stack overflow")
  have raised : (m.ask a position delivery (.function f) arguments).step =
      .raising (.ofText (place ++ what ++ "stack overflow"))
        (m.asking a position delivery f arguments) := by
    rw [step, String.append_assoc, ← placed]
    rfl
  have last := history.quiet faithful nothing
  rw [raised] at last
  exact ⟨place ++ what, _, .after raised (.here last),
    heap_ask a position m delivery (.function f) arguments⟩

/-- The guard names the device under the reserved key and knows no other absent global. -/
theorem comes_of_readComponent {r : Nat}
    (history : History library component program
      (m.ask a position (into a r) (.function .readComponent) [.table Heap.globalsRef, index])
      assigned)
    (room : HasRoom a.limit 2 (a.nesting + 1)) :
    ∃ m', Comes library component program
        (m.ask a position (into a r) (.function .readComponent) [.table Heap.globalsRef, index])
        (m'.put a position r
          (if Library.isComponentKey index then .ofText m.heap.component else .nil))
        assigned ∧
      m.AgreesBelow a.limit m' ∧ m'.heap = m.heap := by
  have nothing : (m.ask a position (into a r) (.function .readComponent)
      [.table Heap.globalsRef, index]).stores = [] := by
    rw [stores_ask]
    exact ite_self _
  have faithful : ¬ (m.ask a position (into a r) (.function .readComponent)
      [.table Heap.globalsRef, index]).Tampers := by
    refine not_tampers_ask a position m _ _ _ nofun ?_
    rw [nothing]
    exact List.forall_mem_nil _
  obtain ⟨waiting, m', asked, delivered, agrees, heap⟩ := step_ask_of_ok a position m (into a r)
    .readComponent [.table Heap.globalsRef, index] nofun room (fun _ => rfl) (.refl _)
    (Library.perform_readComponent m.heap rfl rfl)
  have first := history.quiet faithful nothing
  rw [asked] at first
  have second := first.quiet (State.not_tampers_of_delivering _ _) rfl
  rw [delivered] at second
  exact ⟨m', .after asked (.after delivered (.here second)), agrees, heap⟩

/-- What the guard stores for an assignment to an absent global. -/
theorem stores_ask_writeComponent (room : HasRoom a.limit 3 (a.nesting + 1)) :
    (m.ask a position (.slots 0 (some 0)) (.function .writeComponent)
      [.table Heap.globalsRef, index, value]).stores =
      if Library.isComponentKey index then []
      else Library.storesUnder Heap.globalsRef (m.heap.renew index).2
        ((m.heap.renew index).1.renew value).2 := by
  rw [stores_ask, if_pos (show HasRoom a.limit [_, index, value].length (a.nesting + 1) from room)]
  rfl

theorem not_tampers_ask_writeComponent (room : HasRoom a.limit 3 (a.nesting + 1)) :
    ¬ (m.ask a position (.slots 0 (some 0)) (.function .writeComponent)
      [.table Heap.globalsRef, index, value]).Tampers := by
  refine not_tampers_ask a position m _ _ _ nofun fun store among => ?_
  rw [stores_ask_writeComponent room] at among
  split at among
  · cases among
  · unfold Library.storesUnder at among
    split at among
    · rw [List.mem_singleton.mp among]
      exact Nat.zero_ne_one
    · cases among

/-- The guard refuses to assign to the reserved key. -/
theorem comes_of_reserved
    (history : History library component program (m.ask a position (.slots 0 (some 0))
      (.function .writeComponent) [.table Heap.globalsRef, index, value]) assigned)
    (room : HasRoom a.limit 3 (a.nesting + 1)) (reserved : Library.isComponentKey index = true) :
    ∃ ref m', Comes library component program
        (m.ask a position (.slots 0 (some 0)) (.function .writeComponent)
          [.table Heap.globalsRef, index, value])
        (.raising (.failure ref) m') assigned ∧
      (∃ trace, m'.heap.failureText ref =
        "runtime error: SmartComponent is read-only\n" ++ trace) ∧
      m.heap.Keeps m'.heap := by
  have nothing : (m.ask a position (.slots 0 (some 0)) (.function .writeComponent)
      [.table Heap.globalsRef, index, value]).stores = [] := by
    rw [stores_ask_writeComponent room, if_pos reserved]
  obtain ⟨m', raised, heap⟩ := step_ask_of_raise a position m (.slots 0 (some 0)) .writeComponent
    [.table Heap.globalsRef, index, value] nofun room (fun _ => rfl)
    ((Library.perform_writeComponent m.heap rfl rfl rfl).trans ((if_pos reserved).trans
      (Native.perform_fail _ _ m.heap)))
  have last := history.quiet (not_tampers_ask_writeComponent room) nothing
  rw [raised] at last
  refine ⟨m.heap.failures.size, m', .after raised (.here last), ?_, ?_⟩
  · have front : "runtime error: " ++ Library.componentName ++ " is read-only" ++ "\n" =
        "runtime error: SmartComponent is read-only\n" := by decide
    rw [heap, Heap.failureText_addFailure, if_pos rfl, front, String.append_assoc]
    exact ⟨_, rfl⟩
  · rw [heap]
    exact .addFailure _ _

/-- The guard stores whatever else it is asked to assign, a failure as a new one. -/
theorem comes_of_writeComponent {key : Key}
    (history : History library component program (m.ask a position (.slots 0 (some 0))
      (.function .writeComponent) [.table Heap.globalsRef, index, value]) assigned)
    (room : HasRoom a.limit 3 (a.nesting + 1)) (plain : Library.isComponentKey index = false)
    (valid : Key.ofValue index = .ok key) :
    ∃ m' index' value' key', Comes library component program
        (m.ask a position (.slots 0 (some 0)) (.function .writeComponent)
          [.table Heap.globalsRef, index, value])
        (m'.next a position) (assigned ++ [(key', value')]) ∧
      m.heap.IsPassed m'.heap index index' ∧ m.heap.IsPassed m'.heap value value' ∧
      Key.ofValue index' = .ok key' ∧ m.AgreesBelow a.limit m' ∧
      (m.heap.perform ⟨Heap.globalsRef, key', value'⟩).Keeps m'.heap := by
  obtain ⟨key', valid'⟩ : ∃ key', Key.ofValue (m.heap.renew index).2 = .ok key' := by
    cases index with
    | failure ref => exact ⟨_, rfl⟩
    | nil | boolean | integer | number | string | table | function | thread | userdata =>
      exact ⟨key, valid⟩
  have stores : (m.ask a position (.slots 0 (some 0)) (.function .writeComponent)
      [.table Heap.globalsRef, index, value]).stores =
      [⟨Heap.globalsRef, key', ((m.heap.renew index).1.renew value).2⟩] := by
    rw [stores_ask_writeComponent room, if_neg (by rw [plain]; decide)]
    unfold Library.storesUnder
    rw [valid']
  have done : Library.writeComponent.perform
      ⟨⟨.writeComponent, [.table Heap.globalsRef, index, value], a.limit, a.nesting + 1, .none⟩,
        .script a position (.slots 0 (some 0)) :: m.frames⟩ m.heap =
      (.ok [], ((m.heap.renew index).1.renew value).1.setRaw Heap.globalsRef key'
        ((m.heap.renew index).1.renew value).2) := by
    rw [@Library.perform_writeComponent _ Heap.globalsRef index value m.heap rfl rfl rfl, plain]
    dsimp only
    rw [if_neg Bool.false_ne_true, valid']
  have functions : m.heap.KeepsFunctions (((m.heap.renew index).1.renew value).1.setRaw
      Heap.globalsRef key' ((m.heap.renew index).1.renew value).2) := by
    obtain ⟨cells, closures⟩ := (Heap.KeepsFunctions.renew m.heap index).trans
      (Heap.KeepsFunctions.renew _ value)
    exact ⟨cells, closures⟩
  obtain ⟨waiting, m', asked, delivered, agrees, heap⟩ := step_ask_of_ok a position m
    (.slots 0 (some 0)) .writeComponent [.table Heap.globalsRef, index, value] nofun room
    (fun _ => rfl) functions done
  have first := history.step (not_tampers_ask_writeComponent room)
  rw [asked, stores] at first
  have second := first.quiet (State.not_tampers_of_delivering _ _) rfl
  rw [delivered] at second
  have early := Heap.KeepsFailures.renew m.heap index
  have late := Heap.KeepsFailures.renew (m.heap.renew index).1 value
  refine ⟨m', (m.heap.renew index).2, ((m.heap.renew index).1.renew value).2, key',
    .after asked (.after delivered (.here second)), ?_⟩
  rw [heap]
  refine ⟨?_, ?_, valid', agrees, ?_⟩
  · exact (Heap.isPassed_renew m.heap index).mono (.refl _) ⟨late.size, late.text⟩
  · exact (Heap.isPassed_renew _ value).mono early ⟨Nat.le_refl _, fun _ _ => rfl⟩
  · exact Heap.Keeps.perform ((Heap.Keeps.renew _ _).trans (Heap.Keeps.renew _ _)) _

end Asked

end StationScript.Lua
