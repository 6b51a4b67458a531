import StationScript.Lua.Interpreter
import StationScript.Proofs.Lua.Slots
import StationScript.Proofs.Lua.Steps
import StationScript.Proofs.Text.Utf8

/-!
The guard of the global variables.

The metatable of the globals answers for absent keys. While it is in place, reading a global finds
what the table holds or asks the guard, and assigning stores into the table or asks the guard. The
guard names the device under one key, refuses to assign to that key, and otherwise behaves as if it
were not there.
-/

set_option autoImplicit false

namespace StationScript.Lua

/-- Only a string is the key of a string. -/
theorem Key.eq_of_ofValue_string {value : Value} {bytes : ByteArray}
    (valid : Key.ofValue value = .ok (.string bytes)) : value = .string bytes := by
  cases value with
  | string other => exact congrArg Value.string (Key.string.inj (Except.ok.inj valid))
  | number x =>
    unfold ofValue at valid
    dsimp only at valid
    split at valid
    · cases valid
    · split at valid <;> cases valid
  | nil | boolean | integer | table | function | thread | failure | userdata => cases valid

namespace Library

/-- The key of the global that holds the device's id. -/
def componentKey : Key := .ofText componentName

/-- One value is the reserved one, the name itself. -/
theorem isComponentKey_iff (value : Value) :
    isComponentKey value = true ↔ value = .ofText componentName := by
  have clean : '\uFFFD' ∉ componentName.toList := by decide
  cases value with
  | string bytes =>
    unfold isComponentKey Value.ofText
    rw [decide_eq_true_eq, Utf8.decodeLossy_eq_iff bytes clean, Value.string.injEq]
  | nil | boolean | integer | number | table | function | thread | failure | userdata =>
    exact ⟨nofun, nofun⟩

theorem isComponentKey_of_valid {value : Value} {key : Key} (valid : Key.ofValue value = .ok key) :
    isComponentKey value = true ↔ key = componentKey := by
  rw [isComponentKey_iff]
  constructor
  · rintro rfl
    exact (Except.ok.inj valid).symm
  · rintro rfl
    exact Key.eq_of_ofValue_string valid

end Library

namespace Heap

open Library (componentKey)

/-- The metatable of the globals is the guard, which has two functions answer for absent keys. -/
structure Guarded (heap : Heap) : Prop where
  size : guardRef < heap.tables.size
  metatable : heap.globals.metatable = some guardRef
  index : (heap.table guardRef).getText "__index" = .function .readComponent
  newindex : (heap.table guardRef).getText "__newindex" = .function .writeComponent

/-- The guard stays while nothing is stored in its table. -/
theorem Guarded.of_keeps {heap after : Heap} {stores : List Store} (guarded : heap.Guarded)
    (spared : ∀ store ∈ stores, store.ref ≠ guardRef)
    (keeps : (heap.performAll stores).Keeps after) : after.Guarded := by
  have size : guardRef < (heap.performAll stores).tables.size := by
    rw [size_performAll]
    exact guarded.size
  have same (name : String) :
      (after.table guardRef).getText name = (heap.table guardRef).getText name := by
    unfold Table.getText
    rw [keeps.get guardRef size, get_performAll guarded.size,
      lastStored_of_other _ _ fun store among here => absurd here (spared store among)]
  refine ⟨Nat.lt_of_lt_of_le size keeps.size, ?_, ?_, ?_⟩
  · rw [keeps.metatable (Nat.zero_lt_of_lt size)]
    exact (metatable_performAll heap stores globalsRef).trans guarded.metatable
  · rw [same, guarded.index]
  · rw [same, guarded.newindex]

/-! ### Reading and assigning -/

theorem stored_globals (heap : Heap) {value : Value} {key : Key}
    (valid : Key.ofValue value = .ok key) :
    heap.stored (.table globalsRef) value = heap.globals.get key := by
  unfold stored getRaw
  dsimp only
  rw [valid]
  rfl

section Access

variable {heap : Heap} (guarded : heap.Guarded)
include guarded

theorem handler_globals (event : Event) :
    heap.handler (.table globalsRef) event =
      (heap.table guardRef).getText ("__" ++ event.name) := by
  unfold handler metafield metatable?
  dsimp only
  rw [show (heap.table globalsRef).metatable = some guardRef from guarded.metatable]
  rfl

theorem handler_globals_index :
    heap.handler (.table globalsRef) .index = .function .readComponent :=
  (handler_globals guarded .index).trans guarded.index

theorem handler_globals_newindex :
    heap.handler (.table globalsRef) .newindex = .function .writeComponent :=
  (handler_globals guarded .newindex).trans guarded.newindex

variable {index : Value} {key : Key} (valid : Key.ofValue index = .ok key)
include valid

/-- A global is found in the table, or else the guard is asked. -/
theorem read_globals (isFirst : Bool) :
    heap.read index hopLimit isFirst (.table globalsRef) =
      match heap.globals.get key with
      | .nil => .asks (.function .readComponent) (.table globalsRef)
      | held => .found held := by
  rw [show hopLimit = 1999 + 1 from rfl]
  unfold read
  have handled := handler_globals_index guarded
  cases found : heap.globals.get key <;> rw [stored_globals heap valid, found, handled]

theorem read_of_held (held : heap.globals.get key ≠ .nil) (isFirst : Bool) :
    heap.read index hopLimit isFirst (.table globalsRef) = .found (heap.globals.get key) := by
  rw [read_globals guarded valid]
  split
  · contradiction
  · rfl

/-- A global that the table holds is assigned there, and the guard is asked about any other. -/
theorem assign_globals (value : Value) (isFirst : Bool) :
    heap.assign index value hopLimit isFirst (.table globalsRef) =
      match heap.globals.get key with
      | .nil => (heap, .asks (.function .writeComponent) (.table globalsRef))
      | _ => (heap.setRaw globalsRef key value, .stored) := by
  rw [show hopLimit = 1999 + 1 from rfl]
  unfold assign store
  rw [stored_globals heap valid, handler_globals_newindex guarded, valid]
  cases heap.globals.get key <;> rfl

/-- No assignment, not even by way of other tables, puts an absent key into the globals itself. -/
theorem get_ne_nil_of_landing {hops : Nat} {object : Value}
    (lands : heap.landing index hops object = some globalsRef) :
    heap.globals.get key ≠ .nil := by
  intro absent
  induction hops generalizing object with
  | zero =>
    unfold landing at lands
    split at lands
    · cases lands
    · rename_i here present
      cases lands
      exact present ((stored_globals heap valid).trans absent)
    · cases lands
  | succ hops ih =>
    unfold landing at lands
    dsimp only at lands
    split at lands
    · rename_i handler ref unhandled
      cases lands
      rw [stored_globals heap valid, absent, handler_globals_newindex guarded] at unhandled
      cases unhandled
    · cases lands
    · cases lands
    · exact ih lands

/-- An assignment to a global stores only if the table holds the global. -/
theorem assignStores_globals (value : Value) :
    heap.assignStores hopLimit (.table globalsRef) index value =
      match heap.globals.get key with
      | .nil => []
      | _ => [⟨globalsRef, key, value⟩] := by
  rw [show hopLimit = 1999 + 1 from rfl]
  unfold assignStores landing
  rw [stored_globals heap valid, handler_globals_newindex guarded, valid]
  cases heap.globals.get key <;> rfl

theorem assignStores_of_held (held : heap.globals.get key ≠ .nil) (value : Value) :
    heap.assignStores hopLimit (.table globalsRef) index value =
      [⟨globalsRef, key, value⟩] := by
  rw [assignStores_globals guarded valid]
  split
  · contradiction
  · rfl

theorem assign_of_held (held : heap.globals.get key ≠ .nil) (value : Value) (isFirst : Bool) :
    heap.assign index value hopLimit isFirst (.table globalsRef) =
      (heap.setRaw globalsRef key value, .stored) := by
  rw [assign_globals guarded valid]
  split
  · contradiction
  · rfl

end Access

end Heap

/-! ### What a step stores in the globals -/

theorem State.CallsOnGlobals.of_rawStores {m : Machine} {slot count nesting : Nat} {store : Store}
    (called : m.slot slot = .function (.library .rawset))
    (among : store ∈ Library.rawStores (m.slotsFrom (slot + 1) count))
    (here : store.ref = Heap.globalsRef) :
    CallsOnGlobals .rawset (.calling slot count nesting m) := by
  refine ⟨called, ?_⟩
  unfold Library.rawStores Library.storesUnder at among
  split at among
  · rename_i ref key value first second third
    split at among
    · rw [List.mem_singleton.mp among] at here
      rw [first, show ref = Heap.globalsRef from here]
    · cases among
  · cases among

/-- A text passes through the host as it is. -/
theorem Heap.eq_of_renew_text {heap : Heap} {value : Value} {text : String}
    (renewed : (heap.renew value).2 = .ofText text) : value = .ofText text := by
  cases value with
  | failure ref => cases renewed
  | nil | boolean | integer | number | string | table | function | thread | userdata =>
    exact renewed

/-- The guard stores nothing under the reserved key. -/
theorem Library.key_ne_of_guardStores {heap : Heap} {arguments : List Value} {store : Store}
    (among : store ∈ guardStores heap arguments) : store.key ≠ componentKey := by
  unfold guardStores at among
  split at among
  · split at among
    · cases among
    · rename_i plain
      unfold storesUnder at among
      dsimp only at among
      split at among
      · rename_i key valid
        rw [List.mem_singleton.mp among]
        rintro rfl
        have text := Heap.eq_of_renew_text (Key.eq_of_ofValue_string valid)
        exact plain ((isComponentKey_iff _).mpr text)
      · cases among
  · cases among

/-- No item of a list is stored under a text. -/
theorem Heap.key_ne_of_listStores {ref position : Nat} {values : List Value} {store : Store}
    (among : store ∈ listStores ref position values) (text : String) :
    store.key ≠ .ofText text := by
  induction values generalizing position with
  | nil => cases among
  | cons value rest ih =>
    rcases List.mem_cons.mp among with rfl | later
    · exact nofun
    · exact ih later

/-- Nothing is stored under the reserved key of the globals while the guard is asked about it. -/
theorem State.key_ne_of_stores {s : State} (guarded : s.heap.Guarded)
    (absent : s.heap.globals.get Library.componentKey = .nil) (spared : ¬ s.CallsOnGlobals .rawset)
    {store : Store} (among : store ∈ s.stores) (here : store.ref = Heap.globalsRef) :
    store.key ≠ Library.componentKey := by
  cases s with
  | script a position m =>
    unfold stores at among
    dsimp only at among
    unfold Machine.stores at among
    split at among
    · rename_i object index value _
      unfold Heap.assignStores at among
      split at among
      · rename_i ref key lands valid
        rw [List.mem_singleton.mp among] at here ⊢
        rintro rfl
        rw [show ref = Heap.globalsRef from here] at lands
        exact Heap.get_ne_nil_of_landing guarded valid lands absent
      · cases among
    · split at among
      · exact Heap.key_ne_of_listStores among _
      · cases among
    · cases among
  | calling slot count nesting m =>
    unfold stores at among
    dsimp only at among
    unfold Machine.callStores at among
    split at among
    · rename_i f called
      split at among
      · unfold Machine.nativeStores at among
        split at among
        · exact absurd (.of_rawStores called among here) spared
        · exact Library.key_ne_of_guardStores among
        · cases among
      · cases among
    · cases among
  | delivering | raising | asking | abroad | ended => cases among

namespace Machine

/-! ### Asking the guard -/

section Ask

variable (a : Activation) (position : Nat) (m : Machine) (delivery : Delivery) (f : Callable)
  (arguments : List Value)

/-- The machine that asks a function. -/
def asking : Machine :=
  m.prepared (.script a position delivery) a.limit (.function f) arguments

theorem ask_eq : m.ask a position delivery (.function f) arguments =
    .calling a.limit arguments.length (a.nesting + 1) (m.asking a position delivery f arguments) :=
  rfl

theorem callee_asking : (m.asking a position delivery f arguments).slot a.limit = .function f ∧
    (m.asking a position delivery f arguments).slotsFrom (a.limit + 1) arguments.length =
      arguments :=
  callee_prepared _ _ _ _ _

theorem asking_eq : m.asking a position delivery f arguments =
    { m with
      stack := (m.asking a position delivery f arguments).stack,
      frames := .script a position delivery :: m.frames } := prepared_eq _ _ _ _ _

variable (native : ∀ ref, f ≠ .closure ref)
include native

/-- Without room the function is not asked. -/
theorem step_ask_full (full : ¬ HasRoom a.limit arguments.length (a.nesting + 1)) :
    ∃ what, (m.ask a position delivery (.function f) arguments).step =
      (m.asking a position delivery f arguments).fault (what ++ "stack overflow") := by
  have callee := m.callee_asking a position delivery f arguments
  rw [ask_eq]
  unfold State.step
  dsimp only
  rw [call_native _ callee.1 native]
  split
  · exact ⟨"C ", rfl⟩
  · rename_i shallow
    rw [if_pos (Nat.lt_of_not_le fun fits => full ⟨Nat.lt_of_not_le shallow, fits⟩)]
    exact ⟨"", rfl⟩

variable (room : HasRoom a.limit arguments.length (a.nesting + 1))
include room

/-- With room for it the function starts. -/
theorem step_ask : (m.ask a position delivery (.function f) arguments).step =
    (m.asking a position delivery f arguments).startNative
      ⟨f, arguments, a.limit, a.nesting + 1, .none⟩ := by
  have callee := m.callee_asking a position delivery f arguments
  rw [ask_eq]
  unfold State.step
  dsimp only
  rw [call_native _ callee.1 native, if_neg (Nat.not_le.mpr room.1),
    if_neg (Nat.not_lt.mpr room.2), callee.2]

variable {task : Native (List Value)} {heap : Heap}
  (starts : ∀ m : Machine, m.startNative ⟨f, arguments, a.limit, a.nesting + 1, .none⟩ =
    m.work ⟨f, arguments, a.limit, a.nesting + 1, .none⟩ task)
include starts

/-- What the function raises is raised. -/
theorem step_ask_of_raise {value : Value}
    (done : task.perform ⟨⟨f, arguments, a.limit, a.nesting + 1, .none⟩,
      .script a position delivery :: m.frames⟩ m.heap = (.error (.raise value), heap)) :
    ∃ m' : Machine, (m.ask a position delivery (.function f) arguments).step = .raising value m' ∧
      m'.heap = heap := by
  rw [step_ask a position m delivery f arguments native room, starts, asking_eq]
  unfold work
  dsimp only
  rw [done]
  exact ⟨_, rfl, rfl⟩

/-- What the function returns is delivered to the one that asked, which finds its registers as they
were. -/
theorem step_ask_of_ok {results : List Value} (functions : m.heap.KeepsFunctions heap)
    (done : task.perform ⟨⟨f, arguments, a.limit, a.nesting + 1, .none⟩,
      .script a position delivery :: m.frames⟩ m.heap = (.ok results, heap)) :
    ∃ waiting m' : Machine,
      (m.ask a position delivery (.function f) arguments).step = .delivering results waiting ∧
      (State.delivering results waiting).step = m'.receive a position results delivery ∧
      m.AgreesBelow a.limit m' ∧ m'.heap = heap := by
  have before {i : Nat} (below : i < a.limit) :
      (m.asking a position delivery f arguments).slot i = m.slot i :=
    slot_prepared_of_lt _ _ _ _ _ below
  rw [step_ask a position m delivery f arguments native room, starts, asking_eq]
  unfold work
  dsimp only
  rw [done]
  exact ⟨_, _, rfl, rfl, ⟨rfl, rfl, rfl, rfl, rfl, fun i below => before below, functions⟩, rfl⟩

end Ask

end Machine

end StationScript.Lua
