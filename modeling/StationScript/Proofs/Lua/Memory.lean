import StationScript.Lua.Heap

/-!
What becomes of the tables in the memory of a script.

Almost everything that a script does keeps every table as it is, apart from the layout, which no
value depends on. The rest are stores: a value is put under a key of a table. An assignment stores
the value in the table that the metatables lead it to, if they lead it to one.
-/

set_option autoImplicit false

namespace StationScript.Lua

/-- A value to put under a key of a table. -/
structure Store where
  ref : Nat
  key : Key
  value : Value

@[simp] theorem Table.metatable_set (table : Table) (key : Key) (value : Value) :
    (table.set key value).metatable = table.metatable := by
  cases value <;> rfl

namespace Heap

/-- The tables stay, with all their values, and the globals keep their metatable. -/
structure Keeps (before after : Heap) : Prop where
  size : before.tables.size ≤ after.tables.size
  component : after.component = before.component
  get : ∀ ref < before.tables.size, ∀ key, (after.table ref).get key = (before.table ref).get key
  metatable : 0 < before.tables.size → after.globals.metatable = before.globals.metatable

def perform (heap : Heap) (store : Store) : Heap := heap.setRaw store.ref store.key store.value

def performAll (heap : Heap) (stores : List Store) : Heap := stores.foldl perform heap

/-! ### Changes of one table -/

section Modify

variable (heap : Heap) (ref : Nat) (change : Table → Table)

@[simp] theorem size_modifyTable :
    (heap.modifyTable ref change).tables.size = heap.tables.size := Array.size_modify

theorem table_modifyTable (other : Nat) :
    (heap.modifyTable ref change).table other =
      if ref = other ∧ other < heap.tables.size then change (heap.table other)
      else heap.table other := by
  unfold table modifyTable
  rw [Array.getD_eq_getD_getElem?, Array.getD_eq_getD_getElem?, Array.getElem?_modify]
  by_cases same : ref = other
  · by_cases inside : other < heap.tables.size
    · rw [if_pos same, if_pos ⟨same, inside⟩, Array.getElem?_eq_getElem inside]
      rfl
    · rw [if_pos same, if_neg fun both => inside both.2,
        Array.getElem?_eq_none (Nat.le_of_not_lt inside)]
      rfl
  · rw [if_neg same, if_neg fun both => same both.1]

end Modify

section Perform

variable (heap : Heap) (store : Store)

@[simp] theorem size_perform : (heap.perform store).tables.size = heap.tables.size :=
  size_modifyTable heap store.ref _

theorem get_perform {ref : Nat} (inside : ref < heap.tables.size) (key : Key) :
    ((heap.perform store).table ref).get key =
      if store.ref = ref ∧ store.key = key then store.value else (heap.table ref).get key := by
  unfold perform setRaw
  rw [table_modifyTable]
  by_cases here : store.ref = ref
  · rw [if_pos ⟨here, inside⟩]
    by_cases same : store.key = key
    · rw [if_pos ⟨here, same⟩, same, Table.get_set_self]
    · rw [if_neg fun both => same both.2, Table.get_set_of_ne _ _ fun other => same other.symm]
  · rw [if_neg fun both => here both.1, if_neg fun both => here both.1]

theorem metatable_perform (ref : Nat) :
    ((heap.perform store).table ref).metatable = (heap.table ref).metatable := by
  unfold perform setRaw
  rw [table_modifyTable]
  split
  · exact Table.metatable_set _ _ _
  · rfl

end Perform

@[simp] theorem size_performAll (heap : Heap) (stores : List Store) :
    (heap.performAll stores).tables.size = heap.tables.size := by
  unfold performAll
  induction stores generalizing heap with
  | nil => rfl
  | cons store rest ih => rw [List.foldl_cons, ih, size_perform]

@[simp] theorem component_performAll (heap : Heap) (stores : List Store) :
    (heap.performAll stores).component = heap.component := by
  unfold performAll
  induction stores generalizing heap with
  | nil => rfl
  | cons store rest ih =>
    rw [List.foldl_cons, ih]
    rfl

/-- What a key of a table holds after stores: what was stored last, or what it held before. -/
def lastStored (stores : List Store) (ref : Nat) (key : Key) (held : Value) : Value :=
  stores.foldl
    (fun held store => if store.ref = ref ∧ store.key = key then store.value else held) held

theorem get_performAll {heap : Heap} {ref : Nat} (inside : ref < heap.tables.size) (key : Key)
    (stores : List Store) : ((heap.performAll stores).table ref).get key =
      lastStored stores ref key ((heap.table ref).get key) := by
  unfold performAll lastStored
  induction stores generalizing heap with
  | nil => rfl
  | cons store rest ih =>
    rw [List.foldl_cons, List.foldl_cons, ih (by rwa [size_perform]), get_perform heap store inside]

theorem metatable_performAll (heap : Heap) (stores : List Store) (ref : Nat) :
    ((heap.performAll stores).table ref).metatable = (heap.table ref).metatable := by
  unfold performAll
  induction stores generalizing heap with
  | nil => rfl
  | cons store rest ih => rw [List.foldl_cons, ih, metatable_perform]

theorem lastStored_of_other {stores : List Store} {ref : Nat} (key : Key) (held : Value)
    (other : ∀ store ∈ stores, store.ref = ref → store.key ≠ key) :
    lastStored stores ref key held = held := by
  unfold lastStored
  induction stores with
  | nil => rfl
  | cons store rest ih =>
    rw [List.foldl_cons, if_neg fun both => other store List.mem_cons_self both.1 both.2]
    exact ih fun later among => other later (List.mem_cons_of_mem _ among)

/-- What every touch of an entry keeps is kept by all those of a reading. -/
theorem noteReading_of_touch {Kept : Heap → Heap → Prop} (refl : ∀ heap, Kept heap heap)
    (trans : ∀ {before middle after}, Kept before middle → Kept middle after → Kept before after)
    (touch : ∀ heap ref key, Kept heap (heap.touch ref key)) (key : Value) (hops : Nat)
    (object : Value) (heap : Heap) : Kept heap (Heap.noteReading key hops object heap) := by
  induction hops generalizing object heap with
  | zero => exact refl _
  | succ hops ih =>
    cases object with
    | table ref =>
      unfold noteReading
      split
      · dsimp only
        split
        · exact trans (touch _ _ _) (ih _ _)
        · exact touch _ _ _
      · exact refl _
    | nil | boolean | integer | number | string | function | thread | failure | userdata =>
      exact refl _

namespace Keeps

variable {before middle after : Heap}

theorem refl (heap : Heap) : heap.Keeps heap :=
  ⟨Nat.le_refl _, rfl, fun _ _ _ => rfl, fun _ => rfl⟩

theorem of_eq (same : before = after) : before.Keeps after := same ▸ refl before

theorem trans (first : before.Keeps middle) (second : middle.Keeps after) : before.Keeps after where
  size := Nat.le_trans first.size second.size
  component := second.component.trans first.component
  get ref inside key :=
    (second.get ref (Nat.lt_of_lt_of_le inside first.size) key).trans (first.get ref inside key)
  metatable some :=
    (second.metatable (Nat.lt_of_lt_of_le some first.size)).trans (first.metatable some)

/-- What leaves the tables alone keeps them. -/
theorem of_tables (tables : after.tables = before.tables)
    (component : after.component = before.component) : before.Keeps after := by
  have same (ref : Nat) : after.table ref = before.table ref := by
    unfold table
    rw [tables]
  refine ⟨Nat.le_of_eq (congrArg _ tables.symm), component, ?_, ?_⟩
  · intro ref _ key
    rw [same]
  · intro _
    exact congrArg Table.metatable (same globalsRef)

theorem modifyTable (heap : Heap) {ref : Nat} {change : Table → Table}
    (get : ∀ key, (change (heap.table ref)).get key = (heap.table ref).get key)
    (metatable : ref = globalsRef →
      (change (heap.table ref)).metatable = (heap.table ref).metatable) :
    heap.Keeps (heap.modifyTable ref change) := by
  refine ⟨Nat.le_of_eq (size_modifyTable heap ref change).symm, rfl, ?_, ?_⟩
  · intro other _ key
    rw [table_modifyTable]
    split
    · rename_i both
      rw [← both.1]
      exact get key
    · rfl
  · intro _
    unfold globals
    rw [table_modifyTable]
    split
    · rename_i both
      rw [← both.1]
      exact metatable both.1
    · rfl

theorem addTable (heap : Heap) (table : Table) : heap.Keeps (heap.addTable table).1 := by
  have same {ref : Nat} (inside : ref < heap.tables.size) :
      (heap.addTable table).1.table ref = heap.table ref := by
    show (heap.tables.push table).getD ref {} = heap.tables.getD ref {}
    rw [Array.getD_eq_getD_getElem?, Array.getD_eq_getD_getElem?, Array.getElem?_push_lt inside,
      Array.getElem?_eq_getElem inside]
  refine ⟨?_, rfl, ?_, ?_⟩
  · show heap.tables.size ≤ (heap.tables.push table).size
    rw [Array.size_push]
    omega
  · intro ref inside key
    rw [same inside]
  · intro some
    exact congrArg Table.metatable (same some)

theorem addClosure (heap : Heap) (closure : Closure) : heap.Keeps (heap.addClosure closure).1 :=
  of_tables rfl rfl

theorem addCell (heap : Heap) (cell : Cell) : heap.Keeps (heap.addCell cell).1 := of_tables rfl rfl

theorem setCell (heap : Heap) (position : Nat) (cell : Cell) :
    heap.Keeps (heap.setCell position cell) := of_tables rfl rfl

theorem addFailure (heap : Heap) (text : String) : heap.Keeps (heap.addFailure text).1 :=
  of_tables rfl rfl

theorem addThread (heap : Heap) : heap.Keeps heap.addThread.1 := of_tables rfl rfl

theorem mark (heap : Heap) (ref : Nat) : heap.Keeps (heap.mark ref) := by
  unfold Heap.mark
  split
  · exact refl heap
  · exact of_tables rfl rfl

theorem renew (heap : Heap) (value : Value) : heap.Keeps (heap.renew value).1 := by
  cases value with
  | failure ref => exact addFailure heap _
  | nil | boolean | integer | number | string | table | function | thread | userdata =>
    exact refl heap

theorem renewAll (heap : Heap) (values : List Value) : heap.Keeps (heap.renewAll values).1 := by
  induction values generalizing heap with
  | nil => exact refl heap
  | cons value rest ih => exact (renew heap value).trans (ih _)

theorem touch (heap : Heap) (ref : Nat) (key : Key) : heap.Keeps (heap.touch ref key) := by
  unfold Heap.touch
  split
  · exact modifyTable heap (fun _ => rfl) fun _ => rfl
  · exact refl heap

theorem noteReading (key : Value) (hops : Nat) (object : Value) (heap : Heap) :
    heap.Keeps (Heap.noteReading key hops object heap) :=
  noteReading_of_touch refl (fun first second => first.trans second) touch key hops object heap

theorem perform (keeps : before.Keeps after) (store : Store) :
    (before.perform store).Keeps (after.perform store) := by
  refine ⟨?_, keeps.component, ?_, ?_⟩
  · rw [size_perform, size_perform]
    exact keeps.size
  · intro ref inside key
    rw [size_perform] at inside
    rw [get_perform _ _ inside, get_perform _ _ (Nat.lt_of_lt_of_le inside keeps.size),
      keeps.get ref inside key]
  · intro some
    rw [size_perform] at some
    exact (metatable_perform after store globalsRef).trans
      ((keeps.metatable some).trans (metatable_perform before store globalsRef).symm)

theorem performAll (keeps : before.Keeps after) (stores : List Store) :
    (before.performAll stores).Keeps (after.performAll stores) := by
  induction stores generalizing before after with
  | nil => exact keeps
  | cons store rest ih => exact ih (keeps.perform store)

end Keeps

/-! ### Lists -/

theorem modifyTable_modifyTable (heap : Heap) (ref : Nat) (first second : Table → Table) :
    (heap.modifyTable ref first).modifyTable ref second =
      heap.modifyTable ref fun table => second (first table) := by
  unfold modifyTable
  congr 1
  apply Array.ext
  · simp
  · intro i _ _
    simp only [Array.getElem_modify]
    split <;> rfl

/-- Values put under the positions from one on. -/
def listStores (ref : Nat) : (position : Nat) → List Value → List Store
  | _, [] => []
  | n, value :: rest => ⟨ref, .ofIndex n, value⟩ :: listStores ref (n + 1) rest

theorem keeps_foldl (heap : Heap) (ref position : Nat) (values : List Value) :
    (heap.performAll (listStores ref position values)).Keeps (heap.modifyTable ref fun table =>
      (values.foldl (fun (table, n) value => (table.set (.ofIndex n) value, n + 1))
        (table, position)).1) := by
  induction values generalizing heap position with
  | nil => exact Keeps.modifyTable heap (fun _ => rfl) fun _ => rfl
  | cons value rest ih =>
    have later := ih (heap.perform ⟨ref, .ofIndex position, value⟩) (position + 1)
    unfold perform setRaw at later
    rw [modifyTable_modifyTable] at later
    exact later

/-- A list that is filled is stored value by value. -/
theorem keeps_fill (heap : Heap) (ref offset : Nat) (values : List Value) :
    (heap.performAll (listStores ref (offset + 1) values)).Keeps
      (heap.modifyTable ref fun table => table.fill offset values) := by
  have resized : heap.Keeps (heap.modifyTable ref fun table =>
      if table.layout.capacity < offset + values.length then
        { table with layout :=
            table.layout.resize table.contains (offset + values.length) table.layout.nodes.size }
      else table) := by
    apply Keeps.modifyTable
    · intro key
      split <;> rfl
    · intro _
      split <;> rfl
  have filled := (resized.performAll (listStores ref (offset + 1) values)).trans
    (keeps_foldl _ ref (offset + 1) values)
  rw [modifyTable_modifyTable] at filled
  exact filled

/-! ### Assignments -/

/-- The table in which an assignment stores its value: the object, or the one that metatables name
in its place where the key is absent. -/
def landing (heap : Heap) (key : Value) : (hops : Nat) → Value → Option Nat
  | 0, object =>
    match heap.stored object key, object with
    | .nil, _ => none
    | _, .table ref => some ref
    | _, _ => none
  | hops + 1, object =>
    let handler := if (heap.stored object key).isNil then heap.handler object .newindex else .nil
    match handler, object with
    | .nil, .table ref => some ref
    | .nil, _ => none
    | .function _, _ => none
    | next, _ => heap.landing key hops next

/-- What an assignment stores. -/
def assignStores (heap : Heap) (hops : Nat) (object key value : Value) : List Store :=
  match heap.landing key hops object, Key.ofValue key with
  | some ref, .ok key => [⟨ref, key, value⟩]
  | _, _ => []

/-- An assignment only stores where it lands. -/
theorem assign_eq (heap : Heap) (key value : Value) (hops : Nat) (isFirst : Bool) (object : Value) :
    (heap.assign key value hops isFirst object).1 =
      heap.performAll (heap.assignStores hops object key value) := by
  have stored (ref : Nat) : (heap.store ref key value).1 =
      heap.performAll (match some ref, Key.ofValue key with
        | some ref, .ok key => [⟨ref, key, value⟩]
        | _, _ => []) := by
    unfold store
    cases Key.ofValue key <;> rfl
  unfold assignStores
  induction hops generalizing isFirst object with
  | zero =>
    unfold assign landing
    generalize heap.stored object key = held
    cases held with
    | nil => rfl
    | boolean | integer | number | string | table | function | thread | failure | userdata =>
      cases object with
      | table ref => exact stored ref
      | nil | boolean | integer | number | string | function | thread | failure | userdata => rfl
  | succ hops ih =>
    unfold assign landing
    dsimp only
    generalize (if (heap.stored object key).isNil then heap.handler object .newindex else .nil) =
      handler
    cases handler with
    | nil =>
      cases object with
      | table ref => exact stored ref
      | nil | boolean | integer | number | string | function | thread | failure | userdata => rfl
    | function f => rfl
    | boolean | integer | number | string | table | thread | failure | userdata => exact ih false _

/-! ### Captured variables and functions -/

/-- What functions have captured, and the functions, are as before. -/
structure KeepsFunctions (before after : Heap) : Prop where
  cells : after.cells = before.cells
  closures : after.closures = before.closures

namespace KeepsFunctions

theorem refl (heap : Heap) : heap.KeepsFunctions heap := ⟨rfl, rfl⟩

theorem trans {before middle after : Heap} (first : before.KeepsFunctions middle)
    (second : middle.KeepsFunctions after) : before.KeepsFunctions after :=
  ⟨second.cells.trans first.cells, second.closures.trans first.closures⟩

theorem renew (heap : Heap) (value : Value) : heap.KeepsFunctions (heap.renew value).1 := by
  cases value <;> exact ⟨rfl, rfl⟩

theorem touch (heap : Heap) (ref : Nat) (key : Key) : heap.KeepsFunctions (heap.touch ref key) := by
  unfold Heap.touch
  split <;> exact ⟨rfl, rfl⟩

theorem noteReading (key : Value) (hops : Nat) (object : Value) (heap : Heap) :
    heap.KeepsFunctions (Heap.noteReading key hops object heap) :=
  noteReading_of_touch refl (fun first second => first.trans second) touch key hops object heap

end KeepsFunctions

/-! ### Failures -/

/-- Every failure keeps its text. -/
structure KeepsFailures (before after : Heap) : Prop where
  size : before.failures.size ≤ after.failures.size
  text : ∀ ref < before.failures.size, after.failureText ref = before.failureText ref

/-- A value as it is after it has passed through the host: a failure is a new one with the same
text, and any other value is itself. -/
def IsPassed (before after : Heap) (value passed : Value) : Prop :=
  match value with
  | .failure ref => ∃ copy, passed = .failure copy ∧
    before.failures.size ≤ copy ∧ copy < after.failures.size ∧
    (ref < before.failures.size → after.failureText copy = before.failureText ref)
  | value => passed = value

theorem KeepsFailures.refl (heap : Heap) : heap.KeepsFailures heap :=
  ⟨Nat.le_refl _, fun _ _ => rfl⟩

theorem failureText_addFailure (heap : Heap) (text : String) (ref : Nat) :
    (heap.addFailure text).1.failureText ref =
      if ref = heap.failures.size then text else heap.failureText ref := by
  unfold addFailure failureText
  dsimp only
  rw [Array.getD_eq_getD_getElem?, Array.getD_eq_getD_getElem?, Array.getElem?_push]
  split <;> rfl

theorem KeepsFailures.renew (heap : Heap) (value : Value) :
    heap.KeepsFailures (heap.renew value).1 := by
  cases value with
  | failure ref =>
    refine ⟨?_, fun other inside => ?_⟩
    · exact Nat.le_trans (Nat.le_succ _) (Nat.le_of_eq (Array.size_push _).symm)
    · exact (failureText_addFailure heap _ other).trans (if_neg (Nat.ne_of_lt inside))
  | nil | boolean | integer | number | string | table | function | thread | userdata =>
    exact refl heap

theorem isPassed_renew (heap : Heap) (value : Value) :
    heap.IsPassed (heap.renew value).1 value (heap.renew value).2 := by
  cases value with
  | failure ref =>
    refine ⟨heap.failures.size, rfl, Nat.le_refl _, ?_, fun _ => ?_⟩
    · exact Nat.lt_of_lt_of_eq (Nat.lt_succ_self _) (Array.size_push _).symm
    · exact (failureText_addFailure heap _ _).trans (if_pos rfl)
  | nil | boolean | integer | number | string | table | function | thread | userdata => rfl

theorem IsPassed.mono {first before after last : Heap} {value passed : Value}
    (same : before.IsPassed after value passed) (earlier : first.KeepsFailures before)
    (later : after.KeepsFailures last) : first.IsPassed last value passed := by
  cases value with
  | failure ref =>
    obtain ⟨copy, rfl, fresh, inside, text⟩ := same
    refine ⟨copy, rfl, Nat.le_trans earlier.size fresh, Nat.lt_of_lt_of_le inside later.size, ?_⟩
    intro known
    rw [later.text copy inside, text (Nat.lt_of_lt_of_le known earlier.size),
      earlier.text ref known]
  | nil | boolean | integer | number | string | table | function | thread | userdata => exact same

end Heap

end StationScript.Lua
