import Std.Data.ExtHashMap
import StationScript.Proofs.Station.Signals

/-!
A signal store as a finite map that remembers the order of its keys.

The same operations, done to a store and to a finite map from names, give the same look-ups, and the
store lists its signals in the order in which those that are left were added. Distinct names carry
this: the first signal of a name is then the only one.
-/

set_option autoImplicit false

namespace StationScript

/-- What a map holds for a signal. -/
structure SignalState where
  kind : SignalKind
  value : Float
  readOnly : Bool

/-- The signal of that name in that state. -/
def SignalState.signal (state : SignalState) (name : String) : Signal :=
  { name, kind := state.kind, value := state.value, readOnly := state.readOnly }

def Signal.state (s : Signal) : SignalState := ⟨s.kind, s.value, s.readOnly⟩

@[simp] theorem SignalState.signal_state (s : Signal) : s.state.signal s.name = s := rfl

@[simp] theorem SignalState.state_signal (state : SignalState) (name : String) :
    (state.signal name).state = state := rfl

inductive StoreOperation where
  | add (signal : Signal)
  | set (name : String) (value : Float)
  | retain (keep : Signal → Bool)

abbrev SignalMap := Std.ExtHashMap String SignalState

namespace SignalMap

/-- An operation on a finite map: a name that is present is not added again, and a value is written
only under a name that is present. -/
def perform (map : SignalMap) : StoreOperation → SignalMap
  | .add signal => map.insertIfNew signal.name signal.state
  | .set name value => map.modify name fun state =>
    { state with value := state.kind.coerce value }
  | .retain keep => map.filter fun name state => keep (state.signal name)

/-- The map after operations on an empty one. -/
def after (operations : List StoreOperation) : SignalMap := operations.foldl perform ∅

/-- The names that an operation brings in. -/
def newNames (map : SignalMap) : StoreOperation → List String
  | .add signal => if signal.name ∈ map then [] else [signal.name]
  | .set .. | .retain _ => []

@[simp] theorem after_nil : after [] = ∅ := rfl

@[simp] theorem after_concat (operations : List StoreOperation) (last : StoreOperation) :
    after (operations ++ [last]) = (after operations).perform last := by
  simp [after]

theorem mem_newNames {map : SignalMap} {operation : StoreOperation} {name : String} :
    name ∈ map.newNames operation ↔
      ∃ signal, operation = .add signal ∧ signal.name = name ∧ name ∉ map := by
  cases operation with
  | set | retain => simp [newNames]
  | add signal =>
    show name ∈ (if signal.name ∈ map then [] else [signal.name]) ↔ _
    by_cases present : signal.name ∈ map
    · rw [if_pos present]
      constructor
      · intro impossible
        cases impossible
      · rintro ⟨other, same, rfl, absent⟩
        cases same
        exact absurd present absent
    · rw [if_neg present, List.mem_singleton]
      constructor
      · rintro rfl
        exact ⟨signal, rfl, rfl, present⟩
      · rintro ⟨other, same, rfl, _⟩
        cases same
        rfl

theorem mem_perform_of_new {map : SignalMap} {operation : StoreOperation} {name : String}
    (new : name ∈ map.newNames operation) : name ∈ map.perform operation := by
  obtain ⟨signal, rfl, rfl, _⟩ := mem_newNames.mp new
  exact Std.ExtHashMap.mem_insertIfNew_self

end SignalMap

namespace SignalStore

def perform (store : SignalStore) : StoreOperation → SignalStore
  | .add signal => (store.add signal).1
  | .set name value => (store.set? name value).1
  | .retain keep => store.retain keep

/-- The store after operations on a fresh one. -/
def after (operations : List StoreOperation) : SignalStore := operations.foldl perform empty

@[simp] theorem after_concat (operations : List StoreOperation) (last : StoreOperation) :
    after (operations ++ [last]) = (after operations).perform last := by
  simp [after]

/-- Names are distinct, and a look-up finds what the map holds. -/
structure Refines (store : SignalStore) (map : SignalMap) : Prop where
  distinct : store.names.Nodup
  get (name : String) : store.get? name = (map[name]?).map fun state => state.signal name

theorem name_of_get {store : SignalStore} {name : String} {s : Signal}
    (found : store.get? name = some s) : s.name = name := by
  simpa using List.find?_some found

/-- With distinct names every signal is found under its own. -/
theorem get_of_mem {store : SignalStore} (distinct : store.names.Nodup) {s : Signal}
    (member : s ∈ store.signals) : store.get? s.name = some s := by
  obtain ⟨found, there⟩ : ∃ found, store.get? s.name = some found := by
    rw [← Option.isSome_iff_exists, get_isSome, contains_iff]
    exact List.mem_map_of_mem member
  have same : found = s :=
    List.inj_on_of_nodup_map distinct (List.mem_of_find?_eq_some there) member
      (name_of_get there)
  rw [there, same]

/-- Writing under a name is changing whatever bears it, as only one signal does. -/
theorem write_eq_map {name : String} {value : Float} {signals : List Signal}
    (distinct : (signals.map Signal.name).Nodup) :
    write name value signals =
      signals.map fun s => if s.name = name then { s with value } else s := by
  induction signals with
  | nil => rfl
  | cons first rest ih =>
    rw [List.map_cons, List.nodup_cons] at distinct
    unfold write
    by_cases same : first.name = name
    · have others : ∀ s ∈ rest, s.name ≠ name := by
        intro s member again
        apply distinct.1
        rw [same, ← again]
        exact List.mem_map_of_mem member
      have kept : (rest.map fun s => if s.name = name then { s with value } else s) = rest := by
        conv_rhs => rw [← List.map_id rest]
        exact List.map_congr_left fun s member => if_neg (others s member)
      rw [if_pos same, List.map_cons, if_pos same, kept]
    · rw [if_neg same, List.map_cons, if_neg same, ih distinct.2]

/-- Removing signals removes what the test refuses from every look-up. -/
theorem get_retain {store : SignalStore} (distinct : store.names.Nodup) (keep : Signal → Bool)
    (name : String) : (store.retain keep).get? name = (store.get? name).filter keep := by
  have kept : (store.retain keep).names.Nodup :=
    distinct.sublist (List.filter_sublist.map Signal.name)
  cases found : store.get? name with
  | none =>
    have absent : (store.retain keep).contains name = false := by
      rw [← get_isSome, Bool.eq_false_iff, Ne, get_isSome, contains_iff]
      intro member
      obtain ⟨s, listed, same⟩ := List.mem_map.mp member
      have present : store.contains name = true := by
        rw [contains_iff, ← same]
        exact List.mem_map_of_mem (List.mem_filter.mp listed).1
      rw [← get_isSome, found] at present
      cases present
    rw [← get_isSome] at absent
    simpa using absent
  | some s =>
    have named := name_of_get found
    cases kind : keep s with
    | true =>
      have listed : s ∈ (store.retain keep).signals :=
        List.mem_filter.mpr ⟨List.mem_of_find?_eq_some found, kind⟩
      rw [← named, get_of_mem kept listed, Option.filter_some_pos kind]
    | false =>
      have absent : (store.retain keep).get? name = none := by
        cases there : (store.retain keep).get? name with
        | none => rfl
        | some other =>
          have listed := List.mem_filter.mp (List.mem_of_find?_eq_some there)
          have again := get_of_mem distinct listed.1
          rw [name_of_get there, found] at again
          cases again
          rw [kind] at listed
          cases listed.2
      rw [absent, Option.filter_some_neg kind]

namespace Refines

variable {store : SignalStore} {map : SignalMap}

theorem fresh : empty.Refines ∅ := ⟨List.nodup_nil, fun name => by simp [empty, get?]⟩

theorem mem_iff (refines : store.Refines map) (name : String) :
    name ∈ map ↔ name ∈ store.names := by
  rw [← contains_iff, ← get_isSome, refines.get, Option.isSome_map,
    Std.ExtHashMap.mem_iff_isSome_getElem?]

theorem contains_eq (refines : store.Refines map) (name : String) :
    store.contains name = map.contains name := by
  rw [Bool.eq_iff_iff, contains_iff, ← refines.mem_iff, Std.ExtHashMap.mem_iff_contains]

/-- The map holds nothing but what the store lists. -/
theorem map_eq (refines : store.Refines map) :
    map = .ofList (store.signals.map fun s => (s.name, s.state)) := by
  have fronts : (store.signals.map fun s => (s.name, s.state)).map Prod.fst = store.names := by
    simp [names, Function.comp_def]
  apply Std.ExtHashMap.ext_getElem?
  intro name
  have got := refines.get name
  cases found : store.get? name with
  | none =>
    have absent : name ∉ store.names := by
      rw [← contains_iff, ← get_isSome, found]
      exact Bool.false_ne_true
    rw [found] at got
    have missing : map[name]? = none := by simpa using got.symm
    rw [missing, Std.ExtHashMap.getElem?_ofList_of_contains_eq_false]
    rw [fronts]
    simpa using absent
  | some s =>
    rw [found] at got
    obtain ⟨state, held, same⟩ := Option.map_eq_some_iff.mp got.symm
    have pairwise : (store.signals.map fun s => (s.name, s.state)).Pairwise
        fun a b => (a.1 == b.1) = false := by
      have apart := refines.distinct
      rw [names, List.nodup_iff_pairwise_ne, List.pairwise_map] at apart
      rw [List.pairwise_map]
      exact apart.imp fun differs => by simpa using differs
    have listed : (name, state) ∈ store.signals.map fun s => (s.name, s.state) := by
      refine List.mem_map.mpr ⟨s, List.mem_of_find?_eq_some found, ?_⟩
      rw [← same]
      rfl
    rw [held, Std.ExtHashMap.getElem?_ofList_of_mem (beq_self_eq_true name) pairwise listed]

theorem size_eq (refines : store.Refines map) : store.size = map.size := by
  have apart := refines.distinct
  rw [names, List.nodup_iff_pairwise_ne, List.pairwise_map] at apart
  rw [refines.map_eq, Std.ExtHashMap.size_ofList, List.length_map, size]
  rw [List.pairwise_map]
  exact apart.imp fun differs => by simpa using differs

theorem add (refines : store.Refines map) (signal : Signal) :
    (store.add signal).1.Refines (map.insertIfNew signal.name signal.state) := by
  by_cases present : signal.name ∈ map
  · have same : map.insertIfNew signal.name signal.state = map := by
      apply Std.ExtHashMap.ext_getElem?
      intro name
      rw [Std.ExtHashMap.getElem?_insertIfNew, if_neg]
      rintro ⟨_, absent⟩
      exact absent present
    have there : store.contains signal.name = true := by
      rw [contains_iff, ← refines.mem_iff]
      exact present
    rw [same, add_of_contains there]
    exact refines
  · have new : signal.name ∉ store.names := by
      rw [← refines.mem_iff]
      exact present
    have absent : store.contains signal.name = false := by
      rw [Bool.eq_false_iff, Ne, contains_iff]
      exact new
    rw [add_of_new absent]
    constructor
    · have listed : (⟨store.signals ++ [signal]⟩ : SignalStore).names =
          store.names ++ [signal.name] := by
        simp [names]
      rw [listed, List.nodup_append]
      refine ⟨refines.distinct, List.nodup_singleton _, ?_⟩
      intro old listed last member equal
      apply new
      rw [← List.mem_singleton.mp member, ← equal]
      exact listed
    · intro name
      rw [Std.ExtHashMap.getElem?_insertIfNew]
      show (store.signals ++ [signal]).find? _ = _
      rw [List.find?_append]
      change (store.get? name).or _ = _
      by_cases same : signal.name = name
      · subst same
        have missing : store.get? signal.name = none := by
          rw [← Option.not_isSome_iff_eq_none, get_isSome, absent]
          exact Bool.false_ne_true
        rw [missing, if_pos ⟨beq_self_eq_true _, present⟩]
        simp
      · rw [if_neg fun both => same (eq_of_beq both.1), ← refines.get]
        simp [same]

theorem set (refines : store.Refines map) (name : String) (value : Float) :
    (store.set? name value).1.Refines
      (map.modify name fun state => { state with value := state.kind.coerce value }) := by
  constructor
  · rw [names_of_profile (profile_set store name value)]
    exact refines.distinct
  · intro other
    rw [Std.ExtHashMap.getElem?_modify]
    by_cases same : name = other
    · subst same
      rw [if_pos (beq_self_eq_true _)]
      cases found : store.get? name with
      | none =>
        have missing : map[name]? = none := by simpa [found] using refines.get name
        simp [set?, found, missing]
      | some s =>
        obtain ⟨state, held, equal⟩ :=
          Option.map_eq_some_iff.mp ((refines.get name).symm.trans found)
        rw [get_set found, held, ← equal]
        rfl
    · rw [if_neg fun equal => same (eq_of_beq equal), get_set_of_ne store (Ne.symm same)]
      exact refines.get other

theorem retain (refines : store.Refines map) (keep : Signal → Bool) :
    (store.retain keep).Refines (map.filter fun name state => keep (state.signal name)) := by
  constructor
  · exact refines.distinct.sublist (List.filter_sublist.map Signal.name)
  · intro name
    rw [get_retain refines.distinct, refines.get, Std.ExtHashMap.getElem?_filter',
      Option.filter_map]
    rfl

theorem perform (refines : store.Refines map) (operation : StoreOperation) :
    (store.perform operation).Refines (map.perform operation) := by
  cases operation with
  | add signal => exact refines.add signal
  | set name value => exact refines.set name value
  | retain keep => exact refines.retain keep

/-- The names that an operation leaves keep their order, and a new one comes last. -/
theorem names_perform (refines : store.Refines map) (operation : StoreOperation) :
    (store.perform operation).names =
      (store.names.filter fun name => (map.perform operation).contains name) ++
        map.newNames operation := by
  have whole (all : ∀ name ∈ map, name ∈ map.perform operation) :
      (store.names.filter fun name => (map.perform operation).contains name) = store.names := by
    rw [List.filter_eq_self]
    intro name member
    exact all name ((refines.mem_iff name).mpr member)
  cases operation with
  | add signal =>
    rw [whole fun name member => Std.ExtHashMap.mem_insertIfNew.mpr (Or.inr member)]
    by_cases present : signal.name ∈ map
    · have there : store.contains signal.name = true := by
        rw [contains_iff, ← refines.mem_iff]
        exact present
      simp [SignalStore.perform, SignalMap.newNames, add_of_contains there, present]
    · have absent : store.contains signal.name = false := by
        rw [Bool.eq_false_iff, Ne, contains_iff, ← refines.mem_iff]
        exact present
      simp [SignalStore.perform, SignalMap.newNames, add_of_new absent, present, names]
  | set name value =>
    rw [whole fun name member => Std.ExtHashMap.mem_modify.mpr member]
    show (store.set? name value).1.names = store.names ++ []
    rw [names_of_profile (profile_set store name value), List.append_nil]
  | retain keep =>
    show (store.signals.filter keep).map Signal.name = _ ++ []
    rw [List.append_nil, names, List.filter_map]
    congr 1
    apply List.filter_congr
    intro s member
    have after := (refines.retain keep).contains_eq s.name
    rw [← get_isSome, get_retain refines.distinct, get_of_mem refines.distinct member] at after
    show keep s = (map.filter fun name state => keep (state.signal name)).contains s.name
    rw [← after]
    cases kind : keep s with
    | true => rw [Option.filter_some_pos kind, Option.isSome_some]
    | false => rw [Option.filter_some_neg kind, Option.isSome_none]

end Refines

theorem refines_after (operations : List StoreOperation) :
    (after operations).Refines (SignalMap.after operations) := by
  induction operations using List.reverseRecOn with
  | nil => exact Refines.fresh
  | append_singleton operations last ih =>
    rw [after_concat, SignalMap.after_concat]
    exact ih.perform last

end SignalStore

end StationScript
