import StationScript.Proofs.Station.SignalMap
import StationScript.Proofs.Station.Writes

/-!
The order in which a signal store lists its signals, and what it answers.

An addition survives if its name was new and has been there ever since. A store lists exactly the
surviving additions, the earliest first, and answers every operation as the finite map says that
went through the same operations.
-/

set_option autoImplicit false

namespace StationScript.SignalStore

/-- The operation at this place added a name that was not there, and the name has stayed. -/
structure Survives (operations : List StoreOperation) (place : Nat) (name : String) : Prop where
  added : ∃ signal, operations[place]? = some (.add signal) ∧ signal.name = name
  new : name ∉ SignalMap.after (operations.take place)
  kept : ∀ later, place < later → later ≤ operations.length →
    name ∈ SignalMap.after (operations.take later)

/-- The names are those of the surviving additions, in the order in which they were made. -/
def InOrderAdded (operations : List StoreOperation) (names : List String) : Prop :=
  ∃ additions : List (Nat × String), additions.map Prod.snd = names ∧
    (additions.map Prod.fst).Pairwise (· < ·) ∧
    ∀ place name, (place, name) ∈ additions ↔ Survives operations place name

section Concat

variable {operations : List StoreOperation} {last : StoreOperation} {place : Nat} {name : String}

/-- No addition survives before it was made. -/
theorem Survives.lt (survives : Survives operations place name) : place < operations.length := by
  obtain ⟨signal, there, _⟩ := survives.added
  exact (List.getElem?_eq_some_iff.mp there).1

/-- What survives one more operation has survived the earlier ones, or is what that one added. -/
theorem survives_concat :
    Survives (operations ++ [last]) place name ↔
      (Survives operations place name ∧ name ∈ SignalMap.after (operations ++ [last])) ∨
        (place = operations.length ∧ name ∈ (SignalMap.after operations).newNames last) := by
  have whole : (operations ++ [last]).take (operations.length + 1) = operations ++ [last] := by
    rw [← List.length_singleton (a := last), ← List.length_append]
    exact List.take_length
  have front {n : Nat} (within : n ≤ operations.length) :
      (operations ++ [last]).take n = operations.take n :=
    List.take_append_of_le_length within
  constructor
  · intro survives
    have bound := survives.lt
    rw [List.length_append, List.length_singleton] at bound
    obtain ⟨signal, there, named⟩ := survives.added
    rcases Nat.lt_or_eq_of_le (Nat.le_of_lt_succ bound) with before | rfl
    · refine Or.inl ⟨⟨⟨signal, ?_, named⟩, ?_, ?_⟩, ?_⟩
      · rw [← there, List.getElem?_append_left before]
      · rw [← front (Nat.le_of_lt before)]
        exact survives.new
      · intro later above within
        rw [← front within]
        exact survives.kept later above (by simp; omega)
      · rw [← whole]
        exact survives.kept _ (by omega) (by simp)
    · refine Or.inr ⟨rfl, SignalMap.mem_newNames.mpr ⟨signal, ?_, named, ?_⟩⟩
      · simpa using there
      · have new := survives.new
        rwa [front (Nat.le_refl _), List.take_length] at new
  · rintro (⟨survives, present⟩ | ⟨rfl, new⟩)
    · have before := survives.lt
      obtain ⟨signal, there, named⟩ := survives.added
      refine ⟨⟨signal, ?_, named⟩, ?_, ?_⟩
      · rw [List.getElem?_append_left before, there]
      · rw [front (Nat.le_of_lt before)]
        exact survives.new
      · intro later above within
        rw [List.length_append, List.length_singleton] at within
        rcases Nat.lt_or_eq_of_le within with earlier | rfl
        · rw [front (by omega)]
          exact survives.kept later above (by omega)
        · rw [whole]
          exact present
    · obtain ⟨signal, rfl, named, absent⟩ := SignalMap.mem_newNames.mp new
      refine ⟨⟨signal, by simp, named⟩, ?_, ?_⟩
      · rw [front (Nat.le_refl _), List.take_length]
        exact absent
      · intro later above within
        rw [List.length_append, List.length_singleton] at within
        have atEnd : later = operations.length + 1 := by omega
        rw [atEnd, whole, SignalMap.after_concat]
        exact SignalMap.mem_perform_of_new new

end Concat

theorem inOrderAdded_after (operations : List StoreOperation) :
    InOrderAdded operations (after operations).names := by
  induction operations using List.reverseRecOn with
  | nil =>
    refine ⟨[], rfl, List.Pairwise.nil, ?_⟩
    intro place name
    constructor
    · intro impossible
      cases impossible
    · intro survives
      exact absurd survives.lt (Nat.not_lt_zero place)
  | append_singleton operations last ih =>
    obtain ⟨additions, listed, ordered, survivors⟩ := ih
    have refines := refines_after operations
    let map := (SignalMap.after operations).perform last
    let left := additions.filter fun addition => map.contains addition.2
    let made := ((SignalMap.after operations).newNames last).map fun name =>
      (operations.length, name)
    refine ⟨left ++ made, ?_, ?_, ?_⟩
    · rw [after_concat, refines.names_perform, ← listed, List.map_append, List.filter_map]
      congr 1
      simp [made, Function.comp_def]
    · have single : (made.map Prod.fst).Pairwise (· < ·) := by
        cases last with
        | set | retain => exact List.Pairwise.nil
        | add signal =>
          simp only [made, SignalMap.newNames]
          split <;> simp
      rw [List.map_append, List.pairwise_append]
      refine ⟨ordered.sublist (List.filter_sublist.map Prod.fst), single, ?_⟩
      intro early isLeft late isMade
      obtain ⟨⟨place, name⟩, member, rfl⟩ := List.mem_map.mp isLeft
      obtain ⟨entry, fresh, rfl⟩ := List.mem_map.mp isMade
      obtain ⟨_, _, rfl⟩ := List.mem_map.mp fresh
      exact ((survivors place name).mp (List.mem_filter.mp member).1).lt
    · intro place name
      rw [List.mem_append, List.mem_filter, survivors, survives_concat, SignalMap.after_concat]
      apply or_congr Iff.rfl
      rw [List.mem_map]
      constructor
      · rintro ⟨_, new, same⟩
        cases same
        exact ⟨rfl, new⟩
      · rintro ⟨rfl, new⟩
        exact ⟨name, new, rfl⟩

/-- How a store answers that holds what a map holds. -/
structure AnswersAs (store : SignalStore) (map : SignalMap) : Prop where
  /-- An addition is refused exactly for a name that is present, whatever else the signal brings. -/
  refused (signal : Signal) : (store.add signal).2 = false ↔ signal.name ∈ map
  unchanged (signal : Signal) : signal.name ∈ map → (store.add signal).1 = store
  /-- Nothing is written under an absent name. -/
  missing (name : String) (value : Float) : name ∉ map → store.set? name value = (store, none)
  /-- A write changes one value, and is answered with it. -/
  written (name : String) (value : Float) (state : SignalState) : map[name]? = some state →
    store.set? name value =
      (⟨store.signals.map fun s =>
          if s.name = name then { s with value := state.kind.coerce value } else s⟩,
        some (state.kind.coerce value))
  /-- The value that was written is read back. -/
  readBack (name : String) (value : Float) (state : SignalState) : map[name]? = some state →
    (store.set? name value).1.value? name = some (state.kind.coerce value)
  /-- Writing the same value again, or the value that is stored, changes nothing. -/
  again (name : String) (value : Float) (state : SignalState) : map[name]? = some state →
    ∀ repeated, repeated = value ∨ repeated = state.kind.coerce value →
      (store.set? name value).1.set? name repeated =
        ((store.set? name value).1, some (state.kind.coerce value))
  /-- A removed name can be added with another kind. -/
  reusable (keep : Signal → Bool) (removed signal : Signal) : removed ∈ store.signals →
    keep removed = false → signal.name = removed.name →
      (store.retain keep).add signal = (⟨(store.retain keep).signals ++ [signal]⟩, true) ∧
        ((store.retain keep).add signal).1.get? removed.name = some signal

namespace Refines

variable {store : SignalStore} {map : SignalMap}

theorem contains_iff_mem (refines : store.Refines map) (name : String) :
    store.contains name = true ↔ name ∈ map := by
  rw [refines.contains_eq, Std.ExtHashMap.mem_iff_contains]

/-- A state in the map is that of a signal in the store. -/
theorem get_of_held (refines : store.Refines map) {name : String} {state : SignalState}
    (held : map[name]? = some state) : store.get? name = some (state.signal name) := by
  rw [refines.get, held]
  rfl

theorem set_of_held (refines : store.Refines map) {name : String} {state : SignalState}
    (held : map[name]? = some state) (value : Float) :
    store.set? name value =
      (⟨write name (state.kind.coerce value) store.signals⟩, some (state.kind.coerce value)) := by
  unfold set?
  rw [refines.get_of_held held]
  rfl

/-- A value that is written twice, coerced or not, is written once. -/
theorem set_again (refines : store.Refines map) {name : String} {state : SignalState}
    (held : map[name]? = some state) {value repeated : Float}
    (same : state.kind.coerce repeated = state.kind.coerce value) :
    (store.set? name value).1.set? name repeated =
      ((store.set? name value).1, some (state.kind.coerce value)) := by
  have found : (store.set? name value).1.get? name =
      some { state.signal name with value := state.kind.coerce value } :=
    get_set (refines.get_of_held held) value
  rw [refines.set_of_held held] at found ⊢
  show set? _ name repeated = _
  unfold set?
  rw [found]
  show (SignalStore.mk (write name (state.kind.coerce repeated) (write name _ store.signals)),
    some (state.kind.coerce repeated)) = _
  rw [same, write_write]

theorem add_removed (refines : store.Refines map) {keep : Signal → Bool} {removed signal : Signal}
    (member : removed ∈ store.signals) (refused : keep removed = false)
    (same : signal.name = removed.name) :
    (store.retain keep).add signal = (⟨(store.retain keep).signals ++ [signal]⟩, true) ∧
      ((store.retain keep).add signal).1.get? removed.name = some signal := by
  have gone : (store.retain keep).get? signal.name = none := by
    rw [get_retain refines.distinct, same, get_of_mem refines.distinct member,
      Option.filter_some_neg refused]
  have absent : (store.retain keep).contains signal.name = false := by
    rw [← get_isSome, gone]
    rfl
  refine ⟨add_of_new absent, ?_⟩
  rw [add_of_new absent, ← same]
  show ((store.retain keep).signals ++ [signal]).find? _ = _
  rw [List.find?_append]
  change ((store.retain keep).get? signal.name).or _ = _
  rw [gone]
  simp

theorem answersAs (refines : store.Refines map) : store.AnswersAs map where
  refused signal := by
    rw [← refines.contains_iff_mem]
    cases present : store.contains signal.name with
    | true => simp [add_of_contains present]
    | false => simp [add_of_new present]
  unchanged signal present := by
    rw [add_of_contains ((refines.contains_iff_mem _).mpr present)]
  missing name value absent := by
    have nothing : store.get? name = none := by
      rw [← Option.not_isSome_iff_eq_none, get_isSome, refines.contains_iff_mem]
      exact absent
    unfold set?
    rw [nothing]
  written name value state held := by
    rw [refines.set_of_held held, write_eq_map refines.distinct]
  readBack name value state held := by
    rw [value?, get_set (refines.get_of_held held)]
    rfl
  again name value state held repeated which := by
    apply refines.set_again held
    rcases which with rfl | rfl
    · rfl
    · exact state.kind.coerce_of_holds (state.kind.holds_coerce value)
  reusable keep removed signal member refused same := refines.add_removed member refused same

end Refines

/-- A store is a finite map that remembers the order of its keys, after any operations: names are
distinct, look-ups and sizes agree with the map that went through the same operations, the signals
stand in the order in which those that are left were added, and every operation is answered as the
map says. -/
theorem store_is_ordered_map (operations : List StoreOperation) :
    (after operations).names.Nodup ∧
    (∀ name, (after operations).get? name =
      ((SignalMap.after operations)[name]?).map fun state => state.signal name) ∧
    (∀ name, (after operations).contains name = (SignalMap.after operations).contains name) ∧
    (after operations).size = (SignalMap.after operations).size ∧
    InOrderAdded operations (after operations).names ∧
    (after operations).AnswersAs (SignalMap.after operations) := by
  have refines := refines_after operations
  refine ⟨refines.distinct, refines.get, refines.contains_eq, refines.size_eq,
    inOrderAdded_after operations, refines.answersAs⟩

/-- A lamp goes, and comes back behind the door with another kind. -/
def relamped : List StoreOperation :=
  [.add { name := "Lamp", kind := .digitalOutput }, .add { name := "Door", kind := .digitalInput },
    .set "Lamp" 5.0, .retain fun s => s.name ≠ "Lamp",
    .add { name := "Lamp", kind := .analogOutput, value := 2.5 }]

theorem store_is_ordered_map_relamped :
    (after relamped).names = ["Door", "Lamp"] ∧ "Lamp" ∈ SignalMap.after relamped ∧
      ((after relamped).add { name := "Lamp", kind := .digitalInput }).2 = false := by
  have present : "Lamp" ∈ SignalMap.after relamped := Std.ExtHashMap.mem_insertIfNew_self
  refine ⟨by decide, present, ?_⟩
  obtain ⟨_, _, _, _, _, answers⟩ := store_is_ordered_map relamped
  exact (answers.refused _).mpr present

end StationScript.SignalStore
