import Mathlib.Logic.Relation
import StationScript.Proofs.Decimal.Truncation
import StationScript.StationFile.Build

/-!
The invariant of a signal store. The control signal stands first, names are distinct, and every
value is one that the signal's kind can hold. All that ever happens to a store is that it is
cleared, that a signal is added, or that a value is written.
-/

set_option autoImplicit false

namespace StationScript

/-- The values a kind can hold. -/
def SignalKind.Holds (kind : SignalKind) (value : Float) : Prop :=
  match kind with
  | digitalInput | digitalOutput => value = 0.0 ∨ value = 1.0
  | digitalGroupInput | digitalGroupOutput => Binary64.truncate value = value
  | analogInput | analogOutput => True

theorem SignalKind.holds_coerce (kind : SignalKind) (value : Float) :
    kind.Holds (kind.coerce value) := by
  have digital : (if value != 0.0 then (1.0 : Float) else 0.0) = 0.0 ∨
      (if value != 0.0 then (1.0 : Float) else 0.0) = 1.0 := by
    split
    · exact Or.inr rfl
    · exact Or.inl rfl
  cases kind with
  | analogInput | analogOutput => trivial
  | digitalGroupInput | digitalGroupOutput => exact Binary64.truncate_truncate value
  | digitalInput | digitalOutput => exact digital

/-- A kind leaves alone what it can hold. -/
theorem SignalKind.coerce_of_holds {kind : SignalKind} {value : Float} (held : kind.Holds value) :
    kind.coerce value = value := by
  cases kind with
  | analogInput | analogOutput => rfl
  | digitalGroupInput | digitalGroupOutput => exact held
  | digitalInput | digitalOutput =>
    rcases held with rfl | rfl <;> decide +kernel

theorem SignalKind.holds_zero (kind : SignalKind) : kind.Holds 0.0 := by
  cases kind with
  | analogInput | analogOutput => trivial
  | digitalGroupInput | digitalGroupOutput => exact Binary64.truncate_zero
  | digitalInput | digitalOutput => exact Or.inl rfl

namespace SignalStore

/-- The control signal comes first and no other signal has its name; no name stands twice; every
value is held by its kind. -/
structure Lawful (store : SignalStore) : Prop where
  control : ∃ first rest, store.signals = first :: rest ∧ first.name = controlSignal ∧
    first.kind = .digitalInput ∧ first.readOnly = false ∧
    (first.value = 0.0 ∨ first.value = 1.0) ∧ ∀ s ∈ rest, s.name ≠ controlSignal
  distinct : store.names.Nodup
  holds : ∀ s ∈ store.signals, s.kind.Holds s.value

/-- One change of a store, or none. -/
inductive Step : SignalStore → SignalStore → Prop where
  | same (store : SignalStore) : Step store store
  | cleared (store : SignalStore) : Step store (store.retain fun s => s.name = controlSignal)
  | added (store : SignalStore) (signal : Signal) (held : signal.kind.Holds signal.value) :
    Step store (store.add signal).1
  | written (store : SignalStore) (name : String) (value : Float) :
    Step store (store.set? name value).1

theorem contains_iff (store : SignalStore) (name : String) :
    store.contains name = true ↔ name ∈ store.names := by
  simp [contains, names]

/-- Writing a value changes nothing else about a signal. -/
theorem mem_write {name : String} {value : Float} {signals : List Signal} {s : Signal}
    (member : s ∈ write name value signals) :
    s ∈ signals ∨ ∃ old, signals.find? (fun s => s.name = name) = some old ∧
      s = { old with value } := by
  induction signals with
  | nil => exact Or.inl member
  | cons first rest ih =>
    unfold write at member
    split at member
    · rename_i same
      rcases List.mem_cons.mp member with rfl | later
      · exact Or.inr ⟨first, by simp [same], rfl⟩
      · exact Or.inl (List.mem_cons_of_mem _ later)
    · rename_i differs
      rcases List.mem_cons.mp member with rfl | later
      · exact Or.inl List.mem_cons_self
      · rcases ih later with old | ⟨old, found, rfl⟩
        · exact Or.inl (List.mem_cons_of_mem _ old)
        · exact Or.inr ⟨old, by simpa [differs] using found, rfl⟩

theorem find_write {name : String} {value : Float} {signals : List Signal} {s : Signal}
    (found : signals.find? (fun s => s.name = name) = some s) :
    (write name value signals).find? (fun s => s.name = name) = some { s with value } := by
  induction signals with
  | nil => cases found
  | cons first rest ih =>
    unfold write
    by_cases same : first.name = name
    · rw [List.find?_cons_of_pos (by simpa using same)] at found
      cases found
      rw [if_pos same, List.find?_cons_of_pos (by simpa using same)]
    · rw [List.find?_cons_of_neg (by simpa using same)] at found
      rw [if_neg same, List.find?_cons_of_neg (by simpa using same)]
      exact ih found

theorem find_write_of_ne {name other : String} (differs : other ≠ name) (value : Float)
    (signals : List Signal) :
    (write name value signals).find? (fun s => s.name = other) =
      signals.find? fun s => s.name = other := by
  induction signals with
  | nil => rfl
  | cons first rest ih =>
    unfold write
    split
    · rename_i same
      have passed : first.name ≠ other := fun again => differs (again.symm.trans same)
      rw [List.find?_cons_of_neg (by simpa using passed),
        List.find?_cons_of_neg (by simpa using passed)]
    · rw [List.find?_cons, List.find?_cons, ih]

theorem get_set {store : SignalStore} {name : String} {s : Signal}
    (found : store.get? name = some s) (value : Float) :
    (store.set? name value).1.get? name = some { s with value := s.kind.coerce value } := by
  unfold set?
  rw [found]
  exact find_write found

theorem get_set_of_ne (store : SignalStore) {name other : String} (differs : other ≠ name)
    (value : Float) : (store.set? name value).1.get? other = store.get? other := by
  unfold set?
  split
  · rfl
  · exact find_write_of_ne differs _ _

/-- Everything about the signals but their values. -/
def profile (store : SignalStore) : List (String × SignalKind × Bool) :=
  store.signals.map fun s => (s.name, s.kind, s.readOnly)

theorem profile_write (name : String) (value : Float) (signals : List Signal) :
    (write name value signals).map (fun s => (s.name, s.kind, s.readOnly)) =
      signals.map fun s => (s.name, s.kind, s.readOnly) := by
  induction signals with
  | nil => rfl
  | cons s rest ih =>
    unfold write
    split
    · rfl
    · rw [List.map_cons, ih, List.map_cons]

theorem profile_set (store : SignalStore) (name : String) (value : Float) :
    (store.set? name value).1.profile = store.profile := by
  unfold set?
  split
  · rfl
  · exact profile_write name _ store.signals

theorem names_of_profile {before after : SignalStore} (same : after.profile = before.profile) :
    after.names = before.names := by
  have fronts := congrArg (List.map Prod.fst) same
  simpa [profile, names, Function.comp_def] using fronts

namespace Lawful

variable {store : SignalStore}

theorem initial : SignalStore.initial.Lawful :=
  ⟨⟨_, [], rfl, rfl, rfl, rfl, Or.inl rfl, fun _ member => absurd member List.not_mem_nil⟩,
    by decide, by simp [SignalStore.initial, SignalKind.Holds]⟩

theorem add (lawful : store.Lawful) {signal : Signal} (held : signal.kind.Holds signal.value) :
    (store.add signal).1.Lawful := by
  cases present : store.contains signal.name with
  | true =>
    rw [add_of_contains present]
    exact lawful
  | false =>
    have new : signal.name ∉ store.names := by
      rw [← contains_iff, present]
      exact Bool.false_ne_true
    obtain ⟨first, rest, listed, name, kind, flag, value, others⟩ := lawful.control
    rw [add_of_new present]
    refine ⟨⟨first, rest ++ [signal], ?_, name, kind, flag, value, ?_⟩, ?_, ?_⟩
    · rw [listed]
      rfl
    · intro s member
      rcases List.mem_append.mp member with old | last
      · exact others s old
      · rw [List.mem_singleton.mp last]
        intro again
        refine new ?_
        rw [again, ← name, names, listed]
        exact List.mem_cons_self
    · have names : (⟨store.signals ++ [signal]⟩ : SignalStore).names =
          store.names ++ [signal.name] := by
        simp [SignalStore.names]
      rw [names]
      exact List.nodup_append.mpr ⟨lawful.distinct, List.nodup_singleton _,
        fun old listed last member equal => new (List.mem_singleton.mp member ▸ equal ▸ listed)⟩
    · intro s member
      rcases List.mem_append.mp member with old | last
      · exact lawful.holds s old
      · rw [List.mem_singleton.mp last]
        exact held

theorem clear (lawful : store.Lawful) :
    (store.retain fun s => s.name = controlSignal).Lawful := by
  obtain ⟨first, rest, listed, name, kind, flag, value, others⟩ := lawful.control
  have left : (store.retain fun s => s.name = controlSignal).signals = [first] := by
    rw [retain, listed, List.filter_cons_of_pos (by simpa using name)]
    rw [List.filter_eq_nil_iff.mpr fun s member => by simpa using others s member]
  refine ⟨⟨first, [], left, name, kind, flag, value,
    fun _ member => absurd member List.not_mem_nil⟩, ?_, ?_⟩
  · rw [names, left]
    exact List.nodup_singleton _
  · intro s member
    rw [left, List.mem_singleton] at member
    rw [member]
    exact lawful.holds first (by rw [listed]; exact List.mem_cons_self)

/-- The invariant is a matter of the profile and of what the kinds hold. -/
theorem of_profile {after : SignalStore} (lawful : store.Lawful)
    (same : after.profile = store.profile) (holds : ∀ s ∈ after.signals, s.kind.Holds s.value) :
    after.Lawful := by
  refine ⟨?_, names_of_profile same ▸ lawful.distinct, holds⟩
  obtain ⟨first, rest, listed, control, kind, flag, _, others⟩ := lawful.control
  rw [profile, profile, listed, List.map_cons] at same
  obtain ⟨head, tail, split, front, back⟩ := List.map_eq_cons_iff.mp same
  have parts : head.name = first.name ∧ head.kind = first.kind ∧
      head.readOnly = first.readOnly := by simpa using front
  have digital := holds head (by rw [split]; exact List.mem_cons_self)
  rw [parts.2.1, kind] at digital
  refine ⟨head, tail, split, parts.1.trans control, parts.2.1.trans kind, parts.2.2.trans flag,
    digital, fun s member => ?_⟩
  have listed := List.mem_map_of_mem member (f := fun s : Signal => (s.name, s.kind, s.readOnly))
  rw [back] at listed
  obtain ⟨twin, present, equal⟩ := List.mem_map.mp listed
  have named : twin.name = s.name := congrArg Prod.fst equal
  rw [← named]
  exact others twin present

theorem set (lawful : store.Lawful) (name : String) (value : Float) :
    (store.set? name value).1.Lawful := by
  refine lawful.of_profile (profile_set store name value) ?_
  unfold set?
  split
  · exact lawful.holds
  · rename_i old found
    intro s member
    rcases mem_write member with kept | ⟨same, again, rfl⟩
    · exact lawful.holds s kept
    · have equal : old = same := Option.some.inj (found.symm.trans again)
      rw [← equal]
      exact old.kind.holds_coerce value

theorem step {after : SignalStore} (lawful : store.Lawful) (step : Step store after) :
    after.Lawful := by
  cases step with
  | same => exact lawful
  | cleared => exact lawful.clear
  | added signal held => exact lawful.add held
  | written name value => exact lawful.set name value

theorem steps {after : SignalStore} (lawful : store.Lawful)
    (steps : Relation.ReflTransGen Step store after) : after.Lawful := by
  induction steps with
  | refl => exact lawful
  | tail _ last ih => exact ih.step last

/-- A store that is filled with signals whose values are held. -/
theorem ofSignals {signals : List Signal} (held : ∀ s ∈ signals, s.kind.Holds s.value) :
    (SignalStore.ofSignals signals).Lawful := by
  unfold SignalStore.ofSignals
  have start := initial
  generalize SignalStore.initial = store at start
  induction signals generalizing store with
  | nil => exact start
  | cons s rest ih =>
    exact ih (fun other later => held other (List.mem_cons_of_mem _ later)) _
      (start.add (held s List.mem_cons_self))

end Lawful

/-- What is there before and after has the same kind and the same flag. -/
def Agrees (before after : SignalStore) : Prop :=
  ∀ name s t, before.get? name = some s → after.get? name = some t →
    t.kind = s.kind ∧ t.readOnly = s.readOnly

namespace Agrees

/-- The first signal of a name, without its value, is the first of that name in the profile. -/
theorem get_profile (store : SignalStore) (name : String) :
    (store.get? name).map (fun s => (s.name, s.kind, s.readOnly)) =
      store.profile.find? fun entry => entry.1 = name := by
  rw [get?, profile, List.find?_map]
  rfl

theorem of_profile {before after : SignalStore} (same : after.profile = before.profile) :
    Agrees before after := by
  intro name s t old new
  have equal : (after.get? name).map (fun s => (s.name, s.kind, s.readOnly)) =
      (before.get? name).map fun s => (s.name, s.kind, s.readOnly) := by
    rw [get_profile, get_profile, same]
  rw [old, new] at equal
  have parts : t.name = s.name ∧ t.kind = s.kind ∧ t.readOnly = s.readOnly := by simpa using equal
  exact parts.2

theorem refl (store : SignalStore) : Agrees store store := of_profile rfl

/-- A signal that is in the store keeps its place when another is added. -/
theorem add (store : SignalStore) (signal : Signal) : Agrees store (store.add signal).1 := by
  cases present : store.contains signal.name with
  | true =>
    rw [add_of_contains present]
    exact refl store
  | false =>
    rw [add_of_new present]
    intro name s t old new
    have same : (⟨store.signals ++ [signal]⟩ : SignalStore).get? name = some s := by
      rw [get?] at old ⊢
      rw [List.find?_append, old]
      rfl
    rw [same] at new
    cases new
    exact ⟨rfl, rfl⟩

theorem clear (store : SignalStore) :
    Agrees store (store.retain fun s => s.name = controlSignal) := by
  intro name s t old new
  have found : store.get? name = some t := by
    rw [get?, retain, List.find?_filter] at new
    have named : t.name = controlSignal ∧ t.name = name := by simpa using List.find?_some new
    rw [get?, ← new]
    congr 1
    funext other
    simp [← named.1, named.2]
  rw [found] at old
  cases old
  exact ⟨rfl, rfl⟩

theorem step {before after : SignalStore} (step : Step before after) : Agrees before after := by
  cases step with
  | same => exact refl before
  | cleared => exact clear before
  | added signal held => exact add before signal
  | written name value => exact of_profile (profile_set before name value)

end Agrees

theorem get_isSome (store : SignalStore) (name : String) :
    (store.get? name).isSome = store.contains name := by
  rw [Bool.eq_iff_iff, get?, contains, List.find?_isSome, List.any_eq_true]

/-- A signal of the same name, kind and flag stands where a signal stood. -/
theorem get_of_profile {before after : SignalStore} (same : after.profile = before.profile)
    {name : String} {s : Signal} (found : before.get? name = some s) :
    ∃ value, after.get? name = some { s with value } := by
  have equal := Agrees.get_profile after name
  rw [same, ← Agrees.get_profile before name, found] at equal
  obtain ⟨t, there, parts⟩ := Option.map_eq_some_iff.mp equal
  cases t with
  | mk name kind value readOnly =>
    cases parts
    exact ⟨value, there⟩

theorem isSome_of_profile {before after : SignalStore} (same : after.profile = before.profile)
    (name : String) : (after.get? name).isSome = (before.get? name).isSome := by
  rw [get_isSome, get_isSome, Bool.eq_iff_iff, contains_iff, contains_iff, names_of_profile same]

theorem get_none_of_profile {before after : SignalStore} (same : after.profile = before.profile)
    {name : String} (missing : before.get? name = none) : after.get? name = none := by
  have present := isSome_of_profile same name
  rw [missing] at present
  simpa using present

end SignalStore

end StationScript
