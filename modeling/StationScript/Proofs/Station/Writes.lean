import StationScript.Proofs.Decimal.Comparison
import StationScript.Proofs.Station.Signals

/-!
Writes to a signal store, one after the other. A later write leaves nothing of an earlier one to the
same signal, so that all of them may be made twice; but whoever watches the inputs notices nothing
of the second time only if the writes to each input agree.
-/

set_option autoImplicit false

namespace StationScript

/-- A signal's new value. -/
structure SignalWrite where
  name : String
  value : Float
  deriving Repr

namespace SignalStore

/-- Makes the writes in their order. -/
def applyWrites (store : SignalStore) (writes : List SignalWrite) : SignalStore :=
  ⟨writes.foldl (fun signals w => write w.name w.value signals) store.signals⟩

/-- The write gives another value to an input. -/
def notices (store : SignalStore) (w : SignalWrite) : Bool :=
  match store.get? w.name with
  | none => false
  | some s => s.value != w.value && s.kind.isInput

/-- The writes that are noticed while all of them are made. -/
def noticed : SignalStore → List SignalWrite → List SignalWrite
  | _, [] => []
  | store, w :: rest =>
    (if store.notices w then [w] else []) ++ noticed (store.applyWrites [w]) rest

def HasInput (store : SignalStore) (name : String) : Prop :=
  ∃ s, store.get? name = some s ∧ s.kind.isInput = true

/-- Writes to the same input are equal. -/
def Concordant (store : SignalStore) (writes : List SignalWrite) : Prop :=
  ∀ v ∈ writes, ∀ w ∈ writes, v.name = w.name → store.HasInput v.name →
    (v.value == w.value) = true

@[simp] theorem applyWrites_nil (store : SignalStore) : store.applyWrites [] = store := rfl

theorem applyWrites_append (store : SignalStore) (front back : List SignalWrite) :
    store.applyWrites (front ++ back) = (store.applyWrites front).applyWrites back := by
  simp [applyWrites]

theorem applyWrites_cons (store : SignalStore) (w : SignalWrite) (rest : List SignalWrite) :
    store.applyWrites (w :: rest) = (store.applyWrites [w]).applyWrites rest := rfl

theorem write_write (name : String) (old new : Float) (signals : List Signal) :
    write name new (write name old signals) = write name new signals := by
  induction signals with
  | nil => rfl
  | cons s rest ih =>
    by_cases same : s.name = name
    · simp [write, same]
    · simp [write, same, ih]

theorem write_comm {one other : String} (differs : one ≠ other) (x y : Float)
    (signals : List Signal) :
    write one x (write other y signals) = write other y (write one x signals) := by
  induction signals with
  | nil => rfl
  | cons s rest ih =>
    by_cases first : s.name = one
    · have second : s.name ≠ other := fun same => differs (first.symm.trans same)
      simp [write, first, differs]
    · by_cases second : s.name = other
      · simp [write, second, differs.symm]
      · simp [write, first, second, ih]

/-- Nothing is left of a write when a later one goes to the same signal. -/
theorem applyWrites_overwritten (store : SignalStore) {w : SignalWrite} {rest : List SignalWrite}
    (again : w.name ∈ rest.map SignalWrite.name) :
    (store.applyWrites [w]).applyWrites rest = store.applyWrites rest := by
  induction rest generalizing store with
  | nil => cases again
  | cons next rest ih =>
    rw [applyWrites_cons, applyWrites_cons store next]
    by_cases same : w.name = next.name
    · have kept : (store.applyWrites [w]).applyWrites [next] = store.applyWrites [next] := by
        simp [applyWrites, same, write_write]
      rw [kept]
    · have later : w.name ∈ rest.map SignalWrite.name :=
        (List.mem_cons.mp again).resolve_left same
      have swapped : (store.applyWrites [w]).applyWrites [next] =
          (store.applyWrites [next]).applyWrites [w] := by
        simp [applyWrites, write_comm (Ne.symm same)]
      rw [swapped, ih _ later]

/-- Nothing is left of writes when others go to all of their signals. -/
theorem applyWrites_replaced (store : SignalStore) {front back : List SignalWrite}
    (again : ∀ w ∈ front, w.name ∈ back.map SignalWrite.name) :
    (store.applyWrites front).applyWrites back = store.applyWrites back := by
  induction front generalizing store with
  | nil => rfl
  | cons w rest ih =>
    rw [applyWrites_cons, ih _ fun later member => again later (List.mem_cons_of_mem _ member)]
    exact store.applyWrites_overwritten (again w List.mem_cons_self)

/-- The same writes made twice come to the same as made once. -/
theorem applyWrites_again (store : SignalStore) (writes : List SignalWrite) :
    (store.applyWrites writes).applyWrites writes = store.applyWrites writes :=
  store.applyWrites_replaced fun _ member => List.mem_map_of_mem member

theorem profile_applyWrites (store : SignalStore) (writes : List SignalWrite) :
    (store.applyWrites writes).profile = store.profile := by
  induction writes generalizing store with
  | nil => rfl
  | cons w rest ih =>
    rw [applyWrites_cons, ih]
    exact profile_write w.name w.value store.signals

theorem get_applyWrite {store : SignalStore} {w : SignalWrite} {s : Signal}
    (found : store.get? w.name = some s) :
    (store.applyWrites [w]).get? w.name = some { s with value := w.value } :=
  find_write found

theorem get_applyWrite_of_ne (store : SignalStore) {w : SignalWrite} {other : String}
    (differs : other ≠ w.name) : (store.applyWrites [w]).get? other = store.get? other :=
  find_write_of_ne differs w.value store.signals

theorem get_applyWrites_of_not_mem (store : SignalStore) {writes : List SignalWrite}
    {name : String} (absent : name ∉ writes.map SignalWrite.name) :
    (store.applyWrites writes).get? name = store.get? name := by
  induction writes generalizing store with
  | nil => rfl
  | cons w rest ih =>
    rw [List.map_cons, List.mem_cons, not_or] at absent
    rw [applyWrites_cons, ih _ absent.2, get_applyWrite_of_ne store absent.1]

/-- A signal that was written holds one of the values written to it. -/
theorem value_applyWrites {store : SignalStore} {writes : List SignalWrite} {name : String}
    (written : name ∈ writes.map SignalWrite.name) {s : Signal}
    (found : (store.applyWrites writes).get? name = some s) :
    ∃ w ∈ writes, w.name = name ∧ s.value = w.value := by
  induction writes generalizing store with
  | nil => cases written
  | cons w rest ih =>
    rw [applyWrites_cons] at found
    by_cases later : name ∈ rest.map SignalWrite.name
    · obtain ⟨u, member, same⟩ := ih later found
      exact ⟨u, List.mem_cons_of_mem _ member, same⟩
    · have here : name = w.name := (List.mem_cons.mp written).resolve_right later
      refine ⟨w, List.mem_cons_self, here.symm, ?_⟩
      rw [get_applyWrites_of_not_mem _ later, here] at found
      obtain ⟨old, before⟩ := get_of_profile (store.profile_applyWrites [w]).symm found
      rw [get_applyWrite before] at found
      rw [← Option.some.inj found]

/-- What a written signal holds does not depend on what was there before. -/
theorem get_applyWrites_of_mem {one other : SignalStore} (same : other.profile = one.profile)
    {writes : List SignalWrite} {name : String} (written : name ∈ writes.map SignalWrite.name) :
    (other.applyWrites writes).get? name = (one.applyWrites writes).get? name := by
  induction writes generalizing one other with
  | nil => cases written
  | cons w rest ih =>
    have profile : (other.applyWrites [w]).profile = (one.applyWrites [w]).profile := by
      rw [profile_applyWrites, profile_applyWrites, same]
    rw [applyWrites_cons, applyWrites_cons one]
    by_cases later : name ∈ rest.map SignalWrite.name
    · exact ih profile later
    · have here : name = w.name := (List.mem_cons.mp written).resolve_right later
      rw [get_applyWrites_of_not_mem _ later, get_applyWrites_of_not_mem _ later, here]
      cases found : one.get? w.name with
      | none =>
        have after := get_none_of_profile (one.profile_applyWrites [w]) found
        rw [after, get_none_of_profile profile after]
      | some s =>
        obtain ⟨value, there⟩ := get_of_profile same found
        rw [get_applyWrite there, get_applyWrite found]

/-- A value that is in place already is not written. -/
theorem applyWrite_of_held {store : SignalStore} {w : SignalWrite}
    (held : store.value? w.name = some w.value) : store.applyWrites [w] = store := by
  have kept : ∀ signals : List Signal,
      (signals.find? fun s => s.name = w.name).map Signal.value = some w.value →
        write w.name w.value signals = signals := by
    intro signals found
    induction signals with
    | nil => cases found
    | cons s rest ih =>
      unfold write
      by_cases same : s.name = w.name
      · rw [List.find?_cons_of_pos (by simpa using same)] at found
        rw [if_pos same, ← Option.some.inj found]
      · rw [List.find?_cons_of_neg (by simpa using same)] at found
        rw [if_neg same, ih found]
  exact congrArg SignalStore.mk (kept store.signals held)

theorem noticed_append (store : SignalStore) (front back : List SignalWrite) :
    store.noticed (front ++ back) =
      store.noticed front ++ (store.applyWrites front).noticed back := by
  induction front generalizing store with
  | nil => rfl
  | cons w rest ih =>
    rw [List.cons_append, noticed, noticed, ih, List.append_assoc]
    rfl

theorem HasInput.of_profile {before after : SignalStore} (same : after.profile = before.profile)
    {name : String} (input : before.HasInput name) : after.HasInput name := by
  obtain ⟨s, found, kind⟩ := input
  obtain ⟨value, there⟩ := get_of_profile same found
  exact ⟨_, there, kind⟩

theorem notices_eq_false {store : SignalStore} {w : SignalWrite} (quiet : store.notices w = false)
    {s : Signal} (found : store.get? w.name = some s) (input : s.kind.isInput = true) :
    (s.value == w.value) = true := by
  unfold notices at quiet
  rw [found] at quiet
  simpa [input, bne] using quiet

/-- Where nothing is noticed, every write to an input finds the value that it brings. -/
theorem value_of_unnoticed {store : SignalStore} {writes : List SignalWrite}
    (quiet : store.noticed writes = []) {w : SignalWrite} (member : w ∈ writes) {s : Signal}
    (found : store.get? w.name = some s) (input : s.kind.isInput = true) :
    (s.value == w.value) = true := by
  induction writes generalizing store s with
  | nil => cases member
  | cons first rest ih =>
    unfold noticed at quiet
    obtain ⟨now, later⟩ := List.append_eq_nil_iff.mp quiet
    have silent : store.notices first = false := by
      cases noticed : store.notices first with
      | false => rfl
      | true => simp [noticed] at now
    rcases List.mem_cons.mp member with rfl | behind
    · exact notices_eq_false silent found input
    · by_cases same : w.name = first.name
      · rw [same] at found
        have brought := notices_eq_false silent found input
        have next := get_applyWrite found
        rw [← same] at next
        have arrived := ih later behind next input
        exact Binary64.beq_trans brought arrived
      · rw [← get_applyWrite_of_ne store same] at found
        exact ih later behind found input

theorem input_of_noticed {store : SignalStore} {writes : List SignalWrite} {w : SignalWrite}
    (member : w ∈ store.noticed writes) : store.HasInput w.name := by
  induction writes generalizing store with
  | nil => cases member
  | cons first rest ih =>
    rcases List.mem_append.mp member with now | later
    · split at now
      · rename_i noticed
        rw [List.mem_singleton.mp now]
        unfold notices at noticed
        split at noticed
        · cases noticed
        · rename_i s found
          exact ⟨s, found, (Bool.and_eq_true_iff.mp noticed).2⟩
      · cases now
    · exact (ih later).of_profile (store.profile_applyWrites [first]).symm

/-- An input of which no write is noticed holds an equal value at the end. -/
theorem beq_of_unnoticed {store : SignalStore} {writes : List SignalWrite} {s : Signal}
    (found : store.get? s.name = some s) (input : s.kind.isInput = true)
    (defined : s.value.isNaN = false)
    (quiet : s.name ∉ (store.noticed writes).map SignalWrite.name) :
    ∃ value, (store.applyWrites writes).get? s.name = some { s with value } ∧
      (s.value == value) = true := by
  -- From the back: what the earlier writes have left is what the last one finds.
  induction writes using List.reverseRecOn with
  | nil => exact ⟨s.value, found, Binary64.beq_self defined⟩
  | append_singleton front w ih =>
    rw [noticed_append, List.map_append, List.mem_append, not_or] at quiet
    obtain ⟨value, there, equal⟩ := ih quiet.1
    rw [applyWrites_append]
    by_cases same : s.name = w.name
    · have silent : (store.applyWrites front).notices w = false := by
        refine Bool.eq_false_iff.mpr fun noticed => quiet.2 ?_
        simp [SignalStore.noticed, noticed, same]
      rw [same] at there ⊢
      have brought := notices_eq_false silent there input
      exact ⟨w.value, get_applyWrite there, Binary64.beq_trans equal brought⟩
    · rw [get_applyWrite_of_ne _ same]
      exact ⟨value, there, equal⟩

/-- Concordant writes are not noticed in a store that holds nothing but what they brought. -/
theorem unnoticed_of_concordant {store : SignalStore} {writes rest : List SignalWrite}
    (agree : store.Concordant writes) (within : rest ⊆ writes)
    (held : ∀ w ∈ rest, ∀ s, store.get? w.name = some s →
      ∃ v ∈ writes, v.name = w.name ∧ s.value = v.value) : store.noticed rest = [] := by
  induction rest generalizing store with
  | nil => rfl
  | cons w rest ih =>
    have silent : store.notices w = false := by
      unfold notices
      cases found : store.get? w.name with
      | none => rfl
      | some s =>
        dsimp only
        cases input : s.kind.isInput with
        | false => exact Bool.and_false _
        | true =>
          obtain ⟨v, member, same, value⟩ := held w List.mem_cons_self s found
          have equal := agree v member w (within List.mem_cons_self) same
            (same ▸ ⟨s, found, input⟩)
          rw [value, bne, equal]
          rfl
    have profile := store.profile_applyWrites [w]
    unfold noticed
    rw [silent, ih ?_ (fun _ member => within (List.mem_cons_of_mem _ member)) ?_]
    · rfl
    · exact fun u member v listed same input =>
        agree u member v listed same (input.of_profile profile.symm)
    · intro u member s found
      by_cases same : u.name = w.name
      · rw [same] at found
        obtain ⟨old, before⟩ := SignalStore.get_of_profile profile.symm found
        rw [get_applyWrite before] at found
        exact ⟨w, within List.mem_cons_self, same.symm, by rw [← Option.some.inj found]⟩
      · rw [get_applyWrite_of_ne store same] at found
        exact held u (List.mem_cons_of_mem _ member) s found

/-- When writes are made a second time, nothing is noticed exactly if they agree. -/
theorem noticed_again_iff (store : SignalStore) (writes : List SignalWrite) :
    (store.applyWrites writes).noticed writes = [] ↔ store.Concordant writes := by
  have profile := store.profile_applyWrites writes
  constructor
  · intro quiet v member w also same input
    obtain ⟨s, found, kind⟩ := input.of_profile profile
    have first := value_of_unnoticed quiet member found kind
    rw [same] at found
    have second := value_of_unnoticed quiet also found kind
    exact Binary64.beq_trans (Binary64.beq_symm first) second
  · intro agree
    have still : (store.applyWrites writes).Concordant writes := fun u member v listed same input =>
      agree u member v listed same (input.of_profile profile.symm)
    exact unnoticed_of_concordant still (List.Subset.refl _) fun w member s found =>
      value_applyWrites (List.mem_map_of_mem member) found

end SignalStore

end StationScript
