import StationScript.Proofs.Host.Signals
import StationScript.Proofs.Plant.Propagation
import StationScript.Proofs.Station.Writes

/-!
What carrying comes to. One after the other, the connections into a device make a list of writes to
its signals; nothing else happens to the device, and the writes that its inputs notice are queued.
-/

set_option autoImplicit false

namespace StationScript

namespace Plant

/-- What carrying a connection writes; nothing, if its source or its target is missing. -/
def write? (ref : StationRef) (target : DeviceRef) (plant : Plant) (c : Connection) :
    Option SignalWrite :=
  match plant.sourceValue? ref c, (plant.device target).signals.get? c.targetSignal with
  | some value, some s => some ⟨c.targetSignal, s.kind.coerce value⟩
  | _, _ => none

/-- What carrying connections one after the other writes. -/
def writes (ref : StationRef) (target : DeviceRef) : Plant → List Connection → List SignalWrite
  | _, [] => []
  | plant, c :: rest =>
    (plant.write? ref target c).toList ++ writes ref target (plant.carry ref target c) rest

/-- The changes of a device that are queued for writes. -/
def changes (target : DeviceRef) (writes : List SignalWrite) : List SignalChange :=
  writes.map fun w => ⟨target, w.name⟩

section Carry

variable (ref : StationRef) (target : DeviceRef)

/-- Nothing is carried without a write. -/
theorem write?_cases (plant : Plant) (c : Connection) :
    (plant.write? ref target c = none ∧
      ∀ value, plant.sourceValue? ref c = some value →
        (plant.device target).signals.get? c.targetSignal = none) ∨
    ∃ value s, plant.sourceValue? ref c = some value ∧
      (plant.device target).signals.get? c.targetSignal = some s ∧
      plant.write? ref target c = some ⟨c.targetSignal, s.kind.coerce value⟩ := by
  unfold write?
  cases plant.sourceValue? ref c with
  | none => exact Or.inl ⟨rfl, nofun⟩
  | some value =>
    cases (plant.device target).signals.get? c.targetSignal with
    | none => exact Or.inl ⟨rfl, fun _ _ => rfl⟩
    | some s => exact Or.inr ⟨value, s, rfl, rfl, rfl⟩

theorem set_eq_applyWrites {store : SignalStore} {name : String} {s : Signal}
    (found : store.get? name = some s) (value : Float) :
    (store.set? name value).1 = store.applyWrites [⟨name, s.kind.coerce value⟩] := by
  unfold SignalStore.set?
  rw [found]
  rfl

/-- Carrying a connection changes its target by what it writes, and in no other way. -/
theorem device_carry_eq {plant : Plant} (present : plant.Has target) (c : Connection) :
    (plant.carry ref target c).device target = { plant.device target with
      signals :=
        (plant.device target).signals.applyWrites (plant.write? ref target c).toList } := by
  have written (value : Float) := plant.device_modifyDevice target target fun d =>
    { d with signals := (d.signals.set? c.targetSignal value).1 }
  unfold carry
  rcases write?_cases ref target plant c with ⟨none, missing⟩ | ⟨value, s, source, found, some⟩
  · rw [none]
    cases source : plant.sourceValue? ref c with
    | none => rfl
    | some value =>
      have kept : ((plant.device target).signals.set? c.targetSignal value).1 =
          (plant.device target).signals := by
        unfold SignalStore.set?
        rw [missing value source]
      have stored := written value
      rw [if_pos ⟨rfl, present⟩, kept] at stored
      dsimp only
      split <;> exact stored
  · rw [some, source]
    have stored := written value
    rw [if_pos ⟨rfl, present⟩, set_eq_applyWrites found] at stored
    dsimp only
    split <;> exact stored

/-- What is queued is what is noticed of the writes. -/
theorem station?_carry (plant : Plant) (c : Connection) (other : StationRef) :
    (plant.carry ref target c).station? other = if other = ref then
      (plant.station? other).map fun s => { s with
        pending := s.pending ++ changes target
          ((plant.device target).signals.noticed (plant.write? ref target c).toList) }
    else plant.station? other := by
  have unchanged (s : Station) : { s with pending := s.pending ++ [] } = s := by
    rw [List.append_nil]
  unfold carry
  rcases write?_cases ref target plant c with ⟨none, missing⟩ | ⟨value, s, source, found, some⟩
  · have silent (value : Float) (source : plant.sourceValue? ref c = some value) :
        observes (plant.device target).signals c.targetSignal value = false := by
      unfold observes
      rw [missing value source]
    rw [none]
    simp only [Option.toList_none, SignalStore.noticed, changes, List.map_nil, unchanged,
      Option.map_id', ite_self]
    cases source : plant.sourceValue? ref c with
    | none => rfl
    | some value =>
      dsimp only
      rw [silent value source]
      rfl
  · have same : observes (plant.device target).signals c.targetSignal value =
        (plant.device target).signals.notices ⟨c.targetSignal, s.kind.coerce value⟩ := by
      unfold observes SignalStore.notices
      rw [found]
    rw [some, source]
    dsimp only [Option.toList_some, SignalStore.noticed]
    rw [same]
    cases (plant.device target).signals.notices ⟨c.targetSignal, s.kind.coerce value⟩ with
    | false =>
      simp only [changes, Bool.false_eq_true, ↓reduceIte, List.append_nil, List.map_nil,
        Option.map_id', ite_self]
      rfl
    | true =>
      rw [if_pos rfl, station?_modifyStation]
      rfl

theorem write?_isSome (plant : Plant) (c : Connection) :
    (plant.write? ref target c).isSome = ((plant.sourceValue? ref c).isSome &&
      ((plant.device target).signals.get? c.targetSignal).isSome) := by
  unfold write?
  cases plant.sourceValue? ref c with
  | none => rfl
  | some value => cases (plant.device target).signals.get? c.targetSignal <;> rfl

variable {ref target}

/-- The same value written to a signal of the same kind is the same write. -/
theorem write?_congr {one other : Plant} {c : Connection}
    (source : other.sourceValue? ref c = one.sourceValue? ref c)
    (profile : (other.device target).signals.profile = (one.device target).signals.profile) :
    other.write? ref target c = one.write? ref target c := by
  unfold write?
  rw [source]
  cases one.sourceValue? ref c with
  | none => rfl
  | some value =>
    cases found : (one.device target).signals.get? c.targetSignal with
    | none => rw [SignalStore.get_none_of_profile profile found]
    | some s =>
      obtain ⟨old, there⟩ := SignalStore.get_of_profile profile found
      rw [there]

/-- Whether the source of a connection is there is a matter of which signals there are. -/
theorem sourceValue?_isSome_carry (plant : Plant) (c d : Connection) :
    ((plant.carry ref target d).sourceValue? ref c).isSome = (plant.sourceValue? ref c).isSome := by
  unfold sourceValue?
  rw [(SameLayout.carry ref target plant d).deviceByName?_eq]
  cases plant.deviceByName? ref c.sourceObject with
  | none => rfl
  | some device =>
    have profile := (signals_carry ref target plant d device).2
    unfold SignalStore.value?
    rw [Option.isSome_map, Option.isSome_map, SignalStore.isSome_of_profile profile]

/-- So is whether it carries anything. -/
theorem write?_isSome_carry (plant : Plant) (c d : Connection) :
    ((plant.carry ref target d).write? ref target c).isSome =
      (plant.write? ref target c).isSome := by
  have profile := (signals_carry ref target plant d target).2
  rw [write?_isSome, write?_isSome, sourceValue?_isSome_carry,
    SignalStore.isSome_of_profile profile]

theorem stations_carry (plant : Plant) (c : Connection) :
    (plant.carry ref target c).stations.size = plant.stations.size := by
  unfold carry
  split
  · rfl
  · dsimp only
    split
    · exact Array.size_modify
    · rfl

variable {plant : Plant} (present : plant.Has target)
include present

/-- Nothing is different after a connection that finds its value in place. -/
theorem carry_of_unnoticed {c : Connection}
    (held : (plant.device target).signals.applyWrites (plant.write? ref target c).toList =
      (plant.device target).signals)
    (quiet : (plant.device target).signals.noticed (plant.write? ref target c).toList = []) :
    plant.carry ref target c = plant := by
  refine ext_refs (SameLayout.carry ref target plant c).size (stations_carry plant c) ?_ ?_
  · intro other
    by_cases here : other = target
    · rw [here, device_carry_eq ref target present, held]
    · exact device_carry_of_ne ref target plant c here
  · intro other
    rw [station?_carry, quiet]
    split
    · cases plant.station? other with
      | none => rfl
      | some station => simp [changes]
    · rfl

/-- The connections that carry nothing may be left out. -/
theorem foldl_carry_filter (connections : List Connection) :
    (connections.filter fun c =>
      (plant.write? ref target c).isSome).foldl (carry ref target) plant =
      connections.foldl (carry ref target) plant := by
  induction connections generalizing plant with
  | nil => rfl
  | cons c rest ih =>
    have there := (SameLayout.carry ref target plant c).has_iff target |>.mpr present
    have still := ih there
    simp only [write?_isSome_carry] at still
    cases written : plant.write? ref target c with
    | none =>
      have idle : plant.carry ref target c = plant := by
        refine carry_of_unnoticed present ?_ ?_ <;> rw [written] <;> rfl
      rw [List.filter_cons_of_neg (by rw [written]; decide), List.foldl_cons, idle]
      rw [idle] at still
      exact still
    | some w =>
      rw [List.filter_cons_of_pos (by rw [written]; rfl), List.foldl_cons, List.foldl_cons, still]

variable (ref) in
/-- Carrying many connections writes what each of them writes. -/
theorem device_foldl_carry (connections : List Connection) :
    (connections.foldl (carry ref target) plant).device target = { plant.device target with
      signals := (plant.device target).signals.applyWrites
        (writes ref target plant connections) } := by
  induction connections generalizing plant with
  | nil => rfl
  | cons c rest ih =>
    have there := (SameLayout.carry ref target plant c).has_iff target |>.mpr present
    rw [List.foldl_cons, ih there, device_carry_eq ref target present, writes,
      SignalStore.applyWrites_append]

variable (ref) in
/-- Carrying many connections queues what is noticed of all that they write. -/
theorem station?_foldl_carry (connections : List Connection) (other : StationRef) :
    (connections.foldl (carry ref target) plant).station? other = if other = ref then
      (plant.station? other).map fun s => { s with
        pending := s.pending ++ changes target
          ((plant.device target).signals.noticed (writes ref target plant connections)) }
    else plant.station? other := by
  induction connections generalizing plant with
  | nil =>
    split
    · cases found : plant.station? other <;> simp [found, writes, SignalStore.noticed, changes]
    · rfl
  | cons c rest ih =>
    have there := (SameLayout.carry ref target plant c).has_iff target |>.mpr present
    rw [List.foldl_cons, ih there, station?_carry, device_carry_eq ref target present, writes,
      SignalStore.noticed_append]
    split
    · cases plant.station? other <;> simp [changes]
    · rfl

theorem names_writes {connections : List Connection}
    (effective : ∀ c ∈ connections, (plant.write? ref target c).isSome = true) :
    (writes ref target plant connections).map SignalWrite.name =
      connections.map Connection.targetSignal := by
  induction connections generalizing plant with
  | nil => rfl
  | cons c rest ih =>
    have there := (SameLayout.carry ref target plant c).has_iff target |>.mpr present
    have names := ih there fun d member => by
      rw [write?_isSome_carry]
      exact effective d (List.mem_cons_of_mem _ member)
    rw [writes, List.map_append, names]
    rcases write?_cases ref target plant c with ⟨none, _⟩ | ⟨value, s, _, _, some⟩
    · have written := effective c List.mem_cons_self
      rw [none] at written
      cases written
    · rw [some]
      rfl

end Carry

theorem writes_append (ref : StationRef) (target : DeviceRef) (plant : Plant)
    (front back : List Connection) :
    writes ref target plant (front ++ back) = writes ref target plant front ++
      writes ref target (front.foldl (carry ref target) plant) back := by
  induction front generalizing plant with
  | nil => rfl
  | cons c rest ih => rw [List.cons_append, writes, writes, ih, List.append_assoc, List.foldl_cons]

theorem writes_concat (ref : StationRef) (target : DeviceRef) (plant : Plant)
    (front : List Connection) (c : Connection) :
    writes ref target plant (front ++ [c]) = writes ref target plant front ++
      ((front.foldl (carry ref target) plant).write? ref target c).toList := by
  rw [writes_append, writes, writes, List.append_nil]

/-- A source on another device is read as it was before. -/
theorem sourceValue?_foldl_carry_of_ne {plant : Plant} {ref : StationRef} {object : String}
    {target : DeviceRef} (found : plant.deviceByName? ref object = some target) {c : Connection}
    (elsewhere : c.sourceObject ≠ object) (connections : List Connection) :
    (connections.foldl (carry ref target) plant).sourceValue? ref c = plant.sourceValue? ref c := by
  unfold sourceValue?
  rw [(SameLayout.foldl_carry ref target plant connections).deviceByName?_eq]
  cases source : plant.deviceByName? ref c.sourceObject with
  | none => rfl
  | some device =>
    have apart : device ≠ target := by
      intro same
      have sourceName := name_of_deviceByName? source
      rw [same, name_of_deviceByName? found] at sourceName
      exact elsewhere sourceName.symm
    dsimp only
    rw [foldl_carry_keeps ref target (fun p => p.device device)
      (fun p d => device_carry_of_ne ref target p d apart) plant connections]

/-- No signal of the station has an undefined value. -/
def Defined (plant : Plant) (ref : StationRef) : Prop :=
  ∀ device ∈ plant.deviceRefs ref, ∀ s ∈ (plant.device device).signals.signals,
    s.value.isNaN = false

instance (plant : Plant) (ref : StationRef) : Decidable (plant.Defined ref) :=
  inferInstanceAs (Decidable (∀ device ∈ plant.deviceRefs ref,
    ∀ s ∈ (plant.device device).signals.signals, s.value.isNaN = false))

section Defined

variable {plant : Plant} {ref : StationRef} {target : DeviceRef}

theorem isNaN_coerce (kind : SignalKind) {value : Float} (defined : value.isNaN = false) :
    (kind.coerce value).isNaN = false := by
  cases kind with
  | analogInput | analogOutput => exact defined
  | digitalGroupInput | digitalGroupOutput => exact Binary64.isNaN_truncate defined
  | digitalInput | digitalOutput =>
    unfold SignalKind.coerce
    dsimp only
    split <;> decide +kernel

/-- Defined values are written from defined values. -/
theorem Defined.write? (defined : plant.Defined ref) {c : Connection} {w : SignalWrite}
    (written : plant.write? ref target c = some w) : w.value.isNaN = false := by
  rcases write?_cases ref target plant c with ⟨none, _⟩ | ⟨value, s, source, _, some⟩
  · rw [none] at written
    cases written
  · rw [some] at written
    cases written
    refine isNaN_coerce s.kind ?_
    unfold sourceValue? at source
    cases named : plant.deviceByName? ref c.sourceObject with
    | none =>
      rw [named] at source
      cases source
    | some device =>
      rw [named] at source
      obtain ⟨t, there, rfl⟩ := Option.map_eq_some_iff.mp source
      exact defined device (List.mem_of_find?_eq_some named) t (List.mem_of_find?_eq_some there)

theorem Defined.carry (present : plant.Has target) (defined : plant.Defined ref) (c : Connection) :
    (plant.carry ref target c).Defined ref := by
  intro device listed s member
  rw [(SameLayout.carry ref target plant c).deviceRefs_eq] at listed
  by_cases here : device = target
  · rw [here, device_carry_eq ref target present] at member
    cases written : plant.write? ref target c with
    | none =>
      rw [written] at member
      exact defined target (here ▸ listed) s member
    | some w =>
      rw [written] at member
      rcases SignalStore.mem_write member with old | ⟨old, _, rfl⟩
      · exact defined target (here ▸ listed) s old
      · exact defined.write? written
  · rw [device_carry_of_ne ref target plant c here] at member
    exact defined device listed s member

theorem Defined.writes (present : plant.Has target) (defined : plant.Defined ref)
    (connections : List Connection) :
    ∀ w ∈ writes ref target plant connections, w.value.isNaN = false := by
  induction connections generalizing plant with
  | nil => exact fun _ member => nomatch member
  | cons c rest ih =>
    intro w member
    have there := (SameLayout.carry ref target plant c).has_iff target |>.mpr present
    rcases List.mem_append.mp member with first | later
    · exact defined.write? (Option.mem_toList.mp first)
    · exact ih there (defined.carry present c) w later

end Defined

end Plant

end StationScript
