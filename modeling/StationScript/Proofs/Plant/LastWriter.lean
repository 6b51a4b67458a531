import StationScript.Proofs.Plant.Quiescence

/-!
What one propagation comes to. Of all connections that lead to a signal, the last one whose source
is there decides what the signal holds; the others, and those that lead nowhere, leave nothing
behind. The queue misses no input that ends with another value.
-/

set_option autoImplicit false

namespace StationScript.Plant

/-- The connection leads to a signal of the object, and its source is there. -/
structure Brings (plant : Plant) (ref : StationRef) (object signal : String) (c : Connection) :
    Prop where
  object : c.targetObject = object
  signal : c.targetSignal = signal
  source : ∃ value, plant.sourceValue? ref c = some value

/-- The connection has no source device, which may also be because its source is a part, or a signal
is missing at one of its ends. -/
def LeadsNowhere (plant : Plant) (ref : StationRef) (target : DeviceRef) (c : Connection) : Prop :=
  (∀ device ∈ plant.deviceRefs ref, (plant.device device).name ≠ c.sourceObject) ∨
  (∃ source, plant.deviceByName? ref c.sourceObject = some source ∧
    (plant.device source).signals.get? c.sourceSignal = none) ∨
  (plant.device target).signals.get? c.targetSignal = none

/-- The plant when some of the connections have been carried, those that lead into the object. -/
def carryInto (plant : Plant) (ref : StationRef) (object : String) (target : DeviceRef)
    (connections : List Connection) : Plant :=
  (connections.filter fun c => c.targetObject = object).foldl (carry ref target) plant

section Into

variable (plant : Plant) (ref : StationRef) (object : String) (target : DeviceRef)

theorem carryInto_append (front back : List Connection) :
    plant.carryInto ref object target (front ++ back) =
      (plant.carryInto ref object target front).carryInto ref object target back := by
  unfold carryInto
  rw [List.filter_append, List.foldl_append]

theorem carryInto_singleton (c : Connection) : plant.carryInto ref object target [c] =
    if c.targetObject = object then plant.carry ref target c else plant := by
  unfold carryInto
  by_cases leads : c.targetObject = object <;> simp [leads]

theorem layout_carryInto (connections : List Connection) :
    SameLayout plant (plant.carryInto ref object target connections) :=
  .foldl_carry ref target plant _

theorem source_carryInto (c : Connection) (connections : List Connection) :
    ((plant.carryInto ref object target connections).sourceValue? ref c).isSome =
      (plant.sourceValue? ref c).isSome :=
  foldl_carry_keeps ref target (fun p => (p.sourceValue? ref c).isSome)
    (fun p d => sourceValue?_isSome_carry p c d) plant _

/-- Which connections lead to a signal stays the same while others are carried. -/
theorem brings_carryInto (name : String) (c : Connection) (connections : List Connection) :
    (plant.carryInto ref object target connections).Brings ref object name c ↔
      plant.Brings ref object name c := by
  have sourced := plant.source_carryInto ref object target c connections
  have same : (∃ value, (plant.carryInto ref object target connections).sourceValue? ref c =
      some value) ↔ ∃ value, plant.sourceValue? ref c = some value := by
    rw [← Option.isSome_iff_exists, ← Option.isSome_iff_exists, sourced]
  refine ⟨fun brings => ?_, fun brings => ?_⟩
  · exact ⟨brings.object, brings.signal, same.mp brings.source⟩
  · exact ⟨brings.object, brings.signal, same.mpr brings.source⟩

theorem propagate_eq_carryInto {plant : Plant} {ref : StationRef} {object : String}
    {target : DeviceRef} (found : plant.deviceByName? ref object = some target) :
    plant.propagate ref object = plant.carryInto ref object target (plant.connections ref) := by
  unfold propagate
  rw [found]
  rfl

end Into

section Last

variable {plant : Plant} {ref : StationRef} {object : String} {target : DeviceRef}

/-- Nothing is carried by a connection that leads nowhere. -/
theorem LeadsNowhere.write? {c : Connection} (nowhere : plant.LeadsNowhere ref target c) :
    plant.write? ref target c = none := by
  rw [← Option.not_isSome_iff_eq_none, write?_isSome, Bool.and_eq_true, not_and_or]
  rcases nowhere with nobody | ⟨source, named, missing⟩ | missing
  · have none : plant.deviceByName? ref c.sourceObject = none := by
      refine List.find?_eq_none.mpr fun device listed => ?_
      simpa using nobody device listed
    simp [sourceValue?, none]
  · simp [sourceValue?, named, SignalStore.value?, missing]
  · simp [missing]

/-- What is carried by the others is the same without it. -/
theorem carryInto_of_nowhere (present : plant.Has target) {c : Connection}
    (nowhere : plant.LeadsNowhere ref target c) (front back : List Connection) :
    plant.carryInto ref object target (front ++ c :: back) =
      plant.carryInto ref object target (front ++ back) := by
  have there := (plant.layout_carryInto ref object target front).has_iff target |>.mpr present
  have none : (plant.carryInto ref object target front).write? ref target c = none := by
    have same : ((plant.carryInto ref object target front).write? ref target c).isSome =
        (plant.write? ref target c).isSome := effective_foldl_carry plant c _
    rw [nowhere.write?] at same
    simpa using same
  have idle : (plant.carryInto ref object target front).carryInto ref object target [c] =
      plant.carryInto ref object target front := by
    rw [carryInto_singleton]
    split
    · refine carry_of_unnoticed there ?_ ?_ <;> rw [none] <;> rfl
    · rfl
  rw [List.append_cons, carryInto_append, carryInto_append _ _ _ _ front, idle, carryInto_append]

/-- A connection to the signal leaves the value of its source there. -/
theorem get_carry_of_brings (present : plant.Has target) {name : String} {s : Signal}
    (held : (plant.device target).signals.get? name = some s) {c : Connection}
    (brings : plant.Brings ref object name c) :
    ∃ value, plant.sourceValue? ref c = some value ∧
      ((plant.carryInto ref object target [c]).device target).signals.get? name =
        some { s with value := s.kind.coerce value } := by
  obtain ⟨rfl, signal, value, source⟩ := brings
  have written : plant.write? ref target c = some ⟨name, s.kind.coerce value⟩ := by
    unfold Plant.write?
    rw [source, signal, held]
  have last := SignalStore.get_applyWrite (w := ⟨name, s.kind.coerce value⟩) held
  refine ⟨value, source, ?_⟩
  rw [carryInto_singleton, if_pos rfl, device_carry_eq ref target present, written]
  exact last

/-- Any other connection leaves the signal alone. -/
theorem get_carry_of_not_brings (present : plant.Has target) {name : String} {c : Connection}
    (spares : ¬ plant.Brings ref object name c) :
    ((plant.carryInto ref object target [c]).device target).signals.get? name =
      (plant.device target).signals.get? name := by
  rw [carryInto_singleton]
  split
  case isFalse => rfl
  case isTrue leads =>
    rw [device_carry_eq ref target present]
    rcases write?_cases ref target plant c with ⟨none, _⟩ | ⟨value, s, source, _, written⟩
    · rw [none]
      rfl
    · rw [written]
      refine SignalStore.get_applyWrite_of_ne _ fun signal => spares ?_
      exact ⟨leads, signal.symm, value, source⟩

/-- A signal holds what the last connection to it has brought, or what it held before. -/
theorem get_carryInto (ref : StationRef) (object : String) (present : plant.Has target) {s : Signal}
    (held : (plant.device target).signals.get? s.name = some s) (connections : List Connection) :
    (∃ front c back value, connections = front ++ c :: back ∧
      plant.Brings ref object s.name c ∧ (∀ later ∈ back, ¬ plant.Brings ref object s.name later) ∧
      (plant.carryInto ref object target front).sourceValue? ref c = some value ∧
      ((plant.carryInto ref object target connections).device target).signals.get? s.name =
        some { s with value := s.kind.coerce value }) ∨
    ((∀ c ∈ connections, ¬ plant.Brings ref object s.name c) ∧
      ((plant.carryInto ref object target connections).device target).signals.get? s.name =
        some s) := by
  -- From the back, as it is the last connection that decides.
  induction connections using List.reverseRecOn with
  | nil => exact Or.inr ⟨fun _ member => absurd member List.not_mem_nil, held⟩
  | append_singleton front c ih =>
    have there := (plant.layout_carryInto ref object target front).has_iff target |>.mpr present
    have same := plant.brings_carryInto ref object target s.name c front
    rw [carryInto_append]
    by_cases brings : plant.Brings ref object s.name c
    · have profile : ((plant.carryInto ref object target front).device target).signals.profile =
          (plant.device target).signals.profile := (signals_foldl_carry ref target plant _ target).2
      obtain ⟨old, before⟩ := SignalStore.get_of_profile profile held
      obtain ⟨value, read, now⟩ := get_carry_of_brings there before (same.mpr brings)
      exact Or.inl ⟨front, c, [], value, rfl, brings, fun _ member =>
        absurd member List.not_mem_nil,
        read, now⟩
    · rw [get_carry_of_not_brings there fun also => brings (same.mp also)]
      have none_last {later : List Connection}
          (none : ∀ other ∈ later, ¬ plant.Brings ref object s.name other) :
          ∀ other ∈ later ++ [c], ¬ plant.Brings ref object s.name other := by
        intro other member
        rcases List.mem_append.mp member with listed | last
        · exact none other listed
        · exact List.mem_singleton.mp last ▸ brings
      rcases ih with ⟨early, last, back, value, split, decides, after, read, now⟩ | ⟨none, now⟩
      · refine Or.inl ⟨early, last, back ++ [c], value, ?_, decides, none_last after, read, now⟩
        rw [split, List.append_assoc, List.cons_append]
      · exact Or.inr ⟨none_last none, now⟩

/-- What carrying adds to the queue: changes of inputs of the target, and none is missing of an
input that ends with another value. -/
theorem queue_carryInto (present : plant.Has target) (connections : List Connection) :
    ∃ new, (∀ other, (plant.carryInto ref object target connections).station? other =
        if other = ref then
          (plant.station? other).map fun s => { s with pending := s.pending ++ new }
        else plant.station? other) ∧
      (∀ change ∈ new, change.device = target ∧
        (plant.device target).signals.HasInput change.signal) ∧
      ∀ s t, (plant.device target).signals.get? s.name = some s →
        ((plant.carryInto ref object target connections).device target).signals.get? s.name =
          some t →
        s.kind.isInput = true → s.value.isNaN = false → (s.value == t.value) = false →
          ⟨target, s.name⟩ ∈ new := by
  refine ⟨_, station?_foldl_carry ref present _, ?_, ?_⟩
  · intro change member
    obtain ⟨w, noticed, rfl⟩ := List.mem_map.mp member
    exact ⟨rfl, SignalStore.input_of_noticed noticed⟩
  · intro s t held after input defined differs
    refine Classical.byContradiction fun missed => ?_
    have quiet : s.name ∉ ((plant.device target).signals.noticed (writes ref target plant
        (connections.filter fun c => c.targetObject = object))).map SignalWrite.name := by
      intro listed
      obtain ⟨w, member, name⟩ := List.mem_map.mp listed
      exact missed (List.mem_map.mpr ⟨w, member, by rw [name]⟩)
    obtain ⟨value, last, equal⟩ := SignalStore.beq_of_unnoticed held input defined quiet
    rw [carryInto, device_foldl_carry ref present, last] at after
    rw [← Option.some.inj after, equal] at differs
    cases differs

end Last

/-- What propagation into an object does. Without a device of that name it does nothing. Otherwise
it changes values of that device's signals and the station's queue, and nothing else. Each signal
ends with what the last connection to it brings, coerced to its kind, and otherwise keeps its value;
connections that lead nowhere may as well be left out. What is queued are changes of inputs of the
device, among them a change of every input that ends with another value. -/
theorem propagation_effect (plant : Plant) (ref : StationRef) (object : String)
    (present : ∀ device ∈ plant.deviceRefs ref, plant.Has device) :
    (plant.deviceByName? ref object = none → plant.propagate ref object = plant) ∧
    ∀ target, plant.deviceByName? ref object = some target →
      (∀ other, other ≠ target →
        (plant.propagate ref object).device other = plant.device other) ∧
      (∃ signals : SignalStore, signals.profile = (plant.device target).signals.profile ∧
        (plant.propagate ref object).device target = { plant.device target with signals } ∧
        ∀ s, (plant.device target).signals.get? s.name = some s →
          (∃ front c back value, plant.connections ref = front ++ c :: back ∧
            plant.Brings ref object s.name c ∧
            (∀ later ∈ back, ¬ plant.Brings ref object s.name later) ∧
            (plant.carryInto ref object target front).sourceValue? ref c = some value ∧
            (c.sourceObject ≠ object → plant.sourceValue? ref c = some value) ∧
            signals.get? s.name = some { s with value := s.kind.coerce value }) ∨
          ((∀ c ∈ plant.connections ref, ¬ plant.Brings ref object s.name c) ∧
            signals.get? s.name = some s)) ∧
      (∀ front c back, plant.connections ref = front ++ c :: back →
        plant.LeadsNowhere ref target c →
          plant.propagate ref object = plant.carryInto ref object target (front ++ back)) ∧
      ∃ new, (∀ other, (plant.propagate ref object).station? other =
          if other = ref then
            (plant.station? other).map fun s => { s with pending := s.pending ++ new }
          else plant.station? other) ∧
        (∀ change ∈ new, change.device = target ∧
          ∃ s, (plant.device target).signals.get? change.signal = some s ∧
            s.kind.isInput = true) ∧
        ∀ s t, (plant.device target).signals.get? s.name = some s →
          ((plant.propagate ref object).device target).signals.get? s.name = some t →
          s.kind.isInput = true → s.value.isNaN = false → (s.value == t.value) = false →
            ⟨target, s.name⟩ ∈ new := by
  refine ⟨fun none => ?_, fun target found => ?_⟩
  · unfold propagate
    rw [none]
  · have there := present target (List.mem_of_find?_eq_some found)
    rw [propagate_eq_carryInto found]
    refine ⟨?others, ?values, ?nowhere, queue_carryInto there _⟩
    case others =>
      intro other differs
      exact foldl_carry_keeps ref target (fun p => p.device other)
        (fun p c => device_carry_of_ne ref target p c differs) plant _
    case values =>
      have whole : (plant.carryInto ref object target (plant.connections ref)).device target = _ :=
        device_foldl_carry ref there _
      refine ⟨_, SignalStore.profile_applyWrites _ _, whole, fun s held => ?_⟩
      have decided := get_carryInto ref object there held (plant.connections ref)
      rw [whole] at decided
      refine decided.imp_left ?_
      rintro ⟨front, c, back, value, split, brings, later, read, after⟩
      refine ⟨front, c, back, value, split, brings, later, read, fun elsewhere => ?_, after⟩
      rw [← read]
      exact (sourceValue?_foldl_carry_of_ne found elsewhere _).symm
    case nowhere =>
      intro front c back split nowhere
      rw [split]
      exact carryInto_of_nowhere there nowhere front back

/-- The sensor's level switches the lamp on, where another connection would leave it off, and the
lamp glows with what it is switched to. The connection from a table leads nowhere. -/
def relayCell : Plant :=
  cellOf [("Sensor", [⟨"level", .analogOutput, 2.5, false⟩, ⟨"idle", .analogOutput, 0.0, false⟩]),
    ("Lamp", [⟨"power", .digitalInput, 0.0, false⟩, ⟨"glow", .analogInput, 0.0, false⟩])]
    [⟨"Sensor", "idle", "Lamp", "power", true⟩, ⟨"Sensor", "level", "Lamp", "power", true⟩,
      ⟨"Table", "top", "Lamp", "power", true⟩, ⟨"Lamp", "power", "Lamp", "glow", true⟩]

/-- The second connection decides on the power, and the fourth reads it afterwards. Both inputs are
in the queue. -/
theorem propagation_effect_relayCell :
    (∀ device ∈ relayCell.deviceRefs ⟨0⟩, relayCell.Has device) ∧
    relayCell.deviceByName? ⟨0⟩ "Lamp" = some ⟨1⟩ ∧
    relayCell.LeadsNowhere ⟨0⟩ ⟨1⟩ ⟨"Table", "top", "Lamp", "power", true⟩ ∧
    ((relayCell.propagate ⟨0⟩ "Lamp").device ⟨1⟩).signals.value? "power" = some 1.0 ∧
    ((relayCell.propagate ⟨0⟩ "Lamp").device ⟨1⟩).signals.value? "glow" = some 1.0 ∧
    ∃ new, (relayCell.propagate ⟨0⟩ "Lamp").station? ⟨0⟩ =
        (relayCell.station? ⟨0⟩).map (fun s => { s with pending := s.pending ++ new }) ∧
      ⟨⟨1⟩, "power"⟩ ∈ new ∧ ⟨⟨1⟩, "glow"⟩ ∈ new := by
  have present : ∀ device ∈ relayCell.deviceRefs ⟨0⟩, relayCell.Has device := by decide +kernel
  have found : relayCell.deviceByName? ⟨0⟩ "Lamp" = some ⟨1⟩ := by decide +kernel
  have power : ((relayCell.propagate ⟨0⟩ "Lamp").device ⟨1⟩).signals.value? "power" =
      some 1.0 := by decide +kernel
  have glow : ((relayCell.propagate ⟨0⟩ "Lamp").device ⟨1⟩).signals.value? "glow" = some 1.0 := by
    decide +kernel
  obtain ⟨_, effect⟩ := propagation_effect relayCell ⟨0⟩ "Lamp" present
  obtain ⟨_, _, _, new, queue, _, complete⟩ := effect ⟨1⟩ found
  obtain ⟨t, powered, one⟩ := Option.map_eq_some_iff.mp power
  obtain ⟨u, glowing, same⟩ := Option.map_eq_some_iff.mp glow
  refine ⟨present, found, .inl (by decide +kernel), power, glow, new, queue ⟨0⟩, ?_, ?_⟩
  · refine complete ⟨"power", .digitalInput, 0.0, false⟩ t rfl powered rfl (by decide +kernel) ?_
    rw [one]
    decide +kernel
  · refine complete ⟨"glow", .analogInput, 0.0, false⟩ u rfl glowing rfl (by decide +kernel) ?_
    rw [same]
    decide +kernel

end StationScript.Plant
