import StationScript.Proofs.Plant.Carried

/-!
Propagation a second time. The connections into an object make the same writes again, unless one of
them reads a signal of the object itself before the others have brought that signal its value. So no
value changes the second time; and if connections to the same input agree, no change is queued
either.
-/

set_option autoImplicit false

namespace StationScript

namespace Plant

/-- The connections into an object that carry a value: both of their signals are there. -/
def incoming (plant : Plant) (ref : StationRef) (object : String) : List Connection :=
  match plant.deviceByName? ref object with
  | none => []
  | some target => (plant.connections ref).filter fun c =>
      (plant.write? ref target c).isSome && decide (c.targetObject = object)

/-- A connection that reads a signal of the object itself stands behind one that has carried a value
to this signal, or before none that does. -/
def Sequenced (object : String) (connections : List Connection) : Prop :=
  ∀ i (inside : i < connections.length), connections[i].sourceObject = object →
    connections[i].sourceSignal ∈ (connections.take i).map Connection.targetSignal ∨
      connections[i].sourceSignal ∉ (connections.drop (i + 1)).map Connection.targetSignal

instance (object : String) (connections : List Connection) :
    Decidable (Sequenced object connections) :=
  inferInstanceAs (Decidable (∀ i (_ : i < connections.length), _ → _))

/-- Connections to the same input of the object bring it equal values. -/
def Concordant (plant : Plant) (ref : StationRef) (object : String) : Prop :=
  ∀ target, plant.deviceByName? ref object = some target →
    (plant.device target).signals.Concordant
      (writes ref target plant (plant.incoming ref object))

/-- The signals of the object hold what the connections prescribe. -/
def AtRest (plant : Plant) (ref : StationRef) (object : String) : Prop :=
  ∀ target, plant.deviceByName? ref object = some target →
    ∀ c ∈ plant.incoming ref object, ∀ w, plant.write? ref target c = some w →
      (plant.device target).signals.value? w.name = some w.value

theorem Sequenced.split {object : String} {front back : List Connection} {c : Connection}
    (sequenced : Sequenced object (front ++ c :: back)) (inside : c.sourceObject = object) :
    c.sourceSignal ∈ front.map Connection.targetSignal ∨
      c.sourceSignal ∉ back.map Connection.targetSignal := by
  have later : (front ++ c :: back).drop (front.length + 1) = back := by
    rw [List.append_cons, List.drop_left' (by simp)]
  have here := sequenced front.length (by simp)
  simp only [List.getElem_append_right (Nat.le_refl _), Nat.sub_self, List.getElem_cons_zero,
    List.take_left, later] at here
  exact here inside

section Replay

variable {ref : StationRef} {target : DeviceRef} {plant : Plant} {object : String}

theorem sourceValue?_of_inside (found : plant.deviceByName? ref object = some target)
    {c : Connection} (inside : c.sourceObject = object) :
    plant.sourceValue? ref c = (plant.device target).signals.value? c.sourceSignal := by
  unfold sourceValue?
  rw [inside, found]

theorem effective_foldl_carry (plant : Plant) (c : Connection) (front : List Connection) :
    ((front.foldl (carry ref target) plant).write? ref target c).isSome =
      (plant.write? ref target c).isSome :=
  foldl_carry_keeps ref target (fun p => (p.write? ref target c).isSome)
    (fun p d => write?_isSome_carry p c d) plant front

/-- A connection writes the same once more after the writes that came before it, whether it reads
what one of them has brought, or what none has changed, or its own target. -/
theorem write?_again {early again : Plant} {store : SignalStore} {front back : List SignalWrite}
    {w : SignalWrite} {c : Connection} (firstFound : early.deviceByName? ref object = some target)
    (secondFound : again.deviceByName? ref object = some target)
    (first : (early.device target).signals = store.applyWrites front)
    (second : (again.device target).signals =
      (store.applyWrites (front ++ w :: back)).applyWrites front)
    (written : early.write? ref target c = some w)
    (outside : c.sourceObject ≠ object → again.sourceValue? ref c = early.sourceValue? ref c)
    (ordered : c.sourceObject = object → c.sourceSignal ∈ front.map SignalWrite.name ∨
      c.sourceSignal ∉ back.map SignalWrite.name) :
    again.write? ref target c = some w := by
  have profile : (again.device target).signals.profile = (early.device target).signals.profile := by
    rw [first, second]
    simp only [SignalStore.profile_applyWrites]
  by_cases inside : c.sourceObject = object
  swap
  · rw [write?_congr (outside inside) profile, written]
  have read (plant : Plant) (found : plant.deviceByName? ref object = some target) :=
    sourceValue?_of_inside found inside
  by_cases before : c.sourceSignal ∈ front.map SignalWrite.name
  · have same := SignalStore.get_applyWrites_of_mem
      (store.profile_applyWrites (front ++ w :: back)) before
    have source : again.sourceValue? ref c = early.sourceValue? ref c := by
      rw [read again secondFound, read early firstFound, first, second, SignalStore.value?, same]
      rfl
    rw [write?_congr source profile, written]
  · have after := (ordered inside).resolve_left before
    have last : (again.device target).signals.get? c.sourceSignal =
        ((early.device target).signals.applyWrites [w]).get? c.sourceSignal := by
      rw [second, SignalStore.get_applyWrites_of_not_mem _ before, SignalStore.applyWrites_append,
        SignalStore.applyWrites_cons, SignalStore.get_applyWrites_of_not_mem _ after, first]
    rcases write?_cases ref target early c with ⟨none, _⟩ | ⟨value, s, source, there, some⟩
    · rw [none] at written
      cases written
    · rw [some] at written
      cases written
      by_cases own : c.sourceSignal = c.targetSignal
      · -- The connection reads what it has written, and coerces it a second time.
        rw [own, SignalStore.get_applyWrite there] at last
        have brought : again.sourceValue? ref c = .some (s.kind.coerce value) := by
          rw [read again secondFound, SignalStore.value?, own, last]
          rfl
        unfold write?
        rw [brought, last]
        dsimp only
        rw [SignalKind.coerce_of_holds (s.kind.holds_coerce value)]
      · rw [SignalStore.get_applyWrite_of_ne _ own] at last
        have source : again.sourceValue? ref c = early.sourceValue? ref c := by
          rw [read again secondFound, read early firstFound, SignalStore.value?, last]
          rfl
        rw [write?_congr source profile, some]

/-- Connections in sequence make the same writes a second time. -/
theorem writes_again (present : plant.Has target)
    (found : plant.deviceByName? ref object = some target) {connections : List Connection}
    (effective : ∀ c ∈ connections, (plant.write? ref target c).isSome = true)
    (sequenced : Sequenced object connections) {front back : List Connection}
    (split : connections = front ++ back) :
    writes ref target (connections.foldl (carry ref target) plant) front =
      writes ref target plant front := by
  -- From the back, so that what is replayed is what came before the connection at hand.
  induction front using List.reverseRecOn generalizing back with
  | nil => rfl
  | append_singleton front c ih =>
    have here : connections = front ++ c :: back := by
      rw [split, List.append_assoc, List.singleton_append]
    have replayed := ih here
    have layout (list : List Connection) := SameLayout.foldl_carry ref target plant list
    have there (list : List Connection) := (layout list).has_iff target |>.mpr present
    have stillFound (list : List Connection) :=
      ((layout list).deviceByName?_eq ref object).trans found
    have againFound :=
      ((SameLayout.foldl_carry ref target _ front).deviceByName?_eq ref object).trans
        (stillFound connections)
    have written := effective c (here ▸ by simp)
    rw [← effective_foldl_carry plant c front] at written
    obtain ⟨w, prescribed⟩ := Option.isSome_iff_exists.mp written
    have all : writes ref target plant connections = writes ref target plant front ++
        w :: writes ref target ((front ++ [c]).foldl (carry ref target) plant) back := by
      rw [here, writes_append, writes, prescribed, List.foldl_concat]
      rfl
    have namesFront := names_writes present fun d member =>
      effective d (here ▸ List.mem_append_left _ member)
    have namesBack := names_writes (there (front ++ [c])) fun d member => by
      rw [effective_foldl_carry]
      exact effective d (here ▸ List.mem_append_right _ (List.mem_cons_of_mem _ member))
    have second := device_foldl_carry ref (there connections) front
    rw [replayed, device_foldl_carry ref present, all] at second
    have same := write?_again (stillFound front) againFound
      (congrArg Device.signals (device_foldl_carry ref present front))
      (congrArg Device.signals second)
      prescribed
      (fun elsewhere => by
        rw [sourceValue?_foldl_carry_of_ne (stillFound connections) elsewhere,
          sourceValue?_foldl_carry_of_ne found elsewhere,
          sourceValue?_foldl_carry_of_ne found elsewhere])
      (fun inside => by
        rw [namesFront, namesBack]
        exact (here ▸ sequenced).split inside)
    rw [writes_concat, writes_concat, replayed, same, prescribed]

/-- The second time no device changes, and nothing is queued exactly if the writes agree. -/
theorem foldl_carry_again (present : plant.Has target)
    (found : plant.deviceByName? ref object = some target) {connections : List Connection}
    (effective : ∀ c ∈ connections, (plant.write? ref target c).isSome = true)
    (sequenced : Sequenced object connections) {once : Plant}
    (carried : connections.foldl (carry ref target) plant = once) :
    (∀ device, (connections.foldl (carry ref target) once).device device = once.device device) ∧
      (connections.foldl (carry ref target) once = once ↔ (plant.device target).signals.Concordant
        (writes ref target plant connections)) := by
  have there : once.Has target :=
    carried ▸ (SameLayout.foldl_carry ref target plant connections).has_iff target |>.mpr present
  have same : writes ref target once connections = writes ref target plant connections := by
    rw [← carried]
    exact writes_again present found effective sequenced (List.append_nil _).symm
  have first := device_foldl_carry ref present connections
  have second := device_foldl_carry ref there connections
  have queues := station?_foldl_carry ref there connections
  rw [carried] at first
  rw [same] at second queues
  have devices (device : DeviceRef) :
      (connections.foldl (carry ref target) once).device device = once.device device := by
    by_cases here : device = target
    · rw [here, second, first]
      dsimp only
      rw [SignalStore.applyWrites_again]
    · exact foldl_carry_keeps ref target (fun p => p.device device)
        (fun p c => device_carry_of_ne ref target p c here) once connections
  refine ⟨devices, ?_⟩
  rw [← SignalStore.noticed_again_iff]
  rw [first] at queues
  constructor
  · intro still
    have onceFound := ((SameLayout.foldl_carry ref target plant connections).deviceByName?_eq ref
      object).trans found
    rw [carried] at onceFound
    obtain ⟨station, listed⟩ := Option.isSome_iff_exists.mp (station_of_deviceByName? onceFound)
    have queue := queues ref
    rw [still, if_pos rfl, listed, Option.map_some, Option.some.injEq] at queue
    have pending := congrArg Station.pending queue
    simpa [changes] using pending
  · intro quiet
    refine ext_refs (SameLayout.foldl_carry ref target once connections).size ?_ devices ?_
    · exact foldl_carry_keeps ref target (fun p => p.stations.size) stations_carry once connections
    · intro station
      rw [queues]
      dsimp only
      rw [quiet]
      split
      · cases found : once.station? station <;> simp [changes]
      · rfl

end Replay

section Rest

variable {plant : Plant} {ref : StationRef} {target : DeviceRef}

/-- Writes to distinct signals agree, unless they bring undefined values. -/
theorem concordant_of_nodup {store : SignalStore} {writes : List SignalWrite}
    (distinct : (writes.map SignalWrite.name).Nodup)
    (defined : ∀ w ∈ writes, w.value.isNaN = false) : store.Concordant writes := by
  intro v member w also same _
  rw [List.inj_on_of_nodup_map distinct member also same]
  exact Binary64.beq_self (defined w also)

/-- What is in place already is not carried. -/
theorem foldl_carry_of_held (present : plant.Has target) (defined : plant.Defined ref)
    {connections : List Connection}
    (held : ∀ c ∈ connections, ∀ w, plant.write? ref target c = some w →
      (plant.device target).signals.value? w.name = some w.value) :
    connections.foldl (carry ref target) plant = plant := by
  induction connections with
  | nil => rfl
  | cons c rest ih =>
    have idle : plant.carry ref target c = plant := by
      cases written : plant.write? ref target c with
      | none => refine carry_of_unnoticed present ?_ ?_ <;> rw [written] <;> rfl
      | some w =>
        have there := held c List.mem_cons_self w written
        refine carry_of_unnoticed present ?_ ?_
        · rw [written]
          exact SignalStore.applyWrite_of_held there
        · obtain ⟨s, found, value⟩ := Option.map_eq_some_iff.mp there
          have equal : (s.value == w.value) = true := by
            rw [value]
            exact Binary64.beq_self (defined.write? written)
          have silent : (plant.device target).signals.notices w = false := by
            unfold SignalStore.notices
            rw [found]
            dsimp only
            rw [bne, equal]
            rfl
          rw [written]
          simp [SignalStore.noticed, silent]
    rw [List.foldl_cons, idle]
    exact ih fun d member => held d (List.mem_cons_of_mem _ member)

end Rest

section Propagate

variable {plant : Plant} {ref : StationRef} {object : String} {target : DeviceRef}

theorem incoming_of_found (found : plant.deviceByName? ref object = some target) :
    plant.incoming ref object = (plant.connections ref).filter fun c =>
      (plant.write? ref target c).isSome && decide (c.targetObject = object) := by
  unfold incoming
  rw [found]

theorem propagate_eq (present : plant.Has target)
    (found : plant.deviceByName? ref object = some target) :
    plant.propagate ref object = (plant.incoming ref object).foldl (carry ref target) plant := by
  rw [incoming_of_found found, ← List.filter_filter, foldl_carry_filter present]
  unfold propagate
  rw [found]

/-- Propagation lets the same connections into an object. -/
theorem incoming_propagate (plant : Plant) (ref : StationRef) (object : String) :
    (plant.propagate ref object).incoming ref object = plant.incoming ref object := by
  unfold incoming
  rw [(SameLayout.propagate plant ref object).deviceByName?_eq, connections_propagate]
  cases found : plant.deviceByName? ref object with
  | none => rfl
  | some target =>
    unfold propagate
    rw [found]
    simp only [effective_foldl_carry]

/-- What is propagated a second time. Nothing happens to an object whose signals hold what the
connections prescribe. They do so after one propagation, if the connections stand in sequence; then
nothing is queued either, exactly if connections to the same input bring equal values, as they do
where no two lead to the same signal. -/
theorem propagation_quiescent (plant : Plant) (ref : StationRef) (object : String)
    (present : ∀ target, plant.deviceByName? ref object = some target → plant.Has target)
    (defined : plant.Defined ref) :
    (plant.AtRest ref object → plant.propagate ref object = plant) ∧
    (Sequenced object (plant.incoming ref object) →
      (∀ device, ((plant.propagate ref object).propagate ref object).device device =
        (plant.propagate ref object).device device) ∧
      ((plant.propagate ref object).propagate ref object = plant.propagate ref object ↔
        plant.Concordant ref object) ∧
      (((plant.incoming ref object).map Connection.targetSignal).Nodup →
        (plant.propagate ref object).propagate ref object = plant.propagate ref object)) := by
  cases found : plant.deviceByName? ref object with
  | none =>
    have idle : plant.propagate ref object = plant := by
      unfold propagate
      rw [found]
    have agree : plant.Concordant ref object := by
      intro target named
      rw [found] at named
      cases named
    simp [idle, agree]
  | some target =>
    have there := present target found
    have carried := propagate_eq there found
    have onceThere := (SameLayout.propagate plant ref object).has_iff target |>.mpr there
    have onceFound :=
      ((SameLayout.propagate plant ref object).deviceByName?_eq ref object).trans found
    have effective : ∀ c ∈ plant.incoming ref object,
        (plant.write? ref target c).isSome = true := by
      intro c member
      rw [incoming_of_found found] at member
      exact (Bool.and_eq_true_iff.mp (List.mem_filter.mp member).2).1
    refine ⟨fun rest => ?_, fun sequenced => ?_⟩
    · rw [carried]
      exact foldl_carry_of_held there defined (rest target found)
    · obtain ⟨devices, queues⟩ :=
        foldl_carry_again there found effective sequenced carried.symm
      rw [propagate_eq onceThere onceFound, incoming_propagate]
      have agrees : plant.Concordant ref object ↔ (plant.device target).signals.Concordant
          (writes ref target plant (plant.incoming ref object)) := by
        unfold Concordant
        rw [found]
        simp
      refine ⟨devices, queues.trans agrees.symm, fun distinct => queues.mpr ?_⟩
      refine concordant_of_nodup ?_ (defined.writes there _)
      rw [names_writes there effective]
      exact distinct

end Propagate

/-- A station of devices with the given names and signals. -/
def cellOf (devices : List (String × List Signal)) (connections : List Connection) : Plant where
  devices := (devices.map fun (name, signals) =>
    { id := ⟨name⟩, name, station := some ⟨0⟩, signals := ⟨signals⟩ }).toArray
  stations := #[some {
    name := "Cell"
    objects := (List.range devices.length).map fun i => .device ⟨i⟩
    connections }]

/-- A sensor is connected to an input of the lamp, and this input to another one. -/
def lampCell : Plant :=
  cellOf [("Sensor", [⟨"level", .analogOutput, 2.5, false⟩]),
    ("Lamp", [⟨"power", .digitalInput, 0.0, false⟩, ⟨"glow", .analogInput, 0.0, false⟩])]
    [⟨"Sensor", "level", "Lamp", "power", true⟩, ⟨"Lamp", "power", "Lamp", "glow", true⟩]

/-- Both inputs of the lamp are set the first time, and nothing happens the second time. -/
theorem propagation_quiescent_lampCell :
    lampCell.Defined ⟨0⟩ ∧ (lampCell.propagate ⟨0⟩ "Lamp").pending ⟨0⟩ =
        [⟨⟨1⟩, "power"⟩, ⟨⟨1⟩, "glow"⟩] ∧
      (lampCell.propagate ⟨0⟩ "Lamp").propagate ⟨0⟩ "Lamp" = lampCell.propagate ⟨0⟩ "Lamp" := by
  have found : lampCell.deviceByName? ⟨0⟩ "Lamp" = some ⟨1⟩ := by decide +kernel
  have defined : lampCell.Defined ⟨0⟩ := by decide +kernel
  have sequenced : Sequenced "Lamp" (lampCell.incoming ⟨0⟩ "Lamp") := by decide +kernel
  have present : ∀ target, lampCell.deviceByName? ⟨0⟩ "Lamp" = some target →
      lampCell.Has target := by
    intro target named
    cases found.symm.trans named
    decide
  obtain ⟨_, settles⟩ := propagation_quiescent lampCell ⟨0⟩ "Lamp" present defined
  exact ⟨defined, by decide +kernel, (settles sequenced).2.2 (by decide +kernel)⟩

/-- Two switches are connected to one input of the lamp. -/
def rivalCell : Plant :=
  cellOf [("Left", [⟨"out", .digitalOutput, 0.0, false⟩]),
    ("Right", [⟨"out", .digitalOutput, 1.0, false⟩]),
    ("Lamp", [⟨"power", .digitalInput, 0.0, false⟩])]
    [⟨"Left", "out", "Lamp", "power", true⟩, ⟨"Right", "out", "Lamp", "power", true⟩]

/-- The connection between the inputs of the lamp comes before the one from the sensor. -/
def laggingCell : Plant :=
  cellOf [("Sensor", [⟨"level", .analogOutput, 2.5, false⟩]),
    ("Lamp", [⟨"power", .digitalInput, 0.0, false⟩, ⟨"glow", .analogInput, 0.0, false⟩])]
    [⟨"Lamp", "power", "Lamp", "glow", true⟩, ⟨"Sensor", "level", "Lamp", "power", true⟩]

/-- Without agreement, changes are queued every time; out of sequence, a value may arrive only the
second time. -/
theorem propagation_restless :
    (rivalCell.Defined ⟨0⟩ ∧ ((rivalCell.propagate ⟨0⟩ "Lamp").propagate ⟨0⟩ "Lamp").pending ⟨0⟩ =
      (rivalCell.propagate ⟨0⟩ "Lamp").pending ⟨0⟩ ++ [⟨⟨2⟩, "power"⟩, ⟨⟨2⟩, "power"⟩]) ∧
    laggingCell.Defined ⟨0⟩ ∧
      ((laggingCell.propagate ⟨0⟩ "Lamp").device ⟨1⟩).signals.value? "glow" = some 0.0 ∧
      (((laggingCell.propagate ⟨0⟩ "Lamp").propagate ⟨0⟩ "Lamp").device ⟨1⟩).signals.value? "glow" =
        some 1.0 := by
  decide +kernel

end Plant

end StationScript
