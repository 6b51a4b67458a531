import StationScript.Proofs.Host.Connecting
import StationScript.Proofs.Host.Keyed
import StationScript.Proofs.Host.Signals

/-!
What an accepted connection is good for. A connection is accepted by looking for objects, and its
value is carried by looking for devices; the new one stands last in the list, so that it has the
last word about its target, even where it reads what was carried before.
-/

set_option autoImplicit false

namespace StationScript

namespace Plant

theorem signals_carry_of_value {plant : Plant} {station : StationRef} {c : Connection}
    {value : Float} (carried : plant.sourceValue? station c = some value)
    (target other : DeviceRef) : ((plant.carry station target c).device other).signals =
      if other = target ∧ plant.Has other then
        ((plant.device other).signals.set? c.targetSignal value).1
      else (plant.device other).signals := by
  have written := plant.signals_modifySignals target other fun store =>
    (store.set? c.targetSignal value).1
  refine Eq.trans ?_ written
  unfold carry
  rw [carried]
  dsimp only
  split <;> rfl

/-- After the value of a connection was carried, its target holds what its source holds, as far as
the target can. Where the source is the target itself, this is what coercing twice comes to. -/
theorem carry_settles {plant : Plant} {station : StationRef} {source target : DeviceRef}
    {c : Connection} (found : plant.deviceByName? station c.sourceObject = some source)
    (present : plant.Has target) {value : Float}
    (held : (plant.device source).signals.value? c.sourceSignal = some value) {signal : Signal}
    (written : (plant.device target).signals.get? c.targetSignal = some signal) :
    ∃ last, ((plant.carry station target c).device source).signals.value? c.sourceSignal =
        some last ∧
      ((plant.carry station target c).device target).signals.get? c.targetSignal =
        some { signal with value := signal.kind.coerce last } := by
  have carried : plant.sourceValue? station c = some value := by
    unfold sourceValue?
    rw [found]
    exact held
  have after := signals_carry_of_value carried target
  have into := after target
  rw [if_pos ⟨rfl, present⟩] at into
  rw [into, SignalStore.get_set written, after]
  -- only a connection from a signal to itself reads what it has just written
  by_cases own : source = target ∧ c.sourceSignal = c.targetSignal
  · obtain ⟨rfl, same⟩ := own
    rw [if_pos ⟨rfl, present⟩, same, SignalStore.value?, SignalStore.get_set written]
    refine ⟨signal.kind.coerce value, rfl, ?_⟩
    rw [SignalKind.coerce_of_holds (signal.kind.holds_coerce value)]
  · refine ⟨value, ?_, rfl⟩
    split
    · rename_i self
      have differs : c.sourceSignal ≠ c.targetSignal := fun same => own ⟨self.1, same⟩
      rw [SignalStore.value?, SignalStore.get_set_of_ne _ differs]
      exact held
    · exact held

/-- A connection that stands last has the last word, whatever else leads to its target. -/
theorem propagate_settles {plant : Plant} {station : StationRef} {source target : DeviceRef}
    {front : List Connection} {c : Connection} (last : plant.connections station = front ++ [c])
    (found : plant.deviceByName? station c.sourceObject = some source)
    (into : plant.deviceByName? station c.targetObject = some target) (present : plant.Has target)
    (held : (plant.device source).signals.contains c.sourceSignal = true) {signal : Signal}
    (written : (plant.device target).signals.get? c.targetSignal = some signal) :
    ∃ value, ((plant.propagate station c.targetObject).device source).signals.value?
        c.sourceSignal = some value ∧
      ((plant.propagate station c.targetObject).device target).signals.get? c.targetSignal =
        some { signal with value := signal.kind.coerce value } := by
  have whole : plant.propagate station c.targetObject =
      ((front.filter fun old => old.targetObject = c.targetObject).foldl (carry station target)
        plant).carry station target c := by
    unfold propagate
    rw [into, last]
    simp
  rw [whole]
  have before (other : DeviceRef) := (signals_foldl_carry station target plant
    (front.filter fun old => old.targetObject = c.targetObject) other).2
  have layout := SameLayout.foldl_carry station target plant
    (front.filter fun old => old.targetObject = c.targetObject)
  generalize (front.filter fun old => old.targetObject = c.targetObject).foldl
    (carry station target) plant = middle at before layout
  obtain ⟨first, there⟩ := Option.isSome_iff_exists.mp
    ((SignalStore.get_isSome _ _).trans held)
  obtain ⟨value, held⟩ := SignalStore.get_of_profile (before source) there
  obtain ⟨old, written⟩ := SignalStore.get_of_profile (before target) written
  have still : middle.deviceByName? station c.sourceObject = some source :=
    (layout.deviceByName?_eq station c.sourceObject).trans found
  have settled := carry_settles still ((layout.has_iff target).mpr present)
    (congrArg (Option.map Signal.value) held) written
  exact settled

/-- The device that an end stands for: the calling one, if no name is given. -/
def StandsFor (plant : Plant) (station : StationRef) (device : DeviceRef) (name : String)
    (object : DeviceRef) : Prop :=
  if name = "" then object = device
  else object ∈ plant.deviceRefs station ∧ (plant.device object).name = name

/-- Whatever an end stands for is listed under the name that the connection has. -/
theorem StandsFor.listed {plant : Plant} {station : StationRef} {device object : DeviceRef}
    {name : String} (mine : device ∈ plant.deviceRefs station)
    (stands : plant.StandsFor station device name object) :
    object ∈ plant.deviceRefs station ∧
      (plant.device object).name = plant.endName device name := by
  unfold StandsFor at stands
  unfold endName
  split at stands
  · rename_i empty
    rw [if_pos empty, stands]
    exact ⟨mine, rfl⟩
  · rename_i named
    rw [if_neg named]
    exact stands

theorem exists_standsFor {plant : Plant} {station : StationRef} {device : DeviceRef}
    {name : String} (named : plant.HasDeviceNamed station (plant.endName device name)) :
    ∃ object, plant.StandsFor station device name object := by
  unfold StandsFor
  unfold endName at named
  split at named
  · rename_i empty
    exact ⟨device, by rw [if_pos empty]⟩
  · rename_i given
    obtain ⟨object, listed, same⟩ := named
    exact ⟨object, by rw [if_neg given]; exact ⟨listed, same⟩⟩

end Plant

namespace Host

/-- Only a device that is found, with texts to name the ends, gets a connection. -/
theorem called_of_reply {host : Host} {id : DeviceId} {arguments : List Value}
    (replied : (host.answer id .addIoConnection arguments).reply = .ok [.boolean true]) :
    ∃ device station sourceObject sourceSignal targetObject targetSignal allowCycle,
      (host.resolve id).2 = some device ∧ host.plant.stationOf? device = some station ∧
      device ∈ host.plant.deviceRefs station ∧
      Request.textAt arguments 0 = .ok sourceObject ∧
      Request.textAt arguments 1 = .ok sourceSignal ∧
      Request.textAt arguments 2 = .ok targetObject ∧
      Request.textAt arguments 3 = .ok targetSignal ∧
      Request.ofArguments arguments .addIoConnection =
        .ok (.addIoConnection sourceObject sourceSignal targetObject targetSignal allowCycle) := by
  rcases ofArguments_addIoConnection arguments with
    ⟨_, _, fault, _, refused⟩ |
    ⟨sourceObject, sourceSignal, targetObject, targetSignal, first, second, third, fourth,
      accepted⟩
  · unfold answer at replied
    rw [refused] at replied
    cases replied
  · cases found : (host.resolve id).2 with
    | none =>
      have swept : host.resolve id = (host.sweep, none) := Prod.ext rfl found
      simp only [answer, accepted, swept] at replied
      cases replied
    | some device =>
      obtain ⟨station, home, mine⟩ := listed_of_resolve found
      exact ⟨device, station, _, _, _, _, _, rfl, home, mine, first, second, third, fourth,
        accepted⟩

end Host

/-- Whenever a call returned true, its ends stand for devices; and if these have the signals, then
carrying the values of all connections into the target leaves the target signal with what its kind
makes of the source signal's value. -/
theorem accepted_connections_carry (host : Host) (id : DeviceId) (arguments : List Value)
    (replied : (host.answer id .addIoConnection arguments).reply = .ok [.boolean true]) :
    ∃ device station sourceObject sourceSignal targetObject targetSignal,
      (host.resolve id).2 = some device ∧ host.plant.stationOf? device = some station ∧
      Request.textAt arguments 0 = .ok sourceObject ∧
      Request.textAt arguments 1 = .ok sourceSignal ∧
      Request.textAt arguments 2 = .ok targetObject ∧
      Request.textAt arguments 3 = .ok targetSignal ∧
      (host.plant.NamesDistinct station →
        let plant := (host.answer id .addIoConnection arguments).host.plant
        (∃ source, plant.StandsFor station device sourceObject source) ∧
        (∃ target, plant.StandsFor station device targetObject target) ∧
        ∀ (source target : DeviceRef) (signal : Signal),
          plant.StandsFor station device sourceObject source →
          plant.StandsFor station device targetObject target →
          (plant.device source).signals.contains sourceSignal = true →
          plant.Has target → (plant.device target).signals.get? targetSignal = some signal →
            let after := plant.propagate station (plant.device target).name
            ∃ value, (after.device source).signals.value? sourceSignal = some value ∧
              (after.device target).signals.get? targetSignal =
                some { signal with value := signal.kind.coerce value }) := by
  obtain ⟨device, station, sourceObject, sourceSignal, targetObject, targetSignal, allowCycle,
    found, home, mine, first, second, third, fourth, accepted⟩ := Host.called_of_reply replied
  refine ⟨device, station, sourceObject, sourceSignal, targetObject, targetSignal, found, home,
    first, second, third, fourth, fun distinct => ?_⟩
  have decided := Host.answer_decided found home mine distinct accepted
  have accepts := decided.reply.mp replied
  have last := (decided.added accepts).2
  have layout := (host.answer_calm id .addIoConnection arguments).layout
  dsimp only
  generalize (host.answer id .addIoConnection arguments).host.plant = plant at last layout
  have own (name : String) : plant.endName device name = host.plant.endName device name := by
    unfold Plant.endName
    rw [layout.name_eq]
  have named (name : String) (there : host.plant.HasDeviceNamed station name) :
      plant.HasDeviceNamed station name := by
    obtain ⟨object, listed, same⟩ := there
    exact ⟨object, layout.deviceRefs_eq station ▸ listed, (layout.name_eq object).trans same⟩
  have listed : device ∈ plant.deviceRefs station := layout.deviceRefs_eq station ▸ mine
  refine ⟨Plant.exists_standsFor (own sourceObject ▸ named _ accepts.source),
    Plant.exists_standsFor (own targetObject ▸ named _ accepts.target), ?_⟩
  intro source target signal outOf into held present written
  obtain ⟨sourceListed, sourceName⟩ := outOf.listed listed
  obtain ⟨targetListed, targetName⟩ := into.listed listed
  have unique := distinct.layout layout
  have sourceFound := unique.deviceByName? sourceListed
  have targetFound := unique.deviceByName? targetListed
  rw [sourceName, own] at sourceFound
  rw [targetName, own] at targetFound
  rw [targetName, own]
  exact Plant.propagate_settles last sourceFound targetFound present held written

/-- The cell with an output of its device, and an input that is connected to the control signal. -/
def Host.wiredCell : Host :=
  (Host.cell.modifyPlant fun p =>
    (p.modifySignals ⟨0⟩ fun store =>
      ((store.add { name := "level", kind := .analogOutput, value := 2.5 }).1.add
        { name := "busy", kind := .digitalInput }).1).addConnection ⟨0⟩
          ⟨"Gripper", controlSignal, "Gripper", "busy", true⟩).register ⟨0⟩

/-- The device connects its output to the same input; then the output decides about the input. -/
theorem accepted_connections_carry_wiredCell :
    (Host.wiredCell.answer ⟨"gripper"⟩ .addIoConnection
      [.ofText "", .ofText "level", .ofText "Gripper", .ofText "busy"]).reply =
        .ok [.boolean true] ∧
    let after := (Host.wiredCell.answer ⟨"gripper"⟩ .addIoConnection
      [.ofText "", .ofText "level", .ofText "Gripper", .ofText "busy"]).host.plant.propagate ⟨0⟩
        "Gripper"
    ∃ value, (after.device ⟨0⟩).signals.value? "level" = some value ∧
      (after.device ⟨0⟩).signals.get? "busy" =
        some ⟨"busy", .digitalInput, SignalKind.digitalInput.coerce value, false⟩ := by
  have found : (Host.wiredCell.resolve ⟨"gripper"⟩).2 = some ⟨0⟩ := by decide +kernel
  have home : Host.wiredCell.plant.stationOf? ⟨0⟩ = some ⟨0⟩ := by decide +kernel
  have distinct : Host.wiredCell.plant.NamesDistinct ⟨0⟩ := by decide +kernel
  have texts : Request.ofArguments
      [.ofText "", .ofText "level", .ofText "Gripper", .ofText "busy"] .addIoConnection =
        .ok (.addIoConnection "" "level" "Gripper" "busy" true) := by cbv
  have decided := Host.answer_decided found home (by decide +kernel) distinct texts
  have accepts : Host.wiredCell.plant.Accepts ⟨0⟩ ⟨"Gripper", "level", "Gripper", "busy", true⟩ :=
    ⟨⟨⟨0⟩, by decide +kernel⟩, ⟨⟨0⟩, by decide +kernel⟩, by decide +kernel⟩
  have replied := decided.reply.mpr accepts
  have plant : (Host.wiredCell.answer ⟨"gripper"⟩ .addIoConnection
      [.ofText "", .ofText "level", .ofText "Gripper", .ofText "busy"]).host.plant =
      Host.wiredCell.plant.addConnection ⟨0⟩ ⟨"Gripper", "level", "Gripper", "busy", true⟩ := by
    rw [(decided.added accepts).1, Host.modifyPlant, Host.plant_sweep]
    rfl
  refine ⟨replied, ?_⟩
  obtain ⟨_, _, _, _, _, _, same, there, first, second, third, fourth, carry⟩ :=
    accepted_connections_carry _ _ _ replied
  cases first.symm.trans (by cbv : _ = .ok "")
  cases second.symm.trans (by cbv : _ = .ok "level")
  cases third.symm.trans (by cbv : _ = .ok "Gripper")
  cases fourth.symm.trans (by cbv : _ = .ok "busy")
  cases found.symm.trans same
  cases home.symm.trans there
  obtain ⟨_, _, carried⟩ := carry distinct
  rw [plant] at carried ⊢
  exact carried ⟨0⟩ ⟨0⟩ ⟨"busy", .digitalInput, 0.0, false⟩ rfl
    ⟨by decide +kernel, by decide +kernel⟩ (by decide +kernel) (by decide +kernel) rfl

end StationScript
