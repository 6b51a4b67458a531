import StationScript.Proofs.Host.Keyed
import StationScript.Proofs.Host.Moves
import StationScript.Proofs.Plant.Propagation

/-!
Hosts that one device cannot tell apart. Whatever its script does comes to the same in both, and
writes the same messages, wherever else the hosts differ.
-/

set_option autoImplicit false

namespace StationScript.Host

/-- Nothing is left to be evicted, and the device is found under its id. -/
structure Attends (device : DeviceRef) (host : Host) : Prop where
  live : host.liveRegistry = host.registry
  found : host.registry.get? (host.device device).id = some device

/-- What is calm evicts nobody then. -/
theorem Attends.calm {device : DeviceRef} {before after : Host} (attends : Attends device before)
    (calm : Calm before after) : Attends device after := by
  have registry : after.registry = before.registry := by
    rcases calm.registry with same | swept
    · exact same
    · exact swept.trans attends.live
  have id : (after.device device).id = (before.device device).id := calm.layout.id_eq device
  refine ⟨?_, ?_⟩
  · rw [calm.liveRegistry_eq, attends.live, registry]
  · rw [registry, id]
    exact attends.found

theorem Attends.resolve {device : DeviceRef} {host : Host} (attends : Attends device host) :
    host.resolve (host.device device).id = (host, some device) := by
  unfold Host.resolve
  rw [sweep_of_live attends.live]
  exact congrArg (Prod.mk host) attends.found

/-- The device is the same in both hosts, and so is all that its script can ask them about. Since
their logs were these, the same was written to both. -/
structure Twin (device : DeviceRef) (front back : List LogMessage) (one other : Host) : Prop where
  layout : one.plant.SameLayout other.plant
  own : other.device device = one.device device
  connections : ∀ station, other.plant.connections station = one.plant.connections station
  files : other.files = one.files
  clock : other.clock = one.clock
  logPrefix : other.logPrefix = one.logPrefix
  time : other.times.last (one.device device).id = one.times.last (one.device device).id
  log : ∃ written, one.log.toList = front ++ written ∧ other.log.toList = back ++ written

variable {device : DeviceRef} {front back : List LogMessage} {one other : Host}

namespace Twin

theorem nameOf (twin : Twin device front back one other) :
    other.nameOf device = one.nameOf device :=
  congrArg Device.name twin.own

theorem report (twin : Twin device front back one other) (severity : Severity)
    {text again : String} (same : again = text) :
    Twin device front back (one.report severity text) (other.report severity again) := by
  obtain ⟨written, mine, yours⟩ := twin.log
  refine ⟨twin.layout, twin.own, twin.connections, twin.files, twin.clock, twin.logPrefix,
    twin.time,
    written ++ [⟨severity, one.prefixed text⟩], ?_, ?_⟩
  · rw [log_report, mine, List.append_assoc]
  · have prefixed : other.prefixed again = one.prefixed text := by
      unfold Host.prefixed
      rw [twin.logPrefix, same]
    rw [log_report, yours, prefixed, List.append_assoc]

theorem reports (twin : Twin device front back one other) (severity : Severity)
    (texts : List String) :
    Twin device front back (texts.foldl (fun h text => h.report severity text) one)
      (texts.foldl (fun h text => h.report severity text) other) := by
  induction texts generalizing one other with
  | nil => exact twin
  | cons text rest ih => exact ih (twin.report severity rfl)

/-- The same change of the device in both hosts. -/
theorem modifyDevice (twin : Twin device front back one other) (change : Device → Device)
    (identity : ∀ d, (change d).identity = d.identity) :
    Twin device front back (one.modifyPlant fun p => p.modifyDevice device change)
      (other.modifyPlant fun p => p.modifyDevice device change) := by
  have left := Plant.SameLayout.modifyDevice one.plant device change identity
  have right := Plant.SameLayout.modifyDevice other.plant device change identity
  have id : ((one.modifyPlant fun p => p.modifyDevice device change).device device).id =
      (one.device device).id := left.id_eq device
  refine ⟨(left.symm.trans twin.layout).trans right, ?_, twin.connections, twin.files, twin.clock,
    twin.logPrefix, ?_, twin.log⟩
  · have present := twin.layout.has_iff device
    unfold modifyPlant Host.device
    dsimp only
    rw [Plant.device_modifyDevice, Plant.device_modifyDevice]
    have same : other.plant.device device = one.plant.device device := twin.own
    simp only [present, same]
  · rw [id]
    exact twin.time

theorem setStatus (twin : Twin device front back one other) (status : String) :
    Twin device front back (one.setStatus device status) (other.setStatus device status) :=
  twin.modifyDevice _ fun _ => rfl

theorem setScriptPath (twin : Twin device front back one other) (path : String) :
    Twin device front back (one.setScriptPath device path) (other.setScriptPath device path) :=
  twin.modifyDevice _ fun _ => rfl

theorem modifySignals (twin : Twin device front back one other)
    (change : SignalStore → SignalStore) :
    Twin device front back (one.modifyPlant fun p => p.modifySignals device change)
      (other.modifyPlant fun p => p.modifySignals device change) :=
  twin.modifyDevice _ fun _ => rfl

theorem addConnection (twin : Twin device front back one other) (station : StationRef)
    (c : Connection) :
    Twin device front back (one.modifyPlant fun p => p.addConnection station c)
      (other.modifyPlant fun p => p.addConnection station c) := by
  have left : one.plant.SameLayout (one.plant.addConnection station c) :=
    .modifyStation _ station _ fun _ => rfl
  have right : other.plant.SameLayout (other.plant.addConnection station c) :=
    .modifyStation _ station _ fun _ => rfl
  refine ⟨(left.symm.trans twin.layout).trans right, twin.own, fun second => ?_, twin.files,
    twin.clock, twin.logPrefix, twin.time, twin.log⟩
  unfold modifyPlant
  dsimp only
  rw [Plant.connections_addConnection, Plant.connections_addConnection, twin.connections,
    twin.layout.station_isSome_eq]

end Twin

section Calls

theorem endpoint_twin (twin : Twin device front back one other) (station : StationRef)
    (name : String) : other.endpoint station device name = one.endpoint station device name := by
  unfold endpoint
  rw [twin.nameOf, twin.layout.findObject?_eq]

theorem connect_twin (twin : Twin device front back one other) (station : StationRef)
    (sourceObject sourceSignal targetObject targetSignal : String) (allowCycle : Bool) :
    (other.connect device station sourceObject sourceSignal targetObject targetSignal
        allowCycle).2 = (one.connect device station sourceObject sourceSignal targetObject
        targetSignal allowCycle).2 ∧
      Twin device front back (one.connect device station sourceObject sourceSignal targetObject
          targetSignal allowCycle).1 (other.connect device station sourceObject sourceSignal
          targetObject targetSignal allowCycle).1 := by
  unfold connect
  rw [endpoint_twin twin, endpoint_twin twin, twin.connections, twin.nameOf]
  dsimp only
  split
  · exact ⟨rfl, (twin.report _ rfl).report _ rfl⟩
  · exact ⟨rfl, twin.report _ rfl⟩
  · exact ⟨rfl, twin.report _ rfl⟩
  · split
    · exact ⟨rfl, twin.report _ rfl⟩
    · split
      · exact ⟨rfl, twin.report _ rfl⟩
      · exact ⟨rfl, twin.addConnection station _⟩

/-- A function does the same for the device in both hosts. -/
theorem perform_twin (twin : Twin device front back one other) (request : Request) :
    (other.perform device request).2 = (one.perform device request).2 ∧
      Twin device front back (one.perform device request).1 (other.perform device request).1 := by
  have name := twin.nameOf
  cases request with
  | setStatus status =>
    refine ⟨rfl, (twin.report _ ?_).setStatus status⟩
    rw [name]
  | addLog message =>
    refine ⟨rfl, twin.report _ ?_⟩
    rw [name]
  | clearSignals =>
    have cleared := twin.modifySignals fun store => store.retain fun s => s.name = controlSignal
    refine ⟨rfl, (cleared.report _ ?_).setStatus "Cleared"⟩
    rw [name]
  | addSignal signal kind =>
    have extended := twin.modifySignals fun store => (store.add
      { name := signal, kind := SignalKind.parseLenient kind, readOnly := true }).1
    refine ⟨rfl, (extended.report _ ?_).setStatus "Signal Added"⟩
    rw [twin.own, name]
  | getSignal signal =>
    unfold perform signalValue
    dsimp only
    rw [twin.own]
    split
    · exact ⟨rfl, twin⟩
    · exact ⟨rfl, twin.report _ rfl⟩
  | setSignal signal value =>
    unfold perform setSignalOf
    dsimp only
    rw [twin.own]
    split
    · exact ⟨rfl, twin.modifySignals _⟩
    · exact ⟨rfl, twin.report _ rfl⟩
  | iif condition yes no =>
    unfold perform choose
    dsimp only
    rw [name]
    split
    · exact ⟨rfl, twin⟩
    · exact ⟨rfl, twin⟩
    · exact ⟨rfl, twin.report _ rfl⟩
  | getLastSimulationTime =>
    refine ⟨?_, twin⟩
    unfold perform simulationTime
    rw [twin.own, twin.time, twin.clock]
  | addIoConnection sourceObject sourceSignal targetObject targetSignal allowCycle =>
    unfold perform
    dsimp only
    rw [twin.layout.stationOf?_eq]
    split
    · exact ⟨rfl, twin⟩
    · rename_i station _
      obtain ⟨added, after⟩ := connect_twin twin station sourceObject sourceSignal targetObject
        targetSignal allowCycle
      exact ⟨by rw [added], after⟩

variable (attends : Attends device one) (also : Attends device other)
  (twin : Twin device front back one other)
include attends also twin

/-- A call of the device's script is answered in the same way. -/
theorem answer_twin (function : HostFunction) (arguments : List Value) :
    (other.answer (one.device device).id function arguments).reply =
        (one.answer (one.device device).id function arguments).reply ∧
      (other.answer (one.device device).id function arguments).closing =
        (one.answer (one.device device).id function arguments).closing ∧
      Twin device front back (one.answer (one.device device).id function arguments).host
        (other.answer (one.device device).id function arguments).host := by
  have found := also.resolve
  rw [twin.own] at found
  unfold answer
  cases Request.ofArguments arguments function with
  | error fault => exact ⟨rfl, rfl, twin⟩
  | ok request =>
    obtain ⟨results, after⟩ := perform_twin twin request
    rw [attends.resolve, found]
    exact ⟨congrArg Except.ok results, rfl, after⟩

/-- So is a whole run of it, and it comes to the same. -/
theorem play_twin {α : Type} (run : Run α) (closing : Bool) :
    other.calls (one.device device).id run = one.calls (one.device device).id run ∧
      (other.play (one.device device).id run closing).2 =
        (one.play (one.device device).id run closing).2 ∧
      Twin device front back (one.play (one.device device).id run closing).1
        (other.play (one.device device).id run closing).1 := by
  induction run generalizing one other closing with
  | done result => exact ⟨rfl, rfl, twin⟩
  | call function arguments resume ih =>
    obtain ⟨reply, vain, after⟩ := answer_twin attends also twin function arguments
    have calm := one.answer_calm (one.device device).id function arguments
    have calmly := other.answer_calm (one.device device).id function arguments
    have id : ((one.answer (one.device device).id function arguments).host.device device).id =
        (one.device device).id := calm.layout.id_eq device
    -- the hypothesis names the device's id after the call, which is the id before it
    have rest := ih (one.answer (one.device device).id function arguments).reply (attends.calm calm)
      (also.calm calmly) after
      (closing || (one.answer (one.device device).id function arguments).closing)
    rw [id] at rest
    obtain ⟨same, results, last⟩ := rest
    unfold calls play
    dsimp only
    rw [reply, vain]
    exact ⟨congrArg (List.cons function) same, results, last⟩

end Calls

end StationScript.Host
