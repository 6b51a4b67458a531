import StationScript.Proofs.Dispatcher.Broadcast
import StationScript.Proofs.Dispatcher.Refresh
import StationScript.Proofs.Dispatcher.Timeless

/-!
The order of a broadcast. A registry lists its devices in any order it likes, and that order decides
about nothing but the order in which messages are written.
-/

set_option autoImplicit false

namespace StationScript.Dispatcher

open Execution (Called)

variable {engine : Engine}

/-- The same dispatcher with the entries of its registry in another order. -/
def listed (d : Dispatcher engine) (entries : List (DeviceId × DeviceRef)) : Dispatcher engine :=
  d.modifyHost fun host => { host with registry := ⟨entries⟩ }

section Granted

variable {d : Dispatcher engine}

/-- The live devices are different ones and stand in the registry that is left, in any order. -/
theorem roster_swept (sound : d.Sound) (keyed : d.host.Keyed) (order : Listing) :
    d.swept.Roster (d.host.liveDevices order).2 := by
  have remains := keyed.calm d.host.calm_sweep
  have id (ref : DeviceRef) : (d.swept.host.device ref).id = (d.host.device ref).id :=
    d.host.calm_sweep.layout.id_eq ref
  refine ⟨fun device listed => ⟨d.swept_handling.sound sound, d.host.live_sweep, ?_⟩, ?_⟩
  · rw [id]
    exact (Host.mem_liveDevices keyed order _ device).mp ⟨listed, rfl⟩
  · have ids : (d.host.sweep.registry.devices.map fun ref =>
        (d.swept.host.device ref).id).Nodup := by
      have keys : (d.host.sweep.registry.devices.map fun ref => (d.swept.host.device ref).id) =
          Entries.keys d.host.sweep.registry.entries := remains.ids_eq
      rw [keys]
      exact remains.distinct
    exact List.pairwise_map.mp (((order.perm _).map _).nodup_iff.mpr ids)

/-- A broadcast evicts nobody else, and records no time. -/
theorem broadcast_rest {order : List DeviceRef} :
    (d.swept.broadcast order).host.registry = d.host.liveRegistry ∧
      (d.swept.broadcast order).host.times = d.host.times ∧
      (d.swept.broadcast order).host.clock = d.host.clock := by
  have calm := (d.swept.broadcast_handling order).calm
  have swept := d.host.registry_sweep
  refine ⟨?_, ?_, ?_⟩
  · rcases calm.registry with kept | live
    · exact kept.trans swept
    · exact live.trans (d.host.live_sweep.trans swept)
  · exact (d.swept.broadcast_timeless order).times.trans d.host.times_sweep
  · exact calm.clock.trans d.host.calm_sweep.clock

end Granted

section Orders

variable {d : Dispatcher engine} {entries : List (DeviceId × DeviceRef)} (order again : Listing)
  (perm : entries.Perm d.host.registry.entries)
include perm

theorem keyed_listed (keyed : d.host.Keyed) : (d.listed entries).host.Keyed := by
  refine ⟨?_, fun entry member => keyed.own entry (perm.subset member)⟩
  exact (perm.map Prod.fst).nodup_iff.mpr keyed.distinct

theorem stale_listed : (d.listed entries).host.stale.Perm d.host.stale :=
  (perm.map Prod.snd).filter _

theorem liveRegistry_listed :
    (d.listed entries).host.liveRegistry.entries.Perm d.host.liveRegistry.entries :=
  perm.filter _

theorem get_listed (keyed : d.host.Keyed) (id : DeviceId) :
    (d.listed entries).host.liveRegistry.get? id = d.host.liveRegistry.get? id := by
  have distinct := Host.live_distinct keyed
  have otherDistinct := Host.live_distinct (keyed_listed perm keyed)
  refine Option.ext fun device => ?_
  exact (Entries.lookup_eq_some_iff otherDistinct id device).trans
    ((liveRegistry_listed perm).mem_iff.trans (Entries.lookup_eq_some_iff distinct id device).symm)

theorem liveDevices_listed :
    ((d.listed entries).host.liveDevices again).2.Perm (d.host.liveDevices order).2 := by
  have devices : (d.listed entries).host.sweep.registry.devices.Perm
      d.host.sweep.registry.devices := by
    rw [Host.registry_sweep, Host.registry_sweep]
    exact (liveRegistry_listed perm).map Prod.snd
  exact (again.perm _).trans (devices.trans (order.perm _).symm)

end Orders

/-- The order of the registry is nothing that a device can tell. -/
theorem twin_listed (d : Dispatcher engine) (entries : List (DeviceId × DeviceRef))
    (device : DeviceRef) :
    Twin device d.swept.host.log.toList (d.listed entries).swept.host.log.toList d.swept
      (d.listed entries).swept := by
  obtain ⟨log, whole, _⟩ := d.host.sweep_eq
  obtain ⟨again, also, _⟩ := (d.listed entries).host.sweep_eq
  unfold swept
  rw [whole, also]
  exact ⟨⟨.refl _, rfl, fun _ => rfl, rfl, rfl, rfl, rfl, [], (List.append_nil _).symm,
    (List.append_nil _).symm⟩, rfl, rfl⟩

/-- The message that a device leaves behind when it is evicted. -/
def evictionMessage (d : Dispatcher engine) (device : DeviceRef) : LogMessage :=
  ⟨.information, d.host.prefixed (Host.evictionText (d.host.nameOf device))⟩

/-- After the evictions the updates are announced with the same texts as before. -/
theorem announce_swept (d : Dispatcher engine) (device : DeviceRef) :
    ∃ about, d.swept.refreshMessages device = about ++
      [⟨.information, d.host.prefixed ("Updating component " ++ d.host.nameOf device)⟩] := by
  have calm : d.host.Calm d.swept.host := d.host.calm_sweep
  obtain ⟨about, messages⟩ := d.swept.refreshMessages_announce device
  have name : d.swept.host.nameOf device = d.host.nameOf device := calm.layout.name_eq device
  refine ⟨about, ?_⟩
  rw [messages, name, Host.prefixed_eq calm.logPrefix]

/-- Evictions come first in the log, then the devices one after the other. -/
theorem Refreshed.log_swept {d after : Dispatcher engine} {order : List DeviceRef}
    (refreshed : d.swept.Refreshed order after) : after.host.log.toList =
      d.host.log.toList ++ d.host.stale.map d.evictionMessage ++
        order.flatMap d.swept.refreshMessages := by
  have evicted : d.swept.host.log.toList =
      d.host.log.toList ++ d.host.stale.map d.evictionMessage := d.host.log_sweep
  rw [refreshed.log, evicted]

section Orders

variable {d : Dispatcher engine} {entries : List (DeviceId × DeviceRef)}
  {order : Listing} (again : Listing) (sound : d.Sound) (keyed : d.host.Keyed)
  (perm : entries.Perm d.host.registry.entries)
  (silent : ¬ Called (d.swept.broadcastExecutions (d.host.liveDevices order).2) .addIoConnection)
include sound keyed

include perm

theorem roster_listed :
    (d.listed entries).swept.Roster ((d.listed entries).host.liveDevices again).2 :=
  roster_swept (d := d.listed entries) (sound.of_sessions_eq rfl) (keyed_listed perm keyed) again

include silent

/-- What no run does in one order, none does in another. -/
theorem silent_listed : ¬ Called ((d.listed entries).swept.broadcastExecutions
    ((d.listed entries).host.liveDevices again).2) .addIoConnection := by
  have roster := roster_swept sound keyed order
  have also := roster_listed again sound keyed perm
  refine (silent_broadcast_iff also).mpr fun device listed => ?_
  have member := (liveDevices_listed order again perm).subset listed
  rw [called_refresh_twin (roster.attends device member) (also.attends device listed)
    (d.twin_listed entries device)]
  exact (silent_broadcast_iff roster).mp silent device member

/-- Both orders leave the same plant and the same sessions, and the same is written about every
device. -/
theorem broadcast_listed :
    let first := d.swept.broadcast (d.host.liveDevices order).2
    let second := (d.listed entries).swept.broadcast ((d.listed entries).host.liveDevices again).2
    second.host.plant = first.host.plant ∧ (∀ id, second.session? id = first.session? id) ∧
      first.host.log.toList = d.host.log.toList ++ d.host.stale.map d.evictionMessage ++
        (d.host.liveDevices order).2.flatMap d.swept.refreshMessages ∧
      second.host.log.toList = d.host.log.toList ++
        (d.listed entries).host.stale.map d.evictionMessage ++
          ((d.listed entries).host.liveDevices again).2.flatMap d.swept.refreshMessages := by
  intro first second
  have roster := roster_swept sound keyed order
  have also := roster_listed again sound keyed perm
  have left : d.swept.Refreshed (d.host.liveDevices order).2 first :=
    broadcast_refreshed roster ((silent_broadcast_iff roster).mp silent)
  have right : (d.listed entries).swept.Refreshed
      ((d.listed entries).host.liveDevices again).2 second :=
    broadcast_refreshed also
      ((silent_broadcast_iff also).mp (silent_listed again sound keyed perm silent))
  obtain ⟨states, sessions, messages⟩ :=
    left.agree right (liveDevices_listed order again perm) roster also
    (d.twin_listed entries) fun _ => rfl
  refine ⟨?_, sessions, left.log_swept, ?_⟩
  · have base : (d.listed entries).swept.host.plant = d.swept.host.plant := by
      unfold swept
      rw [Host.plant_sweep, Host.plant_sweep]
      rfl
    have stations : second.host.plant.stations = first.host.plant.stations :=
      right.stations.trans ((congrArg Plant.stations base).trans left.stations.symm)
    have size : second.host.plant.devices.size = first.host.plant.devices.size := by
      have mine := (d.swept.broadcast_handling (d.host.liveDevices order).2).calm.layout.size
      have yours := ((d.listed entries).swept.broadcast_handling
        ((d.listed entries).host.liveDevices again).2).calm.layout.size
      rw [base] at yours
      exact yours.trans mine.symm
    refine Plant.ext_refs size (congrArg Array.size stations) states fun ref => ?_
    rw [Plant.station?, Plant.station?, stations]
  · rw [right.log_swept, messages]
    rfl

end Orders

theorem granted_listed (d : Dispatcher engine) (entries : List (DeviceId × DeviceRef)) (now : Nat)
    (text : String) (order again : Listing) : ((d.listed entries).onLogMessage now text again).2 =
      (d.onLogMessage now text order).2 := by
  have asks : (d.listed entries).asksForRefresh text = d.asksForRefresh text := rfl
  have window : (d.listed entries).withinWindow now = d.withinWindow now := rfl
  rw [Bool.eq_iff_iff, onLogMessage_granted, onLogMessage_granted, asks, window]

/-- The order of the registry decides about nothing but the order of the messages. However its
entries stand and its live devices are listed, a granted refresh leaves the same devices,
connections and queues, the same sessions, times and registered devices, provided that no script run
of the broadcast adds a connection. In the log the evictions come first, and then what is written
about each device, all of it together and the same in every order. -/
theorem broadcast_order_irrelevant (d : Dispatcher engine) (reachable : d.Reachable)
    (entries : List (DeviceId × DeviceRef)) (perm : entries.Perm d.host.registry.entries)
    (order again : Listing) (now : Nat) (text : String)
    (granted : (d.onLogMessage now text order).2 = true)
    (silent : ¬ Called (d.executions (.logged now text order)) .addIoConnection) :
    let other := d.listed entries
    let first := (d.onLogMessage now text order).1
    let second := (other.onLogMessage now text again).1
    (other.onLogMessage now text again).2 = true ∧
    ¬ Called (other.executions (.logged now text again)) .addIoConnection ∧
    second.host.plant = first.host.plant ∧
    (∀ id, second.session? id = first.session? id) ∧
    (∀ id, second.host.registry.get? id = first.host.registry.get? id) ∧
    second.host.registry.entries.Perm first.host.registry.entries ∧
    second.host.times = first.host.times ∧ second.host.clock = first.host.clock ∧
    second.lastRefresh = first.lastRefresh ∧
    other.host.stale.Perm d.host.stale ∧
    (other.host.liveDevices again).2.Perm (d.host.liveDevices order).2 ∧
    (∀ device, ∃ about, d.swept.refreshMessages device = about ++
      [⟨.information, d.host.prefixed ("Updating component " ++ d.host.nameOf device)⟩]) ∧
    first.host.log.toList = d.host.log.toList ++ d.host.stale.map d.evictionMessage ++
      (d.host.liveDevices order).2.flatMap d.swept.refreshMessages ∧
    second.host.log.toList = d.host.log.toList ++ other.host.stale.map d.evictionMessage ++
      (other.host.liveDevices again).2.flatMap d.swept.refreshMessages := by
  intro other first second
  have sound := reachable.sound
  have keyed := reachable.keyed
  have also : (other.onLogMessage now text again).2 = true :=
    (d.granted_listed entries now text order again).trans granted
  rw [loggedExecutions_of_granted granted] at silent
  have ended : first =
      { d.swept.broadcast (d.host.liveDevices order).2 with lastRefresh := some now } :=
    onLogMessage_of_granted granted
  have otherEnded : second =
      { other.swept.broadcast (other.host.liveDevices again).2 with lastRefresh := some now } :=
    onLogMessage_of_granted also
  obtain ⟨plant, sessions, log, otherLog⟩ := broadcast_listed again sound keyed perm silent
  obtain ⟨registry, times, clock⟩ := @broadcast_rest _ d (d.host.liveDevices order).2
  obtain ⟨otherRegistry, otherTimes, otherClock⟩ :=
    @broadcast_rest _ other (other.host.liveDevices again).2
  rw [ended, otherEnded]
  refine ⟨also, ?_, plant, sessions, fun id => ?_, ?_, ?_, ?_, rfl, stale_listed perm,
    liveDevices_listed order again perm, d.announce_swept, log, otherLog⟩
  · rw [loggedExecutions_of_granted also]
    exact silent_listed again sound keyed perm silent
  · dsimp only
    rw [registry, otherRegistry]
    exact get_listed perm keyed id
  · dsimp only
    rw [registry, otherRegistry]
    exact liveRegistry_listed perm
  · exact otherTimes.trans times.symm
  · exact otherClock.trans clock.symm

/-- A station with two devices, both with an empty file for a script. -/
def pairHost : Host where
  plant :=
    let station := (Plant.empty.addStation "Cell").1
    let first := (station.addDevice ⟨0⟩ ⟨"feeder"⟩ "Feeder").1.setScriptPath ⟨0⟩ "feeder.lua"
    (first.addDevice ⟨0⟩ ⟨"gripper"⟩ "Gripper").1.setScriptPath ⟨1⟩ "gripper.lua"
  files _ := .content ByteArray.empty
  logPrefix := "LuaScript"

/-- Both devices are registered; their scripts clear the signals and set nothing else. -/
def attachedPair : Dispatcher (.repeating (.call .clearSignals [] fun _ => .done ())) :=
  ((new pairHost {}).handle (.attached ⟨0⟩)).handle (.attached ⟨1⟩)

/-- The device that was registered first now comes last. -/
def turnedEntries : List (DeviceId × DeviceRef) := [(⟨"gripper"⟩, ⟨1⟩), (⟨"feeder"⟩, ⟨0⟩)]

/-- Whichever of two devices is refreshed first, the plant ends up the same. -/
theorem broadcast_order_irrelevant_pair :
    attachedPair.host.liveDevices.2 = [⟨0⟩, ⟨1⟩] ∧
    ((attachedPair.listed turnedEntries).host.liveDevices).2 = [⟨1⟩, ⟨0⟩] ∧
    ((attachedPair.listed turnedEntries).onLogMessage 0 "Update LuaScript").2 = true ∧
    ((attachedPair.listed turnedEntries).onLogMessage 0 "Update LuaScript").1.host.plant =
      (attachedPair.onLogMessage 0 "Update LuaScript").1.host.plant := by
  have attached : ((new pairHost {}).handle (.attached ⟨0⟩) :
      Dispatcher (.repeating (.call .clearSignals [] fun _ => .done ()))).Reachable := by
    refine .event _ (.new pairHost {} .none) (.attached ⟨0⟩) fun device about => ?_
    cases about
    decide
  have reachable : attachedPair.Reachable := by
    refine .event _ attached (.attached ⟨1⟩) fun device about => ?_
    cases about
    decide +kernel
  have perm : turnedEntries.Perm attachedPair.host.registry.entries := by decide +kernel
  have granted : (attachedPair.onLogMessage 0 "Update LuaScript").2 = true := by decide +kernel
  have silent : ¬ Called (attachedPair.executions (.logged 0 "Update LuaScript" .registered))
      .addIoConnection := by
    rw [Execution.called_iff]
    decide +kernel
  obtain ⟨also, _, plant, _⟩ := broadcast_order_irrelevant attachedPair reachable turnedEntries perm
    .registered .registered 0 "Update LuaScript" granted silent
  exact ⟨by decide +kernel, by decide +kernel, also, plant⟩

end StationScript.Dispatcher
