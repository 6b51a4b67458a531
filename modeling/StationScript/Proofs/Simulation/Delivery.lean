import Mathlib.Algebra.GroupWithZero.Nat
import StationScript.Proofs.Dispatcher.Queue
import StationScript.Proofs.Simulation.Along
import StationScript.Proofs.StationFile.Built

/-!
The turns of a step. What the propagation into a device queues is delivered in the device's own
turn, entry by entry, and nothing else is ever queued; so between two turns the queue is empty.
-/

set_option autoImplicit false

namespace StationScript

/-- Every item counts for at most one of the keys. -/
theorem sum_countP_le {α β : Type} [DecidableEq β] (key : α → β) {keys : List β}
    (distinct : keys.Nodup) (items : List α) :
    (keys.map fun k => items.countP fun a => key a = k).sum ≤ items.length := by
  induction keys generalizing items with
  | nil => exact Nat.zero_le _
  | cons k rest ih =>
    obtain ⟨new, others⟩ := List.nodup_cons.mp distinct
    -- the other keys count the same when the items of the first are left out
    have without : rest.map (fun j => items.countP fun a => key a = j) =
        rest.map fun j => (items.filter fun a => key a ≠ k).countP fun a => key a = j := by
      refine List.map_congr_left fun j member => ?_
      rw [List.countP_filter]
      refine List.countP_congr fun a _ => ?_
      have apart : key a = j → key a ≠ k := fun same equal => new (equal ▸ same ▸ member)
      simpa using apart
    have parts := List.length_eq_countP_add_countP (fun a => decide (key a = k)) (l := items)
    have left := ih others (items.filter fun a => key a ≠ k)
    rw [← List.countP_eq_length_filter] at left
    rw [List.map_cons, List.sum_cons, without]
    simp only [ne_eq, decide_not, Bool.decide_eq_true] at parts left ⊢
    omega

namespace Dispatcher

variable {engine : Engine}

/-- Drops the queued changes of a station. -/
def clear (d : Dispatcher engine) (station : StationRef) : Dispatcher engine :=
  d.modifyHost fun host => host.modifyPlant fun p =>
    p.modifyStation station fun s => { s with pending := [] }

/-- Delivers changes one after the other. -/
def deliverAll (d : Dispatcher engine) (changes : List SignalChange) : Dispatcher engine :=
  changes.foldl (fun d change => d.handle (.signalChanged change.device change.signal)) d

theorem deliver_eq {d : Dispatcher engine} {station : StationRef}
    (present : (d.host.plant.station? station).isSome = true) :
    d.deliver station = (d.clear station).deliverAll (d.host.plant.pending station) := by
  obtain ⟨s, found⟩ := Option.isSome_iff_exists.mp present
  unfold deliver Plant.takePending Plant.pending
  rw [found]
  rfl

theorem deliverAll_along {kept : Host → Host → Prop} (robust : Host.Robust kept)
    (d : Dispatcher engine) (changes : List SignalChange) :
    Along kept d (d.deliverAll changes) := by
  refine .foldl robust (fun d change => ?_) changes d
  exact d.handle_along robust (e := .signalChanged change.device change.signal) rfl

theorem clear_advance (d : Dispatcher engine) (station : StationRef) :
    Advance d (d.clear station) :=
  .modifyHost d ⟨.of_log_eq rfl rfl, rfl, rfl, .modifyStation _ station _ fun _ => rfl⟩

theorem pending_clear (d : Dispatcher engine) (station : StationRef) :
    (d.clear station).host.plant.pending station = [] := by
  refine (Plant.pending_modifyStation _ _ _ _).trans ?_
  rw [if_pos rfl]
  cases d.host.plant.station? station <;> rfl

theorem connections_clear (d : Dispatcher engine) (station other : StationRef) :
    (d.clear station).host.plant.connections other = d.host.plant.connections other := by
  refine (Plant.connections_modifyStation _ _ ?_ other).trans rfl
  exact fun _ => rfl

end Dispatcher

namespace Simulation

variable {engine : Engine}

/-- What holds between any two turns, and between any two operations. -/
structure Standing (built : BuiltStation) (s : Simulation engine) : Prop where
  station : s.station = built.station
  layout : built.plant.SameLayout s.host.plant
  sound : s.dispatcher.Sound
  settled : s.host.plant.pending s.station = []

namespace Standing

variable {built : BuiltStation} {s : Simulation engine}

theorem along {after : Simulation engine} (standing : Standing built s)
    (along : s.dispatcher.Along Host.Grown after.dispatcher) (station : after.station = s.station) :
    Standing built after := by
  refine ⟨station.trans standing.station, standing.layout.trans along.host.layout,
    along.sound standing.sound, ?_⟩
  rw [station]
  exact ((along.kept standing.sound).pending s.station).trans standing.settled

theorem pump (standing : Standing built s) : Standing built s.pump :=
  standing.along (s.pump_along Host.grown_robust).1 (s.pump_along Host.grown_robust).2

theorem setState (standing : Standing built s) (state : RunState) :
    Standing built (s.setState state) :=
  ⟨standing.station, standing.layout, standing.sound.of_sessions_eq rfl, standing.settled⟩

theorem tick (standing : Standing built s) (stepMs : Float) : Standing built (s.tick stepMs) :=
  ⟨standing.station, standing.layout, standing.sound.of_sessions_eq rfl, standing.settled⟩

theorem announce (standing : Standing built s) (text : String) : Standing built (s.announce text) :=
  ⟨standing.station, standing.layout, standing.sound.of_sessions_eq rfl, standing.settled⟩

theorem devices_eq (standing : Standing built s) :
    s.devices = built.plant.deviceRefs built.station := by
  unfold devices
  rw [standing.station]
  exact standing.layout.deviceRefs_eq built.station

end Standing

/-- The changes that the propagation into a device queues. -/
def queue (s : Simulation engine) (device : DeviceRef) : List SignalChange :=
  (s.host.plant.propagate s.station (s.host.device device).name).pending s.station

/-- The dispatcher in a device's turn: the device took its step, its changes were taken from the
queue, and so many of them were delivered. -/
def delivering (s : Simulation engine) (time : Float) (device : DeviceRef)
    (changes : List SignalChange) : Dispatcher engine :=
  ((s.dispatcher.handle (.stepped device time)).clear s.station).deliverAll changes

/-- The deliveries in the turns of some devices. -/
def deliveries (time : Float) : List DeviceRef → Simulation engine → List SignalChange
  | [], _ => []
  | device :: rest, s => s.queue device ++ deliveries time rest (stepDevice time s device)

namespace Standing

variable {built : BuiltStation} {s : Simulation engine}

/-- A listed device is at home in the station, under its own name. -/
theorem home (proper : built.Proper) (standing : Standing built s) {device : DeviceRef}
    (listed : device ∈ s.devices) :
    s.host.plant.stationOf? device = some s.station ∧
      s.host.plant.deviceByName? s.station (s.host.device device).name = some device := by
  rw [standing.devices_eq] at listed
  rw [standing.station]
  exact proper.at_home standing.layout listed

/-- What a device's propagation queues are changes of the device, for some of the connections into
it. -/
theorem queue_eq (proper : built.Proper) (standing : Standing built s) {device : DeviceRef}
    (listed : device ∈ s.devices) : ∃ carried : List Connection,
      carried.Sublist ((s.host.plant.connections s.station).filter fun c =>
        c.targetObject = (s.host.device device).name) ∧
      s.queue device = carried.map fun c => ⟨device, c.targetSignal⟩ := by
  obtain ⟨carried, within, queued⟩ := Plant.pending_propagate (standing.home proper listed).2
  refine ⟨carried, within, ?_⟩
  rw [queue, queued, standing.settled, List.nil_append]

/-- What is queued in a device's turn concerns this device. -/
theorem queue_about (proper : built.Proper) (standing : Standing built s) {device : DeviceRef}
    (listed : device ∈ s.devices) : ∀ change ∈ s.queue device, change.device = device := by
  obtain ⟨carried, _, queued⟩ := standing.queue_eq proper listed
  rw [queued]
  intro change member
  obtain ⟨c, _, rfl⟩ := List.mem_map.mp member
  rfl

/-- The plant after propagation, when the scripts of the step are still to run. -/
theorem plant_prepare (proper : built.Proper) (standing : Standing built s) {device : DeviceRef}
    (listed : device ∈ s.devices) (time : Float) :
    (s.dispatcher.prepare (.stepped device time)).host.plant =
      s.host.plant.propagate s.station (s.host.device device).name := by
  have home := (standing.home proper listed).1
  unfold Simulation.host at home ⊢
  simp only [Dispatcher.prepare, Dispatcher.beginStep, Dispatcher.modifyHost, home]
  rfl

/-- The scripts of a step queue nothing. -/
theorem pending_stepped (proper : built.Proper) (standing : Standing built s) {device : DeviceRef}
    (listed : device ∈ s.devices) (time : Float) :
    (s.dispatcher.handle (.stepped device time)).host.plant.pending s.station = s.queue device := by
  have prepared := standing.plant_prepare proper listed time
  have sound := (s.dispatcher.prepare_handling (.stepped device time)).sound standing.sound
  have along := s.dispatcher.handle_along Host.grown_robust (e := .stepped device time) rfl
  rw [(along.kept sound).pending, prepared, queue]

/-- The station is still there after the step of a device. -/
theorem station_stepped (proper : built.Proper) (standing : Standing built s) {device : DeviceRef}
    (listed : device ∈ s.devices) (time : Float) :
    ((s.dispatcher.handle (.stepped device time)).host.plant.station? s.station).isSome = true := by
  have advance := s.dispatcher.handle_advance (.stepped device time)
  have home := (standing.home proper listed).1
  exact Plant.station_of_home ((advance.host.layout.stationOf?_eq device).trans home)

theorem stepDevice_eq (proper : built.Proper) (standing : Standing built s) {device : DeviceRef}
    (listed : device ∈ s.devices) (time : Float) : stepDevice time s device =
      { s with dispatcher := s.delivering time device (s.queue device) } := by
  have delivered := Dispatcher.deliver_eq (standing.station_stepped proper listed time)
  rw [standing.pending_stepped proper listed time] at delivered
  exact congrArg (fun dispatcher => { s with dispatcher }) delivered

theorem delivering_pending (standing : Standing built s) (time : Float) (device : DeviceRef)
    (changes : List SignalChange) :
    (s.delivering time device changes).host.plant.pending s.station = [] := by
  have advance := (s.dispatcher.handle_advance (.stepped device time)).trans
    (Dispatcher.clear_advance _ s.station)
  have along := Dispatcher.deliverAll_along Host.grown_robust
    ((s.dispatcher.handle (.stepped device time)).clear s.station) changes
  rw [delivering, (along.kept (advance.sound standing.sound)).pending]
  exact Dispatcher.pending_clear _ s.station

theorem stepDevice (proper : built.Proper) (standing : Standing built s) {device : DeviceRef}
    (listed : device ∈ s.devices) (time : Float) :
    Standing built (stepDevice time s device) := by
  have advance := (s.dispatcher.handle_advance (.stepped device time)).trans
    (Dispatcher.deliver_advance _ s.station)
  refine ⟨standing.station, standing.layout.trans advance.host.layout,
    advance.sound standing.sound, ?_⟩
  rw [standing.stepDevice_eq proper listed]
  exact standing.delivering_pending time device _

theorem turns (proper : built.Proper) (standing : Standing built s) (time : Float)
    {front : List DeviceRef} (listed : ∀ device ∈ front, device ∈ s.devices) :
    Standing built (front.foldl (Simulation.stepDevice time) s) := by
  induction front generalizing s with
  | nil => exact standing
  | cons device rest ih =>
    have next := standing.stepDevice proper (listed device List.mem_cons_self) time
    refine ih next fun other later => ?_
    rw [next.devices_eq, ← standing.devices_eq]
    exact listed other (List.mem_cons_of_mem _ later)

theorem step (proper : built.Proper) (standing : Standing built s) (stepMs : Float) :
    Standing built (s.step stepMs) :=
  ((standing.tick stepMs).turns proper _ fun _ listed => listed).pump

theorem stepTimes (proper : built.Proper) (standing : Standing built s) (stepMs : Float)
    (count : Nat) : Standing built (stepTimes stepMs count s) := by
  induction count generalizing s with
  | zero => exact standing
  | succ n ih => exact ih (standing.step proper stepMs)

/-- Loading the scripts queues nothing. -/
theorem launch (proper : built.Proper) (files : Files) (config : ScriptConfig)
    (arrival : Nat → Nat) (order : Nat → Listing) :
    Standing built (launch built files config arrival order : Simulation engine) := by
  obtain ⟨along, station⟩ :=
    @launch_along engine _ Host.grown_robust built files config arrival order
  have sound := @Dispatcher.new_sound engine (bareHost built files config) config .none
  refine ⟨station, along.host.layout, along.sound sound, ?_⟩
  obtain ⟨s, found, empty⟩ := Option.map_eq_some_iff.mp proper.pending
  have bare : built.plant.pending built.station = [] := by
    rw [Plant.pending, found]
    exact empty
  rw [station]
  exact ((along.kept sound).pending built.station).trans bare

end Standing

/-- Whatever the history, the simulation stands on the station of its file. -/
theorem History.standing {first : Dispatcher engine} {s : Simulation engine} {announced : List Nat}
    (history : History first s announced) : ∃ built : BuiltStation, built.Proper ∧
      Standing built s := by
  induction history with
  | new file ids files config arrival order built made =>
    have proper := StationFile.build_proper made
    exact ⟨built, proper, (Standing.launch proper files config arrival order).pump⟩
  | step first s announced before stepMs ih =>
    obtain ⟨built, proper, standing⟩ := ih
    exact ⟨built, proper, standing.step proper stepMs⟩
  | run first s announced before count stepMs ih =>
    obtain ⟨built, proper, standing⟩ := ih
    exact ⟨built, proper,
      ((standing.setState .running).stepTimes proper stepMs count).setState .stopped⟩
  | hostMessage first s announced before text ih =>
    obtain ⟨built, proper, standing⟩ := ih
    exact ⟨built, proper, (standing.announce text).pump⟩

/-- The clock stands still while the devices take their turns. -/
theorem clock_turns (time : Float) (front : List DeviceRef) (s : Simulation engine) :
    (front.foldl (stepDevice time) s).host.clock = s.host.clock := by
  induction front generalizing s with
  | nil => rfl
  | cons device rest ih =>
    have turn := (s.dispatcher.handle_advance (.stepped device time)).trans
      (Dispatcher.deliver_advance _ s.station)
    exact (ih _).trans turn.host.clock

section Count

variable {built : BuiltStation} {s : Simulation engine}

/-- A turn adds connections at the end, if any. -/
theorem connections_stepDevice (proper : built.Proper) (standing : Standing built s)
    {device : DeviceRef} (listed : device ∈ s.devices) (time : Float) :
    s.host.plant.connections s.station <+:
      (stepDevice time s device).host.plant.connections s.station := by
  have prepared := standing.plant_prepare proper listed time
  have sound := (s.dispatcher.prepare_handling (.stepped device time)).sound standing.sound
  have stepped := s.dispatcher.handle_along Host.grown_robust (e := .stepped device time) rfl
  have cleared := Dispatcher.clear_advance (s.dispatcher.handle (.stepped device time)) s.station
  have delivered := Dispatcher.deliverAll_along Host.grown_robust
    ((s.dispatcher.handle (.stepped device time)).clear s.station) (s.queue device)
  have early := (stepped.kept sound).connections s.station
  have late := (delivered.kept (cleared.sound (stepped.sound sound))).connections s.station
  rw [prepared, Plant.connections_propagate] at early
  rw [Dispatcher.connections_clear] at late
  rw [standing.stepDevice_eq proper listed]
  exact early.trans late

theorem connections_turns (proper : built.Proper) (standing : Standing built s) (time : Float)
    {front : List DeviceRef} (listed : ∀ device ∈ front, device ∈ s.devices) :
    s.host.plant.connections s.station <+:
      (front.foldl (stepDevice time) s).host.plant.connections s.station := by
  induction front generalizing s with
  | nil => exact List.prefix_rfl
  | cons device rest ih =>
    have mine := listed device List.mem_cons_self
    have next := standing.stepDevice proper mine time
    refine (connections_stepDevice proper standing mine time).trans (ih next fun other later => ?_)
    rw [next.devices_eq, ← standing.devices_eq]
    exact listed other (List.mem_cons_of_mem _ later)

/-- Each device's deliveries are counted by the connections into it. -/
theorem deliveries_le_counts (proper : built.Proper) (standing : Standing built s) (time : Float)
    {devices : List DeviceRef} (listed : ∀ device ∈ devices, device ∈ s.devices)
    {last : List Connection}
    (grown : (devices.foldl (stepDevice time) s).host.plant.connections s.station <+: last) :
    (deliveries time devices s).length ≤ (devices.map fun device =>
      last.countP fun c => c.targetObject = (built.plant.device device).name).sum := by
  induction devices generalizing s with
  | nil => exact Nat.zero_le _
  | cons device rest ih =>
    have mine := listed device List.mem_cons_self
    have next := standing.stepDevice proper mine time
    have later := ih next (fun other late => ?_) grown
    · obtain ⟨carried, within, queued⟩ := standing.queue_eq proper mine
      have now : s.host.plant.connections s.station <+: last :=
        (connections_turns proper standing time listed).trans grown
      have few : (s.queue device).length ≤ last.countP fun c =>
          c.targetObject = (built.plant.device device).name := by
        have name : (s.host.device device).name = (built.plant.device device).name :=
          standing.layout.name_eq device
        rw [queued, List.length_map, ← name]
        refine Nat.le_trans within.length_le ?_
        rw [← List.countP_eq_length_filter]
        exact now.sublist.countP_le
      rw [deliveries, List.length_append, List.map_cons, List.sum_cons]
      exact Nat.add_le_add few later
    · rw [next.devices_eq, ← standing.devices_eq]
      exact listed other (List.mem_cons_of_mem _ late)

end Count

/-- A simulation in the middle of a step, when the turns of some devices are over. -/
def afterTurns (s : Simulation engine) (stepMs : Float) (front : List DeviceRef) :
    Simulation engine :=
  front.foldl (stepDevice (s.tick stepMs).host.clock.time) (s.tick stepMs)

/-- All deliveries of a step, in order. -/
def stepDeliveries (s : Simulation engine) (stepMs : Float) : List SignalChange :=
  deliveries (s.tick stepMs).host.clock.time s.devices (s.tick stepMs)

/-- A step makes no more deliveries than the station has connections afterwards. -/
theorem stepDeliveries_le {built : BuiltStation} {s : Simulation engine} (proper : built.Proper)
    (standing : Standing built s) (stepMs : Float) : (s.stepDeliveries stepMs).length ≤
      ((s.step stepMs).host.plant.connections s.station).length := by
  have ticked := standing.tick stepMs
  have stood := ticked.turns proper (s.tick stepMs).host.clock.time fun _ listed => listed
  obtain ⟨along, _⟩ := (s.tick stepMs).stepDevices.pump_along Host.grown_robust
  have grown : (s.tick stepMs).stepDevices.host.plant.connections s.station <+:
      (s.step stepMs).host.plant.connections s.station :=
    (along.kept stood.sound).connections s.station
  refine Nat.le_trans (deliveries_le_counts proper ticked _ (fun _ listed => listed) grown) ?_
  have names : (s.devices.map fun ref => (built.plant.device ref).name).Nodup := by
    rw [standing.devices_eq]
    exact proper.names
  have count := sum_countP_le Connection.targetObject names
    ((s.step stepMs).host.plant.connections s.station)
  rw [List.map_map] at count
  exact count

/-- The simulations that take a step: one that a history led to, or one in the middle of a run. -/
inductive Stepping : Simulation engine → Prop where
  | step (first : Dispatcher engine) (s : Simulation engine) (announced : List Nat)
    (history : History first s announced) : Stepping s
  | run (first : Dispatcher engine) (s : Simulation engine) (announced : List Nat)
    (history : History first s announced) (stepMs : Float) (count : Nat) :
    Stepping (stepTimes stepMs count (s.setState .running))

theorem Stepping.standing {s : Simulation engine} (stepping : Stepping s) :
    ∃ built : BuiltStation, built.Proper ∧ Standing built s := by
  cases stepping with
  | step first _ announced history => exact history.standing
  | run first s announced history stepMs count =>
    obtain ⟨built, proper, standing⟩ := history.standing
    exact ⟨built, proper, (standing.setState .running).stepTimes proper stepMs count⟩

/-- Every queued change is delivered once: in each step, a device's turn is its own step and then
one event for every change that its propagation queued, in order. No delivery queues another
change. -/
theorem changes_delivered_once (engine : Engine) :
    (∀ (first : Dispatcher engine) (s : Simulation engine) (announced : List Nat),
      History first s announced → s.host.plant.pending s.station = []) ∧
    ∀ s : Simulation engine, Stepping s → ∀ stepMs : Float,
      (∀ front device back, s.devices = front ++ device :: back →
        ∀ turn, s.afterTurns stepMs front = turn →
          turn.host.plant.pending turn.station = [] ∧
          (turn.dispatcher.handle (.stepped device turn.host.clock.time)).host.plant.pending
            turn.station = turn.queue device ∧
          s.afterTurns stepMs (front ++ [device]) = { turn with
            dispatcher := turn.delivering turn.host.clock.time device (turn.queue device) } ∧
          (∀ change ∈ turn.queue device, change.device = device ∧
            ∃ c ∈ turn.host.plant.connections turn.station,
              c.targetObject = (turn.host.device device).name ∧ c.targetSignal = change.signal) ∧
          ∀ count, (turn.delivering turn.host.clock.time device
            ((turn.queue device).take count)).host.plant.pending turn.station = []) ∧
      s.step stepMs = (s.afterTurns stepMs s.devices).pump ∧
      (s.stepDeliveries stepMs).length ≤
        ((s.step stepMs).host.plant.connections s.station).length := by
  constructor
  · intro first s announced history
    obtain ⟨built, proper, standing⟩ := history.standing
    exact standing.settled
  · intro s stepping stepMs
    obtain ⟨built, proper, standing⟩ := stepping.standing
    refine ⟨fun front device back split turn turns => ?_, rfl,
      stepDeliveries_le proper standing stepMs⟩
    have mine (ref : DeviceRef) (early : ref ∈ front ++ [device]) : ref ∈ s.devices := by
      rw [split]
      rcases List.mem_append.mp early with before | last
      · exact List.mem_append_left _ before
      · rw [List.mem_singleton.mp last]
        exact List.mem_append_right _ List.mem_cons_self
    have turned : Standing built turn := turns ▸ (standing.tick stepMs).turns proper _
      fun ref early => mine ref (List.mem_append_left _ early)
    have listed : device ∈ turn.devices := by
      rw [turned.devices_eq, ← standing.devices_eq]
      exact mine device (List.mem_append_right _ List.mem_cons_self)
    have clock : turn.host.clock = (s.tick stepMs).host.clock := turns ▸ clock_turns _ front _
    refine ⟨turned.settled, turned.pending_stepped proper listed _, ?_, ?_, ?_⟩
    · rw [clock, ← turned.stepDevice_eq proper listed, ← turns, afterTurns, List.foldl_append]
      rfl
    · obtain ⟨carried, within, queued⟩ := turned.queue_eq proper listed
      intro change member
      rw [queued] at member
      obtain ⟨c, hit, rfl⟩ := List.mem_map.mp member
      obtain ⟨present, into⟩ := List.mem_filter.mp (within.subset hit)
      exact ⟨rfl, c, present, of_decide_eq_true into, rfl⟩
    · exact fun count => turned.delivering_pending _ device _

/-- A file with two devices. An output of the first one is connected to an input of the second. -/
def linkedFile : StationFile where
  name := "Line"
  devices := [
    { name := "Feeder", signals := [{ name := "ready", kind := "DigitalOutput", value := 1.0 }] },
    { name := "Gripper", signals := [{ name := "go", kind := "DigitalInput" }] }]
  connections := [⟨"Feeder", "ready", "Gripper", "go", true⟩]

def linkedStation : BuiltStation :=
  (linkedFile.build fun place =>
    if place = 0 then ⟨"feeder"⟩ else ⟨"gripper"⟩).toOption.getD default

/-- The simulation of the two devices, before its first step. -/
def linked : Simulation (.repeating (.done ())) :=
  launch linkedStation Files.none {} (fun _ => 0) fun _ => .registered

/-- In the first step the change of the second device's input is delivered, and nothing else. -/
theorem changes_delivered_once_linked : Stepping linked ∧
    (linked.afterTurns 10.0 [⟨0⟩]).queue ⟨1⟩ = [⟨⟨1⟩, "go"⟩] ∧
    ((linked.afterTurns 10.0 [⟨0⟩]).dispatcher.handle (.stepped ⟨1⟩
      (linked.afterTurns 10.0 [⟨0⟩]).host.clock.time)).host.plant.pending
        (linked.afterTurns 10.0 [⟨0⟩]).station = [⟨⟨1⟩, "go"⟩] ∧
    (linked.stepDeliveries 10.0).length ≤
      ((linked.step 10.0).host.plant.connections linked.station).length := by
  have made : linkedFile.build (fun place => if place = 0 then ⟨"feeder"⟩ else ⟨"gripper"⟩) =
      .ok linkedStation := rfl
  have idle : linked.fresh = [] := by decide +kernel
  have begun : History _ (start linkedStation Files.none {} fun _ => 0 :
      Simulation (.repeating (.done ()))) [] := .new linkedFile _ _ _ _ _ _ made
  have settled : (start linkedStation Files.none {} fun _ => 0 :
      Simulation (.repeating (.done ()))) = linked := pump_of_settled idle
  rw [settled] at begun
  have stepping : Stepping linked := .step _ _ _ begun
  obtain ⟨_, steps⟩ := changes_delivered_once (.repeating (.done ()))
  obtain ⟨turns, _, few⟩ := steps linked stepping 10.0
  have listed : linked.devices = [⟨0⟩] ++ ⟨1⟩ :: [] := by decide +kernel
  obtain ⟨_, queued, _⟩ := turns [⟨0⟩] ⟨1⟩ [] listed _ rfl
  have changed : (linked.afterTurns 10.0 [⟨0⟩]).queue ⟨1⟩ = [⟨⟨1⟩, "go"⟩] := by decide +kernel
  exact ⟨stepping, changed, queued.trans changed, few⟩

end Simulation

end StationScript
