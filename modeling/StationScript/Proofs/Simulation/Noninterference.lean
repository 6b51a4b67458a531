import StationScript.Proofs.Simulation.Paired

/-!
What one device cannot do to the others. Two simulations of one station perform the same operations;
only the script of one device, the hidden one, is not the same text. They stay abreast of each
other: between two operations nothing but the hidden device tells them apart.
-/

set_option autoImplicit false

namespace StationScript.Simulation

open Dispatcher (Together)
open Execution (Silent)

variable {engine : Engine} {built : BuiltStation} {hidden : DeviceRef} {left right : Files}
  {config : ScriptConfig} {arrival arrival' : Nat → Nat} {order order' : Nat → Listing}

/-- Paired simulations between two operations. -/
structure Abreast (built : BuiltStation) (hidden : DeviceRef) (left right : Files)
    (one other : Simulation engine) : Prop extends Paired built hidden left right one other where
  caught : one.CaughtUp
  level : other.CaughtUp

/-- The simulations are abreast when they were started. -/
theorem start_abreast (keyed : built.Keyed) (shared : built.Shares hidden left right)
    (present : hidden ∈ built.refs)
    (silent : Silent hidden
      (startExecutions built left config arrival order : List (Execution engine)))
    (also : Silent hidden
      (startExecutions built right config arrival' order' : List (Execution engine))) :
    Abreast built hidden left right (start built left config arrival order : Simulation engine)
      (start built right config arrival' order') := by
  have standing (files : Files) (arrival : Nat → Nat) (order : Nat → Listing) :
      Standing built (start built files config arrival order : Simulation engine) :=
    (Standing.launch keyed.toProper files config arrival order).pump
  refine ⟨⟨?_, standing left arrival order, standing right arrival' order', ?_⟩,
    start_caughtUp _ _ _ _ _, start_caughtUp _ _ _ _ _⟩
  · rw [dispatcher_start, dispatcher_start, launch_eq, launch_eq]
    exact loadScripts_together keyed shared present (List.Subset.refl _)
      (attached_together keyed) silent.left also.left
  · rw [start, start, steps_pump, steps_pump, steps_launch, steps_launch]

/-- Lists that are paired item by item are paired in their parts. -/
theorem forall₂_of_append {α β : Type} {R : α → β → Prop} {front rest : List α}
    {start back : List β} (paired : List.Forall₂ R (front ++ rest) (start ++ back))
    (long : front.length = start.length) :
    List.Forall₂ R front start ∧ List.Forall₂ R rest back := by
  have early := List.forall₂_take front.length paired
  have late := List.forall₂_drop front.length paired
  rw [List.take_left, long, List.take_left] at early
  rw [List.drop_left, long, List.drop_left] at late
  exact ⟨early, late⟩

namespace Abreast

variable (keyed : built.Keyed) (shared : built.Shares hidden left right)
  (present : hidden ∈ built.refs) {one other : Simulation engine}
  (abreast : Abreast built hidden left right one other)

include abreast

theorem setState (state : RunState) :
    Abreast built hidden left right (one.setState state) (other.setState state) :=
  ⟨⟨abreast.together.outside (fun clock => { clock with state }) fun log => log,
      abreast.first.setState state, abreast.second.setState state, abreast.steps⟩,
    abreast.caught.quiet rfl rfl, abreast.level.quiet rfl rfl⟩

/-- The clocks show the same, because as many steps were taken. -/
theorem tick (stepMs : Float) :
    Paired built hidden left right (one.tick stepMs) (other.tick stepMs) := by
  refine ⟨?_, abreast.first.tick stepMs, abreast.second.tick stepMs,
    congrArg (· + 1) abreast.steps⟩
  have stamps : other.stamp stepMs = one.stamp stepMs := by
    unfold Simulation.stamp
    rw [abreast.steps]
  unfold Simulation.tick
  rw [stamps]
  exact abreast.together.outside
    (fun clock => { clock with time := (one.stamp stepMs).time }) fun log => log

include keyed shared present

theorem step (stepMs : Float) (silent : Silent hidden (one.stepExecutions stepMs))
    (also : Silent hidden (other.stepExecutions stepMs))
    (sourceless : Sourceless built hidden (one.step stepMs)) :
    Abreast built hidden left right (one.step stepMs) (other.step stepMs) := by
  have ticked := abreast.tick stepMs
  have clock : (other.tick stepMs).host.clock = (one.tick stepMs).host.clock :=
    ticked.together.alike.host.clock
  have devices : (other.tick stepMs).devices = (one.tick stepMs).devices :=
    ticked.second.devices_eq.trans ticked.first.devices_eq.symm
  have listed : (one.tick stepMs).devices ⊆ built.refs := by
    rw [ticked.first.devices_eq, keyed.refs]
    exact List.Subset.refl _
  have turned : Paired built hidden left right (one.tick stepMs).stepDevices
      (other.tick stepMs).stepDevices := by
    have stood := ticked.first.turns keyed.toProper (one.tick stepMs).host.clock.time
      fun _ among => among
    have before : Sourceless built hidden (one.tick stepMs).stepDevices :=
      sourceless.before (Standing.connections_pump stood)
    unfold stepExecutions at silent also
    dsimp only at silent also
    unfold stepDevices at before ⊢
    rw [clock, devices] at also ⊢
    exact ticked.turns keyed shared present listed _ silent.left also.left before
  refine ⟨⟨?_, abreast.first.step keyed.toProper stepMs, abreast.second.step keyed.toProper stepMs,
    ?_⟩, abreast.caught.step stepMs, abreast.level.step stepMs⟩
  · rw [abreast.caught.dispatcher_step, abreast.level.dispatcher_step]
    exact turned.together
  · rw [Simulation.step, Simulation.step, steps_pump, steps_pump]
    exact turned.steps

theorem stepTimes (stepMs : Float) (count : Nat)
    (silent : Silent hidden (stepTimesExecutions stepMs count one))
    (also : Silent hidden (stepTimesExecutions stepMs count other))
    (sourceless : Sourceless built hidden (stepTimes stepMs count one)) :
    Abreast built hidden left right
      (stepTimes stepMs count one) (stepTimes stepMs count other) := by
  induction count generalizing one other with
  | zero => exact abreast
  | succ n ih =>
    have stood := abreast.first.step keyed.toProper stepMs
    have before : Sourceless built hidden (one.step stepMs) :=
      sourceless.before (stood.connections_stepTimes keyed.toProper stepMs n)
    exact ih (abreast.step keyed shared present stepMs silent.left also.left before) silent.right
      also.right sourceless

/-- A message that comes at the same instant has the same effect, wherever the hidden device has its
turn. -/
theorem hostMessage (text : String)
    (instant : other.arrival other.host.log.toList.length =
      one.arrival one.host.log.toList.length)
    (turns : SameOthers hidden (one.host.liveDevices (one.order one.host.log.toList.length)).2
      (other.host.liveDevices (other.order other.host.log.toList.length)).2)
    (silent : Silent hidden (one.announce text).pumpExecutions)
    (also : Silent hidden (other.announce text).pumpExecutions) :
    Abreast built hidden left right (one.hostMessage text) (other.hostMessage text) := by
  obtain ⟨_, mine⟩ := abreast.caught.pumpExecutions_announce text
  obtain ⟨_, yours⟩ := abreast.level.pumpExecutions_announce text
  rw [mine] at silent
  rw [yours, instant] at also
  refine ⟨⟨?_, (abreast.first.announce text).pump, (abreast.second.announce text).pump, ?_⟩,
    abreast.caught.hostMessage text, abreast.level.hostMessage text⟩
  · rw [abreast.caught.dispatcher_hostMessage, abreast.level.dispatcher_hostMessage, instant]
    have announced := abreast.together.outside (fun clock => clock)
      fun log => log.add .information text
    rw [Host.liveDevices_snd, Host.liveDevices_snd] at turns
    refine announced.onLogMessage keyed shared present _ text ?_ silent.left also.left
    rw [Host.liveDevices_snd, Host.liveDevices_snd]
    exact turns
  · rw [Simulation.hostMessage, Simulation.hostMessage, steps_pump, steps_pump]
    exact abreast.steps

theorem perform (operation : Operation)
    (instants : other.instants operation = one.instants operation)
    (turns : List.Forall₂ (SameOthers hidden) (one.turns operation) (other.turns operation))
    (silent : Silent hidden (one.executions operation))
    (also : Silent hidden (other.executions operation))
    (sourceless : Sourceless built hidden (one.perform operation)) :
    Abreast built hidden left right (one.perform operation) (other.perform operation) := by
  cases operation with
  | step stepMs => exact abreast.step keyed shared present stepMs silent also sourceless
  | run count stepMs =>
    exact ((abreast.setState .running).stepTimes keyed shared present stepMs count silent also
      sourceless).setState .stopped
  | hostMessage text =>
    exact abreast.hostMessage keyed shared present text (List.singleton_inj.mp instants)
      (List.forall₂_cons.mp turns).1 silent also

theorem performAll (operations : List Operation)
    (instants : other.allInstants operations = one.allInstants operations)
    (turns : List.Forall₂ (SameOthers hidden) (one.allTurns operations)
      (other.allTurns operations))
    (silent : Silent hidden (gather Simulation.perform executions operations one))
    (also : Silent hidden (gather Simulation.perform executions operations other))
    (sourceless : Sourceless built hidden (one.performAll operations)) :
    Abreast built hidden left right (one.performAll operations) (other.performAll operations) := by
  induction operations generalizing one other with
  | nil => exact abreast
  | cons operation rest ih =>
    have many : (other.instants operation).length = (one.instants operation).length := by
      cases operation <;> rfl
    obtain ⟨now, afterwards⟩ := List.append_inj instants many
    obtain ⟨here, later⟩ := forall₂_of_append turns (by cases operation <;> rfl)
    have stood := abreast.first.perform keyed.toProper operation
    have before : Sourceless built hidden (one.perform operation) :=
      sourceless.before (stood.connections_performAll keyed.toProper rest)
    have next := abreast.perform keyed shared present operation now here silent.left also.left
      before
    exact ih next afterwards later silent.right also.right sourceless

end Abreast

/-- Whatever a device's script does apart from adding connections, no other device is changed by it.
Let two simulations of a station perform the same operations, with the same instants of the messages
from outside and the same order of the other devices in each broadcast; all scripts are the same but
for one device, the hidden one, which may have its turn anywhere. If no run of its script calls for
a connection, and none starts at it in the end, when the list has grown to its full length, then
every other device is the same, with its signals, its status and its path, and so are the state of
its session, the time of its last step, and the connections of the station. -/
theorem hidden_device_cannot_interfere (engine : Engine) {file : StationFile}
    {ids : Nat → DeviceId} {built : BuiltStation} (made : file.build ids = .ok built)
    (distinct : (built.refs.map fun ref => (built.plant.device ref).id).Nodup)
    (config : ScriptConfig) {hidden : DeviceRef} (present : hidden ∈ built.refs)
    (left right : Files) (shared : built.Shares hidden left right) (arrival arrival' : Nat → Nat)
    (order order' : Nat → Listing) (operations : List Operation)
    (instants :
      (start built right config arrival' order' : Simulation engine).allInstants operations =
      (start built left config arrival order : Simulation engine).allInstants operations)
    (turns : List.Forall₂ (SameOthers hidden)
      ((start built left config arrival order : Simulation engine).allTurns operations)
      ((start built right config arrival' order' : Simulation engine).allTurns operations))
    (silent : Silent hidden
      (allExecutions built left config arrival order operations : List (Execution engine)))
    (also : Silent hidden
      (allExecutions built right config arrival' order' operations : List (Execution engine)))
    {one other : Simulation engine}
    (first : one = afterOperations built left config arrival order operations)
    (second : other = afterOperations built right config arrival' order' operations)
    (sourceless : ∀ c ∈ one.connections, c.sourceObject ≠ (built.plant.device hidden).name) :
    other.connections = one.connections ∧
      ∀ device ∈ built.refs, device ≠ hidden →
        other.host.device device = one.host.device device ∧
        other.dispatcher.sessionState? (other.host.device device).id =
          one.dispatcher.sessionState? (one.host.device device).id ∧
        other.host.times.last (other.host.device device).id =
          one.host.times.last (one.host.device device).id := by
  have keyed := StationFile.build_keyed made distinct
  have abreast : Abreast built hidden left right one other := by
    have started := start_abreast keyed shared present silent.left also.left
    rw [first, second]
    rw [first] at sourceless
    exact started.performAll keyed shared present operations instants turns silent.right also.right
      sourceless
  obtain ⟨⟨together, stood, standing, _⟩, _, _⟩ := abreast
  refine ⟨?_, fun device listed visible => ?_⟩
  · unfold connections
    rw [standing.station, stood.station]
    exact together.alike.host.plant.connections built.station
  · have same := together.alike.device_eq visible
    have apart := together.one.apart keyed listed present visible
    refine ⟨same, ?_, ?_⟩
    · unfold Dispatcher.sessionState?
      exact congrArg (Option.map Session.state)
        (together.session?_eq keyed present listed visible)
    · unfold host at same ⊢
      rw [same]
      exact together.alike.host.times _ apart

/-- Two devices with scripts. An output of the first one is connected to an input of the second. -/
def scriptedFile : StationFile where
  name := "Line"
  devices := [
    { name := "Feeder", script := some "feeder.lua",
      signals := [{ name := "ready", kind := "DigitalOutput", value := 1.0 }] },
    { name := "Gripper", script := some "gripper.lua",
      signals := [{ name := "go", kind := "DigitalInput" }] }]
  connections := [⟨"Feeder", "ready", "Gripper", "go", true⟩]

def scriptedStation : BuiltStation :=
  (scriptedFile.build fun place =>
    if place = 0 then ⟨"feeder"⟩ else ⟨"gripper"⟩).toOption.getD default

/-- The scripts of the two devices, if there are any at these paths. -/
def scriptsAt (paths : List String) : Files := fun path =>
  if path ∈ paths then .content ByteArray.empty else .absent .notFound

def scriptedOperations : List Operation :=
  [.step 10.0, .hostMessage "Update LuaScript", .run 1 5.0]

/-- The last device has the first turn. -/
def lastFirst : Listing := ⟨List.reverse, List.reverse_perm⟩

/-- The devices of the file at work; each run of a script writes one message. -/
def scripted (paths : List String) (order : Listing) :
    Simulation (.repeating (.call .addLog [.ofText "ready"] fun _ => .done ())) :=
  afterOperations scriptedStation (scriptsAt paths) {} (fun _ => 0) (fun _ => order)
    scriptedOperations

/-- The first device notices neither whether the second one has its script nor when it has its
turn. -/
theorem hidden_device_cannot_interfere_scripted :
    (scripted ["feeder.lua", "gripper.lua"] .registered).dispatcher.sessionState? ⟨"gripper"⟩ =
      some .ready ∧
    (scripted ["feeder.lua"] lastFirst).dispatcher.sessionState? ⟨"gripper"⟩ = some .error ∧
    (scripted ["feeder.lua"] lastFirst).host.device ⟨0⟩ =
      (scripted ["feeder.lua", "gripper.lua"] .registered).host.device ⟨0⟩ := by
  have made : scriptedFile.build (fun place => if place = 0 then ⟨"feeder"⟩ else ⟨"gripper"⟩) =
      .ok scriptedStation := rfl
  have shared : scriptedStation.Shares ⟨1⟩ (scriptsAt ["feeder.lua", "gripper.lua"])
      (scriptsAt ["feeder.lua"]) := by
    intro b listed visible path script
    have first : b = ⟨⟨0⟩, some "feeder.lua"⟩ := by
      have all : ∀ b ∈ scriptedStation.devices, b.device ≠ ⟨1⟩ → b = ⟨⟨0⟩, some "feeder.lua"⟩ := by
        decide +kernel
      exact all b listed visible
    rw [first] at script
    cases script
    rfl
  have silent : Silent ⟨1⟩ (allExecutions scriptedStation (scriptsAt ["feeder.lua", "gripper.lua"])
      {} (fun _ => 0) (fun _ => .registered) scriptedOperations :
        List (Execution (.repeating (.call .addLog [.ofText "ready"] fun _ => .done ())))) := by
    unfold Silent
    decide +kernel
  have also : Silent ⟨1⟩ (allExecutions scriptedStation (scriptsAt ["feeder.lua"])
      {} (fun _ => 0) (fun _ => lastFirst) scriptedOperations :
        List (Execution (.repeating (.call .addLog [.ofText "ready"] fun _ => .done ())))) := by
    unfold Silent
    decide +kernel
  obtain ⟨_, others⟩ := @hidden_device_cannot_interfere
    (.repeating (.call .addLog [.ofText "ready"] fun _ => .done ())) scriptedFile _ _ made
    (by decide +kernel) {} ⟨1⟩ (by decide +kernel) _ _ shared (fun _ => 0) (fun _ => 0)
    (fun _ => .registered) (fun _ => lastFirst) scriptedOperations (by decide +kernel)
    (by decide +kernel) silent also (scripted ["feeder.lua", "gripper.lua"] .registered)
    (scripted ["feeder.lua"] lastFirst) rfl rfl (by decide +kernel)
  obtain ⟨same, _⟩ := others ⟨0⟩ (by decide +kernel) (by decide)
  exact ⟨by decide +kernel, by decide +kernel, same⟩

end StationScript.Simulation
