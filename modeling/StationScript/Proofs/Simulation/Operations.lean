import StationScript.Proofs.Dispatcher.Executions
import StationScript.Proofs.Simulation.Delivery

/-!
Operations on a simulation, and all script runs that they start.

A pump runs scripts only for a message from outside. What a step or a load wrote into the log is
handed over without any effect on the dispatcher.
-/

set_option autoImplicit false

namespace StationScript

/-- What the items of a list give, where each acts before the next one gives. -/
def gather {σ α β : Type} (act : σ → α → σ) (give : σ → α → List β) : List α → σ → List β
  | [], _ => []
  | a :: rest, s => give s a ++ gather act give rest (act s a)

namespace Dispatcher

variable {engine : Engine}

def receive (d : Dispatcher engine) (change : SignalChange) : Dispatcher engine :=
  d.onSignalChanged change.device change.signal

/-- The runs of a device's turn: those of its step, and those of the deliveries. -/
def turnExecutions (d : Dispatcher engine) (station : StationRef) (time : Float)
    (device : DeviceRef) : List (Execution engine) :=
  let stepped := d.onSimulationStep device time
  let (plant, changes) := stepped.host.plant.takePending station
  d.executions (.stepped device time) ++
    gather receive (fun d change => d.executions (.signalChanged change.device change.signal))
      changes (stepped.modifyHost fun host => { host with plant })

end Dispatcher

namespace Simulation

variable {engine : Engine}

/-- The runs of a script that is loaded because its device has one. -/
def loadExecutions (s : Simulation engine) (built : BuiltDevice) : List (Execution engine) :=
  match built.script with
  | none => []
  | some path =>
    (s.mapHost fun host => host.setScriptPath built.device path).dispatcher.executions
      (.scriptPathChanged built.device)

/-- The runs of a pump. -/
def pumpExecutions (s : Simulation engine) : List (Execution engine) :=
  if s.fresh = [] then []
  else
    gather handOver
      (fun s message => s.dispatcher.executions
        (.logged (s.arrival s.cursor) message.text (s.order s.cursor)))
      s.fresh s ++ s.round.pumpExecutions
termination_by s.unsettled
decreasing_by exact unsettled_round_lt ‹_›

/-- The runs of a step. -/
def stepExecutions (s : Simulation engine) (stepMs : Float) : List (Execution engine) :=
  let ticked := s.tick stepMs
  let time := ticked.host.clock.time
  gather (stepDevice time)
      (fun s device => s.dispatcher.turnExecutions s.station time device) ticked.devices ticked ++
    ticked.stepDevices.pumpExecutions

/-- The runs of so many steps. -/
def stepTimesExecutions (stepMs : Float) : Nat → Simulation engine → List (Execution engine)
  | 0, _ => []
  | n + 1, s => s.stepExecutions stepMs ++ stepTimesExecutions stepMs n (s.step stepMs)

/-- The runs at the start of a simulation. -/
def startExecutions (built : BuiltStation) (files : Files) (config : ScriptConfig)
    (arrival : Nat → Nat) (order : Nat → Listing) : List (Execution engine) :=
  gather loadScript loadExecutions built.devices (attached built files config arrival order) ++
    (launch built files config arrival order).pumpExecutions

/-- What can be asked of a simulation that was started. -/
inductive Operation where
  | step (stepMs : Float)
  | run (count : Nat) (stepMs : Float)
  | hostMessage (text : String)

def perform (s : Simulation engine) : Operation → Simulation engine
  | .step stepMs => s.step stepMs
  | .run count stepMs => s.run count stepMs
  | .hostMessage text => s.hostMessage text

def performAll (s : Simulation engine) (operations : List Operation) : Simulation engine :=
  operations.foldl perform s

/-- The runs of an operation. -/
def executions (s : Simulation engine) : Operation → List (Execution engine)
  | .step stepMs => s.stepExecutions stepMs
  | .run count stepMs => stepTimesExecutions stepMs count (s.setState .running)
  | .hostMessage text => (s.announce text).pumpExecutions

/-- The instant at which the message of an operation is handed over. -/
def instants (s : Simulation engine) : Operation → List Nat
  | .hostMessage _ => [s.arrival s.host.log.toList.length]
  | _ => []

/-- The instants of all messages from outside. -/
def allInstants (s : Simulation engine) (operations : List Operation) : List Nat :=
  gather perform instants operations s

/-- The registered devices in the order in which the message of an operation would be broadcast. -/
def turns (s : Simulation engine) : Operation → List (List DeviceRef)
  | .hostMessage _ => [(s.host.liveDevices (s.order s.host.log.toList.length)).2]
  | _ => []

/-- The turns of the devices for all messages from outside. -/
def allTurns (s : Simulation engine) (operations : List Operation) : List (List DeviceRef) :=
  gather perform turns operations s

/-- The simulation of a station after some operations. -/
def afterOperations (built : BuiltStation) (files : Files) (config : ScriptConfig)
    (arrival : Nat → Nat) (order : Nat → Listing) (operations : List Operation) :
    Simulation engine :=
  (start built files config arrival order).performAll operations

/-- All runs of a simulation, from its start on. -/
def allExecutions (built : BuiltStation) (files : Files) (config : ScriptConfig)
    (arrival : Nat → Nat) (order : Nat → Listing) (operations : List Operation) :
    List (Execution engine) :=
  startExecutions built files config arrival order ++
    gather perform executions operations (start built files config arrival order)

section Pump

variable {s later : Simulation engine}

/-- A pump of the host's own messages leaves the dispatcher as it is. -/
theorem dispatcher_pump_of_owns (owned : ∀ message ∈ s.fresh, s.host.owns message.text = true) :
    s.pump.dispatcher = s.dispatcher := by
  by_cases settled : s.fresh = []
  · rw [pump_of_settled settled]
  · rw [pump_of_fresh settled, pump_of_settled (fresh_round_of_owns owned)]
    exact foldl_handOver_of_owns owned

/-- Everything in the log was handed over. -/
def CaughtUp (s : Simulation engine) : Prop := s.cursor = s.host.log.toList.length

namespace CaughtUp

theorem inside (caught : s.CaughtUp) (quiet : Quiet s later) :
    later.cursor ≤ later.host.log.toList.length := by
  obtain ⟨added, log, _⟩ := quiet.writes.log
  rw [log, List.length_append, quiet.cursor, caught]
  exact Nat.le_add_right _ _

/-- What is written meanwhile is the host's own, so handing it over has no effect. -/
theorem dispatcher_pump (caught : s.CaughtUp) (quiet : Quiet s later) :
    later.pump.dispatcher = later.dispatcher := by
  refine dispatcher_pump_of_owns fun message member => ?_
  obtain ⟨added, log, owned⟩ := quiet.writes.log
  rw [fresh, Log.since, quiet.cursor, caught, log, List.drop_left] at member
  rw [Host.owns_eq quiet.writes.logPrefix]
  exact owned message member

theorem pump (caught : s.CaughtUp) (quiet : Quiet s later) : later.pump.CaughtUp :=
  congrArg Simulation.cursor (pump_eq (caught.inside quiet))

theorem quiet (caught : s.CaughtUp) (silent : later.host.log = s.host.log)
    (cursor : later.cursor = s.cursor) : later.CaughtUp := by
  unfold CaughtUp
  rw [silent, cursor]
  exact caught

theorem step (caught : s.CaughtUp) (stepMs : Float) : (s.step stepMs).CaughtUp :=
  caught.pump (s.step_quiet stepMs)

/-- A step does what its turns do. -/
theorem dispatcher_step (caught : s.CaughtUp) (stepMs : Float) :
    (s.step stepMs).dispatcher = (s.tick stepMs).stepDevices.dispatcher :=
  caught.dispatcher_pump (s.step_quiet stepMs)

/-- A message from outside is the only one that is fresh. -/
theorem fresh_announce (caught : s.CaughtUp) (text : String) :
    (s.announce text).fresh = [⟨.information, text⟩] := by
  have log : (s.announce text).host.log.toList = s.host.log.toList ++ [⟨.information, text⟩] :=
    Log.toList_add s.host.log .information text
  have cursor : (s.announce text).cursor = s.host.log.toList.length := caught
  rw [fresh, Log.since, log, cursor, List.drop_left]

/-- A message does what the dispatcher makes of it. -/
theorem dispatcher_hostMessage (caught : s.CaughtUp) (text : String) :
    (s.hostMessage text).dispatcher = ((s.announce text).dispatcher.onLogMessage
      (s.arrival s.host.log.toList.length) text (s.order s.host.log.toList.length)).1 := by
  have fresh := caught.fresh_announce text
  have news : (s.announce text).fresh ≠ [] := by simp [fresh]
  have round : (s.announce text).round = (s.announce text).handOver ⟨.information, text⟩ := by
    rw [Simulation.round, fresh]
    rfl
  rw [hostMessage, pump_of_fresh news,
    dispatcher_pump_of_owns fun _ member => owns_of_mem_fresh_round news member, round, ← caught]
  rfl

/-- The runs of a message begin with those that the dispatcher starts for it. -/
theorem pumpExecutions_announce (caught : s.CaughtUp) (text : String) :
    ∃ rest, (s.announce text).pumpExecutions = (s.announce text).dispatcher.loggedExecutions
      (s.arrival s.host.log.toList.length) text (s.order s.host.log.toList.length) ++ rest := by
  have fresh := caught.fresh_announce text
  have news : (s.announce text).fresh ≠ [] := by simp [fresh]
  refine ⟨(s.announce text).round.pumpExecutions, ?_⟩
  rw [pumpExecutions, if_neg news, fresh, ← caught]
  simp only [gather, List.append_nil]
  rfl

theorem hostMessage (caught : s.CaughtUp) (text : String) : (s.hostMessage text).CaughtUp := by
  refine congrArg Simulation.cursor (pump_eq ?_)
  have log : (s.announce text).host.log.toList = s.host.log.toList ++ [⟨.information, text⟩] :=
    Log.toList_add s.host.log .information text
  have cursor : (s.announce text).cursor = s.host.log.toList.length := caught
  rw [cursor, log, List.length_append]
  exact Nat.le_add_right _ _

end CaughtUp

/-- At the start nothing comes from outside. -/
theorem dispatcher_start (built : BuiltStation) (files : Files) (config : ScriptConfig)
    (arrival : Nat → Nat) (order : Nat → Listing) :
    (start built files config arrival order : Simulation engine).dispatcher =
      (launch built files config arrival order).dispatcher := by
  refine dispatcher_pump_of_owns fun message member => ?_
  have listed := List.mem_of_mem_drop member
  obtain ⟨place, found⟩ := List.getElem?_of_mem listed
  exact (launch_recorded built files config arrival order).own place message found List.not_mem_nil

theorem start_caughtUp (built : BuiltStation) (files : Files) (config : ScriptConfig)
    (arrival : Nat → Nat) (order : Nat → Listing) :
    (start built files config arrival order : Simulation engine).CaughtUp :=
  congrArg Simulation.cursor (pump_eq (launch_recorded built files config arrival order).inside)

end Pump

section Growth

variable {built : BuiltStation} {s : Simulation engine}

/-- The connections of the station. -/
def connections (s : Simulation engine) : List Connection := s.host.plant.connections s.station

theorem Standing.connections_pump (standing : Standing built s) :
    s.connections <+: s.pump.connections := by
  obtain ⟨along, station⟩ := s.pump_along Host.grown_robust
  unfold connections
  rw [station]
  exact (along.kept standing.sound).connections s.station

/-- A step adds connections at the end, if any. -/
theorem Standing.connections_step (proper : built.Proper) (standing : Standing built s)
    (stepMs : Float) : s.connections <+: (s.step stepMs).connections := by
  have ticked := standing.tick stepMs
  have turned := ticked.turns proper (s.tick stepMs).host.clock.time fun _ listed => listed
  have station : (s.tick stepMs).stepDevices.station = s.station :=
    turned.station.trans standing.station.symm
  have turns : s.connections <+: (s.tick stepMs).stepDevices.connections := by
    unfold connections
    rw [station]
    exact connections_turns proper ticked _ fun _ listed => listed
  exact turns.trans (Standing.connections_pump turned)

theorem Standing.connections_stepTimes (proper : built.Proper) (standing : Standing built s)
    (stepMs : Float) (count : Nat) :
    s.connections <+: (Simulation.stepTimes stepMs count s).connections := by
  induction count generalizing s with
  | zero => exact List.prefix_rfl
  | succ n ih =>
    exact (standing.connections_step proper stepMs).trans (ih (standing.step proper stepMs))

theorem Standing.perform (proper : built.Proper) (standing : Standing built s)
    (operation : Operation) : Standing built (s.perform operation) := by
  cases operation with
  | step stepMs => exact standing.step proper stepMs
  | run count stepMs =>
    exact ((standing.setState .running).stepTimes proper stepMs count).setState .stopped
  | hostMessage text => exact (standing.announce text).pump

/-- Operations add connections at the end, if any. -/
theorem Standing.connections_perform (proper : built.Proper) (standing : Standing built s)
    (operation : Operation) : s.connections <+: (s.perform operation).connections := by
  cases operation with
  | step stepMs => exact standing.connections_step proper stepMs
  | run count stepMs =>
    exact (standing.setState .running).connections_stepTimes proper stepMs count
  | hostMessage text => exact (standing.announce text).connections_pump

theorem Standing.connections_performAll (proper : built.Proper) (standing : Standing built s)
    (operations : List Operation) : s.connections <+: (s.performAll operations).connections := by
  induction operations generalizing s with
  | nil => exact List.prefix_rfl
  | cons operation rest ih =>
    exact (standing.connections_perform proper operation).trans
      (ih (standing.perform proper operation))

end Growth

end Simulation

end StationScript
