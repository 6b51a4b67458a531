import StationScript.Proofs.Simulation.Round
import StationScript.StationFile.Build

/-!
Running a station step by step.

Every message in the log is handed to the dispatcher once, in the order of the log, because a
message may ask for a refresh. What a refresh writes is handed over in the next round.
-/

set_option autoImplicit false

namespace StationScript

/-- Hands the queued changes of a station to the scripts of their devices. -/
def Dispatcher.deliver {engine : Engine} (d : Dispatcher engine) (station : StationRef) :
    Dispatcher engine :=
  let (plant, changes) := d.host.plant.takePending station
  changes.foldl (fun d change => d.onSignalChanged change.device change.signal)
    (d.modifyHost fun host => { host with plant })

namespace Simulation

variable {engine : Engine}

def devices (s : Simulation engine) : List DeviceRef := s.host.plant.deviceRefs s.station

def mapDispatcher (s : Simulation engine) (change : Dispatcher engine → Dispatcher engine) :
    Simulation engine :=
  { s with dispatcher := change s.dispatcher }

def mapHost (s : Simulation engine) (change : Host → Host) : Simulation engine :=
  s.mapDispatcher fun d => d.modifyHost change

/-- Hands over all messages, round by round until nothing is fresh. -/
def pump (s : Simulation engine) : Simulation engine :=
  if s.fresh = [] then s else s.round.pump
termination_by s.unsettled
decreasing_by exact unsettled_round_lt ‹_›

/-- Loads the script of a device that has one. -/
def loadScript (s : Simulation engine) (built : BuiltDevice) : Simulation engine :=
  match built.script with
  | none => s
  | some path =>
    (s.mapHost fun host => host.setScriptPath built.device path).mapDispatcher fun d =>
      d.onScriptPathChanged built.device

/-- Attaches every device of a station that was just built, and then loads the scripts. -/
def launch (built : BuiltStation) (files : Files) (config : ScriptConfig)
    (arrival : Nat → Nat) (order : Nat → Listing) : Simulation engine :=
  let host : Host := { plant := built.plant, files, logPrefix := config.logPrefix }
  let attached : Dispatcher engine :=
    built.devices.foldl (fun d b => d.attach b.device) (Dispatcher.new host config)
  built.devices.foldl loadScript
    { dispatcher := attached, station := built.station, arrival, order }

/-- The simulation of a station that was just built. -/
def start (built : BuiltStation) (files : Files) (config : ScriptConfig)
    (arrival : Nat → Nat) (order : Nat → Listing := fun _ => .registered) : Simulation engine :=
  (launch built files config arrival order).pump

/-- The simulation of the station that a file describes. -/
def ofFile (file : StationFile) (ids : Nat → DeviceId) (files : Files) (config : ScriptConfig)
    (arrival : Nat → Nat) (order : Nat → Listing := fun _ => .registered) :
    Except StationFileError (Simulation engine) :=
  (file.build ids).map fun built => start built files config arrival order

/-- One device takes its step; then the changes that its connections brought are delivered. -/
def stepDevice (time : Float) (s : Simulation engine) (device : DeviceRef) : Simulation engine :=
  s.mapDispatcher fun d => (d.onSimulationStep device time).deliver s.station

/-- The time of a step, and the one that it takes for the time of the step before it. -/
structure StepStamp where
  previous : Float
  time : Float

/-- The stamp of the next step. The devices are told the time; `previous` is only traced. -/
def stamp (s : Simulation engine) (stepMs : Float) : StepStamp where
  previous := Binary64.ofInt s.steps * stepMs
  time := Binary64.ofInt (s.steps + 1 : Nat) * stepMs

/-- The clock moves on. -/
def tick (s : Simulation engine) (stepMs : Float) : Simulation engine :=
  { s with steps := s.steps + 1 }.mapHost fun host =>
    { host with clock := { host.clock with time := (s.stamp stepMs).time } }

/-- Every device takes a step at the time of the clock. -/
def stepDevices (s : Simulation engine) : Simulation engine :=
  s.devices.foldl (stepDevice s.host.clock.time) s

/-- The clock moves on and every device takes a step. -/
def step (s : Simulation engine) (stepMs : Float) : Simulation engine :=
  (s.tick stepMs).stepDevices.pump

def setState (s : Simulation engine) (state : RunState) : Simulation engine :=
  s.mapHost fun host => { host with clock := { host.clock with state } }

def stepTimes (stepMs : Float) : Nat → Simulation engine → Simulation engine
  | 0, s => s
  | n + 1, s => stepTimes stepMs n (s.step stepMs)

/-- So many steps, during which the clock is running. -/
def run (s : Simulation engine) (count : Nat) (stepMs : Float) : Simulation engine :=
  (stepTimes stepMs count (s.setState .running)).setState .stopped

/-- A message comes into the log from outside. -/
def announce (s : Simulation engine) (text : String) : Simulation engine :=
  s.mapHost fun host => { host with log := host.log.add .information text }

def hostMessage (s : Simulation engine) (text : String) : Simulation engine :=
  (s.announce text).pump

/-- The state of the session of the first device of that name. -/
def sessionState? (s : Simulation engine) (name : String) : Option SessionState :=
  match s.host.plant.deviceByName? s.station name with
  | none => none
  | some device => s.dispatcher.sessionState? (s.host.device device).id

end Simulation

end StationScript
