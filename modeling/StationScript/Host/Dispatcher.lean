import StationScript.Config.Basic
import StationScript.Host.Chooser
import StationScript.Host.Session

/-!
Events of the host and what they mean for scripts.

Every event of a device registers the device first, so that the functions its script calls resolve
to it. A script is loaded when its path changes, when the user chooses one, and otherwise only if
the device has no session yet; a session that failed or was closed stays as it is.
-/

set_option autoImplicit false

namespace StationScript

/-- Called when an input signal changes. -/
def signalChangedEntry : String := "on_io_signal_value_changed"

/-- Called in every simulation step. -/
def simulationStepEntry : String := "on_simulation_step"

/-- The status of a device whose script was loaded. -/
def loadedStatus : String := "File loaded"

structure Dispatcher (engine : Engine) where
  host : Host
  config : ScriptConfig
  chooser : Chooser := .none
  /-- Questions put to the chooser, the newest first. -/
  asked : List Question := []
  sessions : List (DeviceId × Session engine) := []
  /-- When the last refresh began, in nanoseconds. -/
  lastRefresh : Option Nat := none

namespace Dispatcher

variable {engine : Engine}

/-- A dispatcher over a host that uses the configured prefix. Nothing is registered yet. -/
def new (host : Host) (config : ScriptConfig) : Dispatcher engine :=
  { host := { host with logPrefix := config.logPrefix, registry := {}, times := {} }, config }

def modifyHost (d : Dispatcher engine) (change : Host → Host) : Dispatcher engine :=
  { d with host := change d.host }

def session? (d : Dispatcher engine) (id : DeviceId) : Option (Session engine) :=
  d.sessions.lookup id

/-- Stores a session under its device's id. -/
def putSession (d : Dispatcher engine) (id : DeviceId) (session : Session engine) :
    Dispatcher engine :=
  { d with sessions := Entries.put d.sessions id session }

/-- The state of the device's session, if it ever had one. -/
def sessionState? (d : Dispatcher engine) (id : DeviceId) : Option SessionState :=
  (d.session? id).map Session.state

/-- The number of sessions that hold a machine. -/
def liveMachines (d : Dispatcher engine) : Nat :=
  d.sessions.countP fun entry => entry.2.isLive

/-- The warnings about one connection that refuses cycles: one for each end that is the device. -/
def acyclicTexts (name : String) (c : Connection) : List String :=
  (if c.sourceObject = name then
    [name ++ ": Connection from " ++ c.sourceSignal ++ " to " ++ c.targetObject ++ "." ++
      c.targetSignal ++ " should allow cyclic connection."] else []) ++
  (if c.targetObject = name then
    [name ++ ": Connection from " ++ c.sourceObject ++ "." ++ c.sourceSignal ++ " to " ++
      c.targetSignal ++ " should allow cyclic connection."] else [])

theorem acyclicTexts_of_not_touches {name : String} {c : Connection}
    (apart : c.touches name = false) : acyclicTexts name c = [] := by
  have ends : c.sourceObject ≠ name ∧ c.targetObject ≠ name := by
    simpa [Connection.touches] using apart
  unfold acyclicTexts
  rw [if_neg ends.1, if_neg ends.2, List.append_nil]

/-- Looking only at the connections that touch the device gives the same warnings. -/
theorem acyclicTexts_of_touching (name : String) (connections : List Connection) :
    (connections.filter fun c => c.touches name).flatMap (acyclicTexts name) =
      connections.flatMap (acyclicTexts name) := by
  induction connections with
  | nil => rfl
  | cons c rest ih =>
    rw [List.flatMap_cons, ← ih]
    by_cases near : c.touches name
    · simp [near]
    · simp [near, acyclicTexts_of_not_touches]

/-- Warns about connections at the device that refuse cycles. -/
def warnAcyclic (d : Dispatcher engine) (device : DeviceRef) : Dispatcher engine :=
  if !d.config.warnAcyclic then d
  else
    match d.host.plant.stationOf? device with
    | none => d
    | some station =>
      let refusing := (d.host.plant.connections station).filter fun c => !c.allowCycle
      let texts := refusing.flatMap (acyclicTexts (d.host.nameOf device))
      d.modifyHost fun host => texts.foldl Host.warn host

/-- The session of an id, new if there was none. -/
def sessionFor (d : Dispatcher engine) (id : DeviceId) : Session engine :=
  (d.session? id).getD (.new id)

/-- Shows a finished load at its device. A failure is logged, and most failures clear the path. -/
def afterLoad (host : Host) (device : DeviceRef) (state : SessionState) :
    Except ScriptError Unit → Host
  | .ok _ => if state = .ready then host.setStatus device loadedStatus else host
  | .error e =>
    let host := host.error (host.nameOf device ++ ": " ++ e.message ++ ".")
    if e.clearsPath then (host.setScriptPath device "").setStatus device e.status else host

/-- Loads the device's stored script into a fresh machine. -/
def reload (d : Dispatcher engine) (device : DeviceRef) : Dispatcher engine :=
  let id := (d.host.device device).id
  let loaded := (d.sessionFor id).load d.host (d.host.device device).scriptPath
  let host := afterLoad loaded.2.1 device loaded.1.state loaded.2.2
  ({ d with host }.putSession id loaded.1).warnAcyclic device

/-- Loads the device's script if it has no session yet. -/
def ensure (d : Dispatcher engine) (device : DeviceRef) : Dispatcher engine :=
  if (d.session? (d.host.device device).id).isSome then d else d.reload device

/-- Logs the failure of an entry point. -/
def afterInvoke (host : Host) (device : DeviceRef) (entry : String) : EntryOutcome → Host
  | .failed message =>
    host.error (host.nameOf device ++ ": " ++ entry ++ " returns: " ++ message ++ ".")
  | _ => host

/-- Calls an entry point of the device's script. -/
def dispatch (d : Dispatcher engine) (device : DeviceRef) (entry : String)
    (arguments : List Value) : Dispatcher engine :=
  let id := (d.host.device device).id
  match d.session? id with
  | none => d
  | some session =>
    let invoked := session.invoke d.host entry arguments
    { d with host := afterInvoke invoked.2.1 device entry invoked.2.2 }.putSession id invoked.1

def register (d : Dispatcher engine) (device : DeviceRef) : Dispatcher engine :=
  d.modifyHost fun host => host.register device

/-- The host loaded a device. -/
def attach (d : Dispatcher engine) (device : DeviceRef) : Dispatcher engine := d.register device

/-- The device's stored path was changed. -/
def onScriptPathChanged (d : Dispatcher engine) (device : DeviceRef) : Dispatcher engine :=
  (d.register device).reload device

/-- Asks the user for a script and loads the one chosen. -/
def chooseScript (d : Dispatcher engine) (device : DeviceRef) : Dispatcher engine :=
  let current := d.host.device device
  let chosen := d.chooser.select d.asked current.name current.scriptPath
  let d := { d with asked := chosen.1 }
  match chosen.2 with
  | .unchanged => d
  | .reopen => d.reload device
  | .path path => (d.modifyHost fun host => host.setScriptPath device path).reload device

/-- A signal of the device changed. Setting the control signal opens the chooser; changes of inputs
go to the script, changes of outputs nowhere. -/
def onSignalChanged (d : Dispatcher engine) (device : DeviceRef) (signal : String) :
    Dispatcher engine :=
  let d := d.register device
  match (d.host.device device).signals.get? signal with
  | none => d
  | some s =>
    if signal = controlSignal then
      if s.value == 1.0 then d.chooseScript device else d
    else if s.kind.isInput then
      (d.ensure device).dispatch device signalChangedEntry [.ofText signal, .ofFloat s.value]
    else d

/-- A step of a device begins with the connections into it. Its time is recorded before any script
runs. -/
def beginStep (d : Dispatcher engine) (device : DeviceRef) (time : Float) : Dispatcher engine :=
  let d := d.modifyHost fun host =>
    match host.plant.stationOf? device with
    | none => host
    | some station => host.modifyPlant fun p => p.propagate station (p.device device).name
  d.modifyHost fun host => host.recordTime (host.device device).id time

/-- The device takes part in a simulation step. -/
def onSimulationStep (d : Dispatcher engine) (device : DeviceRef) (time : Float) :
    Dispatcher engine :=
  (((d.beginStep device time).register device).ensure device).dispatch device simulationStepEntry []

/-- Calls the signal handler without a signal. -/
def refresh (d : Dispatcher engine) (device : DeviceRef) : Dispatcher engine :=
  (d.ensure device).dispatch device signalChangedEntry [.ofText "", .ofFloat 0.0]

/-- The library the device came from was replaced. -/
def onLibraryReplaced (d : Dispatcher engine) (device : DeviceRef) : Dispatcher engine :=
  (d.register device).refresh device

/-- Refreshes one device of a broadcast and says so. -/
def refreshLogged (d : Dispatcher engine) (device : DeviceRef) : Dispatcher engine :=
  (d.refresh device).modifyHost fun host => host.info ("Updating component " ++ host.nameOf device)

/-- Refreshes the devices in the given order. -/
def broadcast (d : Dispatcher engine) (devices : List DeviceRef) : Dispatcher engine :=
  devices.foldl refreshLogged d

/-- A message asks for a refresh if it is not one of the host's own and holds the marker. -/
def asksForRefresh (d : Dispatcher engine) (text : String) : Bool :=
  !d.host.owns text && d.config.refreshMarker ≠ "" &&
    occursIn d.config.refreshMarker.toList text.toList

/-- The debounce window of the last refresh is still open at `now`. -/
def withinWindow (d : Dispatcher engine) (now : Nat) : Bool :=
  match d.lastRefresh with
  | none => false
  | some last => now - last < d.config.refreshWindow

/-- A message appeared in the host log at instant `now`, in nanoseconds; the flag says whether it
led to a refresh, which goes through the devices in the given order. -/
def onLogMessage (d : Dispatcher engine) (now : Nat) (text : String)
    (order : Listing := .registered) : Dispatcher engine × Bool :=
  if !d.asksForRefresh text || d.withinWindow now then (d, false)
  else
    let (host, devices) := d.host.liveDevices order
    let d := { d with host }.broadcast devices
    ({ d with lastRefresh := some now }, true)

/-- The machine of an id's session is given up. -/
def releaseMachine (d : Dispatcher engine) (id : DeviceId) : Dispatcher engine :=
  match d.session? id with
  | none => d
  | some session => d.modifyHost fun host => (session.release host).2

/-- Forgets everything held for a device id. -/
def forget (d : Dispatcher engine) (id : DeviceId) : Dispatcher engine :=
  let d := { d with sessions := Entries.erase d.sessions id }
  d.modifyHost fun host => ((host.forgetTime id).unregister id).1

/-- Ends the session of a device id and forgets everything held for the id. While the machine is
given up, the id's time is still recorded and its device still registered. -/
def teardown (d : Dispatcher engine) (id : DeviceId) : Dispatcher engine :=
  (d.releaseMachine id).forget id

end Dispatcher

end StationScript
