import StationScript.Host.Bridge

/-!
A device's script and its life cycle.

A session holds a machine exactly while it is ready. Loading gives up the machine before it and
ends unloaded (no path), ready, in error, or closed; a call that cannot resolve the device closes
the session whatever else the script does. A machine that is given up may still run what its script
has left for that moment.
-/

set_option autoImplicit false

namespace StationScript

inductive SessionState where
  /-- No script is configured. -/
  | unloaded
  /-- Reading, compiling or running the top level. -/
  | loading
  /-- The top level ran; functions can be invoked. -/
  | ready
  /-- The last load failed. -/
  | error
  /-- The device went away. -/
  | closed
  deriving Repr, DecidableEq, Inhabited

def SessionState.label : SessionState → String
  | .unloaded => "Unloaded"
  | .loading => "Loading"
  | .ready => "Ready"
  | .error => "Error"
  | .closed => "Closed"

/-- Why a script was not loaded. -/
inductive ScriptError where
  | fileAccess (path : String)
  | compile (message : String)
  | runtime (message : String)
  | unknownDevice (id : DeviceId)
  deriving Repr, DecidableEq

namespace ScriptError

def message : ScriptError → String
  | fileAccess path => "can't open file: " ++ path
  | compile text => "error when loading file: " ++ text
  | runtime text => "error when running main: " ++ text
  | unknownDevice id => "unknown component: " ++ id.text

/-- The stored path is cleared, so that the user notices and picks the file again. -/
def clearsPath : ScriptError → Bool
  | fileAccess _ | compile _ | runtime _ => true
  | unknownDevice _ => false

/-- Mending the script or the path and loading again can succeed. -/
def recoverable : ScriptError → Bool
  | unknownDevice _ => false
  | _ => true

/-- The status label of a device whose script failed to load. -/
def status : ScriptError → String
  | fileAccess _ => "Can't open file"
  | compile _ => "Load error"
  | runtime _ => "Run error"
  | unknownDevice _ => "Error"

end ScriptError

/-- How the dispatch of an entry point ended. -/
inductive EntryOutcome where
  /-- The session was not ready; nothing was called. -/
  | notReady
  | missing
  | completed
  /-- An error was raised or a value returned; the session stays ready. -/
  | failed (message : String)
  /-- The device could not be resolved; the session is closed. -/
  | closed
  deriving Repr, DecidableEq

structure Session (engine : Engine) where
  id : DeviceId
  state : SessionState := .unloaded
  machine : Option engine.Machine := none
  /-- Set by a call that could not resolve the device, until the run ends. -/
  closeRequested : Bool := false

namespace Session

variable {engine : Engine}

def new (id : DeviceId) : Session engine := { id }

/-- A machine is held. -/
def isLive (session : Session engine) : Bool := session.machine.isSome

/-- Gives the machine up. What it still runs then, it runs on behalf of the session. A request to
close that is made meanwhile comes to nothing, as the next load begins without one. -/
def release (session : Session engine) (host : Host) : Session engine × Host :=
  match session.machine with
  | none => (session, host)
  | some machine =>
    match host.play session.id (engine.release machine) session.closeRequested with
    | (host, closing, ()) => ({ session with machine := none, closeRequested := closing }, host)

/-- Enters the state of a session whose device went away. -/
def close (session : Session engine) : Session engine :=
  { session with machine := none, state := .closed }

/-- Ends a run that asked for the session to be closed: the machine it has left, if any, is given
up. -/
def shut (session : Session engine) (host : Host) (machine : Option engine.Machine) :
    Session engine × Host :=
  let released := { session with machine, closeRequested := false }.release host
  (released.1.close, released.2)

/-- Compiles and runs a program. A request to close wins over every other outcome. -/
def loadSource (session : Session engine) (host : Host) (source : String) :
    Session engine × Host × Except ScriptError Unit :=
  let released := session.release host
  let host := released.2
  let session := { released.1 with state := .loading, closeRequested := false }
  match engine.load session.id.text source with
  | .error message => ({ session with state := .error }, host, .error (.compile message))
  | .ok run =>
    match host.play session.id run false with
    | (host, true, result) =>
      let shut := session.shut host result.toOption
      (shut.1, shut.2, .error (.unknownDevice session.id))
    | (host, false, .ok machine) =>
      ({ session with machine := some machine, state := .ready }, host, .ok ())
    | (host, false, .error message) =>
      ({ session with state := .error }, host, .error (.runtime message))

/-- Loads the script at a path; an empty path leaves the session unloaded. The machine before it is
given up first. -/
def load (session : Session engine) (host : Host) (path : String) :
    Session engine × Host × Except ScriptError Unit :=
  let released := session.release host
  let session := released.1
  let host := released.2
  if path = "" then ({ session with state := .unloaded }, host, .ok ())
  else
    match host.files.readText path with
    | .error _ => ({ session with state := .error }, host, .error (.fileAccess path))
    | .ok source => session.loadSource host source

/-- What an invocation means for the session. -/
def outcomeOf : Invocation → EntryOutcome
  | .missing => .missing
  | .completed => .completed
  | .returned description => .failed description
  | .raised message => .failed message

/-- Calls a global function of a ready session. -/
def invoke (session : Session engine) (host : Host) (entry : String) (arguments : List Value) :
    Session engine × Host × EntryOutcome :=
  if session.state ≠ .ready then (session, host, .notReady)
  else
    match session.machine with
    | none => (session, host, .notReady)
    | some machine =>
      match host.play session.id (engine.invoke machine entry arguments) session.closeRequested with
      | (host, true, machine, _) =>
        let shut := session.shut host (some machine)
        (shut.1, shut.2, .closed)
      | (host, false, machine, invocation) =>
        ({ session with machine := some machine }, host, outcomeOf invocation)

end Session

end StationScript
