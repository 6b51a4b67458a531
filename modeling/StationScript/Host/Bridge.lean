import StationScript.Host.Basic
import StationScript.Script.Run

/-!
The functions a script can call on its host.

A call goes through three stages: its arguments are converted, the device's id is resolved, and the
body runs. A failed conversion raises an error and changes nothing. A failed resolution is logged,
asks for the script to be closed, and returns the function's neutral result.
-/

set_option autoImplicit false

namespace StationScript

/-- The converted arguments of a call. -/
inductive Request where
  | setStatus (status : String)
  | addLog (message : String)
  | clearSignals
  | addSignal (name kind : String)
  | getSignal (name : String)
  | setSignal (name : String) (value : Float)
  | iif (condition yes no : Value)
  | getLastSimulationTime
  | addIoConnection (sourceObject sourceSignal targetObject targetSignal : String)
      (allowCycle : Bool)

namespace Request

/-- The argument at a position counted from zero; a missing one is nil. -/
def argument (arguments : List Value) (index : Nat) : Value := arguments.getD index .nil

/-- Text, or a number by its text. -/
def textAt (arguments : List Value) (index : Nat) : Except ArgumentFault String :=
  let value := argument arguments index
  match value.toBytes? with
  | none => .error ⟨index + 1, .notText value.hostTypeName⟩
  | some bytes =>
    match Utf8.decode bytes with
    | .ok text => .ok text
    | .error fault => .error ⟨index + 1, .malformedText fault⟩

/-- A number, or text that holds a numeral. -/
def numberAt (arguments : List Value) (index : Nat) : Except ArgumentFault Float :=
  let value := argument arguments index
  match value.toNumber? with
  | none => .error ⟨index + 1, .notNumber value.hostTypeName⟩
  | some number => .ok number.toFloat

/-- Anything but the value false allows a cycle. -/
def allowsCycle : Value → Bool
  | .boolean b => b
  | _ => true

/-- Converts the arguments from the first to the last. Surplus ones are ignored. -/
def ofArguments (arguments : List Value) : HostFunction → Except ArgumentFault Request
  | .setStatus => return .setStatus (← textAt arguments 0)
  | .addLog => return .addLog (← textAt arguments 0)
  | .clearSignals => return .clearSignals
  | .addSignal => do
    let name ← textAt arguments 0
    return .addSignal name (← textAt arguments 1)
  | .getSignal => return .getSignal (← textAt arguments 0)
  | .setSignal => do
    let name ← textAt arguments 0
    return .setSignal name (← numberAt arguments 1)
  | .iif =>
    return .iif (argument arguments 0) (argument arguments 1) (argument arguments 2)
  | .getLastSimulationTime => return .getLastSimulationTime
  | .addIoConnection => do
    let sourceObject ← textAt arguments 0
    let sourceSignal ← textAt arguments 1
    let targetObject ← textAt arguments 2
    let targetSignal ← textAt arguments 3
    return .addIoConnection sourceObject sourceSignal targetObject targetSignal
      (allowsCycle (argument arguments 4))

end Request

namespace HostFunction

/-- The result when the device cannot be resolved. -/
def neutral : HostFunction → List Value
  | setStatus | addLog | clearSignals | addSignal | setSignal => []
  | getSignal => [.nil, .nil]
  | iif => [.nil]
  | getLastSimulationTime => [.ofFloat neverSimulated, .ofFloat 0.0, .integer 0]
  | addIoConnection => [.boolean false]

end HostFunction

namespace Host

def setStatusOf (host : Host) (device : DeviceRef) (status : String) : Host :=
  (host.info ("Lua script set status of " ++ host.nameOf device ++ " to " ++ status)).setStatus
    device status

/-- Removes every signal but the control signal. -/
def clearSignalsOf (host : Host) (device : DeviceRef) : Host :=
  let cleared := host.modifyPlant fun p =>
    p.modifySignals device fun store => store.retain fun s => s.name = controlSignal
  (cleared.info ("Lua script clear all signals of " ++ host.nameOf device)).setStatus
    device "Cleared"

/-- Adds a read-only signal unless the name is taken. -/
def addSignalTo (host : Host) (device : DeviceRef) (name kind : String) : Host :=
  let signal : Signal := { name, kind := SignalKind.parseLenient kind, readOnly := true }
  let added := !(host.device device).signals.contains name
  let extended := host.modifyPlant fun p => p.modifySignals device fun store => (store.add signal).1
  let text :=
    if added then "Lua script adding signal " ++ name ++ " to " ++ host.nameOf device
    else "Lua script want to add already existing signal " ++ name ++ " to " ++
      host.nameOf device ++ ". Check your script file."
  (extended.info text).setStatus device "Signal Added"

/-- The signal's value, or nil and a message. -/
def signalValue (host : Host) (device : DeviceRef) (name : String) : Host × List Value :=
  match (host.device device).signals.value? name with
  | some value => (host, [.ofFloat value, .nil])
  | none =>
    (host.warn ("Lua script get signal value of unknown signal named: " ++ name ++
      ". Check your script file."), [.nil, .ofText ("no such signal: " ++ name)])

def setSignalOf (host : Host) (device : DeviceRef) (name : String) (value : Float) : Host :=
  if (host.device device).signals.contains name then
    host.modifyPlant fun p => p.modifySignals device fun store => (store.set? name value).1
  else
    host.warn ("Lua script set signal value of unknown signal named: " ++ name ++
      ". Check your script file.")

/-- One of two values by a boolean; any other condition is reported. -/
def choose (host : Host) (device : DeviceRef) (condition yes no : Value) : Host × List Value :=
  match condition with
  | .boolean true => (host, [yes])
  | .boolean false => (host, [no])
  | other =>
    (host.warn (host.nameOf device ++
      " Lua script called iif with a non-boolean first parameter (" ++
      other.hostTypeName ++ "). Check your script file."), [.nil])

/-- The device's last step time, the clock's time and the code of its run state. -/
def simulationTime (host : Host) (device : DeviceRef) : List Value :=
  [.ofFloat (host.times.last (host.device device).id), .ofFloat host.clock.time,
    .integer (Int64.ofNat host.clock.state.code)]

/-- An end of a connection: an empty name stands for the calling device, which always has I/O
signals. -/
def endpoint (host : Host) (station : StationRef) (device : DeviceRef) (name : String) :
    String × Option ObjectInfo :=
  if name = "" then (host.nameOf device, some ⟨host.nameOf device, true⟩)
  else (name, host.plant.findObject? station name)

/-- Adds a connection between two devices of the caller's station, unless one of them is missing or
a part, or the same two signals are connected already. -/
def connect (host : Host) (device : DeviceRef) (station : StationRef)
    (sourceObject sourceSignal targetObject targetSignal : String) (allowCycle : Bool) :
    Host × Bool :=
  let name := host.nameOf device
  let (sourceName, source) := host.endpoint station device sourceObject
  let (targetName, target) := host.endpoint station device targetObject
  let missing (host : Host) (object role : String) : Host :=
    host.warn (name ++ ": Failed to find " ++ object ++ " as " ++ role ++
      " to create new connection.")
  match source, target with
  | none, none => (missing (missing host sourceName "source") targetName "target", false)
  | none, some _ => (missing host sourceName "source", false)
  | some _, none => (missing host targetName "target", false)
  | some source, some target =>
    match [source, target].find? fun o => !o.supportsConnections with
    | some part =>
      (host.warn (name ++ ": " ++ part.name ++ " should be an object with I/O signals."), false)
    | none =>
      let connection : Connection :=
        ⟨sourceName, sourceSignal, targetName, targetSignal, allowCycle⟩
      if (host.plant.connections station).any fun c => c.sameEndpoints connection then
        (host.warn (name ++ ": Failed to create connection from " ++ sourceName ++ "." ++
          sourceSignal ++ " to " ++ targetName ++ "." ++ targetSignal ++
          ", because it already exists."), false)
      else (host.modifyPlant fun p => p.addConnection station connection, true)

/-- The body of a function, for the resolved device. -/
def perform (host : Host) (device : DeviceRef) : Request → Host × List Value
  | .setStatus status => (host.setStatusOf device status, [])
  | .addLog message => (host.info (host.nameOf device ++ ":" ++ message), [])
  | .clearSignals => (host.clearSignalsOf device, [])
  | .addSignal name kind => (host.addSignalTo device name kind, [])
  | .getSignal name => host.signalValue device name
  | .setSignal name value => (host.setSignalOf device name value, [])
  | .iif condition yes no => host.choose device condition yes no
  | .getLastSimulationTime => (host, host.simulationTime device)
  | .addIoConnection sourceObject sourceSignal targetObject targetSignal allowCycle =>
    match host.plant.stationOf? device with
    | none => (host, [.boolean false])
    | some station =>
      let (host, added) := host.connect device station sourceObject sourceSignal targetObject
        targetSignal allowCycle
      (host, [.boolean added])

/-- What a call leaves behind: the host, the reply, and whether the script is to be closed. -/
structure Answer where
  host : Host
  reply : Reply
  closing : Bool

/-- Answers the call of a function by the script that is bound to a device id. -/
def answer (host : Host) (id : DeviceId) (function : HostFunction) (arguments : List Value) :
    Answer :=
  match Request.ofArguments arguments function with
  | .error fault => ⟨host, .error fault, false⟩
  | .ok request =>
    match host.resolve id with
    | (host, some device) =>
      let (host, results) := host.perform device request
      ⟨host, .ok results, false⟩
    | (host, none) =>
      ⟨host.error ("Lua script " ++ function.action ++ " of unknown component. Closing it."),
        .ok function.neutral, true⟩

/-- Plays a run to its end. The flag collects whether some call asked for the script to be
closed. -/
def play {α : Type} (id : DeviceId) : Run α → Host → Bool → Host × Bool × α
  | .done a, host, closing => (host, closing, a)
  | .call function arguments resume, host, closing =>
    let answer := host.answer id function arguments
    play id (resume answer.reply) answer.host (closing || answer.closing)

end Host

end StationScript
