import StationScript.Simulation.Basic
import StationScript.Text.Json

/-!
What a simulation has come to, for reading and as a JSON document.
-/

set_option autoImplicit false

namespace StationScript

structure DeviceReport where
  name : String
  status : String
  script : String
  /-- None if the device never had a session. -/
  session : Option SessionState
  signals : List Signal

structure Report where
  station : String
  steps : Nat
  /-- The clock's time, in milliseconds. -/
  time : Float
  liveMachines : Nat
  /-- The number of connections. -/
  connections : Nat
  devices : List DeviceReport
  messages : List LogMessage

def Simulation.deviceReport {engine : Engine} (s : Simulation engine) (ref : DeviceRef) :
    DeviceReport :=
  let device := s.host.device ref
  { name := device.name
    status := device.status
    script := device.scriptPath
    session := s.dispatcher.sessionState? device.id
    signals := device.signals.signals }

def Simulation.report {engine : Engine} (s : Simulation engine) : Report :=
  { station := ((s.host.plant.station? s.station).map Station.name).getD ""
    steps := s.steps
    time := s.host.clock.time
    liveMachines := s.dispatcher.liveMachines
    connections := (s.host.plant.connections s.station).length
    devices := s.devices.map s.deviceReport
    messages := s.host.log.toList }

namespace Report

/-- Columns are twenty characters wide; a longer text takes the room it needs. -/
def column (text : String) : String :=
  text ++ String.ofList (List.replicate (20 - text.length) ' ')

def signalLine (s : Signal) : String :=
  "  " ++ column s.name ++ " " ++ column s.kind.name ++ " " ++ Decimal.positional s.value ++ "\n"

def deviceText (d : DeviceReport) : String :=
  "\n" ++ d.name ++ " [" ++ d.session.elim "none" SessionState.label ++ "] status: " ++ d.status ++
    "\n" ++ String.join (d.signals.map signalLine)

def messageLine (m : LogMessage) : String := "  [" ++ m.severity.tag ++ "] " ++ m.text ++ "\n"

/-- The report as it is shown to a reader; the log is left out if it is empty. -/
def text (r : Report) : String :=
  "Station " ++ r.station ++ s!" after {r.steps} step(s), t = " ++ Decimal.positional r.time ++
    s!" ms, {r.liveMachines} live interpreter(s), {r.connections} connection(s)\n" ++
    String.join (r.devices.map deviceText) ++
    (if r.messages = [] then "" else "\nLog:\n" ++ String.join (r.messages.map messageLine))

def signalJson (s : Signal) : Json :=
  .object [("name", .string s.name), ("kind", .string s.kind.label),
    ("value", .number (Decimal.json s.value))]

def deviceJson (d : DeviceReport) : Json :=
  .object [("name", .string d.name), ("status", .string d.status), ("script", .string d.script),
    ("session", d.session.elim .null fun state => .string state.label),
    ("signals", .array (d.signals.map signalJson))]

def messageJson (m : LogMessage) : Json :=
  .object [("severity", .string m.severity.label), ("text", .string m.text)]

def json (r : Report) : Json :=
  .object [("station", .string r.station), ("steps", .natural r.steps),
    ("time_ms", .number (Decimal.json r.time)), ("live_interpreters", .natural r.liveMachines),
    ("connections", .natural r.connections), ("devices", .array (r.devices.map deviceJson)),
    ("log", .array (r.messages.map messageJson))]

end Report

end StationScript
