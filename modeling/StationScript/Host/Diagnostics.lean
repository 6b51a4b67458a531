import StationScript.Host.Dispatcher
import StationScript.Text.Quoted

/-!
One-line descriptions of the host's parts for diagnostics.

A description names a part and some of its fields; two dots say that there are more.
-/

set_option autoImplicit false

namespace StationScript.Diagnostics

/-- A part with all its fields. -/
def whole (name : String) (fields : List (String × String)) : String :=
  name ++ " \x7b " ++ ", ".intercalate (fields.map fun (field, text) => field ++ ": " ++ text) ++
    " \x7d"

/-- A part with some of its fields. -/
def partly (name : String) (fields : List (String × String)) : String :=
  name ++ " \x7b " ++
    String.join (fields.map fun (field, text) => field ++ ": " ++ text ++ ", ") ++ ".. \x7d"

def truth (b : Bool) : String := if b then "true" else "false"

def deviceId (id : DeviceId) : String := "DeviceId(" ++ Text.quoted id.text ++ ")"

def device (d : Device) : String :=
  partly "Device" [("id", deviceId d.id), ("name", Text.quoted d.name),
    ("status", Text.quoted d.status), ("script_path", Text.quoted d.scriptPath)]

def config (c : ScriptConfig) : String :=
  whole "ScriptConfig" [("log_prefix", Text.quoted c.logPrefix),
    ("refresh_marker", Text.quoted c.refreshMarker),
    ("refresh_debounce_ms", toString c.refreshDebounce.toNat),
    ("warn_acyclic_connections", truth c.warnAcyclic)]

def host (h : Host) : String := partly "HostServices" [("prefix", Text.quoted h.logPrefix)]

def session {engine : Engine} (s : Session engine) : String :=
  whole "InterpreterSession" [("device_id", deviceId s.id), ("state", s.state.label),
    ("live", truth s.isLive)]

/-- The instant of the last refresh is not written out. -/
def dispatcher {engine : Engine} (d : Dispatcher engine) : String :=
  partly "EventDispatcher" [("config", config d.config), ("sessions", toString d.sessions.length),
    ("last_refresh", if d.lastRefresh.isSome then "Some(..)" else "None")]

end StationScript.Diagnostics
