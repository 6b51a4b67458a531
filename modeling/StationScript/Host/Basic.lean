import StationScript.Station.Log
import StationScript.Station.Clock
import StationScript.Host.Entries
import StationScript.Host.Files

/-!
The host: everything that scripts and events can read or change outside a script's own memory.

The registry maps device ids to devices. Nobody reports that a device has gone, so every access
except `unregister` first sweeps out the entries whose device is no longer tracked, and says so in
the log.
-/

set_option autoImplicit false

namespace StationScript

/-- Registered devices by id, in the order of registration. -/
structure Registry where
  entries : List (DeviceId × DeviceRef) := []
  deriving Repr, DecidableEq, Inhabited

namespace Registry

def get? (registry : Registry) (id : DeviceId) : Option DeviceRef := registry.entries.lookup id

def erase (registry : Registry) (id : DeviceId) : Registry := ⟨Entries.erase registry.entries id⟩

/-- Binds the id to the device; an id that is present keeps its place. -/
def insert (registry : Registry) (id : DeviceId) (device : DeviceRef) : Registry :=
  ⟨Entries.put registry.entries id device⟩

def devices (registry : Registry) : List DeviceRef := registry.entries.map Prod.snd

def size (registry : Registry) : Nat := registry.entries.length

end Registry

/-- An order in which the registered devices are enumerated. The registry is a hash map, so that it
may be any. -/
structure Listing where
  arrange : List DeviceRef → List DeviceRef
  perm : ∀ devices, (arrange devices).Perm devices

/-- The order of registration. -/
def Listing.registered : Listing := ⟨id, .refl⟩

/-- The time of each device's last simulation step. -/
structure SimulationTimes where
  entries : List (DeviceId × Float) := []
  deriving Repr, Inhabited

/-- Reported for a device that was never simulated. -/
def neverSimulated : Float := -1.0

namespace SimulationTimes

def forget (times : SimulationTimes) (id : DeviceId) : SimulationTimes :=
  ⟨Entries.erase times.entries id⟩

def record (times : SimulationTimes) (id : DeviceId) (time : Float) : SimulationTimes :=
  ⟨Entries.put times.entries id time⟩

def last (times : SimulationTimes) (id : DeviceId) : Float :=
  (times.entries.lookup id).getD neverSimulated

end SimulationTimes

structure Host where
  plant : Plant := {}
  files : Files := Files.none
  clock : Clock := {}
  log : Log := {}
  /-- Starts every message the host writes on behalf of scripts. -/
  logPrefix : String
  registry : Registry := {}
  times : SimulationTimes := {}
  deriving Inhabited

namespace Host

/-- A text as it stands in a message of the host's own. -/
def prefixed (host : Host) (text : String) : String := host.logPrefix ++ ": " ++ text

/-- The text starts like every message of the host's own. -/
def owns (host : Host) (text : String) : Bool := host.logPrefix.toList.isPrefixOf text.toList

def report (host : Host) (severity : Severity) (text : String) : Host :=
  { host with log := host.log.add severity (host.prefixed text) }

def info (host : Host) (text : String) : Host := host.report .information text

def warn (host : Host) (text : String) : Host := host.report .warning text

def error (host : Host) (text : String) : Host := host.report .error text

def device (host : Host) (ref : DeviceRef) : Device := host.plant.device ref

/-- The name of a device as it stands in messages. -/
def nameOf (host : Host) (ref : DeviceRef) : String := (host.device ref).name

def modifyPlant (host : Host) (change : Plant → Plant) : Host :=
  { host with plant := change host.plant }

def setStatus (host : Host) (ref : DeviceRef) (status : String) : Host :=
  host.modifyPlant fun p => p.setStatus ref status

def setScriptPath (host : Host) (ref : DeviceRef) (path : String) : Host :=
  host.modifyPlant fun p => p.setScriptPath ref path

def evictionText (name : String) : String :=
  "Remove old component " ++ name ++ " from cache. Scripts only work with a named station."

/-- The registered devices that are no longer tracked. -/
def stale (host : Host) : List DeviceRef :=
  host.registry.devices.filter fun d => !host.plant.tracked d

/-- The registry without the devices that are no longer tracked. -/
def liveRegistry (host : Host) : Registry :=
  ⟨host.registry.entries.filter fun entry => host.plant.tracked entry.2⟩

/-- Evicts every registered device that is not tracked, with one message each. -/
def sweep (host : Host) : Host :=
  (host.stale.map fun d => evictionText (host.nameOf d)).foldl info
    { host with registry := host.liveRegistry }

/-- Binds the device's id to this very device. -/
def register (host : Host) (ref : DeviceRef) : Host :=
  let host := host.sweep
  { host with registry := host.registry.insert (host.device ref).id ref }

/-- The live device of that id. -/
def resolve (host : Host) (id : DeviceId) : Host × Option DeviceRef :=
  let host := host.sweep
  (host, host.registry.get? id)

/-- Every live device, in the given order. -/
def liveDevices (host : Host) (order : Listing := .registered) : Host × List DeviceRef :=
  let host := host.sweep
  (host, order.arrange host.registry.devices)

def liveCount (host : Host) : Host × Nat :=
  let host := host.sweep
  (host, host.registry.size)

def noneLive (host : Host) : Host × Bool :=
  let (host, count) := host.liveCount
  (host, count == 0)

/-- Removes an entry whether or not its device is tracked. -/
def unregister (host : Host) (id : DeviceId) : Host × Option DeviceRef :=
  ({ host with registry := host.registry.erase id }, host.registry.get? id)

def recordTime (host : Host) (id : DeviceId) (time : Float) : Host :=
  { host with times := host.times.record id time }

def forgetTime (host : Host) (id : DeviceId) : Host :=
  { host with times := host.times.forget id }

end Host

end StationScript
