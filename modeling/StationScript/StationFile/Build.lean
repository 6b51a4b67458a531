import StationScript.Station.Plant
import StationScript.StationFile.Basic

/-!
Making the station that a file describes.

Object names must be distinct and the kinds of all signals known; otherwise nothing is made.
Scripts are located here and not loaded.
-/

set_option autoImplicit false

namespace StationScript

/-- A device with the path of its script. -/
structure BuiltDevice where
  device : DeviceRef
  script : Option String
  deriving Repr, DecidableEq, Inhabited

structure BuiltStation where
  plant : Plant
  station : StationRef
  /-- In the order of the file. -/
  devices : List BuiltDevice
  deriving Inhabited

/-- The signal of an entry, with a value that its kind can hold. -/
def SignalEntry.signal? (entry : SignalEntry) : Option Signal :=
  (SignalKind.parse? entry.kind).map fun kind =>
    { name := entry.name, kind, value := kind.coerce entry.value }

/-- All signals of an entry, or the first unknown kind. -/
def DeviceEntry.builtSignals (entry : DeviceEntry) : Except StationFileError (List Signal) :=
  entry.signals.mapM fun s =>
    match s.signal? with
    | some signal => .ok signal
    | none => .error (.signalKind entry.name s.kind)

/-- Adds signals behind the control signal; of two with one name the first stays. -/
def SignalStore.ofSignals (signals : List Signal) : SignalStore :=
  signals.foldl (fun store signal => (store.add signal).1) .initial

/-- The first name that occurred before, given the names before. -/
def firstDuplicate? (before : List String) : List String → Option String
  | [] => none
  | name :: rest =>
    if name ∈ before then some name else firstDuplicate? (name :: before) rest

namespace StationFile

/-- The names of all objects: devices, then parts. -/
def objectNames (file : StationFile) : List String :=
  file.devices.map DeviceEntry.name ++ file.parts

/-- The path of a device's script. -/
def scriptPath? (file : StationFile) (entry : DeviceEntry) : Option String :=
  entry.script.map (Path.join file.baseDirectory)

/-- Adds a device with its signals; `ids` gives the id by the place of the device. -/
def addDevice (file : StationFile) (ids : Nat → DeviceId) (built : BuiltStation)
    (entry : DeviceEntry) (signals : List Signal) : BuiltStation :=
  let (plant, device) :=
    built.plant.addDevice built.station (ids built.plant.devices.size) entry.name
  { built with
    plant := plant.modifySignals device fun _ => .ofSignals signals
    devices := built.devices ++ [⟨device, file.scriptPath? entry⟩] }

/-- The station of the file, in a plant of its own. -/
def build (file : StationFile) (ids : Nat → DeviceId) :
    Except StationFileError BuiltStation := do
  match firstDuplicate? [] file.objectNames with
  | some name => .error (.duplicateObject name)
  | none =>
    let signals ← file.devices.mapM DeviceEntry.builtSignals
    let (plant, station) := Plant.empty.addStation file.name
    let built := (file.devices.zip signals).foldl
      (fun built (entry, signals) => file.addDevice ids built entry signals)
      { plant, station, devices := [] }
    let plant := file.parts.foldl (fun plant name => plant.addPart station name) built.plant
    let plant := file.connections.foldl (fun plant c => plant.addConnection station c) plant
    return { built with plant }

end StationFile

end StationScript
