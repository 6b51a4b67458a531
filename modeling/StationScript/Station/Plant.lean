import StationScript.Station.Signal
import StationScript.Station.Connection

/-!
Devices and stations.

A `Plant` holds every device and station by reference. A device's reference is its identity: two
devices may share an id or a name. A device names the station it was made for, but belongs to it
only while the station lists that very device; `tracked` is this condition together with the
station's having a name. `propagate` carries source values along the connections into one object.
-/

set_option autoImplicit false

namespace StationScript

/-- The key under which scripts and sessions know a device. -/
structure DeviceId where
  text : String
  deriving Repr, DecidableEq, Inhabited

/-- The identity of a device. -/
structure DeviceRef where
  index : Nat
  deriving Repr, DecidableEq, Inhabited

/-- The identity of a station. -/
structure StationRef where
  index : Nat
  deriving Repr, DecidableEq, Inhabited

structure Device where
  id : DeviceId
  name : String
  /-- The station the device was made for. -/
  station : Option StationRef
  signals : SignalStore := .initial
  status : String := ""
  scriptPath : String := ""
  deriving Repr, Inhabited

/-- What a station lists: devices, and parts without signals. -/
inductive StationObject where
  | device (ref : DeviceRef)
  | part (name : String)
  deriving Repr, DecidableEq, Inhabited

/-- An input whose value changed by propagation. -/
structure SignalChange where
  device : DeviceRef
  signal : String
  deriving Repr, DecidableEq, Inhabited

structure Station where
  name : String
  objects : List StationObject := []
  connections : List Connection := []
  /-- Changes not yet handed to the device's script, oldest first. -/
  pending : List SignalChange := []
  deriving Repr, Inhabited

/-- What a look-up by name tells about an object. -/
structure ObjectInfo where
  name : String
  supportsConnections : Bool
  deriving Repr, DecidableEq, Inhabited

/-- All devices ever made, and the stations; a dropped station leaves a gap. -/
structure Plant where
  devices : Array Device := #[]
  stations : Array (Option Station) := #[]
  deriving Repr, Inhabited

namespace Station

/-- The references of the listed devices, in order. -/
def deviceRefs (station : Station) : List DeviceRef :=
  station.objects.filterMap fun
    | .device ref => some ref
    | .part _ => none

end Station

namespace Plant

def empty : Plant := {}

def device (plant : Plant) (ref : DeviceRef) : Device := plant.devices.getD ref.index default

def station? (plant : Plant) (ref : StationRef) : Option Station :=
  plant.stations.getD ref.index none

def modifyDevice (plant : Plant) (ref : DeviceRef) (change : Device → Device) : Plant :=
  { plant with devices := plant.devices.modify ref.index change }

def modifyStation (plant : Plant) (ref : StationRef) (change : Station → Station) : Plant :=
  { plant with stations := plant.stations.modify ref.index (Option.map change) }

def modifySignals (plant : Plant) (ref : DeviceRef) (change : SignalStore → SignalStore) : Plant :=
  plant.modifyDevice ref fun d => { d with signals := change d.signals }

def setStatus (plant : Plant) (ref : DeviceRef) (status : String) : Plant :=
  plant.modifyDevice ref fun d => { d with status }

def setScriptPath (plant : Plant) (ref : DeviceRef) (scriptPath : String) : Plant :=
  plant.modifyDevice ref fun d => { d with scriptPath }

def addStation (plant : Plant) (name : String) : Plant × StationRef :=
  ({ plant with stations := plant.stations.push (some { name }) }, ⟨plant.stations.size⟩)

def dropStation (plant : Plant) (ref : StationRef) : Plant :=
  { plant with stations := plant.stations.modify ref.index fun _ => none }

def renameStation (plant : Plant) (ref : StationRef) (name : String) : Plant :=
  plant.modifyStation ref fun s => { s with name }

/-- Makes a device that no station lists. -/
def addStray (plant : Plant) (id : DeviceId) (name : String) (station : Option StationRef) :
    Plant × DeviceRef :=
  ({ plant with devices := plant.devices.push { id, name, station } }, ⟨plant.devices.size⟩)

def addObject (plant : Plant) (ref : StationRef) (object : StationObject) : Plant :=
  plant.modifyStation ref fun s => { s with objects := s.objects ++ [object] }

/-- Makes a device and lists it at the end of the station. -/
def addDevice (plant : Plant) (ref : StationRef) (id : DeviceId) (name : String) :
    Plant × DeviceRef :=
  let (plant, device) := plant.addStray id name (some ref)
  (plant.addObject ref (.device device), device)

def addPart (plant : Plant) (ref : StationRef) (name : String) : Plant :=
  plant.addObject ref (.part name)

def addConnection (plant : Plant) (ref : StationRef) (connection : Connection) : Plant :=
  plant.modifyStation ref fun s => { s with connections := s.connections ++ [connection] }

def objectName (plant : Plant) : StationObject → String
  | .device ref => (plant.device ref).name
  | .part name => name

/-- The listed devices of a station; a dropped station has none. -/
def deviceRefs (plant : Plant) (ref : StationRef) : List DeviceRef :=
  match plant.station? ref with
  | some s => s.deviceRefs
  | none => []

def connections (plant : Plant) (ref : StationRef) : List Connection :=
  match plant.station? ref with
  | some s => s.connections
  | none => []

/-- Takes the first object of that name off the list; the flag says whether there was one. -/
def removeObject (plant : Plant) (ref : StationRef) (name : String) : Plant × Bool :=
  match plant.station? ref with
  | none => (plant, false)
  | some s =>
    if s.objects.any fun o => plant.objectName o = name then
      (plant.modifyStation ref fun s =>
        { s with objects := s.objects.eraseP fun o => plant.objectName o = name }, true)
    else (plant, false)

/-- The first listed device of that id. -/
def deviceById? (plant : Plant) (ref : StationRef) (id : DeviceId) : Option DeviceRef :=
  (plant.deviceRefs ref).find? fun d => (plant.device d).id = id

/-- The first listed device of that name. -/
def deviceByName? (plant : Plant) (ref : StationRef) (name : String) : Option DeviceRef :=
  (plant.deviceRefs ref).find? fun d => (plant.device d).name = name

/-- The first listed object of that name; only devices take part in connections. -/
def findObject? (plant : Plant) (ref : StationRef) (name : String) : Option ObjectInfo :=
  match plant.station? ref with
  | none => none
  | some s =>
    (s.objects.find? fun o => plant.objectName o = name).map fun o =>
      { name := plant.objectName o
        supportsConnections := match o with
          | .device _ => true
          | .part _ => false }

/-- The station a device was made for, while it exists. -/
def stationOf? (plant : Plant) (ref : DeviceRef) : Option StationRef :=
  match (plant.device ref).station with
  | none => none
  | some s => if (plant.station? s).isSome then some s else none

/-- The device's station exists, has a name, and finds this very device under the device's id. -/
def tracked (plant : Plant) (ref : DeviceRef) : Bool :=
  match (plant.device ref).station with
  | none => false
  | some s =>
    match plant.station? s with
    | none => false
    | some station =>
      station.name ≠ "" && plant.deviceById? s (plant.device ref).id = some ref

/-- Empties the queue of changes and returns it. -/
def takePending (plant : Plant) (ref : StationRef) : Plant × List SignalChange :=
  match plant.station? ref with
  | none => (plant, [])
  | some s => (plant.modifyStation ref fun s => { s with pending := [] }, s.pending)

/-- The value at the source end of a connection. -/
def sourceValue? (plant : Plant) (ref : StationRef) (c : Connection) : Option Float :=
  match plant.deviceByName? ref c.sourceObject with
  | none => none
  | some source => (plant.device source).signals.value? c.sourceSignal

/-- Writing `value` to the signal changes what its script can observe. -/
def observes (store : SignalStore) (name : String) (value : Float) : Bool :=
  match store.get? name with
  | none => false
  | some s => s.value != s.kind.coerce value && s.kind.isInput

/-- Carries one connection's value into `target`; an observable change is queued. -/
def carry (ref : StationRef) (target : DeviceRef) (plant : Plant) (c : Connection) : Plant :=
  match plant.sourceValue? ref c with
  | none => plant
  | some value =>
    let changed := observes (plant.device target).signals c.targetSignal value
    let plant := plant.modifySignals target fun store => (store.set? c.targetSignal value).1
    if changed then
      plant.modifyStation ref fun s => { s with pending := s.pending ++ [⟨target, c.targetSignal⟩] }
    else plant

/-- Carries every connection into the first device of that name, in the order of the list. -/
def propagate (plant : Plant) (ref : StationRef) (object : String) : Plant :=
  match plant.deviceByName? ref object with
  | none => plant
  | some target =>
    ((plant.connections ref).filter fun c => c.targetObject = object).foldl (carry ref target) plant

end Plant

end StationScript
