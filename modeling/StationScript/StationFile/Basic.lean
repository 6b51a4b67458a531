import StationScript.Host.Files
import StationScript.Station.Connection
import StationScript.Station.Kind
import StationScript.Text.Path
import StationScript.Toml.Decode

/-!
Station files: the devices, parts and connections of a station as they are written down.
-/

set_option autoImplicit false

namespace StationScript

structure SignalEntry where
  name : String
  /-- The name of the kind, not yet known to be one. -/
  kind : String
  value : Float := 0.0
  deriving Repr, Inhabited

structure DeviceEntry where
  name : String
  /-- The path of the script, relative to the file. -/
  script : Option String := none
  signals : List SignalEntry := []
  deriving Repr, Inhabited

structure StationFile where
  name : String
  devices : List DeviceEntry := []
  /-- The names of objects without signals. -/
  parts : List String := []
  connections : List Connection := []
  /-- The directory of the file. -/
  baseDirectory : String := ""
  deriving Repr, Inhabited

open Toml

def SignalEntry.shape : Shape SignalEntry where
  name := "struct SignalEntry"
  fields := [.holding "name" Decoder.text, .holding "kind" Decoder.text,
    .holding "value" Decoder.number]
  build entries := do
    let name ← entries.required "name" Decoder.text
    let kind ← entries.required "kind" Decoder.text
    let value ← entries.optional "value" Decoder.number
    return { name, kind, value := value.getD 0.0 }

def SignalEntry.decodeList : Decoder (List SignalEntry) := .list SignalEntry.shape.decode

def DeviceEntry.shape : Shape DeviceEntry where
  name := "struct DeviceEntry"
  fields := [.holding "name" Decoder.text, .holding "script" Decoder.path,
    .holding "signals" SignalEntry.decodeList]
  build entries := do
    let name ← entries.required "name" Decoder.text
    let script ← entries.optional "script" Decoder.path
    let signals ← entries.optional "signals" SignalEntry.decodeList
    return { name, script, signals := signals.getD [] }

/-- A part is its name. -/
def partShape : Shape String where
  name := "struct PartEntry"
  fields := [.holding "name" Decoder.text]
  build entries := entries.required "name" Decoder.text

def Connection.shape : Shape Connection where
  name := "struct IoConnection"
  fields := [.holding "source_object" Decoder.text, .holding "source_signal" Decoder.text,
    .holding "target_object" Decoder.text, .holding "target_signal" Decoder.text,
    .holding "allow_cycle" Decoder.flag]
  build entries := do
    let sourceObject ← entries.required "source_object" Decoder.text
    let sourceSignal ← entries.required "source_signal" Decoder.text
    let targetObject ← entries.required "target_object" Decoder.text
    let targetSignal ← entries.required "target_signal" Decoder.text
    let allowCycle ← entries.optional "allow_cycle" Decoder.flag
    return ⟨sourceObject, sourceSignal, targetObject, targetSignal, allowCycle.getD true⟩

inductive StationFileError where
  | read (path : String) (fault : ReadFault)
  | parse (path : String) (fault : Toml.Fault)
  /-- A signal of the device has an unknown kind. -/
  | signalKind (device kind : String)
  | duplicateObject (name : String)
  deriving Repr, DecidableEq

def StationFileError.message : StationFileError → String
  | read path fault => "failed to read station file " ++ path ++ ": " ++ fault.message
  | parse path fault => "failed to parse station file " ++ path ++ ": " ++ fault.message
  | signalKind device kind => "device " ++ device ++ ": " ++ SignalKind.unknownMessage kind
  | duplicateObject name => "duplicate object name: " ++ name

namespace StationFile

def shape : Shape StationFile where
  name := "struct StationFile"
  fields := [.holding "name" Decoder.text,
    .holding "device" (Decoder.list DeviceEntry.shape.decode),
    .holding "part" (Decoder.list partShape.decode),
    .holding "connection" (Decoder.list Connection.shape.decode)]
  build entries := do
    let name ← entries.required "name" Decoder.text
    let devices ← entries.optional "device" (Decoder.list DeviceEntry.shape.decode)
    let parts ← entries.optional "part" (Decoder.list partShape.decode)
    let connections ← entries.optional "connection" (Decoder.list Connection.shape.decode)
    return {
      name
      devices := devices.getD []
      parts := parts.getD []
      connections := connections.getD [] }

def ofToml (text : String) : Except Toml.Fault StationFile := shape.ofText text

/-- Reads a station file. -/
def load (files : Files) (path : String) : Except StationFileError StationFile :=
  match files.readText path with
  | .error fault => .error (.read path fault)
  | .ok text =>
    match ofToml text with
    | .error fault => .error (.parse path fault)
    | .ok file => .ok { file with baseDirectory := Path.parent path }

end StationFile

end StationScript
