import StationScript.Config.Basic
import StationScript.Toml.Decode

/-!
Settings as TOML documents.

A document gives the settings whose keys it has. Written settings take one line each. The count of
milliseconds is written as an integer of the format, which has 63 bits for it.
-/

set_option autoImplicit false

namespace StationScript

namespace ConfigLayer

def prefixKey : String := "log_prefix"

def markerKey : String := "refresh_marker"

def debounceKey : String := "refresh_debounce_ms"

def warnKey : String := "warn_acyclic_connections"

open Toml in
def shape : Shape ConfigLayer where
  name := "struct ScriptConfig"
  fields := [.holding prefixKey Decoder.text, .holding markerKey Decoder.text,
    .holding debounceKey Decoder.count, .holding warnKey Decoder.flag]
  build entries := do
    let logPrefix ← entries.optional prefixKey Decoder.text
    let refreshMarker ← entries.optional markerKey Decoder.text
    let refreshDebounce ← entries.optional debounceKey Decoder.count
    let warnAcyclic ← entries.optional warnKey Decoder.flag
    return { logPrefix, refreshMarker, refreshDebounce, warnAcyclic }

/-- The settings that a document gives. -/
def ofToml (text : String) : Except Toml.Fault ConfigLayer := shape.ofText text

/-- A line with a key and its value. -/
def line (key : String) (value : List Char) : List Char :=
  key.toList ++ " = ".toList ++ value ++ ['\n']

def flagText (b : Bool) : List Char := (if b then "true" else "false").toList

/-- The lines of the settings that are given; none if the count of milliseconds is too large. -/
def toChars (layer : ConfigLayer) : Option (List Char) :=
  if (layer.refreshDebounce.getD 0).toNat ≤ Int64.maxValue.toInt then
    some ((layer.logPrefix.elim [] fun text => line prefixKey (Toml.Quoted.write text.toList)) ++
      (layer.refreshMarker.elim [] fun text => line markerKey (Toml.Quoted.write text.toList)) ++
      (layer.refreshDebounce.elim [] fun n => line debounceKey (toString n.toNat).toList) ++
      (layer.warnAcyclic.elim [] fun b => line warnKey (flagText b)))
  else none

/-- The document that gives the same settings. -/
def toToml (layer : ConfigLayer) : Option String := layer.toChars.map String.ofList

end ConfigLayer

namespace ScriptConfig

/-- A document over the settings by default. -/
def ofToml (text : String) : Except Toml.Fault ScriptConfig :=
  (ConfigLayer.ofToml text).map fun layer => layer.applyTo {}

def toToml (config : ScriptConfig) : Option String := (ConfigLayer.full config).toToml

end ScriptConfig

end StationScript
