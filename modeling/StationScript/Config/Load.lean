import StationScript.Config.Toml
import StationScript.Host.Files
import StationScript.Text.Blank

/-!
Where the settings in force come from: the environment over a file over the defaults.

A file that does not exist gives nothing, and neither does a variable whose value is no text.
-/

set_option autoImplicit false

namespace StationScript

/-- The bytes of each variable that is set. -/
abbrev Environment := String → Option ByteArray

/-- The text of a variable. -/
def Environment.text? (environment : Environment) (name : String) : Option String :=
  match environment name with
  | none => none
  | some bytes => (Utf8.decode bytes).toOption

inductive ConfigError where
  | unreadable (path : String) (fault : ReadFault)
  | invalidFile (path : String) (fault : Toml.Fault)
  | invalidVariable (name expected : String)
  deriving Repr, DecidableEq

def ConfigError.message : ConfigError → String
  | unreadable path fault => "failed to read config file '" ++ path ++ "': " ++ fault.message
  | invalidFile path fault => "failed to parse config file '" ++ path ++ "': " ++ fault.message
  | invalidVariable name expected =>
    "invalid value for environment variable '" ++ name ++ "': expected " ++ expected

namespace ConfigLayer

def prefixVariable : String := "RSLUA_LOG_PREFIX"

def markerVariable : String := "RSLUA_REFRESH_MARKER"

def debounceVariable : String := "RSLUA_REFRESH_DEBOUNCE_MS"

def warnVariable : String := "RSLUA_WARN_ACYCLIC"

/-- The settings that a file gives. -/
def ofFile (files : Files) (path : String) : Except ConfigError ConfigLayer :=
  if !files.exists? path then .ok {}
  else
    match files.readText path with
    | .error fault => .error (.unreadable path fault)
    | .ok text => (ofToml text).mapError (.invalidFile path)

/-- A natural number below `2 ^ 64` in decimal digits, with an optional plus. -/
def count? (text : List Char) : Option UInt64 :=
  let digits :=
    match text with
    | '+' :: rest => rest
    | text => text
  if digits ≠ [] ∧ digits.all Char.isDigit ∧ Numeral.digitsValue 10 digits < UInt64.size then
    some (UInt64.ofNat (Numeral.digitsValue 10 digits))
  else none

/-- One of the words for yes and no, in either case. No letter outside the ASCII range has one of
their letters as its lower case. -/
def flag? (text : List Char) : Option Bool :=
  let word := String.ofList (text.map Char.toLower)
  if word ∈ ["true", "1", "yes", "on"] then some true
  else if word ∈ ["false", "0", "no", "off"] then some false
  else none

/-- Reads the text of a variable, if it has one. -/
def readVariable {α : Type} (environment : Environment) (name expected : String)
    (read? : List Char → Option α) : Except ConfigError (Option α) :=
  match environment.text? name with
  | none => .ok none
  | some text =>
    match read? text.toList with
    | some a => .ok (some a)
    | none => .error (.invalidVariable name expected)

/-- The settings that the environment gives. -/
def ofEnvironment (environment : Environment) : Except ConfigError ConfigLayer := do
  let refreshDebounce ← readVariable environment debounceVariable "milliseconds" fun text =>
    count? (Text.trim text)
  let warnAcyclic ← readVariable environment warnVariable "bool" flag?
  return {
    logPrefix := environment.text? prefixVariable
    refreshMarker := environment.text? markerVariable
    refreshDebounce
    warnAcyclic }

end ConfigLayer

/-- Where to look for settings. -/
structure ConfigSource where
  file : Option String := none
  skipEnvironment : Bool := false
  deriving Repr, DecidableEq, Inhabited

namespace ConfigSource

/-- The layer of the file, if one is given. -/
def fileLayer (source : ConfigSource) (files : Files) : Except ConfigError ConfigLayer :=
  match source.file with
  | none => .ok {}
  | some path => ConfigLayer.ofFile files path

/-- The layer of the environment, unless it is skipped. -/
def environmentLayer (source : ConfigSource) (environment : Environment) :
    Except ConfigError ConfigLayer :=
  if source.skipEnvironment then .ok {} else ConfigLayer.ofEnvironment environment

/-- The settings in force. A fault of the file is reported before one of the environment. -/
def load (source : ConfigSource) (files : Files) (environment : Environment) :
    Except ConfigError ScriptConfig := do
  let file ← source.fileLayer files
  let settings ← source.environmentLayer environment
  return settings.applyTo (file.applyTo {})

end ConfigSource

end StationScript
