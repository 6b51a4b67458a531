import StationScript.Command.Execute
import StationScript.Station.Identifier

/-!
The command line. Everything the command can read is read before it runs.
-/

set_option autoImplicit false

namespace StationScript.Main

/-- What an unsuccessful attempt to read a file says about its path. -/
def answerOfError : IO.Error → FileAnswer
  | .permissionDenied .. => .locked
  | .inappropriateType _ code _ => if code = 21 then .directory else .absent .notDirectory
  | .invalidArgument .. => .absent .nameTooLong
  | _ => .absent .notFound

def readPath (path : String) : IO FileAnswer := do
  try
    return .content (← IO.FS.readBinFile path)
  catch e =>
    return answerOfError e

def readPaths (paths : List String) : IO (List (String × FileAnswer)) :=
  paths.mapM fun path => return (path, ← readPath path)

def filesOf (list : List (String × FileAnswer)) : Files := fun path =>
  (list.lookup path).getD (.absent .notFound)

/-- The paths of the scripts that a station file names. -/
def scriptPaths (files : Files) (station : String) : List String :=
  match StationFile.load files station with
  | .ok file => file.devices.filterMap file.scriptPath?
  | .error _ => []

def variableNames : List String :=
  [ConfigLayer.prefixVariable, ConfigLayer.markerVariable, ConfigLayer.debounceVariable,
    ConfigLayer.warnVariable]

def readVariables : IO (List (String × ByteArray)) := do
  let values ← variableNames.mapM fun name =>
    return (← IO.getEnv name).map fun v => (name, v.toUTF8)
  return values.filterMap id

def usage : String :=
  "Usage: rslua [-n STEPS] [--step-ms MS] [-c CONFIG] [--json] [-d] [-v] STATION"

def context (options : Options) : IO CommandContext := do
  let described ← readPaths (options.station :: options.config.toList)
  let scripts ← readPaths (scriptPaths (filesOf described) options.station)
  let values ← readVariables
  let random ← IO.getRandomBytes 16
  let seed := random.foldl (fun n byte => n * 256 + byte.toNat) 0
  return {
    files := filesOf (described ++ scripts)
    environment := fun name => values.lookup name
    ids := fun n => .ofNumber (seed + n)
    arrival := fun _ => 0 }

end StationScript.Main

def main (arguments : List String) : IO UInt32 := do
  match StationScript.Options.ofArguments arguments with
  | none =>
    IO.eprintln StationScript.Main.usage
    return 2
  | some options =>
    match options.execute (← StationScript.Main.context options) with
    | .ok text =>
      IO.print text
      return 0
    | .error e =>
      IO.eprintln e.message
      return 1
