import StationScript.Command.Options
import StationScript.Config.Load
import StationScript.Lua.Interpreter
import StationScript.Simulation.Report

/-!
The command: runs the station of a file and prints a report.
-/

set_option autoImplicit false

namespace StationScript

/-- Why a command fails. -/
inductive CommandError where
  | config (cause : ConfigError)
  /-- The station file could not be loaded. -/
  | load (path : String) (cause : StationFileError)
  /-- The station could not be built. -/
  | build (cause : StationFileError)
  deriving Repr, DecidableEq

namespace CommandError

/-- An error and what caused it, outermost first. -/
def chain : CommandError → List String
  | config cause => ["Config error: " ++ cause.message]
  | load path cause => ("cannot load station " ++ path) :: cause.message :: causes cause
  | build cause => cause.message :: causes cause
where
  causes : StationFileError → List String
    | .read _ fault => [fault.message]
    | .parse _ fault => [fault.message]
    | .signalKind _ kind => [SignalKind.unknownMessage kind]
    | .duplicateObject _ => []

/-- Lines behind the first are indented. -/
def indented (indent : String) (text : String) : String :=
  String.ofList (text.toList.flatMap fun c => if c = '\n' then '\n' :: indent.toList else [c])

/-- Numbered causes, one a line. -/
def numbered (index : Nat) : List String → String
  | [] => ""
  | cause :: rest =>
    let number := toString index
    "\n" ++ String.ofList (List.replicate (5 - number.length) ' ') ++ number ++ ": " ++
      indented "       " cause ++ numbered (index + 1) rest

def message (error : CommandError) : String :=
  match error.chain with
  | [] => "Error: "
  | [head] => "Error: " ++ head
  | [head, cause] => "Error: " ++ head ++ "\n\nCaused by:\n    " ++ indented "    " cause
  | head :: causes => "Error: " ++ head ++ "\n\nCaused by:" ++ numbered 0 causes

end CommandError

/-- What a command works on. -/
structure CommandContext where
  files : Files
  environment : Environment
  ids : Nat → DeviceId
  /-- The instant of a log message by its place. -/
  arrival : Nat → Nat

/-- Runs the simulation that the options ask for. -/
def Options.simulate (options : Options) (context : CommandContext) :
    Except CommandError (Simulation Lua.engine) := do
  let source : ConfigSource := { file := options.config }
  let config ← (source.load context.files context.environment).mapError .config
  let file ← (StationFile.load context.files options.station).mapError
    (CommandError.load options.station)
  let simulation ← (Simulation.ofFile file context.ids context.files config
    context.arrival).mapError .build
  return simulation.run options.steps options.stepMs

/-- The text that the command prints. -/
def Options.execute (options : Options) (context : CommandContext) : Except CommandError String :=
  (options.simulate context).map fun simulation =>
    let report := simulation.report
    if options.json then report.json.pretty ++ "\n" else report.text

end StationScript
