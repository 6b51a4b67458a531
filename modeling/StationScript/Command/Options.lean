import StationScript.Script.Numeral

/-!
The options of the command line.

An option may be given once, in a short or a long form; short ones can be joined, and a value can
follow its option directly, behind an equals sign, or as the next argument. Behind two dashes there
are no more options.
-/

set_option autoImplicit false

namespace StationScript

/-- What a command line asks for. -/
structure Options where
  station : String
  steps : Nat
  stepMs : Float
  config : Option String
  json : Bool
  deriving Repr, Inhabited

namespace Options

/-- An option without its value. -/
inductive Flag where
  | steps
  | stepMs
  | config
  | json
  | debug
  | verbose
  deriving Repr, DecidableEq

def Flag.takesValue : Flag → Bool
  | .steps | .stepMs | .config => true
  | .json | .debug | .verbose => false

def longFlag? (name : String) : Option Flag :=
  match name with
  | "steps" => some .steps
  | "step-ms" => some .stepMs
  | "config" => some .config
  | "json" => some .json
  | "debug" => some .debug
  | "verbose" => some .verbose
  | _ => none

def shortFlag? (c : Char) : Option Flag :=
  match c with
  | 'n' => some .steps
  | 'c' => some .config
  | 'd' => some .debug
  | 'v' => some .verbose
  | _ => none

/-- What the arguments consist of. -/
inductive Part where
  | option (flag : Flag) (value : String)
  | station (path : String)
  deriving Repr, DecidableEq

/-- An argument that begins with a dash and is more than a dash. -/
def looksLikeOption (argument : String) : Bool :=
  match argument.toList with
  | '-' :: _ :: _ => true
  | _ => false

/-- Joined short options. The first that takes a value takes all that is behind it; if that is
nothing, the option itself comes back and waits for the next argument. -/
def shortParts : List Char → Option (List Part × Option Flag)
  | [] => some ([], none)
  | c :: rest => do
    let flag ← shortFlag? c
    if flag.takesValue then
      match rest with
      | [] => some ([], some flag)
      | '=' :: value => some ([.option flag (String.ofList value)], none)
      | value => some ([.option flag (String.ofList value)], none)
    else
      let (parts, waiting) ← shortParts rest
      some (.option flag "" :: parts, waiting)

/-- A long option, without the two dashes. -/
def longParts (text : List Char) : Option (List Part × Option Flag) := do
  let flag ← longFlag? (String.ofList (text.takeWhile (· ≠ '=')))
  match text.dropWhile (· ≠ '=') with
  | '=' :: value =>
    if flag.takesValue then some ([.option flag (String.ofList value)], none) else none
  | _ => if flag.takesValue then some ([], some flag) else some ([.option flag ""], none)

/-- The parts of the arguments; an option may be waiting for its value. -/
def parts (waiting : Option Flag) : List String → Option (List Part)
  | [] => if waiting.isSome then none else some []
  | argument :: rest =>
    match waiting with
    | some flag =>
      if looksLikeOption argument then none
      else (parts none rest).map fun parts => .option flag argument :: parts
    | none =>
      if argument = "--" then some (rest.map .station)
      else if looksLikeOption argument then do
        let (front, waiting) ←
          match argument.toList with
          | '-' :: '-' :: text => longParts text
          | text => shortParts (text.drop 1)
        return front ++ (← parts waiting rest)
      else (parts none rest).map fun parts => .station argument :: parts

/-- The values of an option. -/
def values (flag : Flag) (list : List Part) : List String :=
  list.filterMap fun
    | .option f value => if f = flag then some value else none
    | .station _ => none

def paths (list : List Part) : List String :=
  list.filterMap fun
    | .option _ _ => none
    | .station path => some path

/-- A number of steps: decimal digits, with an optional plus, below `2 ^ 64`. -/
def stepCount? (text : String) : Option Nat :=
  let digits :=
    match text.toList with
    | '+' :: rest => rest
    | cs => cs
  let n := Numeral.digitsValue 10 digits
  if digits ≠ [] ∧ digits.all Char.isDigit ∧ n < UInt64.size then some n else none

/-- A duration: a decimal numeral with an optional sign, or one of the words for what is no number
or has no end. -/
def duration? (text : String) : Option Float :=
  let (negative, digits) := Numeral.takeSign text.toList
  match String.ofList (digits.map Char.toLower) with
  | "inf" | "infinity" => some (Binary64.infinity negative)
  | "nan" => some Binary64.nan
  | _ => Numeral.decimalReal? negative digits

/-- A path, which must not be empty. -/
def path? (text : String) : Option String := if text = "" then none else some text

/-- The value of an option that is given at most once. -/
def single {α : Type} (list : List Part) (flag : Flag) (read? : String → Option α) :
    Option (Option α) :=
  match values flag list with
  | [] => some none
  | [value] => (read? value).map some
  | _ => none

/-- The options that the arguments give, if they are well formed. -/
def ofArguments (arguments : List String) : Option Options := do
  let list ← parts none arguments
  let steps ← single list .steps stepCount?
  let stepMs ← single list .stepMs duration?
  let config ← single list .config path?
  let json ← single list .json some
  let _ ← single list .debug some
  let _ ← single list .verbose some
  match paths list with
  | [path] => do
    let station ← path? path
    return {
      station, config, steps := steps.getD 10, stepMs := stepMs.getD 24.0, json := json.isSome }
  | _ => none

end Options

end StationScript
