import StationScript.Decimal.Binary64

/-!
Kinds of I/O signals.

A kind says in which direction a signal runs and which values it can hold: `coerce` brings any
number into its range.
-/

set_option autoImplicit false

namespace StationScript

inductive SignalKind where
  | analogInput
  | analogOutput
  | digitalGroupInput
  | digitalGroupOutput
  | digitalInput
  | digitalOutput
  deriving Repr, DecidableEq, Inhabited

namespace SignalKind

def all : List SignalKind :=
  [analogInput, analogOutput, digitalGroupInput, digitalGroupOutput, digitalInput, digitalOutput]

/-- The name under which scripts and station files know the kind. -/
def name : SignalKind → String
  | analogInput => "analoginput"
  | analogOutput => "analogoutput"
  | digitalGroupInput => "digitalgroupinput"
  | digitalGroupOutput => "digitalgroupoutput"
  | digitalInput => "digitalinput"
  | digitalOutput => "digitaloutput"

/-- The name in reports. -/
def label : SignalKind → String
  | analogInput => "AnalogInput"
  | analogOutput => "AnalogOutput"
  | digitalGroupInput => "DigitalGroupInput"
  | digitalGroupOutput => "DigitalGroupOutput"
  | digitalInput => "DigitalInput"
  | digitalOutput => "DigitalOutput"

/-- The text with its ASCII letters in lower case. -/
def lowerAscii (text : String) : String := String.ofList (text.toList.map Char.toLower)

/-- The kind of a name; ASCII letters match in either case. -/
def parse? (text : String) : Option SignalKind :=
  let lower := lowerAscii text
  all.find? fun kind => kind.name = lower

/-- An unknown name stands for a digital input. -/
def parseLenient (text : String) : SignalKind := (parse? text).getD digitalInput

def unknownMessage (text : String) : String := "unknown signal kind: " ++ text

/-- Inputs are set by the station and observed by the script. -/
def isInput : SignalKind → Bool
  | analogInput | digitalGroupInput | digitalInput => true
  | analogOutput | digitalGroupOutput | digitalOutput => false

/-- Digital signals hold 0 or 1 (anything but zero counts as 1), grouped ones whole numbers, analog
ones any number. -/
def coerce (kind : SignalKind) (value : Float) : Float :=
  match kind with
  | digitalInput | digitalOutput => if value != 0.0 then 1.0 else 0.0
  | digitalGroupInput | digitalGroupOutput => Binary64.truncate value
  | analogInput | analogOutput => value

@[simp] theorem parse?_name (kind : SignalKind) : parse? kind.name = some kind := by
  cases kind <;> decide

end SignalKind

end StationScript
