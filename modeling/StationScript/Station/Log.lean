/-!
The host log: messages with a severity, oldest first, only ever appended to.
-/

set_option autoImplicit false

namespace StationScript

inductive Severity where
  | information
  | warning
  | error
  deriving Repr, DecidableEq, Inhabited

namespace Severity

/-- The tag in front of a message in a printed log. -/
def tag : Severity → String
  | information => "info"
  | warning => "warning"
  | error => "error"

/-- The name in reports. -/
def label : Severity → String
  | information => "Information"
  | warning => "Warning"
  | error => "Error"

end Severity

structure LogMessage where
  severity : Severity
  text : String
  deriving Repr, DecidableEq, Inhabited

/-- Whether `part` occurs somewhere in the characters. -/
def occursIn (part : List Char) : List Char → Bool
  | [] => part.isEmpty
  | c :: rest => part.isPrefixOf (c :: rest) || occursIn part rest

theorem occursIn_iff (part text : List Char) : occursIn part text = true ↔ part <:+: text := by
  induction text with
  | nil => simp [occursIn]
  | cons c rest ih =>
    rw [occursIn, Bool.or_eq_true, ih, List.isPrefixOf_iff_prefix, List.infix_cons_iff]

/-- Messages, oldest first. -/
structure Log where
  messages : Array LogMessage := #[]
  deriving Repr, DecidableEq, Inhabited

namespace Log

def empty : Log := {}

def size (log : Log) : Nat := log.messages.size

def isEmpty (log : Log) : Bool := log.messages.isEmpty

def toList (log : Log) : List LogMessage := log.messages.toList

def add (log : Log) (severity : Severity) (text : String) : Log :=
  ⟨log.messages.push ⟨severity, text⟩⟩

/-- The messages from position `cursor` on. -/
def since (log : Log) (cursor : Nat) : List LogMessage := log.toList.drop cursor

/-- Some message of that severity has the text within its own. -/
def contains (log : Log) (severity : Severity) (part : String) : Bool :=
  log.messages.any fun m => m.severity = severity && occursIn part.toList m.text.toList

@[simp] theorem toList_add (log : Log) (severity : Severity) (text : String) :
    (log.add severity text).toList = log.toList ++ [⟨severity, text⟩] := by
  simp [add, toList]

@[simp] theorem size_add (log : Log) (severity : Severity) (text : String) :
    (log.add severity text).size = log.size + 1 := by
  simp [add, size]

end Log

end StationScript
