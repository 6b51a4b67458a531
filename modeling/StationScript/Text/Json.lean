/-!
JSON documents, written with one item a line.

Members keep their order. Empty arrays and objects stay on one line.
-/

set_option autoImplicit false

namespace StationScript

inductive Json where
  | null
  /-- A number by its text. -/
  | number (text : String)
  | string (text : String)
  | array (items : List Json)
  | object (members : List (String × Json))

namespace Json

def natural (n : Nat) : Json := .number (toString n)

/-- A hexadecimal digit in lower case. -/
def hexDigit (n : Nat) : Char := Nat.digitChar (n % 16)

/-- Quotes, backslashes and controls are escaped, and nothing else is. -/
def escape (c : Char) : List Char :=
  match c with
  | '"' => ['\\', '"']
  | '\\' => ['\\', '\\']
  | '\x08' => ['\\', 'b']
  | '\x0c' => ['\\', 'f']
  | '\n' => ['\\', 'n']
  | '\r' => ['\\', 'r']
  | '\t' => ['\\', 't']
  | c =>
    if c < ' ' then ['\\', 'u', '0', '0', hexDigit (c.toNat / 16), hexDigit c.toNat] else [c]

def quoted (text : String) : String :=
  "\"" ++ String.ofList (text.toList.flatMap escape) ++ "\""

/-- A line end and two blanks for every level. -/
def newline (level : Nat) : String := "\n" ++ String.ofList (List.replicate (2 * level) ' ')

mutual

/-- The document as it stands at a level of nesting. -/
def prettyAt (level : Nat) : Json → String
  | null => "null"
  | number text => text
  | string text => quoted text
  | array [] => "[]"
  | array (first :: rest) =>
    "[" ++ newline (level + 1) ++ first.prettyAt (level + 1) ++ prettyItems (level + 1) rest ++
      newline level ++ "]"
  | object [] => "\x7b\x7d"
  | object ((name, value) :: rest) =>
    "\x7b" ++ newline (level + 1) ++ quoted name ++ ": " ++ value.prettyAt (level + 1) ++
      prettyMembers (level + 1) rest ++ newline level ++ "\x7d"

/-- Items behind the first one. -/
def prettyItems (level : Nat) : List Json → String
  | [] => ""
  | item :: rest => "," ++ newline level ++ item.prettyAt level ++ prettyItems level rest

/-- Members behind the first one. -/
def prettyMembers (level : Nat) : List (String × Json) → String
  | [] => ""
  | (name, value) :: rest =>
    "," ++ newline level ++ quoted name ++ ": " ++ value.prettyAt level ++ prettyMembers level rest

end

def pretty (document : Json) : String := document.prettyAt 0

end Json

end StationScript
