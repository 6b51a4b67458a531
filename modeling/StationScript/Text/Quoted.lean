import StationScript.Text.Visible

/-!
Text in double quotes for diagnostics.

Quotes and backslashes are escaped, common controls have short escapes, and a character without a
visible form of its own is written by its number.
-/

set_option autoImplicit false

namespace StationScript.Text

/-- A number in lower-case hexadecimal digits. -/
def hex (n : Nat) : String := String.ofList (Nat.toDigits 16 n)

def escape (c : Char) : String :=
  match c with
  | '"' => "\\\""
  | '\\' => "\\\\"
  | '\n' => "\\n"
  | '\r' => "\\r"
  | '\t' => "\\t"
  | '\x00' => "\\0"
  | c =>
    if isVisible c then String.singleton c
    else "\\u\x7b" ++ hex c.toNat ++ "\x7d"

/-- The text between double quotes, each character by its escape. -/
def quoted (text : String) : String :=
  "\"" ++ String.join (text.toList.map escape) ++ "\""

end StationScript.Text
