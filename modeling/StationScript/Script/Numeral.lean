import StationScript.Decimal.Text

/-!
Numbers of the scripting language and their texts.

A number is a 64-bit integer or a double. `Number.text` writes it so that the two never look alike;
`read?` accepts decimal and hexadecimal numerals with blanks around them. An integer numeral that
does not fit stands for a double, except that hexadecimal ones wrap around.
-/

set_option autoImplicit false

namespace StationScript.Numeral

inductive Number where
  | integer (n : Int64)
  | real (x : Double)
  deriving Repr, Inhabited

def integerText (n : Int64) : String := toString n.toInt

/-- Fourteen significant digits; `.0` is added to what would read as an integer. -/
def realText (x : Double) : String :=
  let text := Decimal.general 14 x
  if text.toList.all fun c => c.isDigit || c = '-' then text ++ ".0" else text

def Number.text : Number → String
  | .integer n => integerText n
  | .real x => realText x

def Number.toDouble : Number → Double
  | .integer n => .ofInt n.toInt
  | .real x => x

def Number.toFloat (n : Number) : Float := n.toDouble.value

/-- Blanks of the ASCII range: tab to carriage return, and space. -/
def isBlank (c : Char) : Bool := c = ' ' || (9 ≤ c.toNat && c.toNat ≤ 13)

def isHexDigit (c : Char) : Bool :=
  c.isDigit || ('a' ≤ c && c ≤ 'f') || ('A' ≤ c && c ≤ 'F')

def digitValue (c : Char) : Nat :=
  if c.isDigit then c.toNat - '0'.toNat
  else if 'a' ≤ c && c ≤ 'f' then c.toNat - 'a'.toNat + 10
  else c.toNat - 'A'.toNat + 10

def digitsValue (base : Nat) (digits : List Char) : Nat :=
  digits.foldl (fun n c => n * base + digitValue c) 0

/-- Splits off a sign; the flag says whether it was a minus. -/
def takeSign : List Char → Bool × List Char
  | '-' :: rest => (true, rest)
  | '+' :: rest => (false, rest)
  | rest => (false, rest)

/-- An exponent part: nothing, or the mark, an optional sign and digits up to the end. -/
def exponent? (mark : Char) : List Char → Option Int
  | [] => some 0
  | c :: rest =>
    if c.toLower = mark then
      let (negative, digits) := takeSign rest
      if digits ≠ [] ∧ digits.all Char.isDigit then
        let n : Int := digitsValue 10 digits
        some (if negative then -n else n)
      else none
    else none

/-- The digits before and behind the point, and what follows them. -/
structure Mantissa where
  whole : List Char
  fraction : List Char
  rest : List Char

def mantissa (isDigit : Char → Bool) (cs : List Char) : Mantissa :=
  let whole := cs.takeWhile isDigit
  match cs.dropWhile isDigit with
  | '.' :: rest => ⟨whole, rest.takeWhile isDigit, rest.dropWhile isDigit⟩
  | rest => ⟨whole, [], rest⟩

/-- A decimal numeral with point and exponent, both optional. -/
def decimalReal? (negative : Bool) (cs : List Char) : Option Float := do
  let m := mantissa Char.isDigit cs
  if m.whole = [] ∧ m.fraction = [] then none
  let e ← exponent? 'e' m.rest
  return Binary64.ofDecimal negative (digitsValue 10 (m.whole ++ m.fraction))
    (e - m.fraction.length)

/-- A hexadecimal numeral with point and binary exponent, both optional. -/
def hexReal? (negative : Bool) (cs : List Char) : Option Float := do
  let m := mantissa isHexDigit cs
  if m.whole = [] ∧ m.fraction = [] then none
  let e ← exponent? 'p' m.rest
  return Binary64.ofBinary negative (digitsValue 16 (m.whole ++ m.fraction))
    (e - 4 * m.fraction.length)

/-- A numeral without sign and blanks. -/
def unsigned? (negative : Bool) (cs : List Char) : Option Number :=
  let signed (n : Nat) : Int := if negative then -(n : Int) else n
  let hexadecimal (digits : List Char) : Option Number :=
    if digits ≠ [] ∧ digits.all isHexDigit then
      some (.integer (Int64.ofInt (signed (digitsValue 16 digits))))
    else (hexReal? negative digits).map fun x => .real (.ofFloat x)
  match cs with
  | '0' :: 'x' :: digits => hexadecimal digits
  | '0' :: 'X' :: digits => hexadecimal digits
  | _ =>
    let n := digitsValue 10 cs
    if cs ≠ [] ∧ cs.all Char.isDigit ∧ n < 0x8000000000000000 + (if negative then 1 else 0) then
      some (.integer (Int64.ofInt (signed n)))
    else (decimalReal? negative cs).map fun x => .real (.ofFloat x)

/-- The number of a numeral, which blanks may surround and a sign may precede. -/
def read? (cs : List Char) : Option Number :=
  let inner := ((cs.dropWhile isBlank).reverse.dropWhile isBlank).reverse
  let (negative, digits) := takeSign inner
  unsigned? negative digits

end StationScript.Numeral
