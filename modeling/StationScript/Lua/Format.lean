import StationScript.Decimal.Text
import StationScript.Script.Value

/-!
Directives of formatted output.

A directive has flags, a least width, a precision and a conversion. What it writes is a sign, a mark
of the base and digits; zeros or blanks fill up to the width. Each conversion has its own flags.
-/

set_option autoImplicit false

namespace StationScript.Lua

structure Directive where
  leftAligned : Bool := false
  plusSign : Bool := false
  blankSign : Bool := false
  alternate : Bool := false
  zeroFilled : Bool := false
  width : Nat := 0
  precision : Option Nat := none
  conversion : Char

namespace Directive

/-- What stands between the percent sign and the conversion. -/
def isModifier (c : Char) : Bool := "-+ #0123456789.".toList.contains c

/-- So long is no directive that can be read. -/
def lengthLimit : Nat := 22

/-- The flags that a conversion knows, and whether it takes a precision. -/
def modifiers? : Char → Option (String × Bool)
  | 'c' => some ("-", false)
  | 'd' | 'i' => some ("-+ 0", true)
  | 'u' => some ("-0", true)
  | 'o' | 'x' | 'X' => some ("-#0", true)
  | 'e' | 'E' | 'f' | 'g' | 'G' => some ("-+ #0", true)
  | 's' => some ("-", true)
  | _ => none

/-- A number of at most two digits and what follows it. -/
def twoDigits (cs : List Char) : Nat × List Char :=
  let digits := (cs.take 2).takeWhile Char.isDigit
  (Numeral.digitsValue 10 digits, cs.drop digits.length)

/-- The directive of a conversion with modifiers, unless there are modifiers that it does not
know. -/
def ofModifiers? (flags : String) (hasPrecision : Bool) (conversion : Char) (cs : List Char) :
    Option Directive :=
  let given := cs.takeWhile flags.toList.contains
  let rest := cs.drop given.length
  let (width, rest) := if rest.head? = some '0' then (0, rest) else twoDigits rest
  let (precision, rest) : Option Nat × List Char :=
    match rest with
    | '.' :: more =>
      if hasPrecision then
        let (n, more) := twoDigits more
        (some n, more)
      else (none, rest)
    | rest => (none, rest)
  if rest.isEmpty then
    some { leftAligned := given.contains '-'
           plusSign := given.contains '+'
           blankSign := given.contains ' '
           alternate := given.contains '#'
           zeroFilled := given.contains '0'
           width, precision, conversion }
  else none

/-- Fills a text up to the width; zeros go behind the sign. -/
def fill (d : Directive) (sign digits : List Char) (zeros : Bool) : List Char :=
  let missing := d.width - (sign.length + digits.length)
  if d.leftAligned then sign ++ digits ++ List.replicate missing ' '
  else if zeros && d.zeroFilled then sign ++ List.replicate missing '0' ++ digits
  else List.replicate missing ' ' ++ sign ++ digits

def signOf (d : Directive) (negative : Bool) : List Char :=
  if negative then ['-'] else if d.plusSign then ['+'] else if d.blankSign then [' '] else []

/-- At least as many digits as the precision says; zero has none if that is allowed. -/
def padded (d : Directive) (n : Nat) (digits : List Char) : List Char :=
  if n = 0 && d.precision = some 0 then []
  else List.replicate (d.precision.getD 1 - digits.length) '0' ++ digits

def decimal (d : Directive) (n : Int64) : List Char :=
  let digits := (toString n.toInt.natAbs).toList
  d.fill (d.signOf (n < 0)) (d.padded n.toInt.natAbs digits) d.precision.isNone

/-- The digits of the 64 bits in some base. -/
def unsigned (d : Directive) (n : Int64) : List Char :=
  let n := n.toUInt64.toNat
  let base := if d.conversion = 'o' then 8 else if d.conversion = 'u' then 10 else 16
  let digits := d.padded n (Nat.toDigits base n)
  match d.conversion with
  | 'o' =>
    let digits := if d.alternate && digits.head? ≠ some '0' then '0' :: digits else digits
    d.fill [] digits d.precision.isNone
  | 'u' => d.fill [] digits d.precision.isNone
  | conversion =>
    let digits := if conversion = 'X' then digits.map Char.toUpper else digits
    let mark := if d.alternate && n ≠ 0 then ['0', conversion] else []
    d.fill mark digits d.precision.isNone

def real (d : Directive) (x : Double) : List Char :=
  let precision := d.precision.getD 6
  let text :=
    match d.conversion.toLower with
    | 'f' => Decimal.fixed precision x
    | 'e' => Decimal.scientific precision x
    | _ => Decimal.general precision x
  let cs := if d.conversion.isUpper then text.toList.map Char.toUpper else text.toList
  match cs with
  | '-' :: digits => d.fill ['-'] digits x.value.isFinite
  | digits => d.fill (d.signOf false) digits x.value.isFinite

def text (d : Directive) (cs : List Char) : List Char :=
  d.fill [] (match d.precision with | some n => cs.take n | none => cs) false

end Directive

end StationScript.Lua
