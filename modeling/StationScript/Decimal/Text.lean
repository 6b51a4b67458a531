import StationScript.Decimal.Double
import StationScript.Decimal.Shortest

/-!
Written forms of doubles.

`positional` never uses an exponent, `json` follows the number syntax of JSON and always shows that
the number is not an integer, and `general`, `fixed` and `scientific` are the `%g`,
`%f` and `%e` forms of formatted output.
-/

set_option autoImplicit false

namespace StationScript.Decimal

open Binary64 (classify)

def zeros (count : Nat) : String := String.ofList (List.replicate count '0')

/-- The digits with a point `point` places after the first one; zeros fill either side. No point is
written behind the last digit. -/
def placePoint (digits : String) (point : Int) : String :=
  let count : Int := digits.length
  if point ≤ 0 then "0." ++ zeros (-point).toNat ++ digits
  else if count ≤ point then digits ++ zeros (point - count).toNat
  else
    let cs := digits.toList
    String.ofList (cs.take point.toNat) ++ "." ++ String.ofList (cs.drop point.toNat)

def sign (negative : Bool) : String := if negative then "-" else ""

/-- All digits in place, without exponent and without a trailing `.0`. A tie goes up. -/
def positional (x : Float) : String :=
  match classify x with
  | .nan => "NaN"
  | .infinite negative => sign negative ++ "inf"
  | .finite negative 0 _ => sign negative ++ "0"
  | .finite negative mantissa exponent =>
    let d := shortest .upper mantissa exponent
    let digits := toString d.digits
    sign negative ++ placePoint digits (digits.length + d.exponent)

/-- The positional form of a finite number with at least one digit after the point. -/
def positionalPoint (x : Float) : String :=
  let text := positional x
  if x.isFinite && !text.contains '.' then text ++ ".0" else text

/-- One digit before the point, the others behind it, and the exponent. -/
def exponential (digits : String) (exponent : String) : String :=
  match digits.toList with
  | [] => ""
  | [d] => String.singleton d ++ "e" ++ exponent
  | d :: rest => String.singleton d ++ "." ++ String.ofList rest ++ "e" ++ exponent

/-- A JSON number: positional from `1e-5` up to sixteen integer digits, with `.0` where no fraction
shows, and otherwise with a signed exponent. A tie goes to the even digit. JSON has no undefined or
infinite numbers; `null` stands for them. -/
def json (x : Float) : String :=
  match classify x with
  | .nan | .infinite _ => "null"
  | .finite negative 0 _ => sign negative ++ "0.0"
  | .finite negative mantissa exponent =>
    let d := shortest .even mantissa exponent
    let digits := toString d.digits
    let point : Int := digits.length + d.exponent
    sign negative ++
      if 0 ≤ d.exponent ∧ point ≤ 16 then placePoint digits point ++ ".0"
      else if -5 < point ∧ point ≤ 16 then placePoint digits point
      else exponential digits ((if 0 < point then "+" else "") ++ toString (point - 1))

/-- Zeros at the end of a fraction, and then a bare point, are dropped. -/
def dropTrailingZeros (text : String) : String :=
  if text.contains '.' then
    let kept := text.toList.reverse.dropWhile (· = '0')
    match kept with
    | '.' :: rest => String.ofList rest.reverse
    | _ => String.ofList kept.reverse
  else text

/-- An exponent with its sign and at least two digits. -/
def signedExponent (e : Int) : String :=
  let digits := toString e.natAbs
  (if e < 0 then "-" else "+") ++ (if digits.length < 2 then "0" ++ digits else digits)

/-- The value with `precision` digits after the point. -/
def fixed (precision : Nat) (x : Double) : String :=
  match classify x.value with
  | .nan => sign x.minus ++ "nan"
  | .infinite negative => sign negative ++ "inf"
  | .finite negative mantissa exponent =>
    let digits := toString (places precision mantissa exponent)
    let padded := zeros (precision + 1 - digits.length) ++ digits
    sign negative ++ placePoint padded ((padded.length : Int) - precision)

/-- One digit before the point and `precision` digits behind it, with an exponent. -/
def scientific (precision : Nat) (x : Double) : String :=
  match classify x.value with
  | .nan => sign x.minus ++ "nan"
  | .infinite negative => sign negative ++ "inf"
  | .finite negative 0 _ => sign negative ++ placePoint (zeros (precision + 1)) 1 ++ "e+00"
  | .finite negative mantissa exponent =>
    let d := significant (precision + 1) mantissa exponent
    let digits := toString d.digits
    let order : Int := digits.length + d.exponent - 1
    sign negative ++ placePoint digits 1 ++ "e" ++ signedExponent order

/-- The value rounded to `precision` significant digits, without trailing zeros; an exponent is
written when it is below `-4` or not below the precision. -/
def general (precision : Nat) (x : Double) : String :=
  let precision := max precision 1
  match classify x.value with
  | .nan => sign x.minus ++ "nan"
  | .infinite negative => sign negative ++ "inf"
  | .finite negative 0 _ => sign negative ++ "0"
  | .finite negative mantissa exponent =>
    let d := significant precision mantissa exponent
    let digits := toString d.digits
    let order : Int := digits.length + d.exponent - 1
    sign negative ++
      if -4 ≤ order ∧ order < precision then dropTrailingZeros (placePoint digits (order + 1))
      else
        let kept := dropTrailingZeros (placePoint digits 1)
        kept ++ "e" ++ signedExponent order

end StationScript.Decimal
