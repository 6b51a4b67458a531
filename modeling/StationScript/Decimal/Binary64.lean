/-!
Binary floating point numbers taken apart and put together exactly.

`classify` reads the three fields of a double, `ofRatio` rounds a quotient of naturals to the
nearest double (a tie goes to the even mantissa), and `truncate` drops the fraction by clearing the
bits below the units place, so that none of them depends on a decimal detour.
-/

set_option autoImplicit false

namespace StationScript.Binary64

/-- What a double stands for; a finite one is `mantissa * 2 ^ exponent` with its sign. -/
inductive Parts where
  | nan
  | infinite (negative : Bool)
  | finite (negative : Bool) (mantissa : Nat) (exponent : Int)
  deriving Repr, DecidableEq

/-- Weight of the lowest exponent bit. -/
def exponentUnit : Nat := 0x10000000000000

/-- Weight of the sign bit. -/
def signUnit : Nat := 0x8000000000000000

/-- The eleven exponent bits. -/
def biasedExponent (bits : Nat) : Nat := bits / exponentUnit % 2048

def isNegative (bits : Nat) : Bool := signUnit ≤ bits

/-- Subnormal numbers share the exponent of the smallest normal ones and lack the implicit bit. -/
def classify (x : Float) : Parts :=
  let bits := x.toBits.toNat
  let fraction := bits % exponentUnit
  match biasedExponent bits with
  | 2047 => if fraction = 0 then .infinite (isNegative bits) else .nan
  | 0 => .finite (isNegative bits) fraction (-1074)
  | e => .finite (isNegative bits) (exponentUnit + fraction) (e - 1075)

/-- The bits below the units place are cleared; a number below one keeps only its sign. -/
def truncateBits (bits : Nat) : Nat :=
  let e := biasedExponent bits
  if e < 1023 then bits / signUnit * signUnit
  else if e < 1075 then bits - bits % Nat.pow 2 (1075 - e)
  else bits

/-- Rounds toward zero. Infinities and undefined values are kept, and so is the sign of zero. -/
def truncate (x : Float) : Float :=
  Float.ofBits (UInt64.ofNat (truncateBits x.toBits.toNat))

/-- Rounds toward the lower integer. -/
def floor (x : Float) : Float :=
  let t := truncate x
  if x < t then t - 1.0 else t

/-- The nearest natural to `num / den`; a tie goes to the even one. -/
def roundHalfEven (num den : Nat) : Nat :=
  let q := num / den
  let r := num % den
  if 2 * r < den then q
  else if den < 2 * r then q + 1
  else if q % 2 = 0 then q else q + 1

/-- `num * 2 ^ shift / den` as a pair of naturals, for a shift of either sign. -/
def scaleTwo (num den : Nat) (shift : Int) : Nat × Nat :=
  if 0 ≤ shift then (num * Nat.pow 2 shift.toNat, den) else (num, den * Nat.pow 2 (-shift).toNat)

/-- The exponent `e` with `2 ^ e ≤ num / den < 2 ^ (e + 1)`, for positive arguments. -/
def binaryOrder (num den : Nat) : Int :=
  let estimate : Int := (Nat.log2 num : Int) - (Nat.log2 den : Int)
  let (n, d) := scaleTwo num den (-estimate)
  if d ≤ n then estimate else estimate - 1

def withSign (negative : Bool) (bits : Nat) : Float :=
  Float.ofBits (UInt64.ofNat (if negative then signUnit + bits else bits))

def infinity (negative : Bool) : Float := withSign negative (2047 * exponentUnit)

def nan : Float := Float.ofBits (UInt64.ofNat (2047 * exponentUnit + exponentUnit / 2))

/-- The double nearest to `num / den` with the given sign; a tie goes to the even mantissa and
everything beyond the largest double to infinity. -/
def ofRatio (negative : Bool) (num den : Nat) : Float :=
  if num = 0 then withSign negative 0
  else
    let order := binaryOrder num den
    if 1024 < order then infinity negative
    else
      let q := max (order - 52) (-1074)
      let (n, d) := scaleTwo num den (-q)
      let bits := (q + 1074).toNat * exponentUnit + roundHalfEven n d
      withSign negative (min bits (2047 * exponentUnit))

/-- `digits * 10 ^ exponent`, rounded to the nearest double. Exponents far outside the range of
doubles are answered without computing the power. -/
def ofDecimal (negative : Bool) (digits : Nat) (exponent : Int) : Float :=
  if digits = 0 then withSign negative 0
  else if 400 < exponent then infinity negative
  else if exponent < -400 - (Nat.log2 digits : Int) then withSign negative 0
  else if 0 ≤ exponent then ofRatio negative (digits * Nat.pow 10 exponent.toNat) 1
  else ofRatio negative digits (Nat.pow 10 (-exponent).toNat)

/-- `mantissa * 2 ^ exponent`, rounded to the nearest double. -/
def ofBinary (negative : Bool) (mantissa : Nat) (exponent : Int) : Float :=
  if mantissa = 0 then withSign negative 0
  else if 1100 < exponent then infinity negative
  else if exponent < -1200 - (Nat.log2 mantissa : Int) then withSign negative 0
  else
    let (n, d) := scaleTwo mantissa 1 exponent
    ofRatio negative n d

def ofInt (n : Int) : Float := ofRatio (n < 0) n.natAbs 1

/-- The integer a double equals, if it equals one. -/
def toInt? (x : Float) : Option Int :=
  match classify x with
  | .finite negative mantissa exponent =>
    let (n, d) := scaleTwo mantissa 1 exponent
    if n % d = 0 then some (if negative then -((n / d : Nat) : Int) else (n / d : Nat)) else none
  | _ => none

end StationScript.Binary64
