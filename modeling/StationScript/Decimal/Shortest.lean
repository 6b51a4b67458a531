import StationScript.Decimal.Binary64

/-!
The decimal digits that stand for a double.

`shortest` gives the fewest digits that read back as the same double, and of those the nearest to
it; where two are equally near, a `Tie` decides. `significant` and `places` round to a fixed number
of digits, a tie going to the even digit.
-/

set_option autoImplicit false

namespace StationScript.Decimal

open Binary64 (scaleTwo roundHalfEven)

/-- Which of two equally near numbers is taken. -/
inductive Tie where
  | upper
  | even
  deriving Repr, DecidableEq

/-- The natural nearest to `num / den`. -/
def Tie.round (tie : Tie) (num den : Nat) : Nat :=
  let below := num / den
  let rest := num % den
  if 2 * rest < den then below
  else if tie = .even ∧ 2 * rest = den ∧ below % 2 = 0 then below
  else below + 1

/-- The value `digits * 10 ^ exponent`. -/
structure Digits where
  digits : Nat
  exponent : Int
  deriving Repr, DecidableEq

/-- `num / den` divided by `10 ^ shift`, as a pair of naturals. -/
def unscaleTen (num den : Nat) (shift : Int) : Nat × Nat :=
  if 0 ≤ shift then (num, den * Nat.pow 10 shift.toNat) else (num * Nat.pow 10 (-shift).toNat, den)

/-- Raises an estimate of the decimal order until the next power of ten is too large. -/
def raiseOrder (num den : Nat) : Nat → Int → Int
  | 0, estimate => estimate
  | fuel + 1, estimate =>
    let (n, d) := unscaleTen num den (estimate + 1)
    if d ≤ n then raiseOrder num den fuel (estimate + 1) else estimate

/-- The exponent `p` with `10 ^ p ≤ num / den < 10 ^ (p + 1)`, for positive arguments. The binary
order gives an estimate that is too low by at most three. -/
def decimalOrder (num den : Nat) : Int :=
  let estimate := (Binary64.binaryOrder num den * 30103).fdiv 100000 - 1
  raiseOrder num den 4 estimate

/-- Trailing zeros move into the exponent. -/
def Digits.strip (d : Digits) : Nat → Digits
  | 0 => d
  | fuel + 1 =>
    if d.digits ≠ 0 ∧ d.digits % 10 = 0 then
      Digits.strip ⟨d.digits / 10, d.exponent + 1⟩ fuel
    else d

/-- The reals that round to one double: from `low` to `high`, ends included when `closed`. All
numerators share the denominator `den`. -/
structure Basin where
  low : Nat
  value : Nat
  high : Nat
  den : Nat
  closed : Bool

/-- Half the gap to each neighbour; below a power of two the lower gap is half as wide. -/
def basin (mantissa : Nat) (exponent : Int) : Basin :=
  let narrow := mantissa = Binary64.exponentUnit ∧ -1074 < exponent
  let (unit, den) := scaleTwo 1 1 (exponent - 2)
  { low := unit * (4 * mantissa - if narrow then 1 else 2)
    value := unit * (4 * mantissa)
    high := unit * (4 * mantissa + 2)
    den
    closed := mantissa % 2 = 0 }

/-- Whether `digits * 10 ^ exponent` rounds to the double of the basin. -/
def Basin.holds (b : Basin) (digits : Nat) (exponent : Int) : Bool :=
  let (n, d) := if 0 ≤ exponent then (digits * Nat.pow 10 exponent.toNat, 1)
    else (digits, Nat.pow 10 (-exponent).toNat)
  if b.closed then b.low * d ≤ n * b.den && n * b.den ≤ b.high * d
  else b.low * d < n * b.den && n * b.den < b.high * d

/-- The first grid on which a neighbour of the value lies in the basin; of two, the nearer. -/
def Basin.search (b : Basin) (tie : Tie) (order : Int) : Nat → Nat → Digits
  | 0, count =>
    let exponent := order + 1 - count
    let (n, d) := unscaleTen b.value b.den exponent
    ⟨tie.round n d, exponent⟩
  | fuel + 1, count =>
    let exponent := order + 1 - count
    let (n, d) := unscaleTen b.value b.den exponent
    let below := n / d
    let nearest := tie.round n d
    let other := if nearest = below then below + 1 else below
    if b.holds nearest exponent then ⟨nearest, exponent⟩
    else if b.holds other exponent then ⟨other, exponent⟩
    else Basin.search b tie order fuel (count + 1)

/-- The fewest digits that read back as the positive double `mantissa * 2 ^ exponent`. Seventeen
always do. -/
def shortest (tie : Tie) (mantissa : Nat) (exponent : Int) : Digits :=
  let b := basin mantissa exponent
  (Basin.search b tie (decimalOrder b.value b.den) 16 1).strip 20

/-- `mantissa * 2 ^ exponent` rounded to `count` significant digits. -/
def significant (count mantissa : Nat) (exponent : Int) : Digits :=
  let (num, den) := scaleTwo mantissa 1 exponent
  let order := decimalOrder num den
  let (n, d) := unscaleTen num den (order + 1 - count)
  let digits := roundHalfEven n d
  if digits = Nat.pow 10 count then ⟨Nat.pow 10 (count - 1), order + 2 - count⟩
  else ⟨digits, order + 1 - count⟩

/-- `mantissa * 2 ^ exponent` rounded to `count` digits after the point. -/
def places (count mantissa : Nat) (exponent : Int) : Nat :=
  let (num, den) := scaleTwo mantissa 1 exponent
  roundHalfEven (num * Nat.pow 10 count) den

end StationScript.Decimal
