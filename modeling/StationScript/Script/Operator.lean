import StationScript.Script.Numeral

/-!
Operators on numbers.

Integers wrap around at 64 bits and doubles follow the usual floating point rules; a mixed operation
is one on doubles, but a mixed comparison is exact. Integer division and remainder round toward the
lower integer.
-/

set_option autoImplicit false

namespace StationScript

open Numeral (Number)

inductive Arithmetic where
  | add
  | sub
  | mul
  | div
  | floorDiv
  | mod
  | pow
  deriving Repr, DecidableEq, Hashable, Inhabited

inductive Bitwise where
  | both
  | either
  | differ
  | shiftLeft
  | shiftRight
  deriving Repr, DecidableEq, Hashable, Inhabited

/-- Why an operation on integers has no result. -/
inductive NumberFault where
  | zeroDivisor
  | zeroModulus
  /-- An operand of a bitwise operation has no integer value. -/
  | notInteger
  deriving Repr, DecidableEq

def NumberFault.message : NumberFault → String
  | zeroDivisor => "attempt to divide by zero"
  | zeroModulus => "attempt to perform 'n%0'"
  | notInteger => "number has no integer representation"

/-- The remainder of a division that rounds toward zero, computed exactly. -/
def remainder (x y : Float) : Float :=
  match Binary64.classify x, Binary64.classify y with
  | .nan, _ | _, .nan | .infinite _, _ | _, .finite _ 0 _ => Binary64.nan
  | .finite .., .infinite _ => x
  | .finite negative m e, .finite _ n f =>
    let least := min e f
    let rest := (m * Nat.pow 2 (e - least).toNat) % (n * Nat.pow 2 (f - least).toNat)
    Binary64.ofBinary negative rest least

/-- The remainder with the sign of the divisor. -/
def floorRemainder (x y : Float) : Float :=
  let r := remainder x y
  if (if r > 0.0 then y < 0.0 else r < 0.0 && y > 0.0) then r + y else r

/-- A square is a product, which rounds once. -/
def power (x y : Float) : Float := if y == 2.0 then x * x else x.pow y

def Arithmetic.onDoubles : Arithmetic → Double → Double → Double
  | .add, x, y => x.add y
  | .sub, x, y => x.sub y
  | .mul, x, y => x.mul y
  | .div, x, y => x.div y
  | .floorDiv, x, y => (x.div y).floor
  | .mod, x, y => Double.combine floorRemainder x y
  | .pow, x, y => Double.combine power x y

def Arithmetic.onIntegers (op : Arithmetic) (m n : Int64) : Except NumberFault Number :=
  match op with
  | .add => .ok (.integer (m + n))
  | .sub => .ok (.integer (m - n))
  | .mul => .ok (.integer (m * n))
  | .floorDiv =>
    if n = 0 then .error .zeroDivisor
    else .ok (.integer (Int64.ofInt (m.toInt.fdiv n.toInt)))
  | .mod =>
    if n = 0 then .error .zeroModulus
    else .ok (.integer (Int64.ofInt (m.toInt.fmod n.toInt)))
  | .div | .pow => .ok (.real (op.onDoubles (.ofInt m.toInt) (.ofInt n.toInt)))

/-- Integers stay integers, except under division and powers. -/
def Arithmetic.apply (op : Arithmetic) : Number → Number → Except NumberFault Number
  | .integer m, .integer n => op.onIntegers m n
  | x, y => .ok (.real (op.onDoubles x.toDouble y.toDouble))

def negate : Number → Number
  | .integer n => .integer (-n)
  | .real x => .real x.neg

def asInteger? : Number → Option Int64
  | .integer n => some n
  | .real x => x.toInt64?

/-- A shift by 64 bits or more clears everything; a negative one goes the other way. -/
def shiftBits (n : UInt64) (count : Int) : UInt64 :=
  if 64 ≤ count ∨ count ≤ -64 then 0
  else if 0 ≤ count then UInt64.ofNat (n.toNat * Nat.pow 2 count.toNat)
  else UInt64.ofNat (n.toNat / Nat.pow 2 (-count).toNat)

def Bitwise.onIntegers (op : Bitwise) (m n : Int64) : Int64 :=
  match op with
  | .both => m &&& n
  | .either => m ||| n
  | .differ => m ^^^ n
  | .shiftLeft => (shiftBits m.toUInt64 n.toInt).toInt64
  | .shiftRight => (shiftBits m.toUInt64 (-n.toInt)).toInt64

def Bitwise.apply (op : Bitwise) (x y : Number) : Except NumberFault Number :=
  match asInteger? x, asInteger? y with
  | some m, some n => .ok (.integer (op.onIntegers m n))
  | _, _ => .error .notInteger

/-- The order of an integer and a double, if the latter is defined. -/
def compareExact (n : Int64) (x : Float) : Option Ordering :=
  match Binary64.classify x with
  | .nan => none
  | .infinite negative => some (if negative then .gt else .lt)
  | .finite negative mantissa exponent =>
    let (num, den) := Binary64.scaleTwo mantissa 1 exponent
    some (compare (n.toInt * den) (if negative then -(num : Int) else num))

/-- The order of two numbers, unless one of them is undefined. -/
def compareNumbers : Number → Number → Option Ordering
  | .integer m, .integer n => some (compare m.toInt n.toInt)
  | .integer n, .real x => compareExact n x.value
  | .real x, .integer n => (compareExact n x.value).map Ordering.swap
  | .real x, .real y =>
    if x.value < y.value then some .lt
    else if y.value < x.value then some .gt
    else if x.value == y.value then some .eq else none

end StationScript
