import StationScript.Decimal.Binary64

/-!
Doubles that remember the sign of an undefined value.

No comparison sees that sign, but the written form of an undefined value shows it, and operations
carry it along: `combine` passes an undefined operand through, and a result that is undefined for
any other reason is negative.
-/

set_option autoImplicit false

namespace StationScript

structure Double where
  value : Float
  /-- The sign of an undefined value; it has no meaning for any other. -/
  minus : Bool := false
  deriving Inhabited, Repr

namespace Double

def ofFloat (x : Float) : Double := { value := x }

def ofInt (n : Int) : Double := { value := Binary64.ofInt n }

def isNaN (x : Double) : Bool := x.value.isNaN

/-- An operation that does not invent undefined values. -/
def map (op : Float → Float) (x : Double) : Double := { x with value := op x.value }

/-- The result of an operation. An undefined operand is the result, the first of two. -/
def combine (op : Float → Float → Float) (x y : Double) : Double :=
  let result := op x.value y.value
  if result.isNaN then
    if x.isNaN then x else if y.isNaN then y else { value := result, minus := true }
  else { value := result }

def add : Double → Double → Double := combine (· + ·)

def sub : Double → Double → Double := combine (· - ·)

def mul : Double → Double → Double := combine (· * ·)

def div : Double → Double → Double := combine (· / ·)

def neg (x : Double) : Double := { value := -x.value, minus := !x.minus }

def abs (x : Double) : Double := { value := x.value.abs }

def floor : Double → Double := map Binary64.floor

/-- The integer of a number that has exactly that value and is in range. -/
def toInt64? (x : Double) : Option Int64 :=
  match Binary64.toInt? x.value with
  | some n =>
    if Int64.minValue.toInt ≤ n ∧ n ≤ Int64.maxValue.toInt then some (Int64.ofInt n) else none
  | none => none

end Double

end StationScript
