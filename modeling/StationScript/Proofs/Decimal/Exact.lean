import Mathlib.Data.Rat.Defs
import StationScript.Decimal.Binary64

/-!
The numbers that doubles stand for, and products that need no rounding.
-/

set_option autoImplicit false

namespace StationScript.Binary64

/-- The number that a finite double stands for. -/
def toRat? (x : Float) : Option Rat :=
  match classify x with
  | .finite negative mantissa exponent =>
    let (num, den) := scaleTwo mantissa 1 exponent
    some (mkRat (if negative then -(num : Int) else num) den)
  | _ => none

/-- The number that a double stands for; 0 for all that are not finite. -/
def toRat (x : Float) : Rat := (toRat? x).getD 0

/-- So many times the finite double is a double as well, and multiplication finds it. -/
def Exact (count : Nat) (x : Float) : Prop :=
  (toRat? x).isSome = true ∧ toRat? (ofInt count * x) = (toRat? x).map fun q : Rat => count * q

instance (count : Nat) (x : Float) : Decidable (Exact count x) :=
  inferInstanceAs (Decidable (_ ∧ _))

theorem Exact.toRat {count : Nat} {x : Float} (exact : Exact count x) :
    toRat (ofInt count * x) = count * Binary64.toRat x := by
  obtain ⟨q, value⟩ := Option.isSome_iff_exists.mp exact.1
  have product := exact.2
  rw [value] at product
  rw [Binary64.toRat, Binary64.toRat, product, value]
  rfl

example : Exact 3 0.5 := by decide +kernel

example : ¬ Exact 3 0.1 := by decide +kernel

end StationScript.Binary64
