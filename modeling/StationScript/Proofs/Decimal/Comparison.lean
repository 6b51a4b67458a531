import StationScript.Proofs.Decimal.Truncation

/-!
Equality of numbers as comparisons see it. It relates every number but an undefined one to itself,
and beyond that only the two zeros to each other.
-/

set_option autoImplicit false

namespace StationScript.Binary64

open Float.Model (UnpackedFloat)

theorem compare_self {x : UnpackedFloat} (defined : x.isNaN = false) :
    x.compare x = some .eq := by
  cases x with
  | notANumber => cases defined
  | infinity sign => cases sign <;> rfl
  | zero sign => rfl
  | finite sign mantissa exponent positive =>
    cases sign <;> simp [UnpackedFloat.compare]

/-- Numbers that compare as equal are the same, or zeros both. -/
theorem eq_of_compare {x y : UnpackedFloat} (equal : x.compare y = some .eq) :
    x = y ∨ ∃ s t, x = .zero s ∧ y = .zero t := by
  cases x with
  | notANumber => cases y <;> cases equal
  | infinity sign =>
    cases y with
    | infinity other => cases sign <;> cases other <;> simp_all [UnpackedFloat.compare]
    | _ => cases sign <;> cases equal
  | zero sign =>
    cases y with
    | zero other => exact Or.inr ⟨_, _, rfl, rfl⟩
    | infinity other => cases other <;> cases equal
    | finite other => cases other <;> cases equal
    | notANumber => cases equal
  | finite sign mantissa exponent positive =>
    cases y with
    | finite other => cases sign <;> cases other <;>
        simp_all [UnpackedFloat.compare, Ordering.then_eq_eq]
    | infinity other => cases sign <;> cases other <;> cases equal
    | _ => cases sign <;> cases equal

theorem beq_iff (x y : Float) :
    (x == y) = true ↔ x.toModel.unpack.compare y.toModel.unpack = some .eq := by
  change (x.toModel.unpack.compare y.toModel.unpack == some .eq) = true ↔ _
  rw [beq_iff_eq]

theorem beq_self {x : Float} (defined : x.isNaN = false) : (x == x) = true :=
  (beq_iff x x).mpr (compare_self defined)

theorem beq_symm {x y : Float} (equal : (x == y) = true) : (y == x) = true := by
  rw [beq_iff] at equal ⊢
  rcases eq_of_compare equal with same | ⟨_, _, left, right⟩
  · rw [same] at equal ⊢
    exact equal
  · rw [left, right]
    rfl

theorem beq_trans {x y z : Float} (first : (x == y) = true) (second : (y == z) = true) :
    (x == z) = true := by
  rw [beq_iff] at first second ⊢
  rcases eq_of_compare first with same | ⟨_, _, left, middle⟩
  · rw [same]
    exact second
  · rcases eq_of_compare second with same | ⟨_, _, _, right⟩
    · rw [← same]
      exact first
    · rw [left, right]
      rfl

/-- A number is defined unless all its exponent bits are set. -/
theorem isNaN_of_exponent {x : Float} (ordinary : biasedExponent x.toBits.toNat ≠ 2047) :
    x.isNaN = false := by
  have exponent := unpackExponent_eq x.toBits
  have plain : @UnpackedFloat.unpackExponent Float.Model.Format.binary64 x.toBits.toBitVec ≠
      -1#(Float.Model.Format.binary64.exponentBits) := by
    intro special
    rw [special] at exponent
    exact ordinary exponent.symm
  change (UnpackedFloat.unpack Float.Model.Format.binary64 x.toBits.toBitVec).isNaN = false
  unfold UnpackedFloat.unpack
  dsimp only
  rw [if_neg plain]
  split
  · split <;> rfl
  · rfl

/-- Truncation makes no number undefined. -/
theorem isNaN_truncate {x : Float} (defined : x.isNaN = false) : (truncate x).isNaN = false := by
  by_cases fraction : biasedExponent x.toBits.toNat < 1075
  · refine isNaN_of_exponent ?_
    rw [toBits_truncate fraction, biasedExponent_truncateBits]
    split <;> omega
  · rw [truncate_of_whole fraction]
    exact defined

end StationScript.Binary64
