import Mathlib
import StationScript.Decimal.Binary64

/-!
Truncation leaves nothing behind that it would drop a second time.

The three ranges of exponents are those of `truncateBits`: below one only the sign is kept, up to
`2 ^ 52` some low bits are cleared, and beyond there is no fraction to drop.
-/

set_option autoImplicit false

namespace StationScript.Binary64

theorem unpackExponent_eq (bits : UInt64) :
    (@Float.Model.UnpackedFloat.unpackExponent Float.Model.Format.binary64
      bits.toBitVec).toNat = biasedExponent bits.toNat := by
  simp [Float.Model.UnpackedFloat.unpackExponent, Nat.shiftRight_eq_div_pow, biasedExponent,
    exponentUnit]

/-- A pattern that is not undefined is read back as it was written. -/
theorem toBits_ofBits {bits : UInt64} (defined : biasedExponent bits.toNat ≠ 2047) :
    (Float.ofBits bits).toBits = bits := by
  have valid : Float.Model.Format.binary64.Valid bits.toBitVec := by
    refine ⟨fun special => absurd ?_ defined⟩
    rw [← unpackExponent_eq, special]
    rfl
  simp [Float.ofBits, Float.toBits, Float.Model.ofBits, Float.Model.pack,
    Float.Model.UnpackedFloat.pack_unpack_of_valid valid]

theorem truncateBits_of_small {bits : Nat} (small : biasedExponent bits < 1023) :
    truncateBits bits = bits / signUnit * signUnit := by
  rw [truncateBits, if_pos small]

theorem truncateBits_of_fraction {bits : Nat} (units : ¬ biasedExponent bits < 1023)
    (fraction : biasedExponent bits < 1075) :
    truncateBits bits = bits - bits % Nat.pow 2 (1075 - biasedExponent bits) := by
  rw [truncateBits, if_neg units, if_pos fraction]

theorem truncateBits_of_whole {bits : Nat} (whole : ¬ biasedExponent bits < 1075) :
    truncateBits bits = bits := by
  have units : ¬ biasedExponent bits < 1023 := by omega
  rw [truncateBits, if_neg units, if_neg whole]

theorem truncateBits_le (bits : Nat) : truncateBits bits ≤ bits := by
  by_cases small : biasedExponent bits < 1023
  · rw [truncateBits_of_small small]
    exact Nat.div_mul_le_self bits signUnit
  · by_cases fraction : biasedExponent bits < 1075
    · rw [truncateBits_of_fraction small fraction]
      exact Nat.sub_le _ _
    · exact Nat.le_of_eq (truncateBits_of_whole fraction)

/-- A lone sign is the pattern of a zero. -/
theorem biasedExponent_sign (count : Nat) : biasedExponent (count * signUnit) = 0 := by
  have split : count * signUnit = exponentUnit * (count * 2048) := by
    unfold signUnit exponentUnit
    omega
  rw [biasedExponent, split, Nat.mul_div_cancel_left _ (by decide), Nat.mul_mod_left]

/-- Clearing low bits of the fraction leaves the exponent alone. -/
theorem biasedExponent_clear {bits unit : Nat} (low : unit ∣ exponentUnit) :
    biasedExponent (bits - bits % unit) = biasedExponent bits := by
  obtain ⟨rest, whole⟩ := low
  have positive : 0 < unit := Nat.pos_of_ne_zero fun zero => by
    rw [zero, Nat.zero_mul] at whole
    exact absurd whole (by decide)
  have cleared : bits - bits % unit = unit * (bits / unit) := by
    have parts := Nat.div_add_mod bits unit
    omega
  have same : (bits - bits % unit) / exponentUnit = bits / exponentUnit := by
    rw [whole, ← Nat.div_div_eq_div_mul, ← Nat.div_div_eq_div_mul, cleared,
      Nat.mul_div_cancel_left _ positive]
  rw [biasedExponent, same, biasedExponent]

theorem low_dvd {bits : Nat} (units : ¬ biasedExponent bits < 1023) :
    Nat.pow 2 (1075 - biasedExponent bits) ∣ exponentUnit := by
  have unit : exponentUnit = 2 ^ 52 := by decide
  rw [unit]
  exact Nat.pow_dvd_pow 2 (by omega)

/-- The exponent stays, or nothing but the sign is left. -/
theorem biasedExponent_truncateBits (bits : Nat) :
    biasedExponent (truncateBits bits) =
      if biasedExponent bits < 1023 then 0 else biasedExponent bits := by
  by_cases small : biasedExponent bits < 1023
  · rw [if_pos small, truncateBits_of_small small, biasedExponent_sign]
  · rw [if_neg small]
    by_cases fraction : biasedExponent bits < 1075
    · rw [truncateBits_of_fraction small fraction, biasedExponent_clear (low_dvd small)]
    · rw [truncateBits_of_whole fraction]

theorem truncateBits_truncateBits (bits : Nat) :
    truncateBits (truncateBits bits) = truncateBits bits := by
  have exponent := biasedExponent_truncateBits bits
  by_cases small : biasedExponent bits < 1023
  · rw [if_pos small] at exponent
    rw [truncateBits_of_small (by omega), truncateBits_of_small small,
      Nat.mul_div_cancel _ (by decide)]
  · rw [if_neg small] at exponent
    by_cases fraction : biasedExponent bits < 1075
    · have cleared := truncateBits_of_fraction small fraction
      have again := @truncateBits_of_fraction (truncateBits bits) (by omega) (by omega)
      have none : truncateBits bits % Nat.pow 2 (1075 - biasedExponent bits) = 0 := by
        rw [cleared]
        exact Nat.mod_eq_zero_of_dvd (Nat.dvd_sub_mod bits)
      rw [again, exponent, none, Nat.sub_zero]
    · rw [truncateBits_of_whole fraction, truncateBits_of_whole fraction]

theorem truncate_of_whole {x : Float} (whole : ¬ biasedExponent x.toBits.toNat < 1075) :
    truncate x = x := by
  rw [truncate, truncateBits_of_whole whole, UInt64.ofNat_toNat, Float.ofBits_toBits]

/-- What is left of a number with a fraction is a number with this pattern. -/
theorem toBits_truncate {x : Float} (fraction : biasedExponent x.toBits.toNat < 1075) :
    (truncate x).toBits.toNat = truncateBits x.toBits.toNat := by
  have range : truncateBits x.toBits.toNat < 2 ^ 64 :=
    Nat.lt_of_le_of_lt (truncateBits_le _) x.toBits.toNat_lt
  have stored : (UInt64.ofNat (truncateBits x.toBits.toNat)).toNat =
      truncateBits x.toBits.toNat := UInt64.toNat_ofNat_of_lt' range
  have exponent := biasedExponent_truncateBits x.toBits.toNat
  have defined : biasedExponent (UInt64.ofNat (truncateBits x.toBits.toNat)).toNat ≠ 2047 := by
    rw [stored, exponent]
    split <;> omega
  rw [truncate, toBits_ofBits defined, stored]

/-- Truncated numbers are fixed; so are infinities and undefined values. -/
theorem truncate_truncate (x : Float) : truncate (truncate x) = truncate x := by
  by_cases fraction : biasedExponent x.toBits.toNat < 1075
  · have read := toBits_truncate fraction
    rw [truncate, read, truncateBits_truncateBits]
    rfl
  · rw [truncate_of_whole fraction, truncate_of_whole fraction]

theorem truncate_zero : truncate 0.0 = 0.0 := by decide +kernel

end StationScript.Binary64
