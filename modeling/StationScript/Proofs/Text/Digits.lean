import Mathlib.Data.List.Induction
import StationScript.Script.Numeral

/-!
Decimal digits and their values.

Among the digits of one value those without superfluous zeros are distinguished; all others have
zeros in front of them.
-/

set_option autoImplicit false

namespace StationScript

theorem isDigit_toDigits {n : Nat} {c : Char} (member : c ∈ Nat.toDigits 10 n) : c.isDigit = true :=
  Nat.isDigit_of_mem_toDigits (by decide) (by decide) member

theorem digitsValue_concat (digits : List Char) (c : Char) :
    Numeral.digitsValue 10 (digits ++ [c]) =
      Numeral.digitsValue 10 digits * 10 + Numeral.digitValue c := by
  simp [Numeral.digitsValue, List.foldl_append]

theorem digitsValue_eq_ofDigitChars {digits : List Char} (all : ∀ c ∈ digits, c.isDigit = true) :
    Numeral.digitsValue 10 digits = Nat.ofDigitChars 10 digits 0 := by
  unfold Numeral.digitsValue Nat.ofDigitChars
  generalize 0 = start
  induction digits generalizing start with
  | nil => rfl
  | cons c rest ih =>
    have digit : c.isDigit = true := all c List.mem_cons_self
    rw [List.foldl_cons, List.foldl_cons, Nat.mul_comm start, Numeral.digitValue, if_pos digit]
    exact ih (fun d member => all d (List.mem_cons_of_mem _ member)) _

theorem digitsValue_toDigits (n zeros : Nat) :
    Numeral.digitsValue 10 (List.replicate zeros '0' ++ Nat.toDigits 10 n) = n := by
  rw [digitsValue_eq_ofDigitChars, Nat.ofDigitChars_append, Nat.ofDigitChars_replicate_zero,
    Nat.mul_zero, Nat.ofDigitChars_ten_toDigits]
  intro c member
  rcases List.mem_append.mp member with zero | digit
  · rw [List.eq_of_mem_replicate zero]
    rfl
  · exact isDigit_toDigits digit

theorem digitChar_digitValue {c : Char} (digit : c.isDigit = true) :
    Numeral.digitValue c < 10 ∧ Nat.digitChar (Numeral.digitValue c) = c := by
  rw [Numeral.digitValue, if_pos digit]
  have bounds : 48 ≤ c.toNat ∧ c.toNat ≤ 57 := by
    unfold Char.isDigit at digit
    rw [Bool.and_eq_true, decide_eq_true_eq, decide_eq_true_eq] at digit
    exact ⟨UInt32.le_iff_toNat_le.mp digit.1, UInt32.le_iff_toNat_le.mp digit.2⟩
  have zero : '0'.toNat = 48 := rfl
  refine ⟨by omega, ?_⟩
  apply Char.toNat_inj.mp
  rw [Nat.toNat_digitChar_of_lt_ten (by omega)]
  omega

/-- Digits write their value. The induction adds the last digit: behind zeros it is the first digit
that counts. -/
theorem exists_zeros {digits : List Char} (some : digits ≠ [])
    (all : ∀ c ∈ digits, c.isDigit = true) :
    ∃ zeros, digits =
      List.replicate zeros '0' ++ Nat.toDigits 10 (Numeral.digitsValue 10 digits) := by
  induction digits using List.reverseRecOn with
  | nil => exact absurd rfl some
  | append_singleton before c ih =>
    obtain ⟨small, written⟩ := digitChar_digitValue (all c (by simp))
    have one : Nat.toDigits 10 (Numeral.digitValue c) = [c] := by
      rw [Nat.toDigits_of_lt_base small, written]
    rw [digitsValue_concat]
    by_cases first : before = []
    · subst first
      refine ⟨0, ?_⟩
      show [c] = Nat.toDigits 10 (0 * 10 + _)
      rw [Nat.zero_mul, Nat.zero_add, one]
    · obtain ⟨zeros, shape⟩ := ih first fun d member => all d (List.mem_append_left _ member)
      by_cases none : Numeral.digitsValue 10 before = 0
      · refine ⟨zeros + 1, ?_⟩
        rw [none, Nat.toDigits_zero] at shape
        rw [none, Nat.zero_mul, Nat.zero_add, one, List.replicate_succ', ← shape]
      · refine ⟨zeros, ?_⟩
        rw [Nat.mul_comm, ← Nat.toDigits_append_toDigits (by decide) (by omega) small, one,
          ← List.append_assoc, ← shape]

/-- Only the digits of zero begin with a zero. -/
theorem head_toDigits {n : Nat} (positive : 0 < n) : (Nat.toDigits 10 n).head? ≠ some '0' := by
  induction n using Nat.strongRecOn with
  | ind n ih =>
    by_cases small : n < 10
    · rw [Nat.toDigits_of_lt_base small]
      intro zero
      have same : n.digitChar = '0' := Option.some.inj zero
      rw [Nat.digitChar_eq_zero] at same
      omega
    · rw [Nat.toDigits_of_base_le (by decide) (by omega), List.head?_append]
      have first := ih (n / 10) (by omega) (by omega)
      cases shape : (Nat.toDigits 10 (n / 10)).head? with
      | none => exact absurd (List.head?_eq_none_iff.mp shape) Nat.toDigits_ne_nil
      | some c =>
        rw [shape] at first
        exact first

end StationScript
