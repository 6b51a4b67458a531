import Mathlib.Tactic.SplitIfs
import StationScript.Text.Utf8

/-!
Text is read back from its own bytes, and from no others. A text without a replacement character is
also what only its own bytes are read as when faults are replaced.
-/

set_option autoImplicit false

namespace StationScript.Utf8

section Bytes

variable {k : Nat} (small : k < 256) (b : UInt8)
include small

theorem toNat_byte : (UInt8.ofNat k).toNat = k := by
  rw [UInt8.toNat_ofNat']
  omega

theorem byte_lt : UInt8.ofNat k < b ↔ k < b.toNat := by
  rw [UInt8.lt_iff_toNat_lt, toNat_byte small]

theorem le_byte : b ≤ UInt8.ofNat k ↔ b.toNat ≤ k := by
  rw [UInt8.le_iff_toNat_le, toNat_byte small]

theorem byte_eq : UInt8.ofNat k = b ↔ k = b.toNat := by
  rw [← UInt8.toNat_inj, toNat_byte small]

end Bytes

theorem isTail_of_low (low : Nat) : isTail (UInt8.ofNat (low % 64 + 128)) = true := by
  have small : low % 64 + 128 < 256 := by omega
  unfold isTail
  rw [Bool.and_eq_true, decide_eq_true_eq, decide_eq_true_eq, le_byte small, byte_lt small]
  change 128 ≤ _ ∧ _ < 192
  omega

theorem payload_of_low (low : Nat) : payload (UInt8.ofNat (low % 64 + 128)) = low % 64 := by
  have small : low % 64 + 128 < 256 := by omega
  unfold payload
  rw [toNat_byte small]
  omega

/-- A quotient and its last digit. -/
theorem div_digit (v unit base : Nat) :
    base * (v / (unit * base)) + v / unit % base = v / unit := by
  rw [← Nat.div_div_eq_div_mul]
  exact Nat.div_add_mod _ _

theorem next_one {v : Nat} (low : v ≤ 127) (rest : List UInt8) :
    next (UInt8.ofNat v :: rest) = .character (Char.ofNat v) 1 := by
  have small : v < 256 := by omega
  have first : UInt8.ofNat v < 0x80 := by
    rw [byte_lt small]
    change _ < 128
    omega
  unfold next
  dsimp only
  rw [if_pos first, toNat_byte small]

theorem next_two {v : Nat} (above : 127 < v) (low : v ≤ 2047) (rest : List UInt8) :
    next (UInt8.ofNat (v / 64 % 32 + 192) :: UInt8.ofNat (v % 64 + 128) :: rest) =
      .character (Char.ofNat v) 2 := by
  have small : v / 64 % 32 + 192 < 256 := by omega
  have ascii : ¬ UInt8.ofNat (v / 64 % 32 + 192) < 0x80 := by
    rw [byte_lt small]
    change ¬ _ < 128
    omega
  have lead : (0xC2 ≤ UInt8.ofNat (v / 64 % 32 + 192) &&
      UInt8.ofNat (v / 64 % 32 + 192) < 0xE0) = true := by
    rw [Bool.and_eq_true, decide_eq_true_eq, decide_eq_true_eq, le_byte small, byte_lt small]
    change 194 ≤ _ ∧ _ < 224
    omega
  have value : (v / 64 % 32 + 192) % 32 * 64 + v % 64 = v := by omega
  unfold next
  simp only [if_neg ascii, if_pos lead, isTail_of_low, payload_of_low, toNat_byte small, value,
    if_true]

theorem next_three {v : Nat} (above : 2047 < v) (low : v ≤ 65535)
    (scalar : v < 0xD800 ∨ 0xDFFF < v) (rest : List UInt8) :
    next (UInt8.ofNat (v / 4096 % 16 + 224) :: UInt8.ofNat (v / 64 % 64 + 128) ::
      UInt8.ofNat (v % 64 + 128) :: rest) = .character (Char.ofNat v) 3 := by
  have digits := div_digit v 64 64
  have small : v / 4096 % 16 + 224 < 256 := by omega
  have tail : v / 64 % 64 + 128 < 256 := by omega
  have ascii : ¬ UInt8.ofNat (v / 4096 % 16 + 224) < 0x80 := by
    rw [byte_lt small]
    change ¬ _ < 128
    omega
  have two : ¬ (0xC2 ≤ UInt8.ofNat (v / 4096 % 16 + 224) &&
      UInt8.ofNat (v / 4096 % 16 + 224) < 0xE0) = true := by
    rw [Bool.and_eq_true, decide_eq_true_eq, decide_eq_true_eq, le_byte small, byte_lt small]
    change ¬ (194 ≤ _ ∧ _ < 224)
    omega
  have lead : (0xE0 ≤ UInt8.ofNat (v / 4096 % 16 + 224) &&
      UInt8.ofNat (v / 4096 % 16 + 224) < 0xF0) = true := by
    rw [Bool.and_eq_true, decide_eq_true_eq, decide_eq_true_eq, le_byte small, byte_lt small]
    change 224 ≤ _ ∧ _ < 240
    omega
  have fits : secondFits (UInt8.ofNat (v / 4096 % 16 + 224)) (UInt8.ofNat (v / 64 % 64 + 128)) =
      true := by
    unfold secondFits
    simp only [byte_eq small, isTail_of_low, Bool.and_eq_true, decide_eq_true_eq, le_byte tail,
      byte_lt tail, apply_ite (· = true)]
    change if v / 4096 % 16 + 224 = 224 then 160 ≤ v / 64 % 64 + 128 ∧ v / 64 % 64 + 128 < 192
      else if v / 4096 % 16 + 224 = 237 then 128 ≤ v / 64 % 64 + 128 ∧ v / 64 % 64 + 128 < 160
      else if v / 4096 % 16 + 224 = 240 then 144 ≤ v / 64 % 64 + 128 ∧ v / 64 % 64 + 128 < 192
      else if v / 4096 % 16 + 224 = 244 then 128 ≤ v / 64 % 64 + 128 ∧ v / 64 % 64 + 128 < 144
      else True
    split_ifs <;> omega
  have value : (v / 4096 % 16 + 224) % 16 * 4096 + v / 64 % 64 * 64 + v % 64 = v := by omega
  unfold next
  simp only [if_neg ascii, if_neg two, if_pos lead, fits, isTail_of_low, payload_of_low,
    toNat_byte small, value, if_true, Bool.not_true, Bool.false_eq_true, if_false]

theorem next_four {v : Nat} (above : 65535 < v) (low : v < 0x110000) (rest : List UInt8) :
    next (UInt8.ofNat (v / 262144 % 8 + 240) :: UInt8.ofNat (v / 4096 % 64 + 128) ::
      UInt8.ofNat (v / 64 % 64 + 128) :: UInt8.ofNat (v % 64 + 128) :: rest) =
        .character (Char.ofNat v) 4 := by
  have digits := div_digit v 64 64
  have leading := div_digit v 4096 64
  have small : v / 262144 % 8 + 240 < 256 := by omega
  have tail : v / 4096 % 64 + 128 < 256 := by omega
  have ascii : ¬ UInt8.ofNat (v / 262144 % 8 + 240) < 0x80 := by
    rw [byte_lt small]
    change ¬ _ < 128
    omega
  have two : ¬ (0xC2 ≤ UInt8.ofNat (v / 262144 % 8 + 240) &&
      UInt8.ofNat (v / 262144 % 8 + 240) < 0xE0) = true := by
    rw [Bool.and_eq_true, decide_eq_true_eq, decide_eq_true_eq, le_byte small, byte_lt small]
    change ¬ (194 ≤ _ ∧ _ < 224)
    omega
  have three : ¬ (0xE0 ≤ UInt8.ofNat (v / 262144 % 8 + 240) &&
      UInt8.ofNat (v / 262144 % 8 + 240) < 0xF0) = true := by
    rw [Bool.and_eq_true, decide_eq_true_eq, decide_eq_true_eq, le_byte small, byte_lt small]
    change ¬ (224 ≤ _ ∧ _ < 240)
    omega
  have lead : (0xF0 ≤ UInt8.ofNat (v / 262144 % 8 + 240) &&
      UInt8.ofNat (v / 262144 % 8 + 240) < 0xF5) = true := by
    rw [Bool.and_eq_true, decide_eq_true_eq, decide_eq_true_eq, le_byte small, byte_lt small]
    change 240 ≤ _ ∧ _ < 245
    omega
  have fits : secondFits (UInt8.ofNat (v / 262144 % 8 + 240)) (UInt8.ofNat (v / 4096 % 64 + 128)) =
      true := by
    unfold secondFits
    simp only [byte_eq small, isTail_of_low, Bool.and_eq_true, decide_eq_true_eq, le_byte tail,
      byte_lt tail, apply_ite (· = true)]
    change if v / 262144 % 8 + 240 = 224 then 160 ≤ v / 4096 % 64 + 128 ∧ v / 4096 % 64 + 128 < 192
      else if v / 262144 % 8 + 240 = 237 then 128 ≤ v / 4096 % 64 + 128 ∧ v / 4096 % 64 + 128 < 160
      else if v / 262144 % 8 + 240 = 240 then 144 ≤ v / 4096 % 64 + 128 ∧ v / 4096 % 64 + 128 < 192
      else if v / 262144 % 8 + 240 = 244 then 128 ≤ v / 4096 % 64 + 128 ∧ v / 4096 % 64 + 128 < 144
      else True
    split_ifs <;> omega
  have value : (v / 262144 % 8 + 240) % 8 * 262144 + v / 4096 % 64 * 4096 + v / 64 % 64 * 64 +
      v % 64 = v := by omega
  unfold next
  simp only [if_neg ascii, if_neg two, if_neg three, if_pos lead, fits, isTail_of_low,
    payload_of_low, toNat_byte small, value, if_true, Bool.not_true, Bool.false_eq_true, if_false]

/-- A character is read from the front of its encoding. -/
theorem next_encode (c : Char) (rest : List UInt8) :
    next (String.utf8EncodeChar c ++ rest) =
      .character c (String.utf8EncodeChar c).length := by
  have back : Char.ofNat c.val.toNat = c := Char.ofNat_toNat c
  have scalar : c.val.toNat < 0xD800 ∨ 0xDFFF < c.val.toNat ∧ c.val.toNat < 0x110000 := c.valid
  unfold String.utf8EncodeChar
  dsimp only
  generalize c.val.toNat = v at *
  split
  · rename_i one
    rw [List.cons_append, next_one one, back]
    rfl
  · rename_i one
    split
    · rename_i two
      rw [List.cons_append, List.cons_append, next_two (by omega) two, back]
      rfl
    · rename_i two
      split
      · rename_i three
        rw [List.cons_append, List.cons_append, List.cons_append,
          next_three (by omega) three (by omega), back]
        rfl
      · rename_i three
        rw [List.cons_append, List.cons_append, List.cons_append, List.cons_append,
          next_four (by omega) (by omega), back]
        rfl

theorem decodeFrom_encode (index : Nat) (text : List Char) {fuel : Nat} (chars : List Char)
    (enough : (chars.flatMap String.utf8EncodeChar).length ≤ fuel) :
    decodeFrom index text fuel (chars.flatMap String.utf8EncodeChar) =
      .ok (text.reverse ++ chars) := by
  induction chars generalizing index text fuel with
  | nil => cases fuel <;> simp [decodeFrom]
  | cons c rest ih =>
    have filled : 0 < (String.utf8EncodeChar c).length :=
      List.length_pos_iff.mpr String.utf8EncodeChar_ne_nil
    rw [List.flatMap_cons, List.length_append] at enough
    rw [List.flatMap_cons]
    cases fuel with
    | zero => omega
    | succ fuel =>
      have front := next_encode c (rest.flatMap String.utf8EncodeChar)
      rw [decodeFrom, front]
      · dsimp only
        rw [List.drop_left, ih _ _ (by omega)]
        simp
      · simp

/-- The bytes from a position on, behind those that were read before. -/
theorem toList_loop (bytes : ByteArray) (i : Nat) (read : List UInt8) :
    ByteArray.toList.loop bytes i read = read.reverse ++ bytes.data.toList.drop i := by
  induction i, read using ByteArray.toList.loop.induct bytes with
  | case1 i read inside ih =>
    have within : i < bytes.data.toList.length := by simpa using inside
    have here : bytes.get! i = bytes.data.toList[i] := by
      rw [Array.getElem_toList]
      exact getElem!_pos bytes.data i (by simpa using inside)
    rw [ByteArray.toList.loop, if_pos inside, ih, List.drop_eq_getElem_cons within, here,
      List.reverse_cons, List.append_assoc, List.singleton_append]
  | case2 i read outside =>
    rw [ByteArray.toList.loop, if_neg outside, List.drop_eq_nil_of_le (by simpa using outside),
      List.append_nil]

/-- A text is what its bytes are decoded to. -/
theorem decode_toUTF8 (text : String) : decode text.toUTF8 = .ok text := by
  have encoded : text.toUTF8 = (text.toList.flatMap String.utf8EncodeChar).toByteArray :=
    String.utf8Encode_toList.symm
  have bytes : text.toUTF8.toList = text.toList.flatMap String.utf8EncodeChar := by
    rw [encoded, ByteArray.toList, toList_loop]
    simp
  have size : text.toUTF8.size = (text.toList.flatMap String.utf8EncodeChar).length := by
    rw [encoded, List.size_toByteArray]
  unfold decode
  rw [bytes, decodeFrom_encode 0 [] text.toList (Nat.le_of_eq size.symm)]
  simp [Except.map]

/-! ## Bytes from characters -/

/-- The number of a character, if there is one of that number. -/
theorem val_ofNat {v : Nat} (valid : v < 0xD800 ∨ 0xDFFF < v ∧ v < 0x110000) :
    (Char.ofNat v).val.toNat = v := by
  unfold Char.ofNat
  rw [dif_pos (show v.isValidChar from valid)]
  rfl

theorem encode_one {a : UInt8} (low : a.toNat < 128) :
    String.utf8EncodeChar (Char.ofNat a.toNat) = [a] := by
  unfold String.utf8EncodeChar
  rw [val_ofNat (by omega)]
  dsimp only
  rw [if_pos (by omega), UInt8.ofNat_toNat]

theorem encode_two {a b : UInt8} (lead : 194 ≤ a.toNat ∧ a.toNat < 224)
    (tail : 128 ≤ b.toNat ∧ b.toNat < 192) :
    String.utf8EncodeChar (Char.ofNat (a.toNat % 32 * 64 + payload b)) = [a, b] := by
  unfold payload String.utf8EncodeChar
  rw [val_ofNat (by omega)]
  generalize value : a.toNat % 32 * 64 + b.toNat % 64 = v
  dsimp only
  have first : v / 64 % 32 + 192 = a.toNat := by omega
  have second : v % 64 + 128 = b.toNat := by omega
  rw [if_neg (by omega), if_pos (by omega), first, second, UInt8.ofNat_toNat, UInt8.ofNat_toNat]

/-- The second byte of a longer sequence, in numbers. -/
theorem secondFits_iff (a b : UInt8) :
    secondFits a b = true ↔ 128 ≤ b.toNat ∧ b.toNat < 192 ∧ (a.toNat = 224 → 160 ≤ b.toNat) ∧
      (a.toNat = 237 → b.toNat < 160) ∧ (a.toNat = 240 → 144 ≤ b.toNat) ∧
      (a.toNat = 244 → b.toNat < 144) := by
  have numbers : ∀ k : UInt8, a = k ↔ a.toNat = k.toNat := fun k => UInt8.toNat_inj.symm
  unfold secondFits isTail
  simp only [numbers, apply_ite (· = true), Bool.and_eq_true, decide_eq_true_eq,
    UInt8.le_iff_toNat_le, UInt8.lt_iff_toNat_lt]
  change (if a.toNat = 224 then 160 ≤ b.toNat ∧ b.toNat < 192
    else if a.toNat = 237 then 128 ≤ b.toNat ∧ b.toNat < 160
    else if a.toNat = 240 then 144 ≤ b.toNat ∧ b.toNat < 192
    else if a.toNat = 244 then 128 ≤ b.toNat ∧ b.toNat < 144
    else 128 ≤ b.toNat ∧ b.toNat < 192) ↔ _
  split_ifs <;> omega

theorem encode_three {a b c : UInt8} (lead : 224 ≤ a.toNat ∧ a.toNat < 240)
    (fits : secondFits a b = true) (tail : 128 ≤ c.toNat ∧ c.toNat < 192) :
    String.utf8EncodeChar
      (Char.ofNat (a.toNat % 16 * 4096 + payload b * 64 + payload c)) = [a, b, c] := by
  have second := (secondFits_iff a b).mp fits
  unfold payload String.utf8EncodeChar
  rw [val_ofNat (by omega)]
  generalize value : a.toNat % 16 * 4096 + b.toNat % 64 * 64 + c.toNat % 64 = v
  dsimp only
  have one : v / 4096 % 16 + 224 = a.toNat := by omega
  have two : v / 64 % 64 + 128 = b.toNat := by omega
  have three : v % 64 + 128 = c.toNat := by omega
  rw [if_neg (by omega), if_neg (by omega), if_pos (by omega), one, two, three, UInt8.ofNat_toNat,
    UInt8.ofNat_toNat, UInt8.ofNat_toNat]

theorem encode_four {a b c d : UInt8} (lead : 240 ≤ a.toNat ∧ a.toNat < 245)
    (fits : secondFits a b = true) (third : 128 ≤ c.toNat ∧ c.toNat < 192)
    (tail : 128 ≤ d.toNat ∧ d.toNat < 192) :
    String.utf8EncodeChar (Char.ofNat
      (a.toNat % 8 * 262144 + payload b * 4096 + payload c * 64 + payload d)) = [a, b, c, d] := by
  have second := (secondFits_iff a b).mp fits
  unfold payload String.utf8EncodeChar
  rw [val_ofNat (by omega)]
  generalize value :
    a.toNat % 8 * 262144 + b.toNat % 64 * 4096 + c.toNat % 64 * 64 + d.toNat % 64 = v
  dsimp only
  have one : v / 262144 % 8 + 240 = a.toNat := by omega
  have two : v / 4096 % 64 + 128 = b.toNat := by omega
  have three : v / 64 % 64 + 128 = c.toNat := by omega
  have four : v % 64 + 128 = d.toNat := by omega
  rw [if_neg (by omega), if_neg (by omega), if_neg (by omega), one, two, three, four,
    UInt8.ofNat_toNat, UInt8.ofNat_toNat, UInt8.ofNat_toNat, UInt8.ofNat_toNat]

theorem isTail_iff (b : UInt8) : isTail b = true ↔ 128 ≤ b.toNat ∧ b.toNat < 192 := by
  unfold isTail
  rw [Bool.and_eq_true, decide_eq_true_eq, decide_eq_true_eq, UInt8.le_iff_toNat_le,
    UInt8.lt_iff_toNat_lt]
  rfl

/-- A character that was read stands there in its own encoding. -/
theorem encode_of_next {bytes : List UInt8} {c : Char} {length : Nat}
    (read : next bytes = .character c length) :
    ∃ rest, bytes = String.utf8EncodeChar c ++ rest ∧
      length = (String.utf8EncodeChar c).length := by
  have range {low high a : UInt8} (within : (low ≤ a && a < high) = true) :
      low.toNat ≤ a.toNat ∧ a.toNat < high.toNat := by
    rwa [Bool.and_eq_true, decide_eq_true_eq, decide_eq_true_eq, UInt8.le_iff_toNat_le,
      UInt8.lt_iff_toNat_lt] at within
  unfold next at read
  split at read
  · cases read
  · rename_i a rest
    split at read
    · rename_i low
      cases read
      rw [encode_one (UInt8.lt_iff_toNat_lt.mp low)]
      exact ⟨rest, rfl, rfl⟩
    · split at read
      · rename_i lead
        split at read
        · cases read
        · rename_i b rest
          split at read
          · rename_i tail
            cases read
            rw [encode_two (range lead) ((isTail_iff b).mp tail)]
            exact ⟨rest, rfl, rfl⟩
          · cases read
      · split at read
        · rename_i lead
          split at read
          · cases read
          · rename_i b rest
            split at read
            · cases read
            · rename_i fits
              split at read
              · cases read
              · rename_i d rest
                split at read
                · rename_i tail
                  cases read
                  rw [encode_three (range lead) (by simpa using fits) ((isTail_iff d).mp tail)]
                  exact ⟨rest, rfl, rfl⟩
                · cases read
        · split at read
          · rename_i lead
            split at read
            · cases read
            · rename_i b rest
              split at read
              · cases read
              · rename_i fits
                split at read
                · cases read
                · rename_i d rest
                  split at read
                  · cases read
                  · rename_i third
                    split at read
                    · cases read
                    · rename_i e rest
                      split at read
                      · rename_i tail
                        cases read
                        rw [encode_four (range lead) (by simpa using fits)
                          ((isTail_iff d).mp (by simpa using third)) ((isTail_iff e).mp tail)]
                        exact ⟨rest, rfl, rfl⟩
                      · cases read
          · cases read

theorem encode_of_decodeFrom {index : Nat} {text result : List Char} {fuel : Nat}
    {bytes : List UInt8} (enough : bytes.length ≤ fuel)
    (decoded : decodeFrom index text fuel bytes = .ok result) :
    ∃ chars, result = text.reverse ++ chars ∧ bytes = chars.flatMap String.utf8EncodeChar := by
  induction fuel generalizing index text bytes with
  | zero =>
    have nothing : bytes = [] := List.eq_nil_of_length_eq_zero (by omega)
    subst nothing
    cases decoded
    exact ⟨[], by simp, rfl⟩
  | succ fuel ih =>
    cases bytes with
    | nil =>
      cases decoded
      exact ⟨[], by simp, rfl⟩
    | cons a others =>
      rw [decodeFrom] at decoded
      · split at decoded
        · rename_i c length read
          obtain ⟨rest, split, size⟩ := encode_of_next read
          have filled : 0 < (String.utf8EncodeChar c).length :=
            List.length_pos_iff.mpr String.utf8EncodeChar_ne_nil
          have total := congrArg List.length split
          rw [List.length_append] at total
          rw [split, size, List.drop_left] at decoded
          obtain ⟨chars, same, encoded⟩ := ih (by omega) decoded
          refine ⟨c :: chars, ?_, ?_⟩
          · rw [same, List.reverse_cons, List.append_assoc, List.singleton_append]
          · rw [split, encoded, List.flatMap_cons]
        · cases decoded
        · cases decoded
      · simp

theorem toList_eq (bytes : ByteArray) : bytes.toList = bytes.data.toList := by
  rw [ByteArray.toList, toList_loop]
  simp

/-- The bytes of a text are the only ones that are decoded to it. -/
theorem decode_eq_ok_iff (bytes : ByteArray) (text : String) :
    decode bytes = .ok text ↔ bytes = text.toUTF8 := by
  constructor
  · intro decoded
    unfold decode at decoded
    cases read : decodeFrom 0 [] bytes.size bytes.toList with
    | error fault =>
      rw [read] at decoded
      cases decoded
    | ok chars =>
      rw [read] at decoded
      cases decoded
      have enough : bytes.toList.length ≤ bytes.size := by
        rw [toList_eq, Array.length_toList]
        exact Nat.le_refl _
      obtain ⟨others, same, encoded⟩ := encode_of_decodeFrom enough read
      rw [List.reverse_nil, List.nil_append] at same
      rw [show (String.ofList chars).toUTF8 = _ from String.utf8Encode_toList.symm,
        String.toList_ofList, List.utf8Encode, same, ← encoded, toList_eq]
      apply ByteArray.ext
      simp
  · rintro rfl
    exact decode_toUTF8 text

/-! ## Replaced faults -/

theorem mem_decodeLossyFrom {c : Char} {text : List Char} (fuel : Nat) (bytes : List UInt8)
    (read : c ∈ text) : c ∈ decodeLossyFrom text fuel bytes := by
  fun_induction decodeLossyFrom text fuel bytes with
  | case1 | case2 => exact List.mem_reverse.mpr read
  | case3 text fuel bytes _ d length _ ih => exact ih (List.mem_cons_of_mem d read)
  | case4 text fuel bytes _ length _ ih => exact ih (List.mem_cons_of_mem _ read)
  | case5 => exact List.mem_reverse.mpr (List.mem_cons_of_mem _ read)

/-- Without a replacement character there was no fault to replace. -/
theorem decodeFrom_of_clean (index : Nat) {text : List Char} {fuel : Nat} {bytes : List UInt8}
    (clean : '\uFFFD' ∉ decodeLossyFrom text fuel bytes) :
    decodeFrom index text fuel bytes = .ok (decodeLossyFrom text fuel bytes) := by
  fun_induction decodeLossyFrom text fuel bytes generalizing index with
  | case1 => rw [decodeFrom]
  | case2 text bytes some =>
    rw [decodeFrom]
    exact some
  | case3 text fuel bytes some c length read ih =>
    rw [decodeFrom, read]
    · exact ih _ clean
    · exact some
  | case4 text fuel bytes _ length _ ih =>
    exact absurd (mem_decodeLossyFrom fuel _ List.mem_cons_self) clean
  | case5 text fuel bytes => exact absurd (List.mem_reverse.mpr List.mem_cons_self) clean

/-- What has no faults is read alike when faults are replaced. -/
theorem decodeLossyFrom_of_ok {index : Nat} {text result : List Char} {fuel : Nat}
    {bytes : List UInt8} (decoded : decodeFrom index text fuel bytes = .ok result) :
    decodeLossyFrom text fuel bytes = result := by
  fun_induction decodeFrom index text fuel bytes with
  | case1 =>
    cases decoded
    rw [decodeLossyFrom]
  | case2 index text bytes some =>
    cases decoded
    rw [decodeLossyFrom]
    exact some
  | case3 index text fuel bytes some c length read ih =>
    rw [decodeLossyFrom, read]
    · exact ih decoded
    · exact some
  | case4 | case5 => cases decoded

/-- Only its own bytes are read as a text without a replacement character. -/
theorem decodeLossy_eq_iff (bytes : ByteArray) {text : String} (clean : '\uFFFD' ∉ text.toList) :
    decodeLossy bytes = text ↔ bytes = text.toUTF8 := by
  rw [← decode_eq_ok_iff]
  unfold decodeLossy decode
  constructor
  · rintro rfl
    rw [String.toList_ofList] at clean
    rw [decodeFrom_of_clean 0 clean]
    rfl
  · intro decoded
    cases read : decodeFrom 0 [] bytes.size bytes.toList with
    | error fault =>
      rw [read] at decoded
      cases decoded
    | ok chars =>
      rw [read] at decoded
      cases decoded
      rw [decodeLossyFrom_of_ok read]

end StationScript.Utf8
