import Mathlib.Data.List.Forall2
import StationScript.Config.Load
import StationScript.Proofs.Text.Digits
import StationScript.Proofs.Text.Utf8

/-!
How the texts of environment variables are understood.

A count is written in decimal digits, with zeros in front and one plus before them if one likes, and
blanks around; a flag is one of eight words in either case. Both are stated here by what can be
written, not by how it is read.
-/

set_option autoImplicit false

namespace StationScript

/-- A text and what is left of it without the blanks at either end. -/
structure Text.Trims (text core : List Char) : Prop where
  surrounded : ∃ front back, text = front ++ core ++ back ∧ (∀ c ∈ front, Text.isBlank c = true) ∧
    ∀ c ∈ back, Text.isBlank c = true
  first : ∀ c, core.head? = some c → Text.isBlank c = false
  last : ∀ c, core.getLast? = some c → Text.isBlank c = false

/-- Decimal digits of a number, any zeros in front of them, and perhaps a plus before. -/
def Writes (text : List Char) (n : Nat) : Prop :=
  ∃ sign zeros, (sign = [] ∨ sign = ['+']) ∧
    text = sign ++ List.replicate zeros '0' ++ Nat.toDigits 10 n

/-- The word in letters of either case. -/
def Spells (text : List Char) (word : String) : Prop :=
  List.Forall₂ (fun c letter => c = letter ∨ c = letter.toUpper) text word.toList

def affirmative : List String := ["true", "1", "yes", "on"]

def negative : List String := ["false", "0", "no", "off"]

namespace Text

/-- Nothing is dropped from a text that begins with no blank. -/
theorem dropWhile_eq_self_of_head {text : List Char}
    (first : ∀ c, text.head? = some c → isBlank c = false) : text.dropWhile isBlank = text := by
  cases text with
  | nil => rfl
  | cons c rest =>
    have solid : ¬ isBlank c = true := by simp [first c rfl]
    exact List.dropWhile_cons_of_neg solid

theorem head_dropWhile (text : List Char) (c : Char)
    (first : (text.dropWhile isBlank).head? = some c) : isBlank c = false := by
  have solid := List.head?_dropWhile_not isBlank text
  rw [first] at solid
  exact solid

theorem Trims.eq_trim {text core : List Char} (trims : Trims text core) : core = trim text := by
  obtain ⟨front, back, rfl, before, after⟩ := trims.surrounded
  have emptied {blanks : List Char} (all : ∀ c ∈ blanks, isBlank c = true) (rest : List Char) :
      (blanks ++ rest).dropWhile isBlank = rest.dropWhile isBlank :=
    List.dropWhile_append_of_pos all
  have behind : ∀ c ∈ back.reverse, isBlank c = true := by
    intro c member
    exact after c (List.mem_reverse.mp member)
  have ending : core.reverse.dropWhile isBlank = core.reverse := by
    apply dropWhile_eq_self_of_head
    intro c first
    apply trims.last c
    rwa [List.head?_reverse] at first
  unfold trim
  rw [List.append_assoc, emptied before]
  cases core with
  | nil =>
    rw [List.nil_append, ← List.append_nil back, emptied after]
    rfl
  | cons c rest =>
    have kept : (c :: rest ++ back).dropWhile isBlank = c :: rest ++ back :=
      dropWhile_eq_self_of_head trims.first
    rw [kept, List.reverse_append, emptied behind, ending, List.reverse_reverse]

theorem trims_trim (text : List Char) : Trims text (trim text) := by
  have front := List.takeWhile_append_dropWhile (p := isBlank) (l := text)
  have back := List.takeWhile_append_dropWhile (p := isBlank)
    (l := (text.dropWhile isBlank).reverse)
  have kept : trim text ++ ((text.dropWhile isBlank).reverse.takeWhile isBlank).reverse =
      text.dropWhile isBlank := by
    unfold trim
    rw [← List.reverse_append, back, List.reverse_reverse]
  have blank {cs : List Char} (c : Char) (member : c ∈ cs.takeWhile isBlank) : isBlank c = true :=
    List.all_eq_true.mp List.all_takeWhile c member
  refine ⟨⟨text.takeWhile isBlank, ((text.dropWhile isBlank).reverse.takeWhile isBlank).reverse,
    ?_, blank, ?_⟩, ?_, ?_⟩
  · rw [List.append_assoc, kept, front]
  · intro c member
    exact blank c (List.mem_reverse.mp member)
  · intro c first
    apply head_dropWhile text c
    rw [← kept, List.head?_append, first, Option.some_or]
  · intro c last
    apply head_dropWhile (text.dropWhile isBlank).reverse c
    rwa [← List.getLast?_reverse]

end Text

/-- The text of a variable is the one whose bytes it holds. -/
theorem Environment.text?_eq_some_iff (environment : Environment) (name text : String) :
    environment.text? name = some text ↔ environment name = some text.toUTF8 := by
  unfold text?
  cases environment name with
  | none => simp
  | some bytes =>
    dsimp only
    rw [Option.some.injEq, ← Utf8.decode_eq_ok_iff]
    cases Utf8.decode bytes <;> simp [Except.toOption]

/-! ### Counts -/

/-- The digits that `count?` reads. -/
theorem digits_eq_some_iff (digits : List Char) (n : UInt64) :
    (if digits ≠ [] ∧ digits.all Char.isDigit ∧ Numeral.digitsValue 10 digits < UInt64.size then
      some (UInt64.ofNat (Numeral.digitsValue 10 digits)) else none) = some n ↔
      ∃ zeros, digits = List.replicate zeros '0' ++ Nat.toDigits 10 n.toNat := by
  constructor
  · intro read
    split at read
    · rename_i fits
      obtain ⟨there, all, bound⟩ := fits
      cases read
      rw [UInt64.toNat_ofNat_of_lt' bound]
      exact exists_zeros there (List.all_eq_true.mp all)
    · cases read
  · rintro ⟨zeros, rfl⟩
    have all : (List.replicate zeros '0' ++ Nat.toDigits 10 n.toNat).all Char.isDigit = true := by
      rw [List.all_eq_true]
      intro c member
      rcases List.mem_append.mp member with zero | digit
      · rw [List.eq_of_mem_replicate zero]
        rfl
      · exact isDigit_toDigits digit
    have there : List.replicate zeros '0' ++ Nat.toDigits 10 n.toNat ≠ [] := by simp
    rw [digitsValue_toDigits, if_pos ⟨there, all, n.toNat_lt⟩, UInt64.ofNat_toNat]

/-- No digits begin with a plus. -/
theorem plus_not_digits (zeros n : Nat) (rest : List Char) :
    '+' :: rest ≠ List.replicate zeros '0' ++ Nat.toDigits 10 n := by
  intro same
  have member : '+' ∈ List.replicate zeros '0' ++ Nat.toDigits 10 n := by
    rw [← same]
    exact List.mem_cons_self
  rcases List.mem_append.mp member with zero | digit
  · exact absurd (List.eq_of_mem_replicate zero) (by decide)
  · exact absurd (isDigit_toDigits digit) (by decide)

theorem ConfigLayer.count?_eq_some_iff (text : List Char) (n : UInt64) :
    count? text = some n ↔ Writes text n.toNat := by
  unfold count?
  dsimp only
  rw [digits_eq_some_iff]
  constructor
  · rintro ⟨zeros, shape⟩
    split at shape
    · exact ⟨['+'], zeros, .inr rfl, by rw [shape, List.append_assoc]; rfl⟩
    · exact ⟨[], zeros, .inl rfl, by rw [shape]; rfl⟩
  · rintro ⟨sign, zeros, rfl | rfl, rfl⟩
    · refine ⟨zeros, ?_⟩
      split
      · rename_i rest same
        exact absurd same.symm (plus_not_digits zeros n.toNat rest)
      · rfl
    · exact ⟨zeros, rfl⟩

/-! ### Flags -/

theorem toNat_toLower (c : Char) :
    c.toLower.toNat = if 65 ≤ c.toNat ∧ c.toNat ≤ 90 then c.toNat + 32 else c.toNat := by
  have upper : (c.val ≥ 'A'.val ∧ c.val ≤ 'Z'.val) ↔ 65 ≤ c.toNat ∧ c.toNat ≤ 90 :=
    and_congr UInt32.le_iff_toNat_le UInt32.le_iff_toNat_le
  have offset : ('a'.val - 'A'.val).toNat = 32 := rfl
  unfold Char.toLower
  split
  · rename_i capital
    have bounds := upper.mp capital
    rw [if_pos bounds]
    show (c.val + ('a'.val - 'A'.val)).toNat = c.val.toNat + 32
    have small : c.val.toNat ≤ 90 := bounds.2
    rw [UInt32.toNat_add, offset]
    omega
  · rename_i other
    rw [if_neg fun bounds => other (upper.mpr bounds)]

theorem toNat_toUpper (c : Char) :
    c.toUpper.toNat = if 97 ≤ c.toNat ∧ c.toNat ≤ 122 then c.toNat - 32 else c.toNat := by
  have lower : ('a'.val ≤ c.val ∧ c.val ≤ 'z'.val) ↔ 97 ≤ c.toNat ∧ c.toNat ≤ 122 :=
    and_congr UInt32.le_iff_toNat_le UInt32.le_iff_toNat_le
  have offset : ('A'.val - 'a'.val).toNat = 2 ^ 32 - 32 := rfl
  unfold Char.toUpper
  split
  · rename_i small
    have bounds := lower.mp small
    rw [if_pos bounds]
    show (c.val + ('A'.val - 'a'.val)).toNat = c.val.toNat - 32
    have large : 97 ≤ c.val.toNat := bounds.1
    have small : c.val.toNat ≤ 122 := bounds.2
    rw [UInt32.toNat_add, offset]
    omega
  · rename_i other
    rw [if_neg fun bounds => other (lower.mpr bounds)]

/-- A character that is no capital is the lower case of itself and of its capital only. -/
theorem toLower_eq_iff {letter : Char} (small : ¬ (65 ≤ letter.toNat ∧ letter.toNat ≤ 90))
    (c : Char) : c.toLower = letter ↔ c = letter ∨ c = letter.toUpper := by
  rw [← Char.toNat_inj, ← Char.toNat_inj, ← Char.toNat_inj, toNat_toLower, toNat_toUpper]
  split <;> split <;> omega

theorem map_toLower_eq_iff {word : List Char}
    (small : ∀ letter ∈ word, ¬ (65 ≤ letter.toNat ∧ letter.toNat ≤ 90)) (text : List Char) :
    text.map Char.toLower = word ↔
      List.Forall₂ (fun c letter => c = letter ∨ c = letter.toUpper) text word := by
  induction text generalizing word with
  | nil =>
    rw [List.map_nil, List.forall₂_nil_left_iff]
    exact eq_comm
  | cons c rest ih =>
    cases word with
    | nil => simp
    | cons letter others =>
      rw [List.map_cons, List.cons.injEq, List.forall₂_cons,
        toLower_eq_iff (small letter List.mem_cons_self),
        ih fun other member => small other (List.mem_cons_of_mem _ member)]

theorem lower_eq_iff {word : String} (known : word ∈ affirmative ++ negative) (text : List Char) :
    String.ofList (text.map Char.toLower) = word ↔ Spells text word := by
  have small : (affirmative ++ negative).all (fun word => word.toList.all fun letter =>
      decide (letter.toNat < 65 ∨ 90 < letter.toNat)) = true := by decide
  have uncapitalized : ∀ letter ∈ word.toList, ¬ (65 ≤ letter.toNat ∧ letter.toNat ≤ 90) := by
    intro letter member
    have outside := List.all_eq_true.mp (List.all_eq_true.mp small word known) letter member
    rw [decide_eq_true_eq] at outside
    omega
  unfold Spells
  rw [← map_toLower_eq_iff uncapitalized, ← String.toList_inj, String.toList_ofList]

/-- The words of a flag. -/
def flagWords (b : Bool) : List String := if b then affirmative else negative

theorem lower_mem_iff (b : Bool) (text : List Char) :
    String.ofList (text.map Char.toLower) ∈ flagWords b ↔
      ∃ word ∈ flagWords b, Spells text word := by
  have known : ∀ word ∈ flagWords b, word ∈ affirmative ++ negative := by
    cases b <;> decide
  constructor
  · intro member
    exact ⟨_, member, (lower_eq_iff (known _ member) text).mp rfl⟩
  · rintro ⟨word, member, spelled⟩
    rw [(lower_eq_iff (known word member) text).mpr spelled]
    exact member

theorem ConfigLayer.flag?_eq_some_iff (text : List Char) (b : Bool) :
    flag? text = some b ↔ ∃ word ∈ flagWords b, Spells text word := by
  have apart : ∀ word ∈ flagWords true, word ∉ flagWords false := by decide
  rw [← lower_mem_iff]
  show (if _ ∈ flagWords true then some true
    else if _ ∈ flagWords false then some false else none) =
    some b ↔ _
  generalize String.ofList (text.map Char.toLower) = word
  cases b <;> grind

end StationScript
