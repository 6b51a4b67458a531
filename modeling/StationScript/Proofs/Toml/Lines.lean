import Mathlib.Algebra.Group.Nat.Defs
import StationScript.Proofs.Text.Digits
import StationScript.Proofs.Toml.Assembly
import StationScript.Proofs.Toml.Quoted

/-!
Documents with one entry on each line: a bare key and its value.

A value is said by what is read of it in front of a line end. Main statement: such lines, with keys
that all differ, are read as their entries, in the same order.
-/

set_option autoImplicit false

namespace StationScript.Toml

/-- In front of any line end the text is read as the node, and it begins with no blank. -/
structure Denotes (text : List Char) (node : Node) : Prop where
  solid : ∀ rest, skipBlanks (text ++ '\n' :: rest) = text ++ '\n' :: rest
  read : ∀ rest, value depthLimit (text ++ '\n' :: rest) = some (node, '\n' :: rest)

/-- An entry with the text of its value. -/
structure PlainEntry where
  key : String
  text : List Char
  node : Node

namespace PlainEntry

/-- The line of the entry. -/
def chars (e : PlainEntry) : List Char := e.key.toList ++ " = ".toList ++ e.text ++ ['\n']

structure Readable (e : PlainEntry) : Prop where
  named : e.key.toList ≠ []
  bare : ∀ c ∈ e.key.toList, isBareKey c = true
  denotes : Denotes e.text e.node

end PlainEntry

/-! ### First characters -/

/-- A character of some kind is no character that is not of that kind. -/
theorem ne_of_kind {kind : Char → Bool} {c d : Char} (yes : kind c = true)
    (no : kind d = false) : c ≠ d := by
  rintro rfl
  rw [yes] at no
  cases no

/-- Digits up to the end of a line begin with a digit or with the line end. -/
theorem ne_of_digits {ds : List Char} (all : ∀ c ∈ ds, c.isDigit = true) {c : Char}
    (digit : c.isDigit = false) (line : '\n' ≠ c) (rest more : List Char) :
    ds ++ '\n' :: rest ≠ c :: more := by
  intro same
  cases ds with
  | nil => exact line (List.cons.inj same).1
  | cons d others => exact ne_of_kind (all d List.mem_cons_self) digit (List.cons.inj same).1

/-! ### Keys -/

theorem simpleKey_bare {key rest : List Char} (named : key ≠ [])
    (bare : ∀ c ∈ key, isBareKey c = true) (stop : ∀ c, rest.head? = some c → isBareKey c = false) :
    simpleKey (key ++ rest) = some (String.ofList key, rest) := by
  have taken : (key ++ rest).takeWhile isBareKey = key := by
    rw [List.takeWhile_append_of_pos bare]
    cases rest with
    | nil => simp
    | cons c rest => rw [List.takeWhile_cons_of_neg (by simp [stop c rfl]), List.append_nil]
  have dropped : (key ++ rest).dropWhile isBareKey = rest := by
    rw [List.dropWhile_append_of_pos bare]
    cases rest with
    | nil => rfl
    | cons c rest => rw [List.dropWhile_cons_of_neg (by simp [stop c rfl])]
  obtain ⟨c, others, rfl⟩ := List.exists_cons_of_ne_nil named
  have first : isBareKey c = true := bare c List.mem_cons_self
  unfold simpleKey
  split
  · rename_i same
    exact absurd (List.cons.inj same).1 (ne_of_kind first (by decide))
  · rename_i same
    exact absurd (List.cons.inj same).1 (ne_of_kind first (by decide))
  · rw [taken, dropped]

theorem path_bare {key : String} (named : key.toList ≠ [])
    (bare : ∀ c ∈ key.toList, isBareKey c = true) (rest : List Char) :
    path (key.toList ++ ' ' :: '=' :: rest) = some (⟨[], key⟩, '=' :: rest) := by
  have solid : skipBlanks (key.toList ++ ' ' :: '=' :: rest) =
      key.toList ++ ' ' :: '=' :: rest := by
    obtain ⟨c, others, shape⟩ := List.exists_cons_of_ne_nil named
    have first : isBareKey c = true := bare c (shape ▸ List.mem_cons_self)
    have noBlank : isBlank c = false := by
      cases blank : isBlank c with
      | false => rfl
      | true =>
        simp only [isBlank, Bool.or_eq_true, decide_eq_true_eq] at blank
        rcases blank with rfl | rfl <;> exact absurd first (by decide)
    rw [shape]
    exact List.dropWhile_cons_of_neg (by simp [noBlank])
  have stop : ∀ c, (' ' :: '=' :: rest).head? = some c → isBareKey c = false := by
    intro c first
    cases first
    decide
  have one : keys depthLimit (key.toList ++ ' ' :: '=' :: rest) = some ([key], '=' :: rest) := by
    show keys (78 + 1) _ = _
    unfold keys
    rw [solid, simpleKey_bare named bare stop, String.ofList_toList]
    rfl
  unfold path
  rw [one]
  rfl

/-! ### Values -/

theorem value_of_scalar {c : Char} (array : c ≠ '[') (table : c ≠ '\x7b') (rest : List Char) :
    value depthLimit (c :: rest) = scalar (c :: rest) := by
  unfold value
  split
  · rename_i same
    exact absurd (List.cons.inj same).1 array
  · rename_i same
    exact absurd (List.cons.inj same).1 table
  · rfl

theorem exists_quote (cs : List Char) :
    ∃ c rest, Quoted.write cs = c :: rest ∧ (c = '"' ∨ c = '\'') := by
  unfold Quoted.write
  split
  · exact ⟨_, _, rfl, .inl rfl⟩
  · exact ⟨_, _, rfl, .inr rfl⟩
  · exact ⟨_, _, rfl, .inl rfl⟩
  · exact ⟨_, _, rfl, .inr rfl⟩

theorem denotes_string (text : String) : Denotes (Quoted.write text.toList) (.string text) := by
  obtain ⟨c, others, shape, quote⟩ := exists_quote text.toList
  have noBlank : isBlank c = false := by rcases quote with rfl | rfl <;> rfl
  constructor
  · intro rest
    rw [shape]
    exact List.dropWhile_cons_of_neg (by simp [noBlank])
  · intro rest
    have read : Quoted.read (Quoted.write text.toList ++ '\n' :: rest) =
        some (text.toList, '\n' :: rest) :=
      Quoted.read_write text.toList (by simp) (by simp)
    rw [shape] at read ⊢
    have plain : value depthLimit (c :: others ++ '\n' :: rest) =
        scalar (c :: others ++ '\n' :: rest) := by
      rcases quote with rfl | rfl <;> exact value_of_scalar (by decide) (by decide) _
    have quoted : (c = '"' || c = '\'') = true := by simpa using quote
    rw [plain]
    show (if (c = '"' || c = '\'') = true then _ else _) = _
    rw [if_pos quoted, read]
    show some (Node.string (String.ofList text.toList), _) = _
    rw [String.ofList_toList]

theorem denotes_flag (b : Bool) : Denotes (if b then "true" else "false").toList (.boolean b) := by
  cases b <;> exact ⟨fun _ => rfl, fun _ => rfl⟩

/-! ### Integers -/

theorem field_fits {count low high n : Nat} {cs rest : List Char}
    (read : field count low high cs = some (n, rest)) :
    rest = cs.drop count ∧ (cs.take count).length = count ∧
      ∀ c ∈ cs.take count, c.isDigit = true := by
  unfold field at read
  dsimp only at read
  split at read
  · rename_i fits
    cases read
    exact ⟨rfl, fits.1, List.all_eq_true.mp fits.2.1⟩
  · cases read

section Digits

variable {ds : List Char} (all : ∀ c ∈ ds, c.isDigit = true)
include all

/-- Behind some digits of a line there are more digits, or the line ends. -/
theorem mark_field {count low high n : Nat} {rest behind : List Char} {c : Char}
    (digit : c.isDigit = false) (line : '\n' ≠ c)
    (read : field count low high (ds ++ '\n' :: rest) = some (n, behind)) :
    mark c behind = none := by
  obtain ⟨rfl, long, digits⟩ := field_fits read
  have inside : count ≤ ds.length := by
    apply Nat.le_of_not_lt
    intro beyond
    have member : '\n' ∈ (ds ++ '\n' :: rest).take count := by
      rw [List.take_append]
      apply List.mem_append_right
      obtain ⟨more, same⟩ := Nat.exists_eq_succ_of_ne_zero (show count - ds.length ≠ 0 by omega)
      rw [same]
      exact List.mem_cons_self
    exact absurd (digits _ member) (by decide)
  unfold mark
  split
  · rfl
  · rename_i d others same
    rw [if_neg]
    rintro rfl
    rw [List.drop_append_of_le_length inside] at same
    exact ne_of_digits (fun e member => all e (List.mem_of_mem_drop member)) digit line _ _ same

theorem moment_digits (rest : List Char) : moment (ds ++ '\n' :: rest) = none := by
  have noDate : date (ds ++ '\n' :: rest) = none := by
    unfold date
    cases read : field 4 0 9999 (ds ++ '\n' :: rest) with
    | none => rfl
    | some found =>
      have unmarked := mark_field all (c := '-') (by decide) (by decide) read
      show (mark '-' found.2).bind _ = none
      rw [unmarked]
      rfl
  have noTime : timeOfDay (ds ++ '\n' :: rest) = none := by
    unfold timeOfDay
    cases read : field 2 0 23 (ds ++ '\n' :: rest) with
    | none => rfl
    | some found =>
      have unmarked := mark_field all (c := ':') (by decide) (by decide) read
      show (mark ':' found.2).bind _ = none
      rw [unmarked]
      rfl
  unfold moment
  rw [noDate, noTime]
  rfl

theorem moreDigits_digits (rest : List Char) :
    moreDigits Char.isDigit (ds ++ '\n' :: rest) = some (ds, '\n' :: rest) := by
  induction ds with
  | nil => rfl
  | cons c others ih =>
    have digit : c.isDigit = true := all c List.mem_cons_self
    have score : c ≠ '_' := by
      rintro rfl
      exact absurd digit (by decide)
    have later := ih fun d member => all d (List.mem_cons_of_mem _ member)
    rw [List.cons_append, moreDigits]
    · rw [if_neg score, if_pos digit, later]
      rfl
    · intro d more same
      exact absurd same score

end Digits

/-- A number in decimal digits has no other zero in front of it than itself. -/
theorem wholePart_toDigits (n : Nat) (rest : List Char) :
    wholePart (Nat.toDigits 10 n ++ '\n' :: rest) = some (Nat.toDigits 10 n, '\n' :: rest) := by
  rcases Nat.eq_zero_or_pos n with rfl | positive
  · rfl
  · have all : ∀ c ∈ Nat.toDigits 10 n, c.isDigit = true := fun c => isDigit_toDigits
    have first := head_toDigits positive
    obtain ⟨c, others, shape⟩ := List.exists_cons_of_ne_nil (Nat.toDigits_ne_nil (n := n) (b := 10))
    rw [shape] at first all ⊢
    have digit : c.isDigit = true := all c List.mem_cons_self
    have more := moreDigits_digits (fun d member => all d (List.mem_cons_of_mem _ member)) rest
    unfold wholePart
    split
    · rename_i same
      exact absurd (congrArg some (List.cons.inj same).1) first
    · rw [List.cons_append, digits, if_pos digit, more]
      rfl

theorem number_toDigits {n : Nat} (fits : n ≤ 2 ^ 63 - 1) (rest : List Char) :
    number (Nat.toDigits 10 n ++ '\n' :: rest) = some (.integer n, '\n' :: rest) := by
  have all : ∀ c ∈ Nat.toDigits 10 n, c.isDigit = true := fun c => isDigit_toDigits
  have whole := wholePart_toDigits n rest
  obtain ⟨c, others, shape⟩ := List.exists_cons_of_ne_nil (Nat.toDigits_ne_nil (n := n) (b := 10))
  have value : Numeral.digitsValue 10 (c :: others) = n := by
    rw [← shape]
    exact digitsValue_toDigits n 0
  have inside : inRange (n : Int) = some (n : Int) := by
    have low : Int64.minValue.toInt = - 2 ^ 63 := by decide
    have high : Int64.maxValue.toInt = 2 ^ 63 - 1 := by decide
    unfold inRange
    rw [if_pos (by omega)]
  rw [shape] at whole all ⊢
  have digit : c.isDigit = true := all c List.mem_cons_self
  have second : ∀ d ∈ others, d.isDigit = true :=
    fun d member => all d (List.mem_cons_of_mem _ member)
  have unsigned : Numeral.takeSign (c :: others ++ '\n' :: rest) =
      (false, c :: others ++ '\n' :: rest) := by
    unfold Numeral.takeSign
    split
    · rename_i same
      exact absurd (List.cons.inj same).1 (ne_of_kind digit (by decide))
    · rename_i same
      exact absurd (List.cons.inj same).1 (ne_of_kind digit (by decide))
    · rfl
  have decimal : decimalNumber false (c :: others ++ '\n' :: rest) =
      some (.integer n, '\n' :: rest) := by
    unfold decimalNumber
    rw [whole]
    show (inRange ((if false then _ else _ : Int))).bind _ = _
    rw [if_neg Bool.false_ne_true, value, inside]
    rfl
  -- no mark of another base stands behind a zero, for what stands there is a digit or the line end
  unfold number
  split
  · rename_i same
    exact absurd (List.cons.inj same).2 (ne_of_digits second (by decide) (by decide) _ _)
  · rename_i same
    exact absurd (List.cons.inj same).2 (ne_of_digits second (by decide) (by decide) _ _)
  · rename_i same
    exact absurd (List.cons.inj same).2 (ne_of_digits second (by decide) (by decide) _ _)
  · rw [unsigned]
    dsimp only
    split
    · rename_i same
      exact absurd (List.cons.inj same).1 (ne_of_kind digit (by decide))
    · rename_i same
      exact absurd (List.cons.inj same).1 (ne_of_kind digit (by decide))
    · exact decimal

theorem denotes_integer {n : Nat} (fits : n ≤ 2 ^ 63 - 1) :
    Denotes (Nat.toDigits 10 n) (.integer n) := by
  have all : ∀ c ∈ Nat.toDigits 10 n, c.isDigit = true := fun c => isDigit_toDigits
  have timeless := moment_digits all
  have read := number_toDigits fits
  obtain ⟨c, others, shape⟩ := List.exists_cons_of_ne_nil (Nat.toDigits_ne_nil (n := n) (b := 10))
  rw [shape] at timeless read all ⊢
  have digit : c.isDigit = true := all c List.mem_cons_self
  have other {d : Char} (none : d.isDigit = false) : c ≠ d := ne_of_kind digit none
  constructor
  · intro rest
    apply List.dropWhile_cons_of_neg
    simp [isBlank, other (d := ' ') (by decide), other (d := '\t') (by decide)]
  · intro rest
    rw [List.cons_append, value_of_scalar (other (by decide)) (other (by decide)), scalar,
      if_neg (by simp [other (d := '"') (by decide), other (d := '\'') (by decide)]),
      if_neg (other (by decide)), if_neg (other (by decide)),
      if_neg (by simp [other (d := 'i') (by decide), other (d := 'n') (by decide)]),
      if_pos (by simp [digit]), numberOrMoment, ← List.cons_append, timeless, read]

/-! ### Lines -/

theorem PlainEntry.Readable.line {e : PlainEntry} (readable : e.Readable) (rest : List Char) :
    line (e.chars ++ rest) = some (.entry ⟨[], e.key⟩ e.node, rest) := by
  have shape : e.chars ++ rest = e.key.toList ++ ' ' :: '=' :: ' ' :: (e.text ++ '\n' :: rest) := by
    simp [chars]
  have found := path_bare readable.named readable.bare (' ' :: (e.text ++ '\n' :: rest))
  have solid : skipBlanks (' ' :: (e.text ++ '\n' :: rest)) = e.text ++ '\n' :: rest := by
    show (' ' :: (e.text ++ '\n' :: rest)).dropWhile isBlank = _
    rw [List.dropWhile_cons_of_pos rfl]
    exact readable.denotes.solid rest
  obtain ⟨c, others, start⟩ := List.exists_cons_of_ne_nil readable.named
  have first : isBareKey c = true := readable.bare c (start ▸ List.mem_cons_self)
  rw [shape]
  unfold Toml.line
  split
  · rename_i same
    rw [start] at same
    exact absurd (List.cons.inj same).1 (ne_of_kind first (by decide))
  · rename_i same
    rw [start] at same
    exact absurd (List.cons.inj same).1 (ne_of_kind first (by decide))
  · rw [found]
    show (value depthLimit (skipBlanks (' ' :: (e.text ++ '\n' :: rest)))).bind _ = _
    rw [solid, readable.denotes.read rest]
    rfl

/-- The line of an entry begins with the first character of its key. -/
theorem PlainEntry.Readable.begins {e : PlainEntry} (readable : e.Readable) :
    ∃ c tail, e.chars = c :: tail ∧ isBareKey c = true := by
  obtain ⟨c, more, start⟩ := List.exists_cons_of_ne_nil readable.named
  refine ⟨c, more ++ " = ".toList ++ e.text ++ ['\n'], ?_, ?_⟩
  · rw [chars, start]
    rfl
  · exact readable.bare c (start ▸ List.mem_cons_self)

theorem lines_plain {entries : List PlainEntry} (readable : ∀ e ∈ entries, e.Readable) {fuel : Nat}
    (enough : entries.length ≤ fuel) :
    lines fuel (entries.flatMap PlainEntry.chars) =
      some (entries.map fun e => .entry ⟨[], e.key⟩ e.node) := by
  induction entries generalizing fuel with
  | nil => cases fuel <;> rfl
  | cons e others ih =>
    have here := readable e List.mem_cons_self
    rw [List.length_cons] at enough
    obtain ⟨fuel, rfl⟩ := Nat.exists_eq_succ_of_ne_zero (show fuel ≠ 0 by omega)
    have later := @ih (fun other member => readable other (List.mem_cons_of_mem _ member)) fuel
      (by omega)
    have read := here.line (others.flatMap PlainEntry.chars)
    obtain ⟨c, more, start, first⟩ := here.begins
    have other {d : Char} (none : isBareKey d = false) : c ≠ d := ne_of_kind first none
    rw [start, List.cons_append] at read
    rw [List.flatMap_cons, start, List.cons_append]
    generalize more ++ others.flatMap PlainEntry.chars = tail at read
    have solid : skipBlanks (c :: tail) = c :: tail := by
      apply List.dropWhile_cons_of_neg
      simp [isBlank, other (d := ' ') (by decide), other (d := '\t') (by decide)]
    unfold lines
    rw [solid]
    split
    · rename_i impossible
      cases impossible
    · rename_i same
      exact absurd (List.cons.inj same).1 (other (by decide))
    · rename_i same
      exact absurd (List.cons.inj same).1 (other (by decide))
    · rename_i same
      exact absurd (List.cons.inj same).1 (other (by decide))
    · rw [read]
      show (lines _ _).bind _ = _
      rw [later]
      rfl

/-- Each entry takes at least one character. -/
theorem length_le_chars (entries : List PlainEntry) :
    entries.length ≤ (entries.flatMap PlainEntry.chars).length := by
  induction entries with
  | nil => exact Nat.le_refl _
  | cons e others ih =>
    have filled : 0 < e.chars.length := by
      simp only [PlainEntry.chars, List.length_append, List.length_singleton]
      omega
    rw [List.flatMap_cons, List.length_append, List.length_cons]
    omega

/-! ### Documents -/

theorem addEntry_plain {entries : Entries} {key : String} (absent : key ∉ entries.map Prod.fst)
    (node : Node) : addEntry ⟨[], key⟩ node entries = some (entries ++ [(key, node)]) := by
  unfold addEntry within
  rw [StationScript.Entries.lookup_eq_none_iff.mpr absent]
  simp

theorem add_plain {entries : List PlainEntry} {a : Assembly}
    (distinct : (a.current.map Prod.fst ++ entries.map PlainEntry.key).Nodup) :
    (entries.map fun e => Line.entry ⟨[], e.key⟩ e.node).foldlM Assembly.add a =
      some { a with current := a.current ++ entries.map fun e => (e.key, e.node) } := by
  induction entries generalizing a with
  | nil => simp
  | cons e others ih =>
    have absent : e.key ∉ a.current.map Prod.fst := by
      intro member
      exact (List.nodup_append.mp distinct).2.2 _ member _ List.mem_cons_self rfl
    have added : a.add (.entry ⟨[], e.key⟩ e.node) =
        some { a with current := a.current ++ [(e.key, e.node)] } := by
      unfold Assembly.add
      dsimp only
      rw [addEntry_plain absent]
      rfl
    rw [List.map_cons, List.foldlM_cons, added]
    show List.foldlM Assembly.add _ _ = _
    rw [ih]
    · simp
    · simpa using distinct

/-- A document of plain lines is read as its entries. -/
theorem Entries.ofText_plain {entries : List PlainEntry} (readable : ∀ e ∈ entries, e.Readable)
    (distinct : (entries.map PlainEntry.key).Nodup) :
    ofText (String.ofList (entries.flatMap PlainEntry.chars)) =
      some (entries.map fun e => (e.key, e.node)) := by
  have unmarked : skipMark (entries.flatMap PlainEntry.chars) =
      entries.flatMap PlainEntry.chars := by
    cases entries with
    | nil => rfl
    | cons e others =>
      obtain ⟨c, more, start, first⟩ := (readable e List.mem_cons_self).begins
      rw [List.flatMap_cons, start]
      unfold skipMark
      split
      · rename_i same
        exact absurd (List.cons.inj same).1 (ne_of_kind first (by decide))
      · rfl
  unfold ofText
  rw [String.toList_ofList, unmarked]
  dsimp only
  rw [lines_plain readable (Nat.le_succ_of_le (length_le_chars entries))]
  show (List.foldlM Assembly.add {} _).bind _ = _
  rw [add_plain (by simpa using distinct)]
  rfl

end StationScript.Toml
