import StationScript.Toml.Quoted

/-!
Strings are read back from what was written, in each of the four notations.

The quotes that close a string on several lines may follow quotes of the text. What is read is then
settled by the run of quotes in front, so the inductions below are on the text with the quotes
before it still unread.
-/

set_option autoImplicit false

namespace StationScript.Toml.Quoted

@[simp] theorem push_some (c : Char) (cs rest : List Char) :
    push c (some (cs, rest)) = some (c :: cs, rest) := rfl

theorem toNat_of_control {c : Char} (control : isControl c = true) : c.toNat < 128 := by
  unfold isControl at control
  rw [Bool.and_eq_true, Bool.or_eq_true, decide_eq_true_eq, decide_eq_true_eq,
    decide_eq_true_eq] at control
  rcases control.2 with low | rfl
  · have below : c.toNat < ' '.toNat := low
    have blank : ' '.toNat = 32 := rfl
    omega
  · decide

theorem scalar_hexDigits (n : Nat) (small : n < 128) :
    scalar? ['0', '0', hexDigit (n / 16), hexDigit (n % 16)] = some (Char.ofNat n) := by
  revert n
  decide

/-- A control is read back from its number. -/
theorem scalar_of_control {c : Char} (control : isControl c = true) :
    scalar? ['0', '0', hexDigit (c.toNat / 16), hexDigit (c.toNat % 16)] = some c := by
  rw [scalar_hexDigits c.toNat (toNat_of_control control), Char.ofNat_toNat]

/-- The ways in which a character is written inside double quotes. -/
inductive Escape (multi : Bool) (c : Char) : List Char → Prop where
  | short (d : Char) (letter : d ∈ ['b', 't', 'n', 'f', 'r', '\\'])
    (named : shortEscape? d = some c) : Escape multi c ['\\', d]
  | lineEnd (several : multi = true) (same : c = '\n') : Escape multi c [c]
  | number (control : isControl c = true) :
    Escape multi c ['\\', 'u', '0', '0', hexDigit (c.toNat / 16), hexDigit (c.toNat % 16)]
  | plain (ordinary : isControl c = false) (differs : c ≠ '\\') : Escape multi c [c]

theorem escape_escaped (multi : Bool) (c : Char) : Escape multi c (escaped multi c) := by
  unfold escaped
  split
  · exact .short 'b' (by decide) rfl
  · exact .short 't' (by decide) rfl
  · cases multi with
    | true => exact .lineEnd rfl rfl
    | false => exact .short 'n' (by decide) rfl
  · exact .short 'f' (by decide) rfl
  · exact .short 'r' (by decide) rfl
  · exact .short '\\' (by decide) rfl
  · rename_i notSlash
    cases control : isControl c with
    | true => exact .number control
    | false => exact .plain control notSlash

/-! ## Double quotes on one line -/

theorem basicBody_plain {c : Char} (ordinary : isControl c = false) (slash : c ≠ '\\')
    (quote : c ≠ '"') (rest : List Char) : basicBody (c :: rest) = push c (basicBody rest) := by
  rw [basicBody]
  · simp [ordinary, slash]
  · exact fun same => quote same
  all_goals simp [slash]

theorem basicBody_escaped {c : Char} (quote : c ≠ '"') (rest : List Char) :
    basicBody (escaped false c ++ rest) = push c (basicBody rest) := by
  generalize shape : escaped false c = text
  have escape := shape ▸ escape_escaped false c
  cases escape with
  | short d letter named =>
    simp only [List.mem_cons, List.not_mem_nil, or_false] at letter
    rcases letter with rfl | rfl | rfl | rfl | rfl | rfl <;> cases named <;>
      simp [basicBody, shortEscape?]
  | lineEnd several => cases several
  | number control => simp [basicBody, scalar_of_control control]
  | plain ordinary slash => exact basicBody_plain ordinary slash quote rest

theorem basicBody_escapedFrom (run : Nat) (cs rest : List Char) :
    basicBody (escapedFrom false run cs ++ '"' :: rest) = some (cs, rest) := by
  induction cs generalizing run with
  | nil => simp [escapedFrom, basicBody]
  | cons c cs ih =>
    by_cases quote : c = '"'
    · subst quote
      simp [escapedFrom, basicBody, shortEscape?, ih]
    · rw [escapedFrom, if_neg quote, List.append_assoc, basicBody_escaped quote, ih, push_some]

/-! ## Double quotes on several lines -/

theorem multiBasicBody_plain {c : Char} (ordinary : isControl c = false ∨ c = '\n')
    (slash : c ≠ '\\') {rest : List Char}
    (quotes : ∀ others, c :: rest ≠ '"' :: '"' :: '"' :: others) :
    multiBasicBody false (c :: rest) = push c (multiBasicBody false rest) := by
  have notReturn : c ≠ '\r' := by
    rintro rfl
    rcases ordinary with control | same
    · cases control
    · cases same
  rw [multiBasicBody]
  · rcases ordinary with control | rfl
    · by_cases same : c = '\n'
      · simp [same]
      · simp [control, slash, same]
    · simp
  all_goals simp_all

theorem multiBasicBody_short {c d : Char} (letter : d ∈ ['b', 't', 'n', 'f', 'r', '\\', '"'])
    (named : shortEscape? d = some c) (rest : List Char) :
    multiBasicBody false ('\\' :: d :: rest) = push c (multiBasicBody false rest) := by
  simp only [List.mem_cons, List.not_mem_nil, or_false] at letter
  rcases letter with rfl | rfl | rfl | rfl | rfl | rfl | rfl <;> cases named <;>
    simp [multiBasicBody, shortEscape?, endsLine]

theorem multiBasicBody_escaped {c : Char} (quote : c ≠ '"') (rest : List Char) :
    multiBasicBody false (escaped true c ++ rest) = push c (multiBasicBody false rest) := by
  generalize shape : escaped true c = text
  have escape := shape ▸ escape_escaped true c
  have unquoted : ∀ others, c :: rest ≠ '"' :: '"' :: '"' :: others := by
    intro others same
    exact quote (List.cons.inj same).1
  cases escape with
  | short d letter named =>
    exact multiBasicBody_short (List.mem_append_left ['"'] letter) named rest
  | lineEnd _ same =>
    exact multiBasicBody_plain (Or.inr same) (by rw [same]; decide) unquoted
  | number control => simp [multiBasicBody, scalar_of_control control]
  | plain ordinary slash => exact multiBasicBody_plain (Or.inl ordinary) slash unquoted

/-- No written form of another character begins with a quote. -/
theorem escaped_head {c : Char} (quote : c ≠ '"') :
    ∃ first others, escaped true c = first :: others ∧ first ≠ '"' := by
  generalize shape : escaped true c = text
  have escape := shape ▸ escape_escaped true c
  cases escape with
  | short | number => exact ⟨_, _, rfl, by decide⟩
  | lineEnd | plain => exact ⟨_, _, rfl, quote⟩

/-- Quotes that are not three in a row belong to the text. -/
theorem multiBasicBody_quotes {run : Nat} (few : run ≤ 2) {c : Char} (other : c ≠ '"')
    (rest : List Char) :
    multiBasicBody false (List.replicate run '"' ++ c :: rest) =
      (List.replicate run '"').foldr push (multiBasicBody false (c :: rest)) := by
  have one : multiBasicBody false ('"' :: c :: rest) =
      push '"' (multiBasicBody false (c :: rest)) := by
    refine multiBasicBody_plain (Or.inl rfl) (by decide) ?_
    intro others same
    exact other (List.cons.inj (List.cons.inj same).2).1
  match run, few with
  | 0, _ => rfl
  | 1, _ => exact one
  | 2, _ =>
    show multiBasicBody false ('"' :: '"' :: c :: rest) = push '"' (push '"' _)
    rw [multiBasicBody_plain (Or.inl rfl) (by decide), one]
    · rfl
    intro others same
    exact other (List.cons.inj (List.cons.inj (List.cons.inj same).2).2).1

/-- Behind the three quotes that close a string, up to two more belong to the text. -/
theorem closing_replicate {quote : Char} {run : Nat} (few : run ≤ 2) {rest : List Char}
    (open_ : rest.head? ≠ some quote) :
    closing quote (List.replicate run quote ++ rest) = some (List.replicate run quote, rest) := by
  match run, few, rest with
  | 0, _, [] | 1, _, [] | 2, _, _ => simp [closing, List.replicate]
  | 0, _, [c] | 1, _, [c] | 0, _, c :: d :: rest | 1, _, c :: d :: rest =>
    have other : c ≠ quote := by simpa using open_
    simp [closing, List.replicate, other]

/-- Three quotes stand in front of a run just as well as behind it. -/
theorem replicate_quotes (quote : Char) (run : Nat) (rest : List Char) :
    List.replicate run quote ++ quote :: quote :: quote :: rest =
      quote :: quote :: quote :: (List.replicate run quote ++ rest) := by
  induction run with
  | zero => rfl
  | succ n ih => rw [List.replicate_succ, List.cons_append, ih]; rfl

theorem multiBasicBody_escapedFrom {run : Nat} (few : run ≤ 2) (cs : List Char)
    {rest : List Char} (open_ : rest.head? ≠ some '"') :
    multiBasicBody false
        (List.replicate run '"' ++ (escapedFrom true run cs ++ '"' :: '"' :: '"' :: rest)) =
      some (List.replicate run '"' ++ cs, rest) := by
  have pushed (few : run ≤ 2) (cs : List Char) :
      (List.replicate run '"').foldr push (some (cs, rest)) =
        some (List.replicate run '"' ++ cs, rest) := by
    match run, few with
    | 0, _ | 1, _ | 2, _ => rfl
  induction cs generalizing run with
  | nil =>
    rw [escapedFrom, List.nil_append, replicate_quotes, multiBasicBody, List.append_nil]
    exact closing_replicate few open_
  | cons c cs ih =>
    by_cases quote : c = '"'
    · subst quote
      by_cases more : run < 2
      · have longer := @ih (run + 1) (by omega) fun few cs => by
          match run, more with
          | 0, _ | 1, _ => rfl
        rw [List.replicate_succ', List.append_assoc, List.append_assoc] at longer
        rw [escapedFrom, if_pos rfl, if_pos (by simpa using more)]
        exact longer
      · rw [escapedFrom, if_pos rfl, if_neg (by simpa using more), List.cons_append,
          multiBasicBody_quotes few (by decide), List.cons_append,
          multiBasicBody_short (by decide) rfl]
        have again := @ih 0 (by omega) fun _ _ => rfl
        rw [List.replicate_zero, List.nil_append] at again
        rw [again, List.nil_append, push_some, pushed few]
    · obtain ⟨first, others, shape, notQuote⟩ := escaped_head quote
      have again := @ih 0 (by omega) fun _ _ => rfl
      rw [List.replicate_zero, List.nil_append] at again
      rw [escapedFrom, if_neg quote, List.append_assoc, shape, List.cons_append,
        multiBasicBody_quotes few notQuote, ← List.cons_append, ← shape,
        multiBasicBody_escaped quote, again, List.nil_append, push_some, pushed few]

/-! ## Single quotes -/

theorem literalBody_append {cs : List Char} (ordinary : ∀ c ∈ cs, isControl c = false)
    (unquoted : '\'' ∉ cs) (rest : List Char) :
    literalBody (cs ++ '\'' :: rest) = some (cs, rest) := by
  induction cs with
  | nil => simp [literalBody]
  | cons c cs ih =>
    have differs : c ≠ '\'' := fun same => unquoted (same ▸ List.mem_cons_self)
    rw [List.cons_append, literalBody]
    · rw [ordinary c List.mem_cons_self,
        ih (fun d member => ordinary d (List.mem_cons_of_mem _ member))
          fun member => unquoted (List.mem_cons_of_mem _ member)]
      rfl
    · exact differs

/-- The characters a literal string on several lines can hold. -/
def isLiteral (c : Char) : Bool := !(isControl c && c ≠ '\n')

theorem multiLiteralBody_plain {c : Char} (literal : isLiteral c = true) {rest : List Char}
    (quotes : ∀ others, c :: rest ≠ '\'' :: '\'' :: '\'' :: others) :
    multiLiteralBody (c :: rest) = push c (multiLiteralBody rest) := by
  have allowed : (isControl c && c ≠ '\n') = false := by
    unfold isLiteral at literal
    rwa [Bool.not_eq_true'] at literal
  rw [multiLiteralBody]
  · rw [if_neg (Bool.eq_false_iff.mp allowed)]
  · rintro others rfl rfl
    exact quotes others rfl
  · rintro others rfl rfl
    cases literal

theorem multiLiteralBody_quotes {run : Nat} (few : run ≤ 2) {c : Char} (other : c ≠ '\'')
    (rest : List Char) :
    multiLiteralBody (List.replicate run '\'' ++ c :: rest) =
      (List.replicate run '\'').foldr push (multiLiteralBody (c :: rest)) := by
  have one : multiLiteralBody ('\'' :: c :: rest) = push '\'' (multiLiteralBody (c :: rest)) := by
    refine multiLiteralBody_plain rfl ?_
    intro others same
    exact other (List.cons.inj (List.cons.inj same).2).1
  match run, few with
  | 0, _ => rfl
  | 1, _ => exact one
  | 2, _ =>
    show multiLiteralBody ('\'' :: '\'' :: c :: rest) = push '\'' (push '\'' _)
    rw [multiLiteralBody_plain rfl, one]
    · rfl
    intro others same
    exact other (List.cons.inj (List.cons.inj (List.cons.inj same).2).2).1

theorem le_longestRun (c : Char) (current : Nat) (cs : List Char) :
    current ≤ longestRun c current cs := by
  induction cs generalizing current with
  | nil => exact Nat.le_refl _
  | cons d rest ih =>
    unfold longestRun
    split
    · exact Nat.le_trans (Nat.le_succ _) (ih (current + 1))
    · exact Nat.le_max_left _ _

theorem not_mem_of_longestRun {c : Char} {cs : List Char} (nothing : longestRun c 0 cs = 0) :
    c ∉ cs := by
  induction cs with
  | nil => exact List.not_mem_nil
  | cons d rest ih =>
    unfold longestRun at nothing
    by_cases same : d = c
    · have run := le_longestRun c (0 + 1) rest
      rw [if_pos same] at nothing
      omega
    · rw [if_neg same] at nothing
      intro member
      rcases List.mem_cons.mp member with equal | later
      · exact same equal.symm
      · exact ih (by omega) later

theorem multiLiteralBody_append {run : Nat} {cs : List Char}
    (few : longestRun '\'' run cs ≤ 2) (literal : ∀ c ∈ cs, isLiteral c = true)
    {rest : List Char} (open_ : rest.head? ≠ some '\'') :
    multiLiteralBody (List.replicate run '\'' ++ (cs ++ '\'' :: '\'' :: '\'' :: rest)) =
      some (List.replicate run '\'' ++ cs, rest) := by
  induction cs generalizing run with
  | nil =>
    rw [List.nil_append, replicate_quotes, multiLiteralBody, List.append_nil]
    exact closing_replicate few open_
  | cons c cs ih =>
    have others : ∀ d ∈ cs, isLiteral d = true := fun d member =>
      literal d (List.mem_cons_of_mem _ member)
    unfold longestRun at few
    by_cases quote : c = '\''
    · subst quote
      rw [if_pos rfl] at few
      have longer := ih few others
      rw [List.replicate_succ', List.append_assoc, List.append_assoc] at longer
      exact longer
    · rw [if_neg quote] at few
      have short : run ≤ 2 := by omega
      have again := @ih 0 (by omega) others
      rw [List.replicate_zero, List.nil_append, List.nil_append] at again
      rw [List.cons_append, multiLiteralBody_quotes short quote,
        multiLiteralBody_plain (literal c List.mem_cons_self), again, push_some]
      · match run, short with
        | 0, _ | 1, _ | 2, _ => rfl
      · intro others same
        exact quote (List.cons.inj same).1

/-! ## All notations -/

theorem skipLineEnd_of_head {cs : List Char}
    (head : cs.head? ≠ some '\n' ∧ cs.head? ≠ some '\r') : skipLineEnd cs = cs := by
  unfold skipLineEnd
  split
  · exact absurd rfl head.1
  · exact absurd rfl head.2
  · rfl

/-- A text of several lines may begin on a line of its own, as the line end before it does not
count. -/
theorem skipLineEnd_ownLine {cs text : List Char}
    (head : '\n' ∉ cs → text.head? ≠ some '\n' ∧ text.head? ≠ some '\r') :
    skipLineEnd (ownLine cs ++ text) = text := by
  unfold ownLine
  by_cases several : '\n' ∈ cs
  · rw [if_pos (by simpa using several)]
    rfl
  · rw [if_neg (by simpa using several)]
    exact skipLineEnd_of_head (head several)

theorem escapedFrom_head {cs rest : List Char} (single : '\n' ∉ cs) :
    (escapedFrom true 0 cs ++ '"' :: rest).head? ≠ some '\n' ∧
      (escapedFrom true 0 cs ++ '"' :: rest).head? ≠ some '\r' := by
  cases cs with
  | nil => simp [escapedFrom]
  | cons c cs =>
    have notEnd : c ≠ '\n' := fun same => single (same ▸ List.mem_cons_self)
    unfold escapedFrom
    by_cases quote : c = '"'
    · simp [quote]
    · rw [if_neg quote]
      generalize shape : escaped true c = text
      have escape := shape ▸ escape_escaped true c
      cases escape with
      | short | number => simp
      | lineEnd _ same => exact absurd same notEnd
      | plain ordinary =>
        have notReturn : c ≠ '\r' := by
          rintro rfl
          cases ordinary
        simp [notEnd, notReturn]

/-- A notation without escapes is chosen only for what it can hold. -/
def Fits (cs : List Char) : Notation → Prop
  | .basic | .multiBasic => True
  | .literal => cs ≠ [] ∧ '\'' ∉ cs ∧ ∀ c ∈ cs, isControl c = false
  | .multiLiteral => longestRun '\'' 0 cs ≤ 2 ∧ ∀ c ∈ cs, isLiteral c = true

theorem fits_notationFor (cs : List Char) : Fits cs (notationFor cs) := by
  have literal (calm : (!cs.any fun c => isControl c && c ≠ '\n') = true) :
      ∀ c ∈ cs, isLiteral c = true := by
    intro c member
    rw [Bool.not_eq_true', List.any_eq_false] at calm
    unfold isLiteral
    rw [Bool.eq_false_iff.mpr (calm c member)]
    rfl
  unfold notationFor
  dsimp only
  split
  · trivial
  · rename_i notBasic
    split
    · rename_i chosen
      simp only [Bool.and_eq_true, decide_eq_true_eq] at chosen
      obtain ⟨⟨calm, singles⟩, oneLine⟩ := chosen
      refine ⟨?_, not_mem_of_longestRun singles, ?_⟩
      · rintro rfl
        exact notBasic rfl
      · intro c member
        have allowed := literal calm c member
        have notEnd : c ≠ '\n' := by
          rintro rfl
          rw [Bool.not_eq_true', List.contains_eq_mem, decide_eq_false_iff_not] at oneLine
          exact oneLine member
        simpa [isLiteral, notEnd] using allowed
    · split
      · trivial
      · split
        · rename_i chosen
          rw [Bool.and_eq_true, decide_eq_true_eq] at chosen
          exact ⟨chosen.2, literal chosen.1⟩
        · split <;> trivial

theorem read_basic {text : List Char} (single : ∀ others, text ≠ '"' :: '"' :: others) :
    read ('"' :: text) = basicBody text := by
  rw [read]
  exact single

theorem read_literal {text : List Char} (single : ∀ others, text ≠ '\'' :: '\'' :: others) :
    read ('\'' :: text) = literalBody text := by
  rw [read]
  exact single

/-- Only the quote that closes a string on one line stands in front of it unescaped. -/
theorem escapedFrom_opens {cs rest : List Char} (double : rest.head? ≠ some '"')
    (others : List Char) : escapedFrom false 0 cs ++ '"' :: rest ≠ '"' :: '"' :: others := by
  cases cs with
  | nil =>
    rintro same
    rw [(List.cons.inj same).2] at double
    exact double rfl
  | cons c cs =>
    unfold escapedFrom
    by_cases quote : c = '"'
    · simp [quote]
    · rw [if_neg quote]
      generalize shape : escaped false c = text
      have escape := shape ▸ escape_escaped false c
      cases escape with
      | short | number => simp
      | lineEnd several => cases several
      | plain => simp [quote]

/-- A string is read back whatever stands behind it, as long as that is no further quote. -/
theorem read_write (cs : List Char) {rest : List Char} (double : rest.head? ≠ some '"')
    (single : rest.head? ≠ some '\'') : read (write cs ++ rest) = some (cs, rest) := by
  have fits := fits_notationFor cs
  unfold write
  cases chosen : notationFor cs with
  | basic =>
    show read ('"' :: ((escapedFrom false 0 cs ++ ['"']) ++ rest)) = _
    rw [List.append_assoc, List.singleton_append, read_basic (escapedFrom_opens double)]
    exact basicBody_escapedFrom 0 cs rest
  | literal =>
    rw [chosen] at fits
    obtain ⟨filled, unquoted, ordinary⟩ := fits
    show read ('\'' :: ((cs ++ ['\'']) ++ rest)) = _
    rw [List.append_assoc, List.singleton_append, read_literal]
    · exact literalBody_append ordinary unquoted rest
    · intro others same
      cases cs with
      | nil => exact filled rfl
      | cons c cs => exact unquoted ((List.cons.inj same).1 ▸ List.mem_cons_self)
  | multiBasic =>
    have body : multiBasicBody false (escapedFrom true 0 cs ++ '"' :: '"' :: '"' :: rest) =
        some (cs, rest) := multiBasicBody_escapedFrom (Nat.zero_le 2) cs double
    show read ('"' :: '"' :: '"' ::
      (ownLine cs ++ escapedFrom true 0 cs ++ ['"', '"', '"'] ++ rest)) = _
    rw [List.append_assoc, List.append_assoc, read, skipLineEnd_ownLine]
    · exact body
    · exact escapedFrom_head
  | multiLiteral =>
    rw [chosen] at fits
    have body : multiLiteralBody (cs ++ '\'' :: '\'' :: '\'' :: rest) = some (cs, rest) :=
      @multiLiteralBody_append 0 cs fits.1 fits.2 rest single
    show read ('\'' :: '\'' :: '\'' ::
      (ownLine cs ++ cs ++ ['\'', '\'', '\''] ++ rest)) = _
    rw [List.append_assoc, List.append_assoc, read, skipLineEnd_ownLine]
    · exact body
    · intro oneLine
      cases cs with
      | nil => exact ⟨by simp, by simp⟩
      | cons c cs =>
        have notEnd : c ≠ '\n' := fun same => oneLine (same ▸ List.mem_cons_self)
        have notReturn : c ≠ '\r' := by
          rintro rfl
          cases fits.2 _ List.mem_cons_self
        exact ⟨by simp [notEnd], by simp [notReturn]⟩

end StationScript.Toml.Quoted
