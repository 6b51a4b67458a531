import StationScript.Lookup
import StationScript.Toml.Document

/-!
What the entries of every document are like: no key stands twice, and integers have 64 bits.

Lines are added to the table of the last header, which is put in its place by the next one. What a
change does deeper inside only replaces one value of the outermost table, so the invariant is about
that table alone.
-/

set_option autoImplicit false

namespace StationScript.Toml

/-- Integers have 64 bits. -/
def Node.InRange : Node → Prop
  | .integer n => Int64.minValue.toInt ≤ n ∧ n ≤ Int64.maxValue.toInt
  | _ => True

section Values

variable {cs rest : List Char} {node : Node}

theorem inRange_of_some {n m : Int} (fits : inRange n = some m) : (Node.integer m).InRange := by
  unfold inRange at fits
  split at fits
  · rename_i bounds
    cases fits
    exact bounds
  · cases fits

theorem inRange_of_basedInteger {base : Nat} {isDigit : Char → Bool}
    (parsed : basedInteger base isDigit cs = some (node, rest)) : node.InRange := by
  simp only [basedInteger, Option.bind_eq_bind, Option.bind_eq_some_iff, Option.pure_def,
    Option.some.injEq, Prod.mk.injEq] at parsed
  obtain ⟨_, _, m, fits, rfl, _⟩ := parsed
  exact inRange_of_some fits

theorem inRange_of_decimalNumber {negative : Bool}
    (parsed : decimalNumber negative cs = some (node, rest)) : node.InRange := by
  simp only [decimalNumber, Option.bind_eq_bind, Option.bind_eq_some_iff] at parsed
  obtain ⟨_, _, _, _, _, _, parsed⟩ := parsed
  split at parsed
  · simp only [Option.bind_eq_some_iff, Option.pure_def, Option.some.injEq, Prod.mk.injEq] at parsed
    obtain ⟨m, fits, rfl, _⟩ := parsed
    exact inRange_of_some fits
  · simp only [Option.bind_eq_some_iff, Option.pure_def, Option.some.injEq, Prod.mk.injEq] at parsed
    obtain ⟨m, made, rfl, _⟩ := parsed
    unfold real? at made
    split at made
    · cases made
    · cases made
      trivial

theorem inRange_of_number (parsed : number cs = some (node, rest)) : node.InRange := by
  unfold number at parsed
  split at parsed
  · exact inRange_of_basedInteger parsed
  · exact inRange_of_basedInteger parsed
  · exact inRange_of_basedInteger parsed
  · dsimp only at parsed
    split at parsed
    · cases parsed
      trivial
    · cases parsed
      trivial
    · exact inRange_of_decimalNumber parsed

theorem inRange_of_scalar (parsed : scalar cs = some (node, rest)) : node.InRange := by
  have word {text : String} {b : Bool}
      (parsed : keyword text (.boolean b) cs = some (node, rest)) : node.InRange := by
    unfold keyword at parsed
    split at parsed
    · cases parsed
      trivial
    · cases parsed
  unfold scalar at parsed
  split at parsed
  · cases parsed
  · split at parsed
    · obtain ⟨_, _, same⟩ := Option.map_eq_some_iff.mp parsed
      cases same
      trivial
    · split at parsed
      · exact word parsed
      · split at parsed
        · exact word parsed
        · split at parsed
          · exact inRange_of_number parsed
          · split at parsed
            · unfold numberOrMoment at parsed
              split at parsed
              · rename_i read
                cases parsed
                unfold moment at read
                split at read
                · split at read
                  · split at read
                    · split at read <;> cases read <;> trivial
                    · cases read
                      trivial
                  · cases read
                    trivial
                · obtain ⟨_, _, same⟩ := Option.map_eq_some_iff.mp read
                  cases same
                  trivial
              · exact inRange_of_number parsed
            · cases parsed

theorem inRange_of_value {depth : Nat} (parsed : value depth cs = some (node, rest)) :
    node.InRange := by
  unfold value at parsed
  split at parsed
  · simp only [Option.bind_eq_bind, Option.bind_eq_some_iff, Option.pure_def, Option.some.injEq,
      Prod.mk.injEq] at parsed
    obtain ⟨_, _, rfl, _⟩ := parsed
    trivial
  · split at parsed
    · cases parsed
      trivial
    · simp only [Option.bind_eq_bind, Option.bind_eq_some_iff, Option.pure_def, Option.some.injEq,
        Prod.mk.injEq] at parsed
      obtain ⟨_, _, _, _, rfl, _⟩ := parsed
      trivial
  · exact inRange_of_scalar parsed

end Values

namespace Entries

/-- No key stands twice, and integers have 64 bits. -/
structure Proper (entries : Entries) : Prop where
  distinct : (entries.map Prod.fst).Nodup
  inRange : ∀ entry ∈ entries, entry.2.InRange

theorem keys_replace (key : String) (node : Node) (entries : Entries) :
    (entries.replace key node).map Prod.fst = entries.map Prod.fst := by
  induction entries with
  | nil => rfl
  | cons entry rest ih =>
    obtain ⟨first, value⟩ := entry
    unfold replace
    by_cases same : first = key
    · rw [if_pos same]
      rfl
    · rw [if_neg same, List.map_cons, ih, List.map_cons]

theorem mem_replace {key : String} {node : Node} {entries : Entries} {entry : String × Node}
    (member : entry ∈ entries.replace key node) : entry ∈ entries ∨ entry.2 = node := by
  induction entries with
  | nil => cases member
  | cons first rest ih =>
    obtain ⟨k, value⟩ := first
    unfold replace at member
    split at member
    · rcases List.mem_cons.mp member with rfl | later
      · exact Or.inr rfl
      · exact Or.inl (List.mem_cons_of_mem _ later)
    · rcases List.mem_cons.mp member with rfl | later
      · exact Or.inl List.mem_cons_self
      · exact (ih later).imp_left (List.mem_cons_of_mem _)

namespace Proper

variable {entries : Entries}

theorem nil : Proper [] := ⟨List.nodup_nil, fun _ member => absurd member List.not_mem_nil⟩

theorem append (proper : entries.Proper) {key : String} (absent : entries.lookup key = none)
    {node : Node} (fits : node.InRange) : Proper (entries ++ [(key, node)]) := by
  constructor
  · rw [List.map_append, List.nodup_append]
    refine ⟨proper.distinct, List.pairwise_singleton _ _, ?_⟩
    intro old listed new member same
    rw [List.mem_singleton.mp member] at same
    rw [same] at listed
    exact StationScript.Entries.lookup_eq_none_iff.mp absent listed
  · intro entry member
    rcases List.mem_append.mp member with old | new
    · exact proper.inRange entry old
    · rw [List.mem_singleton.mp new]
      exact fits

theorem replace (proper : entries.Proper) (key : String) {node : Node} (fits : node.InRange) :
    (entries.replace key node).Proper := by
  constructor
  · rw [keys_replace]
    exact proper.distinct
  · intro entry member
    rcases mem_replace member with old | same
    · exact proper.inRange entry old
    · rw [same]
      exact fits

theorem erase (proper : entries.Proper) (key : String) : (entries.erase key).Proper := by
  constructor
  · exact proper.distinct.sublist (List.filter_sublist.map Prod.fst)
  · intro entry member
    exact proper.inRange entry (List.mem_filter.mp member).1

/-- A change inside a table keeps the outermost one proper, if it does so where it is made. -/
theorem within (proper : entries.Proper) {dotted : Bool}
    {change : TableOrigin → Entries → Option Entries} {way : List String} {origin : TableOrigin}
    {after : Entries} (changed : within dotted change way origin entries = some after)
    (keeps : ∀ after, change origin entries = some after → after.Proper) : after.Proper := by
  unfold Toml.within at changed
  split at changed
  · exact keeps after changed
  · split at changed
    · rename_i absent
      simp only [Option.bind_eq_bind, Option.bind_eq_some_iff, Option.pure_def,
        Option.some.injEq] at changed
      obtain ⟨_, _, rfl⟩ := changed
      exact proper.append absent trivial
    · split at changed
      · cases changed
      · simp only [Option.bind_eq_bind, Option.bind_eq_some_iff, Option.pure_def,
          Option.some.injEq] at changed
        obtain ⟨_, _, rfl⟩ := changed
        exact proper.replace _ trivial
    · split at changed
      · cases changed
      · simp only [Option.bind_eq_bind, Option.bind_eq_some_iff, Option.pure_def,
          Option.some.injEq] at changed
        obtain ⟨_, _, rfl⟩ := changed
        exact proper.replace _ trivial
    · cases changed

theorem addEntry (proper : entries.Proper) {path : Path} {node : Node} (fits : node.InRange)
    {after : Entries} (added : addEntry path node entries = some after) : after.Proper := by
  refine proper.within added ?_
  intro after placed
  split at placed
  · cases placed
  · rename_i free
    cases placed
    exact proper.append (Option.not_isSome_iff_eq_none.mp fun taken => free (Or.inr taken)) fits

end Proper

end Entries

namespace Assembly

/-- The document is proper, and so is the table that is being filled, if that is the document. -/
structure Proper (a : Assembly) : Prop where
  root : a.root.Proper
  current : a.place = none → a.current.Proper

namespace Proper

variable {a : Assembly} {after : Entries}

theorem close (proper : a.Proper) (closed : a.close = some after) : after.Proper := by
  unfold Assembly.close at closed
  split at closed
  · rename_i unplaced
    cases closed
    exact proper.current unplaced
  · refine proper.root.within closed ?_
    intro after placed
    split at placed
    · rename_i absent
      cases placed
      exact proper.root.append absent trivial
    · cases placed
      exact proper.root.replace _ trivial
    · cases placed
      exact proper.root.replace _ trivial
    · cases placed
  · refine proper.root.within closed ?_
    intro after placed
    split at placed
    · rename_i absent
      cases placed
      exact proper.root.append absent trivial
    · cases placed
      exact proper.root.replace _ trivial
    · cases placed

theorem begin {root : Entries} (proper : root.Proper) {path : Path}
    (begun : begin path root = some a) : a.Proper := by
  simp only [Assembly.begin, Option.bind_eq_bind, Option.bind_eq_some_iff, Option.pure_def,
    Option.some.injEq] at begun
  obtain ⟨reached, found, _, _, _, _, cleared, erased, rfl⟩ := begun
  have same : reached.Proper := by
    refine proper.within found ?_
    intro after kept
    cases kept
    exact proper
  refine ⟨?_, fun unplaced => nomatch unplaced⟩
  refine same.within erased ?_
  intro after kept
  cases kept
  exact same.erase _

theorem beginItem {root : Entries} (proper : root.Proper) {path : Path}
    (begun : beginItem path root = some a) : a.Proper := by
  simp only [Assembly.beginItem, Option.bind_eq_bind, Option.bind_eq_some_iff, Option.pure_def,
    Option.some.injEq] at begun
  obtain ⟨reached, found, rfl⟩ := begun
  refine ⟨?_, fun unplaced => nomatch unplaced⟩
  refine proper.within found ?_
  intro after kept
  split at kept
  · rename_i absent
    cases kept
    exact proper.append absent trivial
  · cases kept
    exact proper
  · cases kept

/-- A line keeps the assembly proper, if what an entry brings is in range. -/
theorem add (proper : a.Proper) {line : Line}
    (fits : ∀ path node, line = .entry path node → node.InRange) {next : Assembly}
    (added : a.add line = some next) : next.Proper := by
  cases line with
  | entry path node =>
    simp only [Assembly.add, Option.bind_eq_bind, Option.bind_eq_some_iff, Option.pure_def,
      Option.some.injEq] at added
    obtain ⟨current, entered, rfl⟩ := added
    exact ⟨proper.root, fun unplaced =>
      (proper.current unplaced).addEntry (fits path node rfl) entered⟩
  | header path =>
    simp only [Assembly.add, Option.bind_eq_bind, Option.bind_eq_some_iff] at added
    obtain ⟨_, closed, begun⟩ := added
    exact begin (proper.close closed) begun
  | item path =>
    simp only [Assembly.add, Option.bind_eq_bind, Option.bind_eq_some_iff] at added
    obtain ⟨_, closed, begun⟩ := added
    exact beginItem (proper.close closed) begun

theorem addAll {list : List Line}
    (fits : ∀ path node, .entry path node ∈ list → node.InRange) (proper : a.Proper)
    {next : Assembly} (added : list.foldlM Assembly.add a = some next) : next.Proper := by
  induction list generalizing a with
  | nil =>
    cases added
    exact proper
  | cons line rest ih =>
    rw [List.foldlM_cons, Option.bind_eq_bind, Option.bind_eq_some_iff] at added
    obtain ⟨middle, first, later⟩ := added
    refine ih (fun path node member => fits path node (List.mem_cons_of_mem _ member)) ?_ later
    refine proper.add ?_ first
    rintro path node rfl
    exact fits path node List.mem_cons_self

end Proper

end Assembly

theorem inRange_of_line {cs rest : List Char} {path : Path} {node : Node}
    (parsed : line cs = some (.entry path node, rest)) : node.InRange := by
  unfold line at parsed
  simp only [Option.bind_eq_bind, Option.pure_def] at parsed
  split at parsed
  · rw [Option.bind_eq_some_iff] at parsed
    obtain ⟨_, _, parsed⟩ := parsed
    split at parsed
    · rw [Option.bind_eq_some_iff] at parsed
      obtain ⟨_, _, other⟩ := parsed
      cases other
    · cases parsed
  · rw [Option.bind_eq_some_iff] at parsed
    obtain ⟨_, _, parsed⟩ := parsed
    split at parsed
    · rw [Option.bind_eq_some_iff] at parsed
      obtain ⟨_, _, other⟩ := parsed
      cases other
    · cases parsed
  · rw [Option.bind_eq_some_iff] at parsed
    obtain ⟨_, _, parsed⟩ := parsed
    split at parsed
    · simp only [Option.bind_eq_some_iff, Option.some.injEq, Prod.mk.injEq, Line.entry.injEq]
        at parsed
      obtain ⟨_, read, _, _, ⟨_, rfl⟩, _⟩ := parsed
      exact inRange_of_value read
    · cases parsed

theorem inRange_of_lines {fuel : Nat} {cs : List Char} {list : List Line}
    (parsed : lines fuel cs = some list) {path : Path} {node : Node}
    (member : .entry path node ∈ list) : node.InRange := by
  induction fuel generalizing cs list with
  | zero =>
    cases parsed
    cases member
  | succ fuel ih =>
    unfold lines at parsed
    split at parsed
    · cases parsed
      cases member
    · simp only [Option.bind_eq_bind, Option.bind_eq_some_iff] at parsed
      obtain ⟨_, _, parsed⟩ := parsed
      exact ih parsed member
    · exact ih parsed member
    · simp only [Option.bind_eq_bind, Option.bind_eq_some_iff] at parsed
      obtain ⟨_, _, parsed⟩ := parsed
      exact ih parsed member
    · simp only [Option.bind_eq_bind, Option.bind_eq_some_iff, Option.pure_def,
        Option.some.injEq] at parsed
      obtain ⟨⟨first, rest⟩, read, later, others, rfl⟩ := parsed
      rcases List.mem_cons.mp member with rfl | more
      · exact inRange_of_line read
      · exact ih others more

/-- In every document keys stand once, and integers have 64 bits. -/
theorem Entries.proper_of_text {text : String} {entries : Entries}
    (parsed : ofText text = some entries) : entries.Proper := by
  simp only [ofText, Option.bind_eq_bind, Option.bind_eq_some_iff] at parsed
  obtain ⟨list, read, assembled⟩ := parsed
  simp only [ofLines, Option.bind_eq_bind, Option.bind_eq_some_iff] at assembled
  obtain ⟨whole, added, closed⟩ := assembled
  have start : Assembly.Proper {} := ⟨Proper.nil, fun _ => Proper.nil⟩
  exact (Assembly.Proper.addAll (fun _ _ member => inRange_of_lines read member) start added).close
    closed

end StationScript.Toml
