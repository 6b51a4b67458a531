import StationScript.Config.Toml
import StationScript.Proofs.Toml.Assembly

/-!
Which settings a document gives.

A setting is given by the value that stands under its key, if that is of the setting's kind. Main
statement: a text gives a layer exactly if it is a document whose four keys hold the layer's values,
those that the layer lacks being absent. Since no key stands twice, the check of what is present
adds no condition of its own.
-/

set_option autoImplicit false

namespace StationScript

open Toml

theorem bind_eq_ok_iff {ε α β : Type} {x : Except ε α} {next : α → Except ε β} {b : β} :
    (x >>= next) = .ok b ↔ ∃ a, x = .ok a ∧ next a = .ok b := by
  cases x with
  | error fault =>
    constructor
    · intro impossible
      cases impossible
    · rintro ⟨_, impossible, _⟩
      cases impossible
  | ok a =>
    constructor
    · intro done
      exact ⟨a, rfl, done⟩
    · rintro ⟨_, same, done⟩
      cases same
      exact done

/-- A decoder reads a value from just one node. -/
def Toml.Decoder.Reads {α : Type} (decode : Decoder α) (node : α → Node) : Prop :=
  (∀ a, decode (node a) = .ok a) ∧ ∀ n a, n.InRange → decode n = .ok a → n = node a

theorem reads_text : Decoder.Reads Decoder.text .string := by
  refine ⟨fun _ => rfl, ?_⟩
  intro n a _ read
  cases n with
  | string text =>
    cases read
    rfl
  | integer | real | boolean | moment | array | table | tables => cases read

theorem reads_flag : Decoder.Reads Decoder.flag .boolean := by
  refine ⟨fun _ => rfl, ?_⟩
  intro n a _ read
  cases n with
  | boolean b =>
    cases read
    rfl
  | integer | real | string | moment | array | table | tables => cases read

theorem reads_count : Decoder.Reads Decoder.count fun n => .integer n.toNat := by
  constructor
  · intro n
    have nonnegative : ¬ (n.toNat : Int) < 0 := by omega
    unfold Decoder.count
    dsimp only
    rw [if_neg nonnegative, Int.toNat_natCast, UInt64.ofNat_toNat]
  · intro node a inRange read
    cases node with
    | integer n =>
      unfold Decoder.count at read
      dsimp only at read
      split at read
      · cases read
      · cases read
        have upper : n ≤ Int64.maxValue.toInt := inRange.2
        have bound : Int64.maxValue.toInt = 2 ^ 63 - 1 := by decide
        have small : n.toNat < 2 ^ 64 := by omega
        show Node.integer n = .integer (UInt64.ofNat n.toNat).toNat
        rw [UInt64.toNat_ofNat_of_lt' small]
        congr 1
        omega
    | string | real | boolean | moment | array | table | tables => cases read

/-- A key is absent, or holds a value of its kind. -/
theorem optional_eq_ok_iff {α : Type} {decode : Decoder α} {node : α → Node}
    (reads : decode.Reads node) {entries : Toml.Entries} (proper : entries.Proper) (key : String)
    (value : Option α) :
    entries.optional key decode = .ok value ↔ entries.lookup key = value.map node := by
  unfold Toml.Entries.optional
  cases found : entries.lookup key with
  | none => cases value <;> simp
  | some n =>
    have inRange := proper.inRange _ (Entries.mem_of_lookup found)
    show (decode n).map some = .ok value ↔ some n = value.map node
    cases value with
    | none => cases decode n <;> simp [Except.map]
    | some a =>
      constructor
      · intro read
        have taken : decode n = .ok a := by
          cases result : decode n with
          | error fault =>
            rw [result] at read
            cases read
          | ok b =>
            rw [result] at read
            cases read
            rfl
        rw [reads.2 n a inRange taken]
        rfl
      · intro same
        cases same
        rw [reads.1]
        rfl

theorem check_holding {α : Type} {name : String} {decode : Decoder α} {n : Node} {a : α}
    (read : decode n = .ok a) : (Field.holding name decode).check n = .ok () := by
  show (decode n).map _ = _
  rw [read]
  rfl

theorem checkFields_of_all {fields : List Field} {entries : Toml.Entries}
    (all : ∀ entry ∈ entries, ∀ f, fields.find? (fun f => f.name = entry.1) = some f →
      f.check entry.2 = .ok ()) : checkFields fields entries = .ok () := by
  unfold checkFields
  induction entries with
  | nil => rfl
  | cons entry rest ih =>
    rw [List.forM_eq_forM, List.forM_cons, bind_eq_ok_iff]
    refine ⟨(), ?_, ih fun later member => all later (List.mem_cons_of_mem _ member)⟩
    dsimp only
    split
    · rename_i f found
      exact all entry List.mem_cons_self f found
    · rfl

namespace ConfigLayer

/-- The document says about each setting what the layer says. -/
structure StandsIn (layer : ConfigLayer) (entries : Toml.Entries) : Prop where
  logPrefix : entries.lookup "log_prefix" = layer.logPrefix.map .string
  refreshMarker : entries.lookup "refresh_marker" = layer.refreshMarker.map .string
  refreshDebounce : entries.lookup "refresh_debounce_ms" =
    layer.refreshDebounce.map fun n => .integer n.toNat
  warnAcyclic : entries.lookup "warn_acyclic_connections" = layer.warnAcyclic.map .boolean

theorem build_eq_ok_iff {entries : Toml.Entries} (proper : entries.Proper) (layer : ConfigLayer) :
    shape.build entries = .ok layer ↔ layer.StandsIn entries := by
  unfold shape
  simp only [bind_eq_ok_iff, pure, Except.pure, optional_eq_ok_iff reads_text proper,
    optional_eq_ok_iff reads_count proper, optional_eq_ok_iff reads_flag proper]
  constructor
  · rintro ⟨_, first, _, second, _, third, _, fourth, same⟩
    cases same
    exact ⟨first, second, third, fourth⟩
  · intro stands
    exact ⟨_, stands.logPrefix, _, stands.refreshMarker, _, stands.refreshDebounce, _,
      stands.warnAcyclic, rfl⟩

/-- What the fields accept is what they are built from. -/
theorem StandsIn.checked {layer : ConfigLayer} {entries : Toml.Entries}
    (stands : layer.StandsIn entries)
    (proper : entries.Proper) : checkFields shape.fields entries = .ok () := by
  apply checkFields_of_all
  rintro ⟨key, n⟩ member f found
  have there := Entries.lookup_of_mem proper.distinct member
  have accepted {α : Type} {name : String} {decode : Decoder α} {node : α → Node}
      (reads : decode.Reads node) {value : Option α} (same : name = key)
      (given : entries.lookup name = value.map node) :
      (Field.holding name decode).check n = .ok () := by
    rw [same, there] at given
    obtain ⟨a, _, rfl⟩ := Option.map_eq_some_iff.mp given.symm
    exact check_holding (reads.1 a)
  have listed := List.mem_of_find?_eq_some found
  have named : f.name = key := by simpa using List.find?_some found
  simp only [shape, List.mem_cons, List.not_mem_nil, or_false] at listed
  rcases listed with rfl | rfl | rfl | rfl
  · exact accepted reads_text named stands.logPrefix
  · exact accepted reads_text named stands.refreshMarker
  · exact accepted reads_count named stands.refreshDebounce
  · exact accepted reads_flag named stands.warnAcyclic

theorem ofEntries_eq_ok_iff {entries : Toml.Entries} (proper : entries.Proper)
    (layer : ConfigLayer) :
    shape.ofEntries entries = .ok layer ↔ layer.StandsIn entries := by
  unfold Shape.ofEntries
  rw [bind_eq_ok_iff]
  constructor
  · rintro ⟨_, _, built⟩
    exact (build_eq_ok_iff proper layer).mp built
  · intro stands
    exact ⟨(), stands.checked proper, (build_eq_ok_iff proper layer).mpr stands⟩

/-- A text gives a layer if it is a document in which the layer stands. -/
theorem ofToml_eq_ok_iff (text : String) (layer : ConfigLayer) :
    ofToml text = .ok layer ↔
      ∃ entries, Toml.Entries.ofText text = some entries ∧ layer.StandsIn entries := by
  unfold ofToml Shape.ofText
  cases parsed : Toml.Entries.ofText text with
  | none => simp
  | some entries =>
    have proper := Toml.Entries.proper_of_text parsed
    show (shape.ofEntries entries).mapError Fault.mismatch = .ok layer ↔ _
    constructor
    · intro read
      refine ⟨entries, rfl, (ofEntries_eq_ok_iff proper layer).mp ?_⟩
      cases done : shape.ofEntries entries with
      | error fault =>
        rw [done] at read
        cases read
      | ok other =>
        rw [done] at read
        cases read
        rfl
    · rintro ⟨_, same, stands⟩
      cases same
      rw [(ofEntries_eq_ok_iff proper layer).mpr stands]
      rfl

end ConfigLayer

end StationScript
