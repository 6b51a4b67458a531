import StationScript.Proofs.Config.Document
import StationScript.Proofs.Toml.Lines

/-!
Settings written and read back.

Each setting is written on a line of its own. Main statement: settings can be written if their count
of milliseconds has 63 bits, and then their text gives them back; and the lines of any of them, in
any order, give just these, the others being as by default. No document at all gives a greater
count.
-/

set_option autoImplicit false

namespace StationScript

open Toml

inductive Setting where
  | logPrefix
  | refreshMarker
  | refreshDebounce
  | warnAcyclic
  deriving DecidableEq

namespace Setting

/-- All settings, in the order in which they are written. -/
def all : List Setting := [logPrefix, refreshMarker, refreshDebounce, warnAcyclic]

def key : Setting → String
  | logPrefix => "log_prefix"
  | refreshMarker => "refresh_marker"
  | refreshDebounce => "refresh_debounce_ms"
  | warnAcyclic => "warn_acyclic_connections"

/-- The text of the setting's value. -/
def text (config : ScriptConfig) : Setting → List Char
  | logPrefix => Quoted.write config.logPrefix.toList
  | refreshMarker => Quoted.write config.refreshMarker.toList
  | refreshDebounce => Nat.toDigits 10 config.refreshDebounce.toNat
  | warnAcyclic => (if config.warnAcyclic then "true" else "false").toList

def node (config : ScriptConfig) : Setting → Node
  | logPrefix => .string config.logPrefix
  | refreshMarker => .string config.refreshMarker
  | refreshDebounce => .integer config.refreshDebounce.toNat
  | warnAcyclic => .boolean config.warnAcyclic

/-- The setting as an entry of a document. -/
def entry (config : ScriptConfig) (s : Setting) : PlainEntry :=
  ⟨s.key, s.text config, s.node config⟩

theorem key_injective {s t : Setting} (same : s.key = t.key) : s = t := by
  cases s <;> cases t <;> first | rfl | exact absurd same (by decide)

theorem readable_entry {config : ScriptConfig} {s : Setting}
    (fits : s = refreshDebounce → config.refreshDebounce.toNat ≤ 2 ^ 63 - 1) :
    (s.entry config).Readable := by
  have bare : s.key.toList ≠ [] ∧ s.key.toList.all isBareKey = true := by
    cases s <;> decide
  refine ⟨bare.1, List.all_eq_true.mp bare.2, ?_⟩
  cases s with
  | logPrefix => exact denotes_string config.logPrefix
  | refreshMarker => exact denotes_string config.refreshMarker
  | refreshDebounce => exact denotes_integer (fits rfl)
  | warnAcyclic => exact denotes_flag config.warnAcyclic

end Setting

namespace ScriptConfig

/-- The lines of some settings. -/
def textOf (config : ScriptConfig) (settings : List Setting) : String :=
  String.ofList (settings.flatMap fun s => (s.entry config).chars)

/-- The layer of some settings. -/
def layerOf (config : ScriptConfig) (settings : List Setting) : ConfigLayer where
  logPrefix := if .logPrefix ∈ settings then some config.logPrefix else none
  refreshMarker := if .refreshMarker ∈ settings then some config.refreshMarker else none
  refreshDebounce := if .refreshDebounce ∈ settings then some config.refreshDebounce else none
  warnAcyclic := if .warnAcyclic ∈ settings then some config.warnAcyclic else none

theorem lookup_settings (config : ScriptConfig) (settings : List Setting) (s : Setting) :
    (settings.map fun t => (t.key, t.node config)).lookup s.key =
      if s ∈ settings then some (s.node config) else none := by
  induction settings with
  | nil => rfl
  | cons t rest ih =>
    rw [List.map_cons]
    by_cases same : s = t
    · rw [same, List.lookup_cons_self, if_pos List.mem_cons_self]
    · have apart : (s.key == t.key) = false := by
        rw [beq_eq_false_iff_ne]
        exact fun keys => same (Setting.key_injective keys)
      rw [List.lookup_cons, apart]
      simpa [same] using ih

theorem layerOf_standsIn (config : ScriptConfig) (settings : List Setting) :
    (config.layerOf settings).StandsIn (settings.map fun s => (s.key, s.node config)) := by
  have found := lookup_settings config settings
  have kept {α : Type} (node : α → Node) (a : α) (p : Prop) [Decidable p] :
      (if p then some (node a) else none) = (if p then some a else none).map node := by
    split <;> rfl
  constructor
  · exact (found .logPrefix).trans (kept .string config.logPrefix _)
  · exact (found .refreshMarker).trans (kept .string config.refreshMarker _)
  · exact (found .refreshDebounce).trans
      (kept (fun n : UInt64 => .integer n.toNat) config.refreshDebounce _)
  · exact (found .warnAcyclic).trans (kept .boolean config.warnAcyclic _)

/-- The lines of some settings give these settings. -/
theorem layer_ofToml_textOf {config : ScriptConfig} {settings : List Setting}
    (distinct : settings.Nodup)
    (fits : .refreshDebounce ∈ settings → config.refreshDebounce.toNat ≤ 2 ^ 63 - 1) :
    ConfigLayer.ofToml (config.textOf settings) = .ok (config.layerOf settings) := by
  have readable : ∀ e ∈ settings.map (Setting.entry config), e.Readable := by
    intro e member
    obtain ⟨s, listed, rfl⟩ := List.mem_map.mp member
    apply Setting.readable_entry
    rintro rfl
    exact fits listed
  have apart : ((settings.map (Setting.entry config)).map PlainEntry.key).Nodup := by
    rw [List.map_map]
    exact List.pairwise_map.mpr
      (distinct.imp fun differ same => differ (Setting.key_injective same))
  rw [ConfigLayer.ofToml_eq_ok_iff]
  refine ⟨_, ?_, layerOf_standsIn config settings⟩
  have read := Toml.Entries.ofText_plain readable apart
  rw [List.flatMap_map, List.map_map] at read
  exact read

/-- All lines are written, if the count fits. -/
theorem toToml_eq (config : ScriptConfig) :
    config.toToml = if config.refreshDebounce.toNat ≤ 2 ^ 63 - 1 then
      some (config.textOf Setting.all) else none := by
  have high : Int64.maxValue.toInt = 2 ^ 63 - 1 := by decide
  have bound : ((config.refreshDebounce.toNat : Int) ≤ Int64.maxValue.toInt) ↔
      config.refreshDebounce.toNat ≤ 2 ^ 63 - 1 := by omega
  have digits : (toString config.refreshDebounce.toNat).toList =
      Nat.toDigits 10 config.refreshDebounce.toNat := by
    rw [Nat.toString_eq_repr, Nat.toList_repr]
  have lines : Setting.all.flatMap (fun s => (s.entry config).chars) =
      ConfigLayer.line "log_prefix" (Quoted.write config.logPrefix.toList) ++
      ConfigLayer.line "refresh_marker" (Quoted.write config.refreshMarker.toList) ++
      ConfigLayer.line "refresh_debounce_ms" (Nat.toDigits 10 config.refreshDebounce.toNat) ++
      ConfigLayer.line "warn_acyclic_connections" (ConfigLayer.flagText config.warnAcyclic) := by
    show _ ++ (_ ++ (_ ++ (_ ++ []))) = _
    rw [List.append_nil, ← List.append_assoc, ← List.append_assoc]
    rfl
  unfold toToml ConfigLayer.toToml ConfigLayer.toChars textOf
  rw [lines, ← digits]
  by_cases fits : config.refreshDebounce.toNat ≤ 2 ^ 63 - 1
  · rw [if_pos fits]
    show Option.map _ (if ((config.refreshDebounce.toNat : Int) ≤ _) then _ else _) = _
    rw [if_pos (bound.mpr fits)]
    rfl
  · rw [if_neg fits]
    show Option.map _ (if ((config.refreshDebounce.toNat : Int) ≤ _) then _ else _) = _
    rw [if_neg (fun small => fits (bound.mp small))]
    rfl

/-- A count that a document gives has 63 bits. -/
theorem count_of_ofToml {text : String} {config : ScriptConfig} (read : ofToml text = .ok config) :
    config.refreshDebounce.toNat ≤ 2 ^ 63 - 1 := by
  unfold ofToml at read
  cases given : ConfigLayer.ofToml text with
  | error fault =>
    rw [given] at read
    cases read
  | ok layer =>
    rw [given] at read
    cases read
    obtain ⟨entries, parsed, stands⟩ := (ConfigLayer.ofToml_eq_ok_iff text layer).mp given
    cases count : layer.refreshDebounce with
    | none =>
      show (layer.refreshDebounce.getD 1000).toNat ≤ _
      rw [count]
      decide
    | some n =>
      have found := stands.refreshDebounce
      rw [count] at found
      have inRange : (Node.integer n.toNat).InRange :=
        (Toml.Entries.proper_of_text parsed).inRange _ (Entries.mem_of_lookup found)
      have upper : (n.toNat : Int) ≤ Int64.maxValue.toInt := inRange.2
      have high : Int64.maxValue.toInt = 2 ^ 63 - 1 := by decide
      show (layer.refreshDebounce.getD 1000).toNat ≤ _
      rw [count]
      show n.toNat ≤ _
      omega

/-- What is written is read back, and so are the lines of any of the settings. -/
theorem written_read_back (config : ScriptConfig) :
    (config.toToml.isSome ↔ config.refreshDebounce.toNat ≤ 2 ^ 63 - 1) ∧
    (∀ text, config.toToml = some text →
      text = config.textOf Setting.all ∧ ofToml text = .ok config) ∧
    (∀ settings : List Setting, settings.Nodup →
      (.refreshDebounce ∈ settings → config.refreshDebounce.toNat ≤ 2 ^ 63 - 1) →
      ofToml (config.textOf settings) = .ok {
        logPrefix := if .logPrefix ∈ settings then config.logPrefix else "LuaScript"
        refreshMarker :=
          if .refreshMarker ∈ settings then config.refreshMarker else "Update LuaScript"
        refreshDebounce := if .refreshDebounce ∈ settings then config.refreshDebounce else 1000
        warnAcyclic := if .warnAcyclic ∈ settings then config.warnAcyclic else true }) ∧
    ∀ text, ofToml text = .ok config → config.refreshDebounce.toNat ≤ 2 ^ 63 - 1 := by
  have part : ∀ settings : List Setting, settings.Nodup →
      (.refreshDebounce ∈ settings → config.refreshDebounce.toNat ≤ 2 ^ 63 - 1) →
      ofToml (config.textOf settings) = .ok ((config.layerOf settings).applyTo {}) := by
    intro settings distinct fits
    unfold ofToml
    rw [layer_ofToml_textOf distinct fits]
    rfl
  refine ⟨?_, ?_, ?_, fun text => count_of_ofToml⟩
  · rw [toToml_eq]
    split
    · rename_i fits
      exact iff_of_true rfl fits
    · rename_i excess
      exact iff_of_false Bool.false_ne_true excess
  · intro text written
    rw [toToml_eq] at written
    split at written
    · rename_i fits
      cases written
      refine ⟨rfl, ?_⟩
      rw [part Setting.all (by decide) fun _ => fits]
      rfl
    · cases written
  · intro settings distinct fits
    rw [part settings distinct fits]
    have kept {α : Type} (a default : α) (p : Prop) [Decidable p] :
        (if p then some a else none).getD default = if p then a else default := by
      split <;> rfl
    unfold layerOf ConfigLayer.applyTo
    simp only [kept]

/-- Quotes, line ends and the greatest count are no hindrance, whatever the order. -/
theorem greatest_written_read_back :
    let config : ScriptConfig := ⟨"", "it's \"two\"\nlines \\ \u0001", 9223372036854775807, false⟩
    config.toToml.isSome ∧
      ofToml (config.textOf [.refreshDebounce, .refreshMarker]) =
        .ok ⟨"LuaScript", "it's \"two\"\nlines \\ \u0001", 9223372036854775807, true⟩ := by
  intro config
  obtain ⟨written, _, some, _⟩ := written_read_back config
  refine ⟨written.mpr (by decide), ?_⟩
  exact some [.refreshDebounce, .refreshMarker] (by decide) fun _ => by decide

end ScriptConfig

end StationScript
