import StationScript.Proofs.Config.Document
import StationScript.Proofs.Config.Variables

/-!
The settings in force, layer by layer.

Every setting is decided by itself: by its variable, else by the file, else by the default. A file
that stands there but gives no settings is reported whatever the environment says; otherwise a
variable that does not say what its setting needs is reported, the one for the milliseconds first.
Main statement: this is what comes of loading.

That the rules below fix the outcome need not be shown by itself: whatever they allow is what is
computed, and they always allow something.
-/

set_option autoImplicit false

namespace StationScript

/-- Something stands at the path, but no text can be read from it. -/
inductive Files.Unreadable (files : Files) (path : String) : ReadFault → Prop where
  | directory : files path = .directory → Unreadable files path .directory
  | locked : files path = .locked → Unreadable files path .locked
  | noText (bytes : ByteArray) :
    files path = .content bytes → (∀ text : String, bytes ≠ text.toUTF8) →
      Unreadable files path .notUtf8

/-- What a variable says about the milliseconds. -/
def SaysCount (text : String) (n : UInt64) : Prop :=
  ∃ core, Text.Trims text.toList core ∧ Writes core n.toNat

/-- What a variable says about a flag. -/
def SaysFlag (text : String) (b : Bool) : Prop :=
  ∃ word ∈ if b then affirmative else negative, Spells text.toList word

/-- The value of a setting: as its variable says, or from the file, or the default. -/
structure Decided {α : Type} (said : String → Prop) (means : String → α → Prop) (file : Option α)
    (default value : α) : Prop where
  byVariable : ∀ text, said text → means text value
  below : (∀ text, ¬ said text) → value = file.getD default

namespace ConfigSource

/-- The settings that the file gives: none if there is no file. -/
inductive FileGives (source : ConfigSource) (files : Files) : ConfigLayer → Prop where
  | unnamed : source.file = none → FileGives source files {}
  | absent (path : String) (fault : PathFault) : source.file = some path →
      files path = .absent fault → FileGives source files {}
  | written (path text : String) (entries : Toml.Entries) (layer : ConfigLayer) :
      source.file = some path → files path = .content text.toUTF8 →
      Toml.Entries.ofText text = some entries → layer.StandsIn entries →
      FileGives source files layer

/-- The variable is set to the text, and the environment counts. -/
def Hears (source : ConfigSource) (environment : Environment) (name text : String) : Prop :=
  source.skipEnvironment = false ∧ environment name = some text.toUTF8

/-- Each setting is decided by itself. -/
structure Settles (source : ConfigSource) (environment : Environment) (file : ConfigLayer)
    (settings : ScriptConfig) : Prop where
  logPrefix : Decided (source.Hears environment "RSLUA_LOG_PREFIX") (fun text value => value = text)
    file.logPrefix "LuaScript" settings.logPrefix
  refreshMarker : Decided (source.Hears environment "RSLUA_REFRESH_MARKER")
    (fun text value => value = text) file.refreshMarker "Update LuaScript" settings.refreshMarker
  refreshDebounce : Decided (source.Hears environment "RSLUA_REFRESH_DEBOUNCE_MS") SaysCount
    file.refreshDebounce 1000 settings.refreshDebounce
  warnAcyclic : Decided (source.Hears environment "RSLUA_WARN_ACYCLIC") SaysFlag
    file.warnAcyclic true settings.warnAcyclic

/-- The variable is heard, but says nothing of the kind. -/
def Mishears {α : Type} (source : ConfigSource) (environment : Environment) (name : String)
    (means : String → α → Prop) : Prop :=
  ∃ text, source.Hears environment name text ∧ ∀ value, ¬ means text value

/-- The variable that does not say what its setting needs, and what that is. -/
inductive Faulty (source : ConfigSource) (environment : Environment) : String → String → Prop where
  | debounce : source.Mishears environment "RSLUA_REFRESH_DEBOUNCE_MS" SaysCount →
      Faulty source environment "RSLUA_REFRESH_DEBOUNCE_MS" "milliseconds"
  | warn : ¬ source.Mishears environment "RSLUA_REFRESH_DEBOUNCE_MS" SaysCount →
      source.Mishears environment "RSLUA_WARN_ACYCLIC" SaysFlag →
      Faulty source environment "RSLUA_WARN_ACYCLIC" "bool"

/-- What comes of loading. -/
inductive Yields (source : ConfigSource) (files : Files) (environment : Environment) :
    Except ConfigError ScriptConfig → Prop where
  | settled (layer : ConfigLayer) (settings : ScriptConfig) : source.FileGives files layer →
      source.Settles environment layer settings → Yields source files environment (.ok settings)
  | unreadable (path : String) (fault : ReadFault) : source.file = some path →
      files.Unreadable path fault →
      Yields source files environment (.error (.unreadable path fault))
  | invalidFile (path text : String) (fault : Toml.Fault) : source.file = some path →
      files path = .content text.toUTF8 →
      (∀ entries layer, Toml.Entries.ofText text = some entries →
        ¬ ConfigLayer.StandsIn layer entries) →
      ConfigLayer.ofToml text = .error fault →
      Yields source files environment (.error (.invalidFile path fault))
  | invalidVariable (layer : ConfigLayer) (name expected : String) :
      source.FileGives files layer → source.Faulty environment name expected →
      Yields source files environment (.error (.invalidVariable name expected))

end ConfigSource

/-! ### The file -/

theorem Files.readText_of_content {files : Files} {path text : String}
    (answer : files path = .content text.toUTF8) : files.readText path = .ok text := by
  unfold readText
  rw [answer]
  dsimp only
  rw [Utf8.decode_toUTF8]

theorem Files.Unreadable.readText {files : Files} {path : String} {fault : ReadFault}
    (unreadable : files.Unreadable path fault) :
    files.exists? path = true ∧ files.readText path = .error fault := by
  unfold Files.exists? Files.readText
  rcases unreadable with answer | answer | ⟨bytes, answer, foreign⟩
  · rw [answer]
    exact ⟨rfl, rfl⟩
  · rw [answer]
    exact ⟨rfl, rfl⟩
  · rw [answer]
    refine ⟨rfl, ?_⟩
    dsimp only
    split
    · rename_i text decoded
      exact absurd ((Utf8.decode_eq_ok_iff bytes text).mp decoded) (foreign text)
    · rfl

/-- A path leads nowhere, or to something unreadable, or to a text. -/
theorem Files.answers (files : Files) (path : String) :
    (∃ fault, files path = .absent fault) ∨ (∃ fault, files.Unreadable path fault) ∨
      ∃ text : String, files path = .content text.toUTF8 := by
  cases answer : files path with
  | absent fault => exact .inl ⟨fault, rfl⟩
  | directory => exact .inr (.inl ⟨_, .directory answer⟩)
  | locked => exact .inr (.inl ⟨_, .locked answer⟩)
  | content bytes =>
    by_cases written : ∃ text : String, bytes = text.toUTF8
    · obtain ⟨text, rfl⟩ := written
      exact .inr (.inr ⟨text, rfl⟩)
    · exact .inr (.inl ⟨_, .noText bytes answer fun text same => written ⟨text, same⟩⟩)

namespace ConfigSource

variable {source : ConfigSource} {files : Files} {environment : Environment}

theorem fileLayer_of_content {path text : String} (named : source.file = some path)
    (answer : files path = .content text.toUTF8) :
    source.fileLayer files = (ConfigLayer.ofToml text).mapError (.invalidFile path) := by
  have there : files.exists? path = true := by
    unfold Files.exists?
    rw [answer]
  unfold fileLayer ConfigLayer.ofFile
  rw [named]
  dsimp only
  rw [there, Files.readText_of_content answer]
  rfl

theorem fileLayer_of_unreadable {path : String} {fault : ReadFault}
    (named : source.file = some path) (unreadable : files.Unreadable path fault) :
    source.fileLayer files = .error (.unreadable path fault) := by
  obtain ⟨there, failed⟩ := unreadable.readText
  unfold fileLayer ConfigLayer.ofFile
  rw [named]
  dsimp only
  rw [there, failed]
  rfl

theorem FileGives.fileLayer {layer : ConfigLayer} (gives : source.FileGives files layer) :
    source.fileLayer files = .ok layer := by
  cases gives with
  | unnamed unnamed =>
    unfold ConfigSource.fileLayer
    rw [unnamed]
  | absent path fault named answer =>
    unfold ConfigSource.fileLayer ConfigLayer.ofFile Files.exists?
    rw [named]
    dsimp only
    rw [answer]
    rfl
  | written path text entries layer named answer parsed stands =>
    rw [fileLayer_of_content named answer,
      (ConfigLayer.ofToml_eq_ok_iff text layer).mpr ⟨entries, parsed, stands⟩]
    rfl

/-! ### The environment -/

/-- What is heard of the environment. -/
def heard (source : ConfigSource) (environment : Environment) : Environment :=
  if source.skipEnvironment then fun _ => none else environment

theorem environmentLayer_eq :
    source.environmentLayer environment = ConfigLayer.ofEnvironment (source.heard environment) := by
  unfold environmentLayer heard
  cases source.skipEnvironment <;> rfl

theorem hears_iff {name text : String} :
    source.Hears environment name text ↔ (source.heard environment).text? name = some text := by
  rw [Environment.text?_eq_some_iff]
  unfold Hears heard
  cases source.skipEnvironment <;> simp

/-- What a decision comes to, by whether the variable is heard. -/
theorem decided_iff {α : Type} {name : String} {means : String → α → Prop} {file : Option α}
    {default value : α} :
    Decided (source.Hears environment name) means file default value ↔
      match (source.heard environment).text? name with
      | none => value = file.getD default
      | some text => means text value := by
  constructor
  · intro decided
    split
    · rename_i silent
      apply decided.below
      intro text hears
      rw [hears_iff, silent] at hears
      cases hears
    · rename_i text spoken
      exact decided.byVariable text (hears_iff.mpr spoken)
  · intro decided
    constructor
    · intro text hears
      rw [hears_iff.mp hears] at decided
      exact decided
    · intro silent
      cases spoken : (source.heard environment).text? name with
      | none =>
        rw [spoken] at decided
        exact decided
      | some text => exact absurd (hears_iff.mpr spoken) (silent text)

/-- A text is decided to be what is heard. -/
theorem decided_text {name : String} {file : Option String} {default value : String}
    (decided : Decided (source.Hears environment name) (fun text value => value = text) file default
      value) :
    ((source.heard environment).text? name).getD (file.getD default) = value := by
  rw [decided_iff] at decided
  cases spoken : (source.heard environment).text? name <;> rw [spoken] at decided <;>
    exact decided.symm

section Reading

variable {α : Type} {name : String} {means : String → α → Prop} (read? : List Char → Option α)
  (reads : ∀ text value, read? text.toList = some value ↔ means text value)
include reads

theorem readVariable_of_decided {file : Option α} {default value : α} (expected : String)
    (decided : Decided (source.Hears environment name) means file default value) :
    ∃ taken, ConfigLayer.readVariable (source.heard environment) name expected read? = .ok taken ∧
      taken.getD (file.getD default) = value := by
  rw [decided_iff] at decided
  unfold ConfigLayer.readVariable
  cases spoken : (source.heard environment).text? name with
  | none =>
    rw [spoken] at decided
    exact ⟨none, rfl, decided.symm⟩
  | some text =>
    rw [spoken] at decided
    refine ⟨some value, ?_, rfl⟩
    dsimp only
    rw [(reads text value).mpr decided]

theorem readVariable_of_mishears (expected : String)
    (mishears : source.Mishears environment name means) :
    ConfigLayer.readVariable (source.heard environment) name expected read? =
      .error (.invalidVariable name expected) := by
  obtain ⟨text, hears, nothing⟩ := mishears
  have unread : read? text.toList = none := by
    rw [Option.eq_none_iff_forall_ne_some]
    intro value read
    exact nothing value ((reads text value).mp read)
  unfold ConfigLayer.readVariable
  rw [hears_iff.mp hears]
  dsimp only
  rw [unread]

omit reads in
/-- A setting can be decided unless its variable is misheard. -/
theorem decided_of_not_mishears (file : Option α) (default : α)
    (clear : ¬ source.Mishears environment name means) :
    ∃ value, Decided (source.Hears environment name) means file default value := by
  cases spoken : (source.heard environment).text? name with
  | none =>
    refine ⟨file.getD default, decided_iff.mpr ?_⟩
    rw [spoken]
  | some text =>
    by_cases told : ∃ value, means text value
    · obtain ⟨value, told⟩ := told
      refine ⟨value, decided_iff.mpr ?_⟩
      rw [spoken]
      exact told
    · exact absurd ⟨text, hears_iff.mpr spoken, fun value means => told ⟨value, means⟩⟩ clear

end Reading

theorem reads_saysCount (text : String) (n : UInt64) :
    ConfigLayer.count? (Text.trim text.toList) = some n ↔ SaysCount text n := by
  rw [ConfigLayer.count?_eq_some_iff]
  constructor
  · intro writes
    exact ⟨_, Text.trims_trim text.toList, writes⟩
  · rintro ⟨core, trims, writes⟩
    rw [← trims.eq_trim]
    exact writes

theorem reads_saysFlag (text : String) (b : Bool) :
    ConfigLayer.flag? text.toList = some b ↔ SaysFlag text b :=
  ConfigLayer.flag?_eq_some_iff text.toList b

theorem Settles.environmentLayer {file : ConfigLayer} {settings : ScriptConfig}
    (settles : source.Settles environment file settings) :
    ∃ layer, source.environmentLayer environment = .ok layer ∧
      layer.applyTo (file.applyTo {}) = settings := by
  obtain ⟨debounce, read, third⟩ :=
    readVariable_of_decided (fun text => ConfigLayer.count? (Text.trim text))
      reads_saysCount "milliseconds" settles.refreshDebounce
  obtain ⟨warn, readWarn, fourth⟩ :=
    readVariable_of_decided _ reads_saysFlag "bool" settles.warnAcyclic
  refine ⟨⟨(source.heard environment).text? ConfigLayer.prefixVariable,
    (source.heard environment).text? ConfigLayer.markerVariable, debounce, warn⟩, ?_, ?_⟩
  · rw [environmentLayer_eq]
    unfold ConfigLayer.ofEnvironment
    rw [bind_eq_ok_iff]
    refine ⟨debounce, read, ?_⟩
    rw [bind_eq_ok_iff]
    exact ⟨warn, readWarn, rfl⟩
  · have first := decided_text settles.logPrefix
    have second := decided_text settles.refreshMarker
    unfold ConfigLayer.applyTo
    cases settings
    congr

theorem Faulty.environmentLayer {name expected : String}
    (faulty : source.Faulty environment name expected) :
    source.environmentLayer environment = .error (.invalidVariable name expected) := by
  rw [environmentLayer_eq]
  unfold ConfigLayer.ofEnvironment
  cases faulty with
  | debounce mishears =>
    have failed := readVariable_of_mishears
      (fun text => ConfigLayer.count? (Text.trim text)) reads_saysCount "milliseconds"
      mishears
    rw [show ConfigLayer.debounceVariable = "RSLUA_REFRESH_DEBOUNCE_MS" from rfl, failed]
    rfl
  | warn clear mishears =>
    obtain ⟨value, decided⟩ := decided_of_not_mishears none 0 clear
    obtain ⟨debounce, read, _⟩ :=
      readVariable_of_decided (fun text => ConfigLayer.count? (Text.trim text))
        reads_saysCount "milliseconds" decided
    have failed := readVariable_of_mishears _ reads_saysFlag "bool" mishears
    rw [show ConfigLayer.debounceVariable = "RSLUA_REFRESH_DEBOUNCE_MS" from rfl, read,
      show ConfigLayer.warnVariable = "RSLUA_WARN_ACYCLIC" from rfl, failed]
    rfl

/-- The settings can be decided, or a variable is at fault. -/
theorem settles_or_faulty (source : ConfigSource) (environment : Environment)
    (file : ConfigLayer) : (∃ settings, source.Settles environment file settings) ∨
      ∃ name expected, source.Faulty environment name expected := by
  by_cases third : source.Mishears environment "RSLUA_REFRESH_DEBOUNCE_MS" SaysCount
  · exact .inr ⟨_, _, .debounce third⟩
  by_cases fourth : source.Mishears environment "RSLUA_WARN_ACYCLIC" SaysFlag
  · exact .inr ⟨_, _, .warn third fourth⟩
  have text (name : String) :
      ¬ source.Mishears environment name (fun text value => value = text) := by
    rintro ⟨said, _, nothing⟩
    exact nothing said rfl
  obtain ⟨logPrefix, first⟩ := decided_of_not_mishears file.logPrefix "LuaScript" (text _)
  obtain ⟨refreshMarker, second⟩ :=
    decided_of_not_mishears file.refreshMarker "Update LuaScript" (text _)
  obtain ⟨refreshDebounce, third⟩ := decided_of_not_mishears file.refreshDebounce 1000 third
  obtain ⟨warnAcyclic, fourth⟩ := decided_of_not_mishears file.warnAcyclic true fourth
  exact .inl ⟨⟨logPrefix, refreshMarker, refreshDebounce, warnAcyclic⟩,
    first, second, third, fourth⟩

/-! ### Loading -/

theorem Yields.load {result : Except ConfigError ScriptConfig}
    (yields : source.Yields files environment result) : source.load files environment = result := by
  unfold ConfigSource.load
  cases yields with
  | settled layer settings gives settles =>
    obtain ⟨above, environmentGives, same⟩ := settles.environmentLayer
    rw [gives.fileLayer, environmentGives, ← same]
    rfl
  | unreadable path fault named unreadable =>
    rw [fileLayer_of_unreadable named unreadable]
    rfl
  | invalidFile path text fault named answer _ failed =>
    rw [fileLayer_of_content named answer, failed]
    rfl
  | invalidVariable layer name expected gives faulty =>
    rw [gives.fileLayer, faulty.environmentLayer]
    rfl

theorem fileGives_or_faulty (source : ConfigSource) (files : Files) (environment : Environment) :
    (∃ layer, source.FileGives files layer) ∨
      ∃ error, source.Yields files environment (.error error) := by
  cases named : source.file with
  | none => exact .inl ⟨_, .unnamed named⟩
  | some path =>
    rcases files.answers path with ⟨fault, answer⟩ | ⟨fault, unreadable⟩ | ⟨text, answer⟩
    · exact .inl ⟨_, .absent path fault named answer⟩
    · exact .inr ⟨_, .unreadable path fault named unreadable⟩
    · cases read : ConfigLayer.ofToml text with
      | ok layer =>
        obtain ⟨entries, parsed, stands⟩ := (ConfigLayer.ofToml_eq_ok_iff text layer).mp read
        exact .inl ⟨layer, .written path text entries layer named answer parsed stands⟩
      | error fault =>
        refine .inr ⟨_, .invalidFile path text fault named answer ?_ read⟩
        intro entries layer parsed stands
        rw [(ConfigLayer.ofToml_eq_ok_iff text layer).mpr ⟨entries, parsed, stands⟩] at read
        cases read

theorem exists_yields (source : ConfigSource) (files : Files) (environment : Environment) :
    ∃ result, source.Yields files environment result := by
  rcases source.fileGives_or_faulty files environment with ⟨layer, gives⟩ | ⟨error, yields⟩
  · rcases source.settles_or_faulty environment layer with
      ⟨settings, settles⟩ | ⟨name, expected, faulty⟩
    · exact ⟨_, .settled layer settings gives settles⟩
    · exact ⟨_, .invalidVariable layer name expected gives faulty⟩
  · exact ⟨_, yields⟩

/-- Loading yields what the layers say, for all files and every environment. -/
theorem load_eq_iff_yields (source : ConfigSource) (files : Files) (environment : Environment)
    (result : Except ConfigError ScriptConfig) :
    source.load files environment = result ↔ source.Yields files environment result := by
  constructor
  · rintro rfl
    obtain ⟨result, yields⟩ := source.exists_yields files environment
    rw [yields.load]
    exact yields
  · exact Yields.load

example :
    let files : Files := fun _ => .content "log_prefix = \"Site\"\nrefresh_debounce_ms = 5\n".toUTF8
    let environment : Environment := fun name =>
      if name = "RSLUA_REFRESH_DEBOUNCE_MS" then some " +07\n".toUTF8 else none
    load { file := some "site.toml" } files environment =
      .ok { logPrefix := "Site", refreshDebounce := 7 } := by
  decide +kernel

end ConfigSource

end StationScript
