import Mathlib.Data.List.Forall2
import StationScript.Proofs.StationFile.Built
import StationScript.Station.Identifier

/-!
What building comes to, told by the file alone. A name that occurs twice is refused before the kind
of any signal is looked at, and then the first unknown kind is. A file without such faults is built,
and everything in it stands in its station.
-/

set_option autoImplicit false

namespace StationScript

namespace SignalKind

/-- The text is the name of the kind, in letters of either case. -/
def NamedBy (kind : SignalKind) (text : String) : Prop := lowerAscii text = lowerAscii kind.name

/-- The text is the name of some kind. -/
def Known (text : String) : Prop := ∃ kind : SignalKind, kind.NamedBy text

theorem lowerAscii_name (kind : SignalKind) : lowerAscii kind.name = kind.name := by
  cases kind <;> decide

theorem parse?_eq_some_iff (text : String) (kind : SignalKind) :
    parse? text = some kind ↔ kind.NamedBy text := by
  constructor
  · intro parsed
    have same : kind.name = lowerAscii text := by simpa using List.find?_some parsed
    rw [NamedBy, lowerAscii_name, same]
  · intro named
    have parsed := parse?_name kind
    unfold parse? at parsed ⊢
    rw [named]
    exact parsed

theorem parse?_isNone_iff (text : String) : (parse? text).isNone = true ↔ ¬ Known text := by
  simp only [Option.isNone_iff_eq_none, Option.eq_none_iff_forall_ne_some, ne_eq,
    parse?_eq_some_iff, Known, not_exists]

instance (text : String) : Decidable (Known text) :=
  decidable_of_iff ((parse? text).isSome = true) <| by
    simp only [Option.isSome_iff_exists, parse?_eq_some_iff, Known]

end SignalKind

/-- The name has occurred before, and nothing before it had. -/
def FirstRepeat (names : List String) (name : String) : Prop :=
  ∃ front back, names = front ++ name :: back ∧ name ∈ front ∧ front.Nodup

theorem firstDuplicate?_eq_some_iff {before names : List String} {name : String} :
    firstDuplicate? before names = some name ↔ ∃ front back, names = front ++ name :: back ∧
      (name ∈ before ∨ name ∈ front) ∧ front.Nodup ∧ ∀ early ∈ front, early ∉ before := by
  induction names generalizing before with
  | nil => simp [firstDuplicate?]
  | cons first rest ih =>
    unfold firstDuplicate?
    by_cases again : first ∈ before
    · rw [if_pos again]
      constructor
      · intro same
        cases same
        exact ⟨[], rest, rfl, .inl again, List.nodup_nil, by simp⟩
      · rintro ⟨front, back, split, _, _, new⟩
        cases front with
        | nil =>
          cases split
          rfl
        | cons head tail =>
          obtain ⟨rfl, _⟩ := List.cons.inj split
          exact absurd again (new first List.mem_cons_self)
    · rw [if_neg again, ih]
      constructor
      · rintro ⟨front, back, rfl, seen, distinct, new⟩
        refine ⟨first :: front, back, rfl, ?_, ?_, ?_⟩
        · simp only [List.mem_cons] at seen ⊢
          tauto
        · exact List.nodup_cons.mpr
            ⟨fun member => new first member List.mem_cons_self, distinct⟩
        · intro early member
          rcases List.mem_cons.mp member with rfl | later
          · exact again
          · exact fun old => new early later (List.mem_cons_of_mem _ old)
      · rintro ⟨front, back, split, seen, distinct, new⟩
        cases front with
        | nil =>
          cases split
          exact absurd (seen.resolve_right List.not_mem_nil) again
        | cons head tail =>
          obtain ⟨rfl, rfl⟩ := List.cons.inj split
          obtain ⟨absent, distinct⟩ := List.nodup_cons.mp distinct
          refine ⟨tail, back, rfl, ?_, distinct, fun early member old => ?_⟩
          · simp only [List.mem_cons] at seen ⊢
            tauto
          · rcases List.mem_cons.mp old with rfl | older
            · exact absent member
            · exact new early (List.mem_cons_of_mem _ member) older

theorem firstDuplicate?_iff (names : List String) (name : String) :
    firstDuplicate? [] names = some name ↔ FirstRepeat names name := by
  simp [firstDuplicate?_eq_some_iff, FirstRepeat]

theorem firstDuplicate?_eq_none_iff (names : List String) :
    firstDuplicate? [] names = none ↔ names.Nodup := by
  constructor
  · exact fun distinct => (nodup_of_firstDuplicate? distinct).1
  · intro distinct
    refine Option.eq_none_iff_forall_ne_some.mpr fun name found => ?_
    obtain ⟨front, back, rfl, member, _⟩ := (firstDuplicate?_iff names name).mp found
    exact (List.nodup_append.mp distinct).2.2 name member name List.mem_cons_self rfl

section Faults

variable {α β ε : Type}

/-- The fault of a computation that fails. -/
def fault? : Except ε α → Option ε
  | .error fault => some fault
  | .ok _ => none

theorem fault?_eq_some_iff {result : Except ε α} {fault : ε} :
    fault? result = some fault ↔ result = .error fault := by
  cases result <;> simp [fault?]

theorem fault?_eq_none_iff {result : Except ε α} :
    fault? result = none ↔ ∃ value, result = .ok value := by
  cases result <;> simp [fault?]

/-- Of many computations in a row the first that fails decides. -/
theorem fault?_mapM (compute : α → Except ε β) (items : List α) :
    fault? (items.mapM compute) = items.findSome? fun item => fault? (compute item) := by
  induction items with
  | nil => rfl
  | cons item rest ih =>
    rw [List.mapM_cons, List.findSome?_cons, ← ih]
    cases compute item with
    | error fault => rfl
    | ok result => cases rest.mapM compute <;> rfl

end Faults

/-- What an entry says of its signal. -/
structure SignalEntry.Describes (entry : SignalEntry) (signal : Signal) : Prop where
  name : signal.name = entry.name
  kind : signal.kind.NamedBy entry.kind
  value : signal.value = signal.kind.coerce entry.value
  writable : signal.readOnly = false

theorem SignalEntry.describes_of_signal? {entry : SignalEntry} {signal : Signal}
    (made : entry.signal? = some signal) : entry.Describes signal := by
  obtain ⟨kind, parsed, rfl⟩ := Option.map_eq_some_iff.mp made
  exact ⟨rfl, (SignalKind.parse?_eq_some_iff _ _).mp parsed, rfl, rfl⟩

namespace SignalStore

/-- The first signal of each name, without any of the control signal's. -/
def firsts (signals : List Signal) : List Signal :=
  (signals.filter fun s => s.name ≠ controlSignal).eraseDupsBy fun s t => s.name = t.name

/-- Adding in a row leaves out the names that are there already. -/
theorem signals_foldl_add (store : SignalStore) (signals : List Signal) :
    (signals.foldl (fun store signal => (store.add signal).1) store).signals = store.signals ++
      (signals.filter fun s => !store.contains s.name).eraseDupsBy fun s t => s.name = t.name := by
  induction signals generalizing store with
  | nil => simp
  | cons s rest ih =>
    rw [List.foldl_cons, ih]
    cases present : store.contains s.name with
    | true => simp [add_of_contains present, present]
    | false =>
      have grown (t : Signal) : (!(⟨store.signals ++ [s]⟩ : SignalStore).contains t.name) =
          (decide (decide (t.name = s.name) = false) && !store.contains t.name) := by
        simp [contains, Bool.and_comm, eq_comm]
      rw [add_of_new present, List.filter_cons_of_pos (by simp [present]), List.eraseDupsBy_cons,
        List.filter_filter, List.append_assoc]
      simp only [grown]
      rfl

theorem signals_ofSignals (signals : List Signal) :
    (ofSignals signals).signals = initial.signals ++ firsts signals := by
  have reserved (s : Signal) : (!initial.contains s.name) = decide (s.name ≠ controlSignal) := by
    simp [contains, initial, eq_comm]
  unfold ofSignals firsts
  rw [signals_foldl_add]
  simp only [reserved]

end SignalStore

namespace StationFile

/-- All signals in the order of the file, each with the name of its device. -/
def signalEntries (file : StationFile) : List (String × SignalEntry) :=
  file.devices.flatMap fun device => device.signals.map fun s => (device.name, s)

/-- The first signal of unknown kind is one of the device, and this is its kind. -/
def FirstUnknown (file : StationFile) (device kind : String) : Prop :=
  ∃ front entry back, file.signalEntries = front ++ (device, entry) :: back ∧ entry.kind = kind ∧
    ¬ SignalKind.Known kind ∧ ∀ early ∈ front, SignalKind.Known early.2.kind

/-- Every signal of the file has a kind. -/
def KindsKnown (file : StationFile) : Prop :=
  ∀ named ∈ file.signalEntries, SignalKind.Known named.2.kind

instance (file : StationFile) : Decidable file.KindsKnown :=
  inferInstanceAs (Decidable (∀ named ∈ file.signalEntries, SignalKind.Known named.2.kind))

/-- What is wrong with a signal of unknown kind. -/
def kindFault (named : String × SignalEntry) : StationFileError :=
  .signalKind named.1 named.2.kind

def unknownKind (named : String × SignalEntry) : Bool := (SignalKind.parse? named.2.kind).isNone

theorem fault?_builtSignals (entry : DeviceEntry) : fault? entry.builtSignals =
    ((entry.signals.map fun s => (entry.name, s)).find? unknownKind).map kindFault := by
  unfold DeviceEntry.builtSignals
  rw [fault?_mapM]
  induction entry.signals with
  | nil => rfl
  | cons s rest ih =>
    rw [List.findSome?_cons, List.map_cons, List.find?_cons, ih]
    unfold unknownKind SignalEntry.signal?
    cases SignalKind.parse? s.kind <;> rfl

/-- The first repeated name comes before the first unknown kind. -/
theorem fault?_build (file : StationFile) (ids : Nat → DeviceId) : fault? (file.build ids) =
    ((firstDuplicate? [] file.objectNames).map .duplicateObject).or
      ((file.signalEntries.find? unknownKind).map kindFault) := by
  have kinds : fault? (file.devices.mapM DeviceEntry.builtSignals) =
      (file.signalEntries.find? unknownKind).map kindFault := by
    rw [fault?_mapM, signalEntries, List.find?_flatMap, List.map_findSome?]
    exact congrArg (List.findSome? · file.devices) (funext fault?_builtSignals)
  rw [← kinds]
  unfold build
  cases firstDuplicate? [] file.objectNames with
  | some name => rfl
  | none => cases file.devices.mapM DeviceEntry.builtSignals <;> rfl

theorem unknownKind_iff (named : String × SignalEntry) :
    unknownKind named = true ↔ ¬ SignalKind.Known named.2.kind :=
  SignalKind.parse?_isNone_iff named.2.kind

theorem find_unknownKind_iff (file : StationFile) (device kind : String) :
    (file.signalEntries.find? unknownKind).map kindFault = some (.signalKind device kind) ↔
      file.FirstUnknown device kind := by
  have known (named : String × SignalEntry) :
      (!unknownKind named) = true ↔ SignalKind.Known named.2.kind := by
    rw [Bool.not_eq_true', ← Bool.not_eq_true, unknownKind_iff, not_not]
  simp only [Option.map_eq_some_iff, List.find?_eq_some_iff_append, FirstUnknown, known,
    unknownKind_iff]
  constructor
  · rintro ⟨⟨_, entry⟩, ⟨unknown, front, back, split, early⟩, same⟩
    cases same
    exact ⟨front, entry, back, split, rfl, unknown, early⟩
  · rintro ⟨front, entry, back, split, rfl, unknown, early⟩
    exact ⟨(device, entry), ⟨unknown, front, back, split, early⟩, rfl⟩
end StationFile

/-- What an entry says of its device: its name, and behind the control signal the first signal of
each other name. -/
structure DeviceEntry.Describes (entry : DeviceEntry) (device : Device) : Prop where
  name : device.name = entry.name
  signals : ∃ made, List.Forall₂ SignalEntry.Describes entry.signals made ∧
    device.signals.signals =
      { name := controlSignal, kind := .digitalInput } :: SignalStore.firsts made

theorem DeviceEntry.describes_builtDevice {entry : DeviceEntry} {signals : List Signal}
    (made : entry.builtSignals = .ok signals) (ids : Nat → DeviceId) (place : Nat) :
    entry.Describes (StationFile.builtDevice ids place (entry, signals)) := by
  obtain ⟨length, each⟩ := mapM_ok made
  refine ⟨rfl, signals, List.forall₂_iff_zip.mpr ⟨length.symm, fun {s signal} member => ?_⟩,
    SignalStore.signals_ofSignals signals⟩
  have done := each _ member
  dsimp only at done
  cases given : s.signal? with
  | none =>
    rw [given] at done
    cases done
  | some other =>
    rw [given] at done
    cases done
    exact SignalEntry.describes_of_signal? given

/-- Everything in the file stands in its station, and nothing else does. -/
structure StationFile.Describes (file : StationFile) (built : BuiltStation) : Prop where
  name : (built.plant.station? built.station).map Station.name = some file.name
  devices : List.Forall₂ (fun entry made => entry.Describes (built.plant.device made.device) ∧
    made.script = file.scriptPath? entry) file.devices built.devices
  listed : built.plant.deviceRefs built.station = built.devices.map BuiltDevice.device
  found : ∀ name, built.plant.findObject? built.station name =
    if name ∈ file.devices.map DeviceEntry.name then some ⟨name, true⟩
    else if name ∈ file.parts then some ⟨name, false⟩ else none
  connections : built.plant.connections built.station = file.connections

namespace StationFile

variable {file : StationFile} {ids : Nat → DeviceId} {built : BuiltStation}

theorem devices_built (made : file.build ids = .ok built) :
    List.Forall₂ (fun entry made => entry.Describes (built.plant.device made.device) ∧
      made.script = file.scriptPath? entry) file.devices built.devices := by
  obtain ⟨signals, kinds, _, rfl⟩ := build_eq made
  obtain ⟨length, each⟩ := mapM_ok kinds
  refine List.forall₂_iff_get.mpr ⟨by simp [builtStation, length], fun place inside within => ?_⟩
  have present : place < (file.devices.zip signals).length := by
    simpa [builtStation] using within
  have pair := each _ (List.getElem_mem present)
  have standing := file.device_builtStation ids present
  rw [List.getElem_zip] at pair standing
  have here : (file.builtStation ids (file.devices.zip signals)).devices.get ⟨place, within⟩ =
      ⟨⟨place⟩, file.scriptPath? file.devices[place]⟩ := by
    simp [builtStation]
  rw [here, standing]
  exact ⟨DeviceEntry.describes_builtDevice pair ids place, rfl⟩

theorem objects_built (made : file.build ids = .ok built) :
    built.plant.objects built.station =
      (built.plant.deviceRefs built.station).map .device ++ file.parts.map .part := by
  obtain ⟨signals, _, _, rfl⟩ := build_eq made
  have refs := file.deviceRefs_builtStation ids (file.devices.zip signals)
  have station : (file.builtStation ids (file.devices.zip signals)).station = ⟨0⟩ := rfl
  rw [station, refs, List.map_map]
  rfl

theorem deviceNames_built (made : file.build ids = .ok built) :
    (built.plant.deviceRefs built.station).map (fun ref => (built.plant.device ref).name) =
      file.devices.map DeviceEntry.name := by
  obtain ⟨signals, kinds, _, rfl⟩ := build_eq made
  exact (file.names_builtStation ids _).trans (entryNames_of_mapM kinds)

/-- As all names are distinct, every object is found under its name. -/
theorem findObject?_built (made : file.build ids = .ok built) (name : String) :
    built.plant.findObject? built.station name =
      if name ∈ file.devices.map DeviceEntry.name then some ⟨name, true⟩
      else if name ∈ file.parts then some ⟨name, false⟩ else none := by
  have distinct := build_namesDistinct made
  have objects := objects_built made
  have devices := deviceNames_built made
  split
  · rename_i device
    rw [← devices] at device
    obtain ⟨ref, listed, rfl⟩ := List.mem_map.mp device
    exact Plant.findObject?_of_mem distinct listed
  · rename_i noDevice
    split
    · rename_i part
      have listed : .part name ∈ built.plant.objects built.station := by
        rw [objects]
        exact List.mem_append_right _ (List.mem_map_of_mem part)
      have found := Plant.find_of_mem distinct listed
      rw [Plant.findObject?_eq]
      exact congrArg _ found
    · rename_i noPart
      rw [Plant.findObject?_eq, Option.map_eq_none_iff, List.find?_eq_none]
      intro object listed
      rw [objects] at listed
      rw [decide_eq_true_eq]
      rintro rfl
      rcases List.mem_append.mp listed with device | part
      · obtain ⟨ref, here, rfl⟩ := List.mem_map.mp device
        exact noDevice (devices ▸ List.mem_map.mpr ⟨ref, here, rfl⟩)
      · obtain ⟨text, here, rfl⟩ := List.mem_map.mp part
        exact noPart here

theorem describes_build (made : file.build ids = .ok built) : file.Describes built := by
  refine ⟨?_, devices_built made, (build_proper made).refs, findObject?_built made,
    build_connections made⟩
  obtain ⟨signals, _, _, rfl⟩ := build_eq made
  rfl

/-- A file is refused for the first object name that occurs twice; otherwise for the first signal of
unknown kind, be its name one that is left out or not; otherwise it is built, and all of it stands
in the station. -/
theorem build_faithful (file : StationFile) (ids : Nat → DeviceId) :
    ((∃ name, FirstRepeat file.objectNames name) ↔ ¬ file.objectNames.Nodup) ∧
    (∀ name, file.build ids = .error (.duplicateObject name) ↔
      FirstRepeat file.objectNames name) ∧
    (∀ device kind, file.build ids = .error (.signalKind device kind) ↔
      file.objectNames.Nodup ∧ file.FirstUnknown device kind) ∧
    ((∃ built, file.build ids = .ok built) ↔ file.objectNames.Nodup ∧ file.KindsKnown) ∧
    ∀ built, file.build ids = .ok built → file.Describes built := by
  have faults := file.fault?_build ids
  have unknown := file.find_unknownKind_iff
  refine ⟨?_, fun name => ?_, fun device kind => ?_, ?_, fun built => describes_build⟩
  · simp only [← firstDuplicate?_iff, ← firstDuplicate?_eq_none_iff,
      Option.eq_none_iff_forall_ne_some, not_forall, not_not, ne_eq]
  · rw [← fault?_eq_some_iff, faults, ← firstDuplicate?_iff]
    cases firstDuplicate? [] file.objectNames <;> simp [kindFault]
  · rw [← fault?_eq_some_iff, faults, ← firstDuplicate?_eq_none_iff, ← unknown]
    cases firstDuplicate? [] file.objectNames <;> simp
  · rw [← fault?_eq_none_iff, faults, ← firstDuplicate?_eq_none_iff, Option.or_eq_none_iff,
      Option.map_eq_none_iff, Option.map_eq_none_iff, List.find?_eq_none]
    simp only [unknownKind, SignalKind.parse?_isNone_iff, not_not, KindsKnown]

/-- A press and an object without signals. The press has a signal of a grouped kind, one under a
name that is taken, and one under the name of the control signal. -/
def pressFile (kind part : String) : StationFile where
  name := "Cell"
  devices := [
    { name := "Press",
      signals := [{ name := "Force", kind := "DIGITALGROUPINPUT", value := 2.75 },
        { name := "Force", kind := "digitaloutput", value := 1.0 },
        { name := controlSignal, kind }] }]
  parts := [part]

/-- It is built, unless the kind of the signal that is left out is unknown; and not even this is
said if both objects have the same name. -/
theorem build_faithful_pressFile :
    (∃ built, (pressFile "AnalogInput" "Table").build DeviceId.ofNumber = .ok built ∧
      built.plant.findObject? built.station "Press" = some ⟨"Press", true⟩ ∧
      built.plant.findObject? built.station "Table" = some ⟨"Table", false⟩) ∧
    (pressFile "Analog" "Table").build DeviceId.ofNumber = .error (.signalKind "Press" "Analog") ∧
    (pressFile "Analog" "Press").build DeviceId.ofNumber = .error (.duplicateObject "Press") := by
  refine ⟨?built, ?kind, ?name⟩
  case built =>
    obtain ⟨_, _, _, success, faithful⟩ :=
      build_faithful (pressFile "AnalogInput" "Table") DeviceId.ofNumber
    obtain ⟨built, made⟩ := success.mpr (by decide)
    have described := faithful built made
    exact ⟨built, made, described.found "Press", described.found "Table"⟩
  case kind =>
    obtain ⟨_, _, kinds, _⟩ := build_faithful (pressFile "Analog" "Table") DeviceId.ofNumber
    exact (kinds "Press" "Analog").mpr
      ⟨by decide, [_, _], _, [], rfl, rfl, by decide, by decide⟩
  case name =>
    obtain ⟨_, names, _⟩ := build_faithful (pressFile "Analog" "Press") DeviceId.ofNumber
    exact (names "Press").mpr ⟨["Press"], [], rfl, by decide, by decide⟩

end StationFile

end StationScript
