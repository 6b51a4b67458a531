import StationScript.Proofs.Plant.Naming
import StationScript.StationFile.Build

/-!
The station of a file, in closed form: devices stand at their places in the file, all in one station
that lists them before the parts, and no two of them have the same name.
-/

set_option autoImplicit false

namespace StationScript

theorem nodup_of_firstDuplicate? {before names : List String}
    (distinct : firstDuplicate? before names = none) :
    names.Nodup ∧ ∀ name ∈ names, name ∉ before := by
  induction names generalizing before with
  | nil => exact ⟨List.nodup_nil, fun _ member => absurd member List.not_mem_nil⟩
  | cons name rest ih =>
    unfold firstDuplicate? at distinct
    split at distinct
    · cases distinct
    · rename_i new
      obtain ⟨nodup, apart⟩ := ih distinct
      refine ⟨List.nodup_cons.mpr ⟨fun again => ?_, nodup⟩, fun other member => ?_⟩
      · exact apart name again List.mem_cons_self
      · rcases List.mem_cons.mp member with rfl | later
        · exact new
        · exact fun early => apart other later (List.mem_cons_of_mem _ early)

/-- What a list of computations comes to, one by one. -/
theorem mapM_ok {α β ε : Type} {compute : α → Except ε β} {items : List α} {results : List β}
    (done : items.mapM compute = .ok results) : results.length = items.length ∧
      ∀ pair ∈ items.zip results, compute pair.1 = .ok pair.2 := by
  induction items generalizing results with
  | nil =>
    cases done
    exact ⟨rfl, fun _ member => absurd member List.not_mem_nil⟩
  | cons item rest ih =>
    rw [List.mapM_cons] at done
    cases first : compute item with
    | error fault =>
      rw [first] at done
      cases done
    | ok result =>
      cases later : rest.mapM compute with
      | error fault =>
        rw [first, later] at done
        cases done
      | ok others =>
        rw [first, later] at done
        cases done
        obtain ⟨length, each⟩ := ih later
        refine ⟨congrArg Nat.succ length, fun pair member => ?_⟩
        rcases List.mem_cons.mp member with rfl | back
        · exact first
        · exact each pair back

theorem exists_of_mem_mapM {α β ε : Type} {compute : α → Except ε β} {items : List α}
    {results : List β} (done : items.mapM compute = .ok results) {result : β}
    (member : result ∈ results) : ∃ item ∈ items, compute item = .ok result := by
  obtain ⟨length, each⟩ := mapM_ok done
  obtain ⟨place, inside, rfl⟩ := List.getElem_of_mem member
  have within : place < (items.zip results).length := by
    rw [List.length_zip, ← length, Nat.min_self]
    exact inside
  have pair := List.getElem_mem within
  rw [List.getElem_zip] at pair
  exact ⟨_, (List.of_mem_zip pair).1, each _ pair⟩

namespace StationFile

/-- A device as a file describes it. -/
def builtDevice (ids : Nat → DeviceId) (place : Nat) (entry : DeviceEntry × List Signal) :
    Device where
  id := ids place
  name := entry.1.name
  station := some ⟨0⟩
  signals := .ofSignals entry.2

def listedDevice (place : Nat) : StationObject := .device ⟨place⟩

/-- The only station of the plant, with so many devices. -/
def builtListing (file : StationFile) (count : Nat) : Station where
  name := file.name
  objects := (List.range count).map listedDevice

/-- The station while the devices are added. -/
def builtFrom (file : StationFile) (ids : Nat → DeviceId)
    (entries : List (DeviceEntry × List Signal)) : BuiltStation where
  plant := {
    devices := (entries.mapIdx (builtDevice ids)).toArray
    stations := #[some (file.builtListing entries.length)] }
  station := ⟨0⟩
  devices := entries.mapIdx fun place entry => ⟨⟨place⟩, file.scriptPath? entry.1⟩

theorem modify_push {α : Type} (items : Array α) (last : α) (change : α → α) :
    (items.push last).modify items.size change = items.push (change last) := by
  refine Array.ext (by simp) fun i inside within => ?_
  simp only [Array.getElem_modify, Array.getElem_push]
  grind

theorem addDevice_builtFrom (file : StationFile) (ids : Nat → DeviceId)
    (entries : List (DeviceEntry × List Signal)) (entry : DeviceEntry × List Signal) :
    file.addDevice ids (file.builtFrom ids entries) entry.1 entry.2 =
      file.builtFrom ids (entries ++ [entry]) := by
  have size : (file.builtFrom ids entries).plant.devices.size = entries.length := by
    simp [builtFrom]
  have objects : (file.builtListing (entries ++ [entry]).length).objects =
      (file.builtListing entries.length).objects ++ [listedDevice entries.length] := by
    simp [builtListing, List.range_succ]
  have devices := modify_push (file.builtFrom ids entries).plant.devices
    { id := ids entries.length, name := entry.1.name, station := some ⟨0⟩ }
    fun d => { d with signals := SignalStore.ofSignals entry.2 }
  rw [size] at devices
  unfold addDevice
  simp only [Plant.addDevice, Plant.addStray, Plant.addObject, Plant.modifyStation,
    Plant.modifySignals, Plant.modifyDevice, size]
  simp only [builtFrom] at devices ⊢
  rw [devices]
  simp only [List.mapIdx_concat, builtListing, List.length_append, List.length_singleton,
    List.range_succ, List.map_append, List.push_toArray, BuiltStation.mk.injEq, Plant.mk.injEq,
    and_true]
  exact ⟨rfl, rfl⟩

theorem foldl_addDevice (file : StationFile) (ids : Nat → DeviceId)
    (front back : List (DeviceEntry × List Signal)) :
    back.foldl (fun built (entry, signals) => file.addDevice ids built entry signals)
        (file.builtFrom ids front) = file.builtFrom ids (front ++ back) := by
  induction back generalizing front with
  | nil => simp
  | cons entry rest ih =>
    have added := file.addDevice_builtFrom ids front entry
    rw [List.foldl_cons]
    dsimp only
    rw [added, ih, List.append_assoc]
    rfl

/-- Parts are listed after what was there. -/
theorem foldl_addPart (devices : Array Device) (station : Station) (parts : List String) :
    parts.foldl (fun plant name => plant.addPart ⟨0⟩ name)
        ({ devices, stations := #[some station] } : Plant) =
      { devices, stations :=
          #[some { station with objects := station.objects ++ parts.map .part }] } := by
  induction parts generalizing station with
  | nil => simp
  | cons name rest ih =>
    refine (ih { station with objects := station.objects ++ [.part name] }).trans ?_
    simp

theorem foldl_addConnection (devices : Array Device) (station : Station)
    (connections : List Connection) :
    connections.foldl (fun plant c => plant.addConnection ⟨0⟩ c)
        ({ devices, stations := #[some station] } : Plant) =
      { devices, stations :=
          #[some { station with connections := station.connections ++ connections }] } := by
  induction connections generalizing station with
  | nil => simp
  | cons c rest ih =>
    refine (ih { station with connections := station.connections ++ [c] }).trans ?_
    simp

/-- The station of a file whose signals are these. -/
def builtStation (file : StationFile) (ids : Nat → DeviceId)
    (entries : List (DeviceEntry × List Signal)) : BuiltStation where
  plant := {
    devices := (entries.mapIdx (builtDevice ids)).toArray
    stations := #[some {
      name := file.name
      objects := (List.range entries.length).map listedDevice ++ file.parts.map .part
      connections := file.connections }] }
  station := ⟨0⟩
  devices := entries.mapIdx fun place entry => ⟨⟨place⟩, file.scriptPath? entry.1⟩

theorem furnish_builtFrom (file : StationFile) (ids : Nat → DeviceId)
    (entries : List (DeviceEntry × List Signal)) :
    { file.builtFrom ids entries with
      plant := file.connections.foldl (fun plant c => plant.addConnection ⟨0⟩ c)
        (file.parts.foldl (fun plant name => plant.addPart ⟨0⟩ name)
          (file.builtFrom ids entries).plant) } = file.builtStation ids entries := by
  simp only [builtFrom, builtStation, builtListing, foldl_addPart, foldl_addConnection,
    List.nil_append]

theorem build_eq {file : StationFile} {ids : Nat → DeviceId} {built : BuiltStation}
    (made : file.build ids = .ok built) : ∃ signals,
      file.devices.mapM DeviceEntry.builtSignals = .ok signals ∧ file.objectNames.Nodup ∧
      built = file.builtStation ids (file.devices.zip signals) := by
  unfold build at made
  cases distinct : firstDuplicate? [] file.objectNames with
  | some name =>
    rw [distinct] at made
    cases made
  | none =>
    rw [distinct] at made
    cases kinds : file.devices.mapM DeviceEntry.builtSignals with
    | error fault =>
      rw [kinds] at made
      cases made
    | ok signals =>
      rw [kinds] at made
      refine ⟨signals, rfl, (nodup_of_firstDuplicate? distinct).1, ?_⟩
      have added : (file.devices.zip signals).foldl
          (fun built (entry, signals) => file.addDevice ids built entry signals)
          (file.builtFrom ids []) = file.builtFrom ids (file.devices.zip signals) :=
        file.foldl_addDevice ids [] (file.devices.zip signals)
      rw [← furnish_builtFrom, ← added]
      exact (Except.ok.inj made).symm

end StationFile

/-- What is known of a station from a file before anything happens: it lists the devices in the
order of the file, under distinct names, and all of them were made for it. -/
structure BuiltStation.Proper (built : BuiltStation) : Prop where
  refs : built.plant.deviceRefs built.station = built.devices.map BuiltDevice.device
  home : ∀ ref ∈ built.plant.deviceRefs built.station, built.plant.Has ref ∧
    built.plant.stationOf? ref = some built.station
  names : ((built.plant.deviceRefs built.station).map fun ref =>
    (built.plant.device ref).name).Nodup
  pending : (built.plant.station? built.station).map Station.pending = some []

/-- A listed device is at home in the station, and found under its own name, as long as the layout
is the same. -/
theorem BuiltStation.Proper.at_home {built : BuiltStation} (proper : built.Proper) {plant : Plant}
    (layout : built.plant.SameLayout plant) {ref : DeviceRef}
    (listed : ref ∈ built.plant.deviceRefs built.station) :
    plant.stationOf? ref = some built.station ∧
      plant.deviceByName? built.station (plant.device ref).name = some ref := by
  constructor
  · rw [layout.stationOf?_eq]
    exact (proper.home ref listed).2
  · rw [layout.deviceByName?_eq, layout.name_eq]
    exact Plant.deviceByName?_of_mem proper.names listed

namespace StationFile

variable {file : StationFile} {ids : Nat → DeviceId} {built : BuiltStation}

theorem deviceRefs_builtStation (file : StationFile) (ids : Nat → DeviceId)
    (entries : List (DeviceEntry × List Signal)) :
    (file.builtStation ids entries).plant.deviceRefs ⟨0⟩ =
      (List.range entries.length).map DeviceRef.mk := by
  simp [Plant.deviceRefs, Plant.station?, builtStation, Station.deviceRefs, List.filterMap_map,
    Function.comp_def, listedDevice]

theorem device_builtStation (file : StationFile) (ids : Nat → DeviceId)
    {entries : List (DeviceEntry × List Signal)} {place : Nat} (inside : place < entries.length) :
    (file.builtStation ids entries).plant.device ⟨place⟩ =
      builtDevice ids place entries[place] := by
  simp [Plant.device, builtStation, Array.getD, inside]

theorem names_builtStation (file : StationFile) (ids : Nat → DeviceId)
    (entries : List (DeviceEntry × List Signal)) :
    ((file.builtStation ids entries).plant.deviceRefs ⟨0⟩).map (fun ref =>
        ((file.builtStation ids entries).plant.device ref).name) =
      entries.map fun entry => entry.1.name := by
  rw [deviceRefs_builtStation]
  refine List.ext_getElem (by simp) fun place inside within => ?_
  have present : place < entries.length := by simpa using within
  simp [device_builtStation file ids present, builtDevice]

theorem entryNames_of_mapM {file : StationFile} {signals : List (List Signal)}
    (kinds : file.devices.mapM DeviceEntry.builtSignals = .ok signals) :
    (file.devices.zip signals).map (fun entry => entry.1.name) =
      file.devices.map DeviceEntry.name := by
  have fronts := List.map_fst_zip (Nat.le_of_eq (mapM_ok kinds).1.symm)
  refine Eq.trans ?_ (congrArg (List.map DeviceEntry.name) fronts)
  rw [List.map_map]
  rfl

theorem build_proper (made : file.build ids = .ok built) : built.Proper := by
  obtain ⟨signals, kinds, distinct, rfl⟩ := build_eq made
  have names := file.names_builtStation ids (file.devices.zip signals)
  refine ⟨?_, fun ref member => ?_, ?_, rfl⟩
  · refine (file.deviceRefs_builtStation ids _).trans ?_
    refine List.ext_getElem (by simp [builtStation]) fun place inside within => ?_
    simp [builtStation]
  · obtain ⟨place, listed, rfl⟩ := List.mem_map.mp
      ((file.deviceRefs_builtStation ids _) ▸ member)
    have inside := List.mem_range.mp listed
    refine ⟨by simpa [Plant.Has, builtStation] using inside, ?_⟩
    rw [Plant.stationOf?, file.device_builtStation ids inside]
    rfl
  · refine names ▸ ?_
    rw [entryNames_of_mapM kinds]
    exact (List.sublist_append_left _ _).nodup distinct

/-- No two objects of the station have the same name, devices and parts taken together. -/
theorem build_namesDistinct (made : file.build ids = .ok built) :
    built.plant.NamesDistinct built.station := by
  obtain ⟨signals, kinds, distinct, rfl⟩ := build_eq made
  have devices := file.names_builtStation ids (file.devices.zip signals)
  rw [deviceRefs_builtStation, entryNames_of_mapM kinds] at devices
  have names : ((file.builtStation ids (file.devices.zip signals)).plant.objects ⟨0⟩).map
      (file.builtStation ids (file.devices.zip signals)).plant.objectName = file.objectNames := by
    have listed : (file.builtStation ids (file.devices.zip signals)).plant.objects ⟨0⟩ =
        (List.range (file.devices.zip signals).length).map listedDevice ++
          file.parts.map .part := rfl
    rw [listed, List.map_append, objectNames, ← devices]
    simp [listedDevice, Plant.objectName, Function.comp_def]
  unfold Plant.NamesDistinct
  exact names.symm ▸ distinct

/-- The connections are those of the file. -/
theorem build_connections (made : file.build ids = .ok built) :
    built.plant.connections built.station = file.connections := by
  obtain ⟨signals, _, _, rfl⟩ := build_eq made
  rfl

/-- Every device of the plant comes from an entry of the file. -/
theorem device_of_built (made : file.build ids = .ok built) {ref : DeviceRef}
    (present : built.plant.Has ref) : ∃ entry ∈ file.devices, ∃ signals,
      entry.builtSignals = .ok signals ∧
      built.plant.device ref = builtDevice ids ref.index (entry, signals) := by
  obtain ⟨signals, kinds, _, rfl⟩ := build_eq made
  have inside : ref.index < (file.devices.zip signals).length := by
    simpa [Plant.Has, builtStation] using present
  have member := List.getElem_mem inside
  exact ⟨_, (List.of_mem_zip member).1, _, (mapM_ok kinds).2 _ member,
    file.device_builtStation ids inside⟩

end StationFile

end StationScript
