import StationScript.Station.Plant

/-!
The layout of a plant: which devices and objects there are, and how they are found. Signals,
labels, paths, connections and queues come and go without touching it.
-/

set_option autoImplicit false

namespace StationScript

/-- What never changes about a device. -/
def Device.identity (device : Device) : DeviceId × String × Option StationRef :=
  (device.id, device.name, device.station)

/-- What a station shows to a look-up. -/
def Station.listing (station : Station) : String × List StationObject :=
  (station.name, station.objects)

namespace Plant

/-- The same devices and stations stand at the same places. -/
structure SameLayout (before after : Plant) : Prop where
  size : after.devices.size = before.devices.size
  identity : ∀ ref, (after.device ref).identity = (before.device ref).identity
  listing : ∀ ref, (after.station? ref).map Station.listing =
    (before.station? ref).map Station.listing

/-- The reference belongs to a device of the plant. -/
def Has (plant : Plant) (ref : DeviceRef) : Prop := ref.index < plant.devices.size

instance (plant : Plant) (ref : DeviceRef) : Decidable (plant.Has ref) :=
  inferInstanceAs (Decidable (_ < _))

theorem device_modifyDevice (plant : Plant) (ref other : DeviceRef) (change : Device → Device) :
    (plant.modifyDevice ref change).device other =
      if other = ref ∧ plant.Has other then change (plant.device other)
      else plant.device other := by
  unfold modifyDevice device Has
  simp only [Array.getD_eq_getD_getElem?, Array.getElem?_modify]
  by_cases same : other = ref
  · subst same
    by_cases inside : other.index < plant.devices.size
    · simp [inside]
    · simp [inside]
  · have apart : ref.index ≠ other.index := by
      intro equal
      exact same (by cases other; cases ref; simp_all)
    simp [same, apart]

theorem device_modifyDevice_of_ne (plant : Plant) {ref other : DeviceRef} (differs : other ≠ ref)
    (change : Device → Device) :
    (plant.modifyDevice ref change).device other = plant.device other := by
  rw [device_modifyDevice, if_neg (fun both => differs both.1)]

/-- A part of a device that a change leaves alone is the same afterwards. -/
theorem project_modifyDevice {α : Type} (project : Device → α) (plant : Plant) (ref : DeviceRef)
    (change : Device → Device) (kept : ∀ d, project (change d) = project d) (other : DeviceRef) :
    project ((plant.modifyDevice ref change).device other) = project (plant.device other) := by
  rw [device_modifyDevice]
  split
  · exact kept _
  · rfl

@[simp] theorem station?_modifyDevice (plant : Plant) (ref : DeviceRef) (change : Device → Device)
    (other : StationRef) : (plant.modifyDevice ref change).station? other = plant.station? other :=
  rfl

theorem station?_modifyStation (plant : Plant) (ref other : StationRef)
    (change : Station → Station) :
    (plant.modifyStation ref change).station? other =
      if other = ref then (plant.station? other).map change else plant.station? other := by
  unfold modifyStation station?
  simp only [Array.getD_eq_getD_getElem?, Array.getElem?_modify]
  by_cases same : other = ref
  · subst same
    cases plant.stations[other.index]? <;> simp
  · have apart : ref.index ≠ other.index := by
      intro equal
      exact same (by cases other; cases ref; simp_all)
    simp [same, apart]

@[simp] theorem size_modifyDevice (plant : Plant) (ref : DeviceRef) (change : Device → Device) :
    (plant.modifyDevice ref change).devices.size = plant.devices.size := by
  simp [modifyDevice]

/-- The stations are what their references lead to. -/
theorem stations_ext {one other : Plant} (size : one.stations.size = other.stations.size)
    (station : ∀ ref, one.station? ref = other.station? ref) : one.stations = other.stations := by
  refine Array.ext size fun i inside within => ?_
  have read := station ⟨i⟩
  simpa [Plant.station?, Array.getD, inside, within] using read

/-- A plant is what its references lead to. -/
theorem ext_refs {one other : Plant} (devices : one.devices.size = other.devices.size)
    (stations : one.stations.size = other.stations.size)
    (device : ∀ ref, one.device ref = other.device ref)
    (station : ∀ ref, one.station? ref = other.station? ref) : one = other := by
  have sameDevices : one.devices = other.devices := by
    refine Array.ext devices fun i inside within => ?_
    have read := device ⟨i⟩
    simpa [Plant.device, Array.getD, inside, within] using read
  have sameStations := stations_ext stations station
  cases one
  cases other
  rw [Plant.mk.injEq]
  exact ⟨sameDevices, sameStations⟩

namespace SameLayout

theorem refl (plant : Plant) : SameLayout plant plant := ⟨rfl, fun _ => rfl, fun _ => rfl⟩

theorem trans {first second third : Plant} (left : SameLayout first second)
    (right : SameLayout second third) : SameLayout first third :=
  ⟨right.size.trans left.size, fun ref => (right.identity ref).trans (left.identity ref),
    fun ref => (right.listing ref).trans (left.listing ref)⟩

theorem symm {first second : Plant} (same : SameLayout first second) : SameLayout second first :=
  ⟨same.size.symm, fun ref => (same.identity ref).symm, fun ref => (same.listing ref).symm⟩

theorem modifyDevice (plant : Plant) (ref : DeviceRef) (change : Device → Device)
    (kept : ∀ d, (change d).identity = d.identity) :
    SameLayout plant (plant.modifyDevice ref change) :=
  ⟨size_modifyDevice plant ref change,
    project_modifyDevice Device.identity plant ref change kept, fun _ => rfl⟩

theorem modifyStation (plant : Plant) (ref : StationRef) (change : Station → Station)
    (kept : ∀ s, (change s).listing = s.listing) :
    SameLayout plant (plant.modifyStation ref change) := by
  refine ⟨rfl, fun _ => rfl, fun other => ?_⟩
  rw [station?_modifyStation]
  split
  · cases plant.station? other with
    | none => rfl
    | some station => exact congrArg some (kept station)
  · rfl

theorem carry (ref : StationRef) (target : DeviceRef) (plant : Plant) (c : Connection) :
    SameLayout plant (plant.carry ref target c) := by
  unfold Plant.carry
  split
  · exact .refl plant
  · rename_i value _
    have written : SameLayout plant
        (plant.modifySignals target fun store => (store.set? c.targetSignal value).1) :=
      .modifyDevice plant target _ fun _ => rfl
    dsimp only
    split
    · exact written.trans (.modifyStation _ ref _ fun _ => rfl)
    · exact written

theorem foldl_carry (ref : StationRef) (target : DeviceRef) (plant : Plant)
    (connections : List Connection) :
    SameLayout plant (connections.foldl (Plant.carry ref target) plant) := by
  induction connections generalizing plant with
  | nil => exact .refl plant
  | cons c rest ih => exact (carry ref target plant c).trans (ih _)

theorem propagate (plant : Plant) (ref : StationRef) (object : String) :
    SameLayout plant (plant.propagate ref object) := by
  unfold Plant.propagate
  split
  · exact .refl plant
  · exact foldl_carry ref _ plant _

theorem takePending (plant : Plant) (ref : StationRef) :
    SameLayout plant (plant.takePending ref).1 := by
  unfold Plant.takePending
  split
  · exact .refl plant
  · exact .modifyStation plant ref _ fun _ => rfl

variable {before after : Plant}

theorem id_eq (same : SameLayout before after) (ref : DeviceRef) :
    (after.device ref).id = (before.device ref).id :=
  congrArg Prod.fst (same.identity ref)

theorem name_eq (same : SameLayout before after) (ref : DeviceRef) :
    (after.device ref).name = (before.device ref).name :=
  congrArg (fun parts => parts.2.1) (same.identity ref)

theorem station_eq (same : SameLayout before after) (ref : DeviceRef) :
    (after.device ref).station = (before.device ref).station :=
  congrArg (fun parts => parts.2.2) (same.identity ref)

theorem has_iff (same : SameLayout before after) (ref : DeviceRef) :
    after.Has ref ↔ before.Has ref := by
  unfold Has
  rw [same.size]

theorem station?_cases (same : SameLayout before after) (ref : StationRef) :
    before.station? ref = none ∧ after.station? ref = none ∨
      ∃ old new, before.station? ref = some old ∧ after.station? ref = some new ∧
        new.name = old.name ∧ new.objects = old.objects := by
  have listing := same.listing ref
  cases present : before.station? ref with
  | none =>
    rw [present] at listing
    exact Or.inl ⟨rfl, Option.map_eq_none_iff.mp listing⟩
  | some old =>
    rw [present] at listing
    obtain ⟨new, found, equal⟩ := Option.map_eq_some_iff.mp listing
    exact Or.inr ⟨old, new, rfl, found, congrArg Prod.fst equal, congrArg Prod.snd equal⟩

theorem station_isSome_eq (same : SameLayout before after) (ref : StationRef) :
    (after.station? ref).isSome = (before.station? ref).isSome := by
  rcases same.station?_cases ref with ⟨old, new⟩ | ⟨_, _, old, new, _⟩
  · rw [old, new]
  · rw [old, new]
    rfl

theorem deviceRefs_eq (same : SameLayout before after) (ref : StationRef) :
    after.deviceRefs ref = before.deviceRefs ref := by
  unfold deviceRefs
  rcases same.station?_cases ref with ⟨old, new⟩ | ⟨_, _, old, new, _, objects⟩
  · rw [old, new]
  · simp only [old, new, Station.deviceRefs, objects]

theorem stationOf?_eq (same : SameLayout before after) (ref : DeviceRef) :
    after.stationOf? ref = before.stationOf? ref := by
  unfold stationOf?
  simp only [same.station_eq, same.station_isSome_eq]

theorem deviceById?_eq (same : SameLayout before after) (ref : StationRef) (id : DeviceId) :
    after.deviceById? ref id = before.deviceById? ref id := by
  unfold deviceById?
  simp only [same.deviceRefs_eq, same.id_eq]

theorem deviceByName?_eq (same : SameLayout before after) (ref : StationRef) (name : String) :
    after.deviceByName? ref name = before.deviceByName? ref name := by
  unfold deviceByName?
  simp only [same.deviceRefs_eq, same.name_eq]

theorem objectName_eq (same : SameLayout before after) (object : StationObject) :
    after.objectName object = before.objectName object := by
  cases object with
  | device ref => exact same.name_eq ref
  | part name => rfl

theorem findObject?_eq (same : SameLayout before after) (ref : StationRef) (name : String) :
    after.findObject? ref name = before.findObject? ref name := by
  unfold findObject?
  rcases same.station?_cases ref with ⟨old, new⟩ | ⟨_, _, old, new, _, objects⟩
  · rw [old, new]
  · simp only [old, new, objects, same.objectName_eq]

/-- Whether a device is tracked is a matter of the layout alone. -/
theorem tracked_eq (same : SameLayout before after) (ref : DeviceRef) :
    after.tracked ref = before.tracked ref := by
  unfold tracked
  rw [same.station_eq]
  cases (before.device ref).station with
  | none => rfl
  | some s =>
    rcases same.station?_cases s with ⟨old, new⟩ | ⟨_, _, old, new, name, _⟩
    · simp only [old, new]
    · simp only [old, new, name, same.deviceById?_eq, same.id_eq]

end SameLayout

/-- A name leads to the device that has it, if names are distinct. -/
theorem deviceByName?_of_mem {plant : Plant} {station : StationRef} {ref : DeviceRef}
    (names : ((plant.deviceRefs station).map fun ref => (plant.device ref).name).Nodup)
    (listed : ref ∈ plant.deviceRefs station) :
    plant.deviceByName? station (plant.device ref).name = some ref := by
  obtain ⟨front, back, split⟩ := List.append_of_mem listed
  rw [deviceByName?, List.find?_eq_some_iff_append]
  refine ⟨by simp, front, back, split, fun other early => ?_⟩
  rw [split, List.map_append, List.map_cons, List.nodup_append] at names
  have differs := names.2.2 _ (List.mem_map_of_mem early) _ List.mem_cons_self
  simpa using differs

/-- What a name leads to has this name. -/
theorem name_of_deviceByName? {plant : Plant} {station : StationRef} {name : String}
    {ref : DeviceRef} (found : plant.deviceByName? station name = some ref) :
    (plant.device ref).name = name := by
  unfold deviceByName? at found
  simpa using List.find?_some found

theorem station_of_deviceByName? {plant : Plant} {station : StationRef} {name : String}
    {ref : DeviceRef} (found : plant.deviceByName? station name = some ref) :
    (plant.station? station).isSome = true := by
  unfold deviceByName? deviceRefs at found
  cases present : plant.station? station with
  | none =>
    rw [present] at found
    cases found
  | some s => rfl

theorem station_of_home {plant : Plant} {ref : DeviceRef} {station : StationRef}
    (home : plant.stationOf? ref = some station) : (plant.station? station).isSome = true := by
  unfold stationOf? at home
  split at home
  · cases home
  · split at home
    · rename_i present
      cases home
      exact present
    · cases home

end Plant

end StationScript
