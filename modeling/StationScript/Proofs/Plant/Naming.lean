import StationScript.Proofs.Plant.Layout

/-!
Objects and their names.

A connection is accepted by looking for objects, and values are carried by looking for devices.
Where no two objects of a station have the same name, both find the same.
-/

set_option autoImplicit false

namespace StationScript

def StationObject.ref? : StationObject → Option DeviceRef
  | .device ref => some ref
  | .part _ => none

theorem StationObject.ref?_eq_some {object : StationObject} {device : DeviceRef} :
    object.ref? = some device ↔ object = .device device := by
  cases object <;> simp [ref?]

namespace Plant

/-- The listed objects of a station; a dropped station has none. -/
def objects (plant : Plant) (ref : StationRef) : List StationObject :=
  match plant.station? ref with
  | some s => s.objects
  | none => []

/-- No two objects of the station have the same name. -/
def NamesDistinct (plant : Plant) (ref : StationRef) : Prop :=
  ((plant.objects ref).map plant.objectName).Nodup

instance (plant : Plant) (ref : StationRef) : Decidable (plant.NamesDistinct ref) :=
  inferInstanceAs (Decidable (List.Nodup _))

/-- Some device of the station has the name. -/
def HasDeviceNamed (plant : Plant) (ref : StationRef) (name : String) : Prop :=
  ∃ device ∈ plant.deviceRefs ref, (plant.device device).name = name

theorem SameLayout.objects_eq {before after : Plant} (same : SameLayout before after)
    (ref : StationRef) : after.objects ref = before.objects ref := by
  unfold objects
  rcases same.station?_cases ref with ⟨old, new⟩ | ⟨_, _, old, new, _, objects⟩
  · rw [old, new]
  · simp only [old, new, objects]

/-- Names stay distinct as long as the layout is the same. -/
theorem NamesDistinct.layout {before after : Plant} {ref : StationRef}
    (distinct : before.NamesDistinct ref) (same : SameLayout before after) :
    after.NamesDistinct ref := by
  unfold NamesDistinct
  rw [same.objects_eq, List.map_congr_left fun object _ => same.objectName_eq object]
  exact distinct

variable {plant : Plant} {ref : StationRef}

theorem deviceRefs_eq (plant : Plant) (ref : StationRef) :
    plant.deviceRefs ref = (plant.objects ref).filterMap StationObject.ref? := by
  unfold deviceRefs objects
  cases plant.station? ref <;> rfl

theorem mem_deviceRefs {device : DeviceRef} :
    device ∈ plant.deviceRefs ref ↔ .device device ∈ plant.objects ref := by
  simp only [deviceRefs_eq, List.mem_filterMap, StationObject.ref?_eq_some, exists_eq_right]

theorem findObject?_eq (plant : Plant) (ref : StationRef) (name : String) :
    plant.findObject? ref name =
      ((plant.objects ref).find? fun o => plant.objectName o = name).map fun o =>
        { name := plant.objectName o
          supportsConnections := match o with
            | .device _ => true
            | .part _ => false } := by
  unfold findObject? objects
  cases plant.station? ref <;> rfl

/-- An object is found under its own name. -/
theorem find_of_mem (distinct : plant.NamesDistinct ref) {object : StationObject}
    (listed : object ∈ plant.objects ref) :
    (plant.objects ref).find? (fun o => plant.objectName o = plant.objectName object) =
      some object := by
  obtain ⟨front, back, split⟩ := List.append_of_mem listed
  unfold NamesDistinct at distinct
  rw [split, List.map_append, List.map_cons, List.nodup_append] at distinct
  rw [List.find?_eq_some_iff_append]
  refine ⟨by simp, front, back, split, fun other early => ?_⟩
  have differs := distinct.2.2 _ (List.mem_map_of_mem early) _ List.mem_cons_self
  simpa using differs

theorem findObject?_of_mem (distinct : plant.NamesDistinct ref) {device : DeviceRef}
    (listed : device ∈ plant.deviceRefs ref) :
    plant.findObject? ref (plant.device device).name = some ⟨(plant.device device).name, true⟩ := by
  have found :
      (plant.objects ref).find? (fun o => plant.objectName o = (plant.device device).name) =
      some (.device device) := find_of_mem distinct (mem_deviceRefs.mp listed)
  rw [findObject?_eq, found]
  rfl

/-- A name is that of a device if the object that is found takes part in connections. -/
theorem hasDeviceNamed_iff (distinct : plant.NamesDistinct ref) (name : String) :
    plant.HasDeviceNamed ref name ↔
      ∃ object, plant.findObject? ref name = some object ∧ object.supportsConnections = true := by
  constructor
  · rintro ⟨device, listed, rfl⟩
    exact ⟨_, findObject?_of_mem distinct listed, rfl⟩
  · rintro ⟨object, found, supports⟩
    rw [findObject?_eq] at found
    obtain ⟨listed, first, rfl⟩ := Option.map_eq_some_iff.mp found
    cases listed with
    | device device =>
      have named := List.find?_some first
      rw [decide_eq_true_eq] at named
      exact ⟨device, mem_deviceRefs.mpr (List.mem_of_find?_eq_some first), named⟩
    | part text => cases supports

/-- A device is found under its own name among the devices, too. -/
theorem NamesDistinct.deviceByName? (distinct : plant.NamesDistinct ref) {device : DeviceRef}
    (listed : device ∈ plant.deviceRefs ref) :
    plant.deviceByName? ref (plant.device device).name = some device := by
  refine deviceByName?_of_mem (List.Nodup.sublist ?_ distinct) listed
  rw [deviceRefs_eq]
  induction plant.objects ref with
  | nil => exact List.Sublist.refl _
  | cons object rest ih =>
    cases object with
    | device first => exact ih.cons_cons _
    | part name => exact ih.cons _

/-- A tracked device is listed in the station it was made for. -/
theorem listed_of_tracked {device : DeviceRef} (live : plant.tracked device = true) :
    ∃ station, plant.stationOf? device = some station ∧ device ∈ plant.deviceRefs station := by
  unfold tracked at live
  split at live
  · cases live
  · rename_i station made
    split at live
    · cases live
    · rename_i s present
      have found : plant.deviceById? station (plant.device device).id = some device := by
        simpa using (Bool.and_eq_true_iff.mp live).2
      refine ⟨station, ?_, List.mem_of_find?_eq_some found⟩
      simp only [stationOf?, made, present, Option.isSome_some, if_true]

end Plant

end StationScript
