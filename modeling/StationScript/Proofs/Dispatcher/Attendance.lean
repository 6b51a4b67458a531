import Mathlib.Data.List.Nodup
import StationScript.Proofs.Dispatcher.Serving
import StationScript.Proofs.StationFile.Built
import StationScript.Simulation.Basic

/-!
A dispatcher that attends to the devices of a station from a file, and to no others. Those that it
knows are bound, and each has the path that the file gives it, or none.
-/

set_option autoImplicit false

namespace StationScript

/-- The devices of the file, in its order. -/
def BuiltStation.refs (built : BuiltStation) : List DeviceRef :=
  built.devices.map BuiltDevice.device

/-- A station whose devices have different ids, and where no script was located yet. -/
structure BuiltStation.Keyed (built : BuiltStation) : Prop extends built.Proper where
  ids : ∀ ref ∈ built.refs, ∀ other ∈ built.refs,
    (built.plant.device ref).id = (built.plant.device other).id → ref = other
  paths : ∀ ref ∈ built.refs, (built.plant.device ref).scriptPath = ""

/-- The station lists the devices of the file. -/
theorem BuiltStation.Proper.listed {built : BuiltStation} (proper : built.Proper) {ref : DeviceRef}
    (listed : ref ∈ built.refs) : ref ∈ built.plant.deviceRefs built.station := by
  rw [proper.refs]
  exact listed

theorem BuiltStation.Proper.present {built : BuiltStation} (proper : built.Proper)
    {ref : DeviceRef} (listed : ref ∈ built.refs) : built.plant.Has ref :=
  (proper.home ref (proper.listed listed)).1

theorem StationFile.build_keyed {file : StationFile} {ids : Nat → DeviceId} {built : BuiltStation}
    (made : file.build ids = .ok built)
    (distinct : (built.refs.map fun ref => (built.plant.device ref).id).Nodup) : built.Keyed := by
  have proper := build_proper made
  refine ⟨proper, fun ref listed other also same =>
    List.inj_on_of_nodup_map distinct listed also same, fun ref listed => ?_⟩
  obtain ⟨_, _, _, _, bare⟩ := device_of_built made (proper.present listed)
  rw [bare]
  rfl

/-- The file names no device twice. -/
theorem BuiltStation.Proper.device_injective {built : BuiltStation} (proper : built.Proper)
    {b other : BuiltDevice} (listed : b ∈ built.devices) (also : other ∈ built.devices)
    (same : b.device = other.device) : b = other := by
  have distinct : (built.devices.map BuiltDevice.device).Nodup := by
    rw [← proper.refs]
    exact List.Nodup.of_map _ proper.names
  exact List.inj_on_of_nodup_map distinct listed also same

namespace Host

/-- Registering a bound device again changes nothing about what is live. -/
theorem liveRegistry_register_of_binds {host : Host} (keyed : host.Keyed) {ref : DeviceRef}
    (binds : host.Binds ref) : (host.register ref).liveRegistry = host.liveRegistry := by
  have entries : (host.register ref).liveRegistry.entries = host.liveRegistry.entries := by
    rw [liveRegistry_register]
    unfold Binds leadsTo Registry.get? boundTo at binds
    cases live : host.plant.tracked ref with
    | true =>
      rw [live, if_pos rfl] at binds
      rw [Entries.put_of_lookup (live_distinct keyed) binds]
      exact List.filter_eq_self.mpr host.live_tracked
    | false =>
      rw [live, if_neg Bool.false_ne_true] at binds
      rw [Entries.put, binds, Option.isSome_none, if_neg Bool.false_ne_true, List.filter_append,
        List.filter_eq_self.mpr host.live_tracked]
      simp [live]
  exact congrArg Registry.mk entries

/-- Registering a device leaves the others bound, if their ids are different. -/
theorem Binds.register {host : Host} (keyed : host.Keyed) {ref other : DeviceRef}
    (binds : host.Binds other) (different : (host.device other).id ≠ (host.device ref).id) :
    (host.register ref).Binds other := by
  have layout := (host.advance_register ref).layout
  have id : ((host.register ref).device other).id = (host.device other).id := layout.id_eq other
  have distinct := Entries.nodup_keys_filter
    (Entries.nodup_keys_put (live_distinct keyed) (host.device ref).id ref)
    fun entry => host.plant.tracked entry.2
  unfold Binds leadsTo Registry.get? at binds ⊢
  rw [id, boundTo_eq layout, ← binds, liveRegistry_register]
  refine Option.ext fun found => ?_
  rw [Entries.lookup_eq_some_iff distinct, Entries.lookup_eq_some_iff (live_distinct keyed)]
  constructor
  · intro member
    rcases Entries.mem_put (List.mem_filter.mp member).1 with same | ⟨old, _⟩
    · exact absurd (congrArg Prod.fst same) different
    · exact old
  · intro member
    exact List.mem_filter.mpr
      ⟨Entries.mem_put_of_ne ref member different, host.live_tracked _ member⟩

/-- Moves for a device leave the paths of the others alone. -/
theorem Moves.paths {device : DeviceRef} {called : HostFunction → Prop} {before after : Host}
    (moves : Moves device called before after) {ref : DeviceRef} (other : ref ≠ device) :
    (after.device ref).scriptPath = (before.device ref).scriptPath := by
  induction moves with
  | refl => rfl
  | @tail middle last _ move ih =>
    refine Eq.trans ?_ ih
    cases move with
    | report severity text => rfl
    | answer function arguments allowed =>
      exact (middle.answer_frame (fun _ => True) _ function arguments fun _ _ => trivial).paths ref
    | setStatus status =>
      exact congrArg Device.scriptPath (middle.plant.device_modifyDevice_of_ne other _)
    | setScriptPath path =>
      exact congrArg Device.scriptPath (middle.plant.device_modifyDevice_of_ne other _)

end Host

namespace Dispatcher

variable {engine : Engine}

/-- Devices of the station are known already, and no others. -/
structure Attending (built : BuiltStation) (files : Files) (known : List DeviceRef)
    (d : Dispatcher engine) : Prop where
  sound : d.Sound
  keyed : d.host.Keyed
  layout : built.plant.SameLayout d.host.plant
  files : d.host.files = files
  chooser : d.chooser = .none
  registered : ∀ entry ∈ d.host.registry.entries, entry.2 ∈ built.refs
  binds : ∀ ref ∈ known, d.host.Binds ref
  paths : ∀ b ∈ built.devices, (d.host.device b.device).scriptPath = "" ∨
    b.script = some (d.host.device b.device).scriptPath

/-- All devices of the station are known. -/
abbrev Attended (built : BuiltStation) (files : Files) (d : Dispatcher engine) : Prop :=
  Attending built files built.refs d

namespace Attending

variable {built : BuiltStation} {files : Files} {known : List DeviceRef}
  {d after : Dispatcher engine}

/-- Different devices of the station have different ids. -/
theorem apart (keyed : built.Keyed) (attended : Attending built files known d)
    {ref other : DeviceRef}
    (listed : ref ∈ built.refs) (also : other ∈ built.refs) (differs : ref ≠ other) :
    (d.host.device ref).id ≠ (d.host.device other).id := by
  unfold Host.device
  rw [attended.layout.id_eq, attended.layout.id_eq]
  exact fun same => differs (keyed.ids ref listed other also same)

/-- A device of the file is at home in the station, under its own name. -/
theorem home (keyed : built.Keyed) (attended : Attending built files known d) {ref : DeviceRef}
    (listed : ref ∈ built.refs) : d.host.plant.stationOf? ref = some built.station ∧
      d.host.plant.deviceByName? built.station (built.plant.device ref).name = some ref := by
  have home := keyed.at_home attended.layout (keyed.listed listed)
  rw [attended.layout.name_eq] at home
  exact home

/-- What lies aside of plant, registry and files does not matter. -/
theorem aside (attended : Attending built files known d) {host : Host}
    (plant : host.plant = d.host.plant) (registry : host.registry = d.host.registry)
    (same : host.files = d.host.files) : Attending built files known { d with host } := by
  obtain ⟨sound, keyed, layout, stored, chooser, registered, binds, paths⟩ := attended
  obtain ⟨hostPlant, hostFiles, _, _, _, hostRegistry, _⟩ := host
  cases plant
  cases registry
  cases same
  exact ⟨sound.of_sessions_eq rfl, ⟨keyed.distinct, keyed.own⟩, layout, stored, chooser, registered,
    binds, paths⟩

/-- Handling keeps the attention where paths are empty or as in the file. -/
theorem moved (attended : Attending built files known d) (handling : Handling d after)
    (chooser : after.chooser = d.chooser)
    (paths : ∀ b ∈ built.devices, (after.host.device b.device).scriptPath = "" ∨
      b.script = some (after.host.device b.device).scriptPath) :
    Attending built files known after where
  sound := handling.sound attended.sound
  keyed := attended.keyed.calm handling.calm
  layout := attended.layout.trans handling.calm.layout
  files := handling.calm.files.trans attended.files
  chooser := chooser.trans attended.chooser
  registered entry member := by
    rcases handling.calm.registry with same | swept
    · exact attended.registered entry (same ▸ member)
    · rw [swept] at member
      exact attended.registered entry (List.mem_filter.mp member).1
  binds ref listed := (attended.binds ref listed).calm handling.calm
  paths := paths

/-- So it does if it keeps the paths or clears them. -/
theorem handling (attended : Attending built files known d) (handling : Handling d after)
    (chooser : after.chooser = d.chooser)
    (paths : ∀ b ∈ built.devices,
      (after.host.device b.device).scriptPath = (d.host.device b.device).scriptPath ∨
        (after.host.device b.device).scriptPath = "") : Attending built files known after := by
  refine attended.moved handling chooser fun b listed => ?_
  rcases paths b listed with kept | cleared
  · rw [kept]
    exact attended.paths b listed
  · exact Or.inl cleared

/-- A device is given the path that stands in the file. -/
theorem locate (keyed : built.Keyed) (attended : Attending built files known d) {b : BuiltDevice}
    (listed : b ∈ built.devices) {path : String} (script : b.script = some path) :
    Attending built files known (d.modifyHost fun host => host.setScriptPath b.device path) := by
  refine attended.moved (.modifyHost d (d.host.calm_setScriptPath b.device path)) rfl
    fun other also => ?_
  by_cases own : other.device = b.device
  · have same := keyed.device_injective also listed own
    have here : ((d.host.setScriptPath b.device path).device b.device).scriptPath = path := by
      have present := (attended.layout.has_iff b.device).mpr
        (keyed.present (List.mem_map_of_mem listed))
      unfold Host.setScriptPath Host.modifyPlant Plant.setScriptPath Host.device
      dsimp only
      rw [Plant.device_modifyDevice, if_pos ⟨rfl, present⟩]
    rw [same]
    exact Or.inr (script.trans (congrArg some here.symm))
  · have kept : ((d.host.setScriptPath b.device path).device other.device).scriptPath =
        (d.host.device other.device).scriptPath :=
      congrArg Device.scriptPath (d.host.plant.device_modifyDevice_of_ne own _)
    dsimp only [modifyHost]
    rw [kept]
    exact attended.paths other also

theorem serving (attended : Attending built files known d) {device : DeviceRef}
    {runs : List (Execution engine)} (serving : Serving device runs d after) :
    Attending built files known after := by
  refine attended.handling serving.toHandling serving.chooser fun b _ => ?_
  by_cases own : b.device = device
  · rw [own]
    exact serving.path attended.chooser
  · exact Or.inl ((serving.moves attended.sound).paths own)

/-- Registering makes a device known. -/
theorem learn (keyed : built.Keyed) (within : known ⊆ built.refs)
    (attended : Attending built files known d) {device : DeviceRef} (listed : device ∈ built.refs) :
    Attending built files (device :: known) (d.register device) where
  sound := (d.register_advance device).sound attended.sound
  keyed := attended.keyed.register ((attended.layout.has_iff device).mpr (keyed.present listed))
  layout := attended.layout.trans (d.register_advance device).host.layout
  files := (d.register_advance device).host.files.trans attended.files
  chooser := attended.chooser
  registered entry member := by
    rcases Entries.mem_put member with rfl | ⟨old, _⟩
    · exact listed
    · rw [Host.registry_sweep] at old
      exact attended.registered entry (List.mem_filter.mp old).1
  binds ref also := by
    by_cases same : ref = device
    · rw [same]
      exact d.host.register_binds device
    · have before := (List.mem_cons.mp also).resolve_left same
      exact (attended.binds ref before).register attended.keyed
        (attended.apart keyed (within before) listed same)
  paths b also := by
    have plant : (d.register device).host.plant = d.host.plant := d.host.plant_sweep
    unfold Host.device
    rw [plant]
    exact attended.paths b also

theorem mono {more : List DeviceRef} (attended : Attending built files more d)
    (fewer : known ⊆ more) : Attending built files known d :=
  { attended with binds := fun ref member => attended.binds ref (fewer member) }

theorem register (keyed : built.Keyed) (attended : Attended built files d) {device : DeviceRef}
    (listed : device ∈ built.refs) : Attended built files (d.register device) :=
  (attended.learn keyed (List.Subset.refl _) listed).mono (List.subset_cons_self _ _)

/-- Attaching the devices of the file one after the other makes all of them known. -/
theorem attach (keyed : built.Keyed) {devices : List BuiltDevice} (within : known ⊆ built.refs)
    (listed : devices.map BuiltDevice.device ⊆ built.refs)
    (covered : built.refs ⊆ devices.map BuiltDevice.device ++ known)
    (attending : Attending built files known d) :
    Attended built files (devices.foldl (fun d b => d.attach b.device) d) := by
  induction devices generalizing known d with
  | nil => exact attending.mono covered
  | cons b rest ih =>
    obtain ⟨mine, others⟩ := List.cons_subset.mp listed
    have moved : BuiltDevice.device b :: (rest.map BuiltDevice.device ++ known) ⊆
        rest.map BuiltDevice.device ++ b.device :: known := List.perm_middle.symm.subset
    exact ih (List.cons_subset.mpr ⟨mine, within⟩) others (List.Subset.trans covered moved)
      (attending.learn keyed within mine)

end Attending

end Dispatcher

end StationScript
