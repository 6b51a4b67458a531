import StationScript.Proofs.Host.Frame

/-!
A keyed registry: every registered device exists and stands under its own id, each id once. It stays
keyed whatever happens outside, and also when devices are registered or entries are lost.
-/

set_option autoImplicit false

namespace StationScript

namespace Host

/-- What happens outside the dispatcher. Devices keep their ids and never cease to exist, and what
the dispatcher holds is out of reach. -/
structure Outside (before after : Host) : Prop where
  logPrefix : after.logPrefix = before.logPrefix
  registry : after.registry = before.registry
  times : after.times = before.times
  devices : ∀ ref, before.plant.Has ref →
    after.plant.Has ref ∧ (after.device ref).id = (before.device ref).id

/-- Every registered device exists and stands under its own id, each id once. -/
structure Keyed (host : Host) : Prop where
  distinct : (Entries.keys host.registry.entries).Nodup
  own : ∀ entry ∈ host.registry.entries,
    host.plant.Has entry.2 ∧ (host.device entry.2).id = entry.1

namespace Keyed

theorem outside {before after : Host} (keyed : before.Keyed) (outside : before.Outside after) :
    after.Keyed := by
  constructor
  · rw [outside.registry]
    exact keyed.distinct
  · intro entry member
    rw [outside.registry] at member
    obtain ⟨present, own⟩ := keyed.own entry member
    obtain ⟨still, same⟩ := outside.devices entry.2 present
    exact ⟨still, same.trans own⟩

/-- The ids of the registered devices are the keys. -/
theorem ids_eq {host : Host} (keyed : host.Keyed) :
    (host.registry.devices.map fun d => (host.device d).id) =
      Entries.keys host.registry.entries := by
  unfold Registry.devices Entries.keys
  rw [List.map_map]
  exact List.map_congr_left fun entry member => (keyed.own entry member).2

theorem devices_distinct {host : Host} (keyed : host.Keyed) : host.registry.devices.Nodup := by
  have ids : (host.registry.devices.map fun d => (host.device d).id).Nodup :=
    keyed.ids_eq ▸ keyed.distinct
  refine List.Pairwise.of_map (fun d => (host.device d).id) (fun one other apart same => ?_) ids
  exact apart (congrArg (fun d => (host.device d).id) same)

/-- A registry that only lost entries is still keyed. -/
theorem of_filter {before after : Host} (keyed : before.Keyed)
    (layout : before.plant.SameLayout after.plant) (test : DeviceId × DeviceRef → Bool)
    (registry : after.registry.entries = before.registry.entries.filter test) : after.Keyed := by
  constructor
  · rw [registry]
    exact Entries.nodup_keys_filter keyed.distinct test
  · intro entry member
    rw [registry] at member
    obtain ⟨present, own⟩ := keyed.own entry (List.mem_filter.mp member).1
    exact ⟨(layout.has_iff entry.2).mpr present, (layout.id_eq entry.2).trans own⟩

theorem calm {before after : Host} (keyed : before.Keyed) (calm : before.Calm after) :
    after.Keyed := by
  rcases calm.registry with same | swept
  · exact keyed.of_filter calm.layout (fun _ => true)
      (by rw [same, List.filter_eq_self.mpr fun _ _ => rfl])
  · exact keyed.of_filter calm.layout _ (by rw [swept]; rfl)

theorem register {host : Host} (keyed : host.Keyed) {ref : DeviceRef}
    (present : host.plant.Has ref) : (host.register ref).Keyed := by
  have swept := keyed.calm host.calm_sweep
  refine ⟨Entries.nodup_keys_put swept.distinct _ ref, ?_⟩
  intro entry member
  rcases Entries.mem_put member with rfl | ⟨old, _⟩
  · exact ⟨((host.calm_sweep).layout.has_iff ref).mpr present, rfl⟩
  · exact swept.own entry old

end Keyed

theorem live_tracked (host : Host) : ∀ entry ∈ host.liveRegistry.entries,
    host.plant.tracked entry.2 = true :=
  fun _ member => (List.mem_filter.mp member).2

theorem live_distinct {host : Host} (keyed : host.Keyed) :
    (Entries.keys host.liveRegistry.entries).Nodup :=
  Entries.nodup_keys_filter keyed.distinct _

/-- A sweep leaves what is tracked. -/
theorem get_live {host : Host} (keyed : host.Keyed) (id : DeviceId) (device : DeviceRef) :
    host.liveRegistry.get? id = some device ↔
      host.registry.get? id = some device ∧ host.plant.tracked device = true := by
  unfold Registry.get?
  rw [Entries.lookup_eq_some_iff (live_distinct keyed), Entries.lookup_eq_some_iff keyed.distinct]
  exact List.mem_filter

/-- A device is found if it stands under the id and is tracked. -/
theorem resolve_eq_some_iff {host : Host} (keyed : host.Keyed) (id : DeviceId)
    (device : DeviceRef) : (host.resolve id).2 = some device ↔
      host.registry.get? id = some device ∧ host.plant.tracked device = true := by
  rw [← get_live keyed, ← registry_sweep]
  rfl

/-- The order does not decide who is listed. -/
theorem liveDevices_snd (host : Host) (order : Listing) :
    (host.liveDevices order).2 = order.arrange host.liveRegistry.devices := by
  unfold liveDevices
  dsimp only
  rw [registry_sweep]

theorem mem_liveDevices_sweep {host : Host} {order : Listing} {device : DeviceRef} :
    device ∈ (host.liveDevices order).2 ↔ device ∈ host.sweep.registry.devices :=
  (order.perm _).mem_iff

/-- Every live device is listed, and found under its own id. -/
theorem mem_liveDevices {host : Host} (keyed : host.Keyed) (order : Listing) (id : DeviceId)
    (device : DeviceRef) :
    device ∈ (host.liveDevices order).2 ∧ (host.device device).id = id ↔
      (host.resolve id).2 = some device := by
  rw [mem_liveDevices_sweep]
  have swept := keyed.calm host.calm_sweep
  have found := Entries.lookup_eq_some_iff swept.distinct id device
  have same : (host.sweep.device device).id = (host.device device).id :=
    host.calm_sweep.layout.id_eq device
  refine Iff.trans ?_ found.symm
  constructor
  · rintro ⟨listed, rfl⟩
    obtain ⟨entry, member, rfl⟩ := List.mem_map.mp listed
    rw [← same, (swept.own entry member).2]
    exact member
  · intro member
    exact ⟨List.mem_map_of_mem member, same.symm.trans (swept.own _ member).2⟩

/-- The live devices are the registered ones that are tracked. -/
theorem mem_liveDevices_iff {host : Host} (keyed : host.Keyed) (order : Listing)
    (device : DeviceRef) :
    device ∈ (host.liveDevices order).2 ↔
      (∃ id, host.registry.get? id = some device) ∧ host.plant.tracked device = true := by
  constructor
  · intro listed
    have found := (mem_liveDevices keyed order _ device).mp ⟨listed, rfl⟩
    obtain ⟨stands, tracked⟩ := (resolve_eq_some_iff keyed _ device).mp found
    exact ⟨⟨_, stands⟩, tracked⟩
  · rintro ⟨⟨id, stands⟩, tracked⟩
    have found := (resolve_eq_some_iff keyed id device).mpr ⟨stands, tracked⟩
    exact ((mem_liveDevices keyed order id device).mpr found).1

/-- A registration sweeps first, and stores the device whether or not it is tracked. -/
theorem registry_register (host : Host) (ref : DeviceRef) : (host.register ref).registry.entries =
    Entries.put host.liveRegistry.entries (host.device ref).id ref := by
  have id : (host.sweep.device ref).id = (host.device ref).id := host.calm_sweep.layout.id_eq ref
  rw [← id, ← registry_sweep]
  rfl

/-- What is live after a registration depends on what was live before it. -/
theorem liveRegistry_register (host : Host) (ref : DeviceRef) :
    (host.register ref).liveRegistry.entries =
      (Entries.put host.liveRegistry.entries (host.device ref).id ref).filter
        fun entry => host.plant.tracked entry.2 := by
  have layout := (host.advance_register ref).layout
  simp only [liveRegistry, layout.tracked_eq]
  rw [registry_register]
  rfl

theorem live_sweep (host : Host) : host.sweep.liveRegistry = host.sweep.registry := by
  rw [registry_sweep]
  exact liveRegistry_idem host.calm_sweep.layout host.registry_sweep

/-- Where every registered device is live, a sweep finds nothing to do. -/
theorem sweep_of_live {host : Host} (live : host.liveRegistry = host.registry) :
    host.sweep = host := by
  have none : host.stale = [] := by
    unfold stale Registry.devices
    rw [← live, List.filter_eq_nil_iff]
    intro device member
    obtain ⟨entry, listed, rfl⟩ := List.mem_map.mp member
    simp [host.live_tracked entry listed]
  unfold sweep
  rw [none, live]
  rfl

/-- So does the registration of a device that is found already. -/
theorem register_of_found {host : Host} (live : host.liveRegistry = host.registry)
    (keyed : host.Keyed) {device : DeviceRef}
    (found : host.registry.get? (host.device device).id = some device) :
    host.register device = host := by
  unfold register
  rw [sweep_of_live live]
  dsimp only
  rw [Registry.insert, Entries.put_of_lookup keyed.distinct found]

/-- What is calm registers nobody. -/
theorem Calm.absent {before after : Host} (calm : before.Calm after) {id : DeviceId}
    (absent : before.registry.get? id = none) : after.registry.get? id = none := by
  rcases calm.registry with same | swept
  · rw [same]
    exact absent
  · rw [swept]
    exact Entries.lookup_filter_of_absent absent _

theorem absent_register {host : Host} {id : DeviceId} (absent : host.registry.get? id = none)
    {device : DeviceRef} (other : (host.device device).id ≠ id) :
    (host.register device).registry.get? id = none := by
  have stored : (host.register device).registry.get? id =
      (Entries.put host.liveRegistry.entries (host.device device).id device).lookup id :=
    congrArg (List.lookup id) (host.registry_register device)
  rw [stored, Entries.lookup_put_of_ne _ _ other.symm]
  exact Entries.lookup_filter_of_absent absent _

/-- Under the id nobody is registered, so that a sweep evicts nobody with this id. -/
structure Vacant (host : Host) (id : DeviceId) : Prop where
  entry : host.registry.get? id = none
  evicted : ∀ gone ∈ host.stale, (host.device gone).id ≠ id

theorem vacant_of_absent {host : Host} (keyed : host.Keyed) {id : DeviceId}
    (absent : host.registry.get? id = none) : host.Vacant id := by
  refine ⟨absent, fun gone stale own => ?_⟩
  obtain ⟨entry, member, rfl⟩ := List.mem_map.mp (List.mem_filter.mp stale).1
  have stored : entry.1 = id := (keyed.own entry member).2.symm.trans own
  rw [← stored] at absent
  have found := Entries.lookup_of_mem keyed.distinct member
  exact Option.some_ne_none _ (found.symm.trans absent)

/-- A station with one device, whose script is an empty file. -/
def cell : Host where
  plant := (((Plant.empty.addStation "Cell").1.addDevice ⟨0⟩ ⟨"gripper"⟩ "Gripper").1).setScriptPath
    ⟨0⟩ "gripper.lua"
  files _ := .content ByteArray.empty
  logPrefix := "LuaScript"

end Host

end StationScript
