import StationScript.Proofs.Host.Calls

/-!
What the registry makes of a device's id.

A run finds under its id what the id leads to when the run begins. An id is bound to a device if it
leads to that very device while the device is tracked, and nowhere otherwise. Registering the device
brings this about, whatever was registered before; no calm change of the host ends it, whichever
entries are evicted meanwhile.
-/

set_option autoImplicit false

namespace StationScript.Host

/-- Where an id leads: the device that is registered under it and tracked. -/
def leadsTo (host : Host) (id : DeviceId) : Option DeviceRef := host.liveRegistry.get? id

theorem resolve_eq (host : Host) (id : DeviceId) :
    host.resolve id = (host.sweep, host.leadsTo id) := by
  unfold resolve leadsTo
  dsimp only
  rw [registry_sweep]

theorem Calm.leadsTo_eq {before after : Host} (calm : Calm before after) (id : DeviceId) :
    after.leadsTo id = before.leadsTo id := by
  unfold leadsTo
  rw [calm.liveRegistry_eq]

/-- Every call of a run looks for the device with the same result. -/
theorem lookups_eq {α : Type} (host : Host) (id : DeviceId) (run : Run α) :
    ∀ found ∈ host.lookups id run, found = host.leadsTo id := by
  induction run generalizing host with
  | done result => simp [lookups]
  | call function arguments resume ih =>
    intro found member
    unfold lookups at member
    rcases List.mem_append.mp member with now | later
    · unfold lookup? at now
      split at now
      · cases now
      · rw [resolve_eq] at now
        simpa using now
    · have calm :=
        (answer_frame (fun _ => True) host id function arguments fun _ _ => trivial).toCalm
      exact (ih _ _ found later).trans (calm.leadsTo_eq id)

/-- A run changes what a script may change of the device that its id leads to. -/
theorem play_frame_leads {α : Type} (host : Host) (id : DeviceId) (run : Run α) (closing : Bool) :
    Frame (fun ref => host.leadsTo id = some ref) host (host.play id run closing).1 :=
  host.play_frame _ id run closing fun _ found => (host.lookups_eq id run _ found).symm

/-- Where the id of a bound device leads. -/
def boundTo (host : Host) (device : DeviceRef) : Option DeviceRef :=
  if host.plant.tracked device then some device else none

/-- The device's id leads to this very device, or nowhere if the device is not tracked. -/
def Binds (host : Host) (device : DeviceRef) : Prop :=
  host.leadsTo (host.device device).id = host.boundTo device

theorem boundTo_eq {before after : Host} (layout : before.plant.SameLayout after.plant)
    (device : DeviceRef) : after.boundTo device = before.boundTo device := by
  unfold boundTo
  rw [layout.tracked_eq]

/-- The id of a bound device leads to no other. -/
theorem Binds.leads {host : Host} {device : DeviceRef} (binds : host.Binds device) {ref : DeviceRef}
    (leads : host.leadsTo (host.device device).id = some ref) : ref = device := by
  rw [binds, boundTo] at leads
  split at leads
  · exact (Option.some.inj leads).symm
  · cases leads

theorem Binds.calm {before after : Host} {device : DeviceRef} (binds : before.Binds device)
    (calm : before.Calm after) : after.Binds device := by
  have same : (after.device device).id = (before.device device).id := calm.layout.id_eq device
  unfold Binds
  rw [calm.leadsTo_eq, same, boundTo_eq calm.layout]
  exact binds

/-- The entries under the id of a device that was just registered are of this device. -/
theorem registered_agree (host : Host) (device : DeviceRef) {entry : DeviceId × DeviceRef}
    (member : entry ∈ (host.register device).registry.entries)
    (key : entry.1 = (host.device device).id) : entry.2 = device := by
  have same : (host.sweep.device device).id = (host.device device).id :=
    host.calm_sweep.layout.id_eq device
  rcases Entries.mem_put member with rfl | ⟨_, other⟩
  · rfl
  · rw [same] at other
    exact absurd key other

/-- Registering binds, also if other devices with the same id were registered before. -/
theorem register_binds (host : Host) (device : DeviceRef) :
    (host.register device).Binds device := by
  have layout := (host.advance_register device).layout
  have same : ((host.register device).device device).id = (host.device device).id :=
    layout.id_eq device
  have listed : (host.register device).liveRegistry.entries =
      (host.register device).registry.entries.filter fun entry => host.plant.tracked entry.2 := by
    simp only [liveRegistry, layout.tracked_eq]
  unfold Binds leadsTo Registry.get?
  rw [same, listed, boundTo_eq layout, boundTo]
  cases live : host.plant.tracked device with
  | true =>
    refine Entries.lookup_of_agree ?_ ?_
    · have stored :
          ((host.device device).id, device) ∈ (host.register device).registry.entries := by
        have found := Entries.lookup_put_self host.sweep.registry.entries
          (host.sweep.device device).id device
        have swept : (host.sweep.device device).id = (host.device device).id :=
          host.calm_sweep.layout.id_eq device
        rw [← swept]
        exact Entries.mem_of_lookup found
      exact List.mem_map.mpr ⟨_, List.mem_filter.mpr ⟨stored, live⟩, rfl⟩
    · intro entry member key
      exact host.registered_agree device (List.mem_filter.mp member).1 key
  | false =>
    -- all that is stored under the id is of this device, so nothing of it is live
    rw [if_neg Bool.false_ne_true, ← Option.not_isSome_iff_eq_none, Entries.lookup_isSome_iff]
    intro present
    obtain ⟨entry, member, key⟩ := List.mem_map.mp present
    obtain ⟨stored, tracked⟩ := List.mem_filter.mp member
    rw [host.registered_agree device stored key, live] at tracked
    cases tracked

/-- A live device that is registered under its own id is bound. -/
theorem binds_of_registered {host : Host} {device : DeviceRef}
    (distinct : (Entries.keys host.registry.entries).Nodup)
    (stored : ((host.device device).id, device) ∈ host.registry.entries)
    (live : host.plant.tracked device = true) : host.Binds device := by
  unfold Binds leadsTo Registry.get? boundTo
  rw [if_pos live]
  refine Entries.lookup_of_mem (Entries.nodup_keys_filter distinct _) ?_
  exact List.mem_filter.mpr ⟨stored, live⟩

/-- Every call of a script that is bound to a device looks for it with the same result. -/
theorem lookups_of_binds {α : Type} {host : Host} {device : DeviceRef} (binds : host.Binds device)
    (run : Run α) : ∀ found ∈ host.lookups (host.device device).id run,
      found = host.boundTo device :=
  fun found member => (host.lookups_eq _ run found member).trans binds

end StationScript.Host
