import StationScript.Proofs.Host.Keyed

/-!
The registry against its history. Devices come to be untracked and tracked again without notice, and
the registry finds out at its next access. So a device is found under its id if the last call about
the id registered it, and if every access since then has found it tracked.
-/

set_option autoImplicit false

namespace StationScript

/-- What can be asked of the registry. -/
inductive RegistryCall where
  | register (device : DeviceRef)
  | resolve (id : DeviceId)
  | devices
  | count
  | isEmpty
  | remove (id : DeviceId)

namespace RegistryCall

/-- Every call but a removal is an access, which begins with a sweep. -/
def Accesses : RegistryCall → Prop
  | remove _ => False
  | _ => True

/-- The call decides what stands under the id from then on. -/
def Decides (plant : Plant) (id : DeviceId) : RegistryCall → Prop
  | register device => (plant.device device).id = id
  | remove other => other = id
  | _ => False

end RegistryCall

/-- A call, and the plant that it found. -/
structure RegistryMoment where
  call : RegistryCall
  plant : Plant

/-- The last call about the id registered this very device, and every access since then has found
the device tracked. -/
def StillRegistered (past : List RegistryMoment) (id : DeviceId) (device : DeviceRef) : Prop :=
  ∃ front plant back, past = front ++ ⟨.register device, plant⟩ :: back ∧
    (plant.device device).id = id ∧ ∀ moment ∈ back, ¬ moment.call.Decides moment.plant id ∧
      (moment.call.Accesses → moment.plant.tracked device = true)

theorem not_stillRegistered_nil (id : DeviceId) (device : DeviceRef) :
    ¬ StillRegistered [] id device := by
  rintro ⟨front, plant, back, split, _⟩
  simp at split

/-- What one more call makes of it. -/
theorem stillRegistered_concat (past : List RegistryMoment) (moment : RegistryMoment)
    (id : DeviceId) (device : DeviceRef) : StillRegistered (past ++ [moment]) id device ↔
      (moment.call = .register device ∧ (moment.plant.device device).id = id) ∨
      (StillRegistered past id device ∧ ¬ moment.call.Decides moment.plant id ∧
        (moment.call.Accesses → moment.plant.tracked device = true)) := by
  constructor
  · rintro ⟨front, plant, back, split, own, since⟩
    -- the registration is either the last call itself or came before it
    rcases List.eq_nil_or_concat back with rfl | ⟨early, last, rfl⟩
    · obtain ⟨rfl, equal⟩ := List.append_inj' split rfl
      cases equal
      exact .inl ⟨rfl, own⟩
    · rw [List.concat_eq_append] at split since
      have whole : past ++ [moment] = (front ++ ⟨.register device, plant⟩ :: early) ++ [last] := by
        rw [split]
        simp
      obtain ⟨rfl, equal⟩ := List.append_inj' whole rfl
      cases equal
      obtain ⟨undecided, tracked⟩ := since moment (by simp)
      refine .inr ⟨⟨front, plant, early, rfl, own, fun m member => since m ?_⟩, undecided, tracked⟩
      exact List.mem_append_left _ member
  · rintro (⟨registers, own⟩ | ⟨⟨front, plant, back, rfl, own, since⟩, undecided, tracked⟩)
    · refine ⟨past, moment.plant, [], ?_, own, fun m member => absurd member List.not_mem_nil⟩
      rw [← registers]
    · refine ⟨front, plant, back ++ [moment], by simp, own, fun m member => ?_⟩
      rcases List.mem_append.mp member with early | last
      · exact since m early
      · rw [List.mem_singleton.mp last]
        exact ⟨undecided, tracked⟩

namespace Host

def afterCall (host : Host) : RegistryCall → Host
  | .register device => host.register device
  | .resolve id => (host.resolve id).1
  | .devices => host.liveDevices.1
  | .count => host.liveCount.1
  | .isEmpty => host.noneLive.1
  | .remove id => (host.unregister id).1

variable {host : Host}

/-- What one call makes of what stands under an id. -/
theorem get_afterCall (keyed : host.Keyed) (call : RegistryCall) (id : DeviceId)
    (device : DeviceRef) : (host.afterCall call).registry.get? id = some device ↔
      (call = .register device ∧ (host.device device).id = id) ∨
      (host.registry.get? id = some device ∧ ¬ call.Decides host.plant id ∧
        (call.Accesses → host.plant.tracked device = true)) := by
  have looked := resolve_eq_some_iff keyed id device
  cases call with
  | register other =>
    have stored : (host.afterCall (.register other)).registry.get? id =
        (Entries.put host.liveRegistry.entries (host.device other).id other).lookup id := by
      rw [← registry_register]
      rfl
    have decides : RegistryCall.Decides host.plant id (.register other) ↔
        (host.device other).id = id := Iff.rfl
    rw [stored, decides]
    by_cases same : (host.device other).id = id
    · subst same
      rw [Entries.lookup_put_self]
      grind
    · rw [Entries.lookup_put_of_ne _ _ (Ne.symm same)]
      have live := get_live keyed id device
      unfold Registry.get? at live ⊢
      grind [RegistryCall.Accesses]
  | remove other =>
    have kept := Entries.nodup_keys_filter keyed.distinct fun entry => entry.1 ≠ other
    have found := Entries.lookup_eq_some_iff kept id device
    have stood := Entries.lookup_eq_some_iff keyed.distinct id device
    rw [List.mem_filter, ← stood] at found
    refine found.trans ?_
    simp [RegistryCall.Decides, RegistryCall.Accesses, Registry.get?, @eq_comm _ other id]
  | resolve other | devices | count | isEmpty =>
    refine looked.trans ?_
    simp [RegistryCall.Decides, RegistryCall.Accesses]

/-- Every access reports what it evicts, and a removal reports nothing. -/
theorem log_afterCall (keyed : host.Keyed) (call : RegistryCall) : ∃ evicted : List DeviceRef,
    evicted.Nodup ∧ (∀ device, device ∈ evicted ↔ call.Accesses ∧
      (∃ id, host.registry.get? id = some device) ∧ host.plant.tracked device = false) ∧
    (host.afterCall call).log.toList = host.log.toList ++ evicted.map fun device =>
      ⟨.information, host.prefixed (evictionText (host.nameOf device))⟩ := by
  have stale (device : DeviceRef) : device ∈ host.stale ↔
      (∃ id, host.registry.get? id = some device) ∧ host.plant.tracked device = false := by
    unfold stale Registry.devices Registry.get?
    simp only [List.mem_filter, List.mem_map, Entries.lookup_eq_some_iff keyed.distinct]
    simp
  have swept : ∃ evicted : List DeviceRef, evicted.Nodup ∧ (∀ device, device ∈ evicted ↔
      (∃ id, host.registry.get? id = some device) ∧ host.plant.tracked device = false) ∧
      host.sweep.log.toList = host.log.toList ++ evicted.map fun device =>
        ⟨.information, host.prefixed (evictionText (host.nameOf device))⟩ := by
    obtain ⟨log, whole, messages⟩ := host.sweep_eq
    refine ⟨host.stale, keyed.devices_distinct.filter _, stale, ?_⟩
    rw [whole]
    exact messages
  cases call with
  | remove id =>
    refine ⟨[], List.nodup_nil, fun device => ?_, ?_⟩
    · simp [RegistryCall.Accesses]
    · exact (List.append_nil _).symm
  | register device | resolve id | devices | count | isEmpty =>
    obtain ⟨evicted, once, which, messages⟩ := swept
    refine ⟨evicted, once, fun device => ?_, messages⟩
    rw [which]
    simp [RegistryCall.Accesses]

theorem keyed_afterCall (keyed : host.Keyed) {call : RegistryCall}
    (known : ∀ device, call = .register device → host.plant.Has device) :
    (host.afterCall call).Keyed := by
  cases call with
  | register device => exact keyed.register (known device rfl)
  | remove id => exact keyed.of_filter (.refl _) _ rfl
  | resolve id | devices | count | isEmpty => exact keyed.calm host.calm_sweep

end Host

/-- What a registry has been through: calls, and between them whatever happens to stations. -/
inductive RegistryHistory : List RegistryMoment → Host → Prop where
  | new (host : Host) (empty : host.registry = {}) : RegistryHistory [] host
  | outside (past : List RegistryMoment) (host : Host) (before : RegistryHistory past host)
    (after : Host) (change : host.Outside after) : RegistryHistory past after
  | call (past : List RegistryMoment) (host : Host) (before : RegistryHistory past host)
    (call : RegistryCall) (known : ∀ device, call = .register device → host.plant.Has device) :
    RegistryHistory (past ++ [⟨call, host.plant⟩]) (host.afterCall call)

namespace RegistryHistory

variable {past : List RegistryMoment} {host : Host}

theorem keyed (history : RegistryHistory past host) : host.Keyed := by
  induction history with
  | new host empty =>
    refine ⟨?_, fun entry member => ?_⟩
    · rw [empty]
      exact List.nodup_nil
    · rw [empty] at member
      cases member
  | outside past host before after change ih => exact ih.outside change
  | call past host before call known ih => exact Host.keyed_afterCall ih known

/-- What stands under an id before the next access. -/
theorem registered (history : RegistryHistory past host) (id : DeviceId) (device : DeviceRef) :
    host.registry.get? id = some device ↔ StillRegistered past id device := by
  induction history with
  | new host empty =>
    rw [empty]
    refine ⟨fun found => ?_, fun still => absurd still (not_stillRegistered_nil _ _)⟩
    cases found
  | outside past host before after change ih =>
    rw [change.registry]
    exact ih
  | call past host before call known ih =>
    rw [Host.get_afterCall before.keyed, stillRegistered_concat, ih]
    rfl

end RegistryHistory

/-- A device that an access found untracked is forgotten until it is registered again. -/
theorem not_stillRegistered_of_untracked {front back : List RegistryMoment}
    {moment : RegistryMoment} {device : DeviceRef} (access : moment.call.Accesses)
    (untracked : moment.plant.tracked device = false)
    (never : ∀ m ∈ moment :: back, m.call ≠ .register device) (id : DeviceId) :
    ¬ StillRegistered (front ++ moment :: back) id device := by
  rintro ⟨early, plant, late, split, _, since⟩
  rcases List.append_eq_append_iff.mp split with ⟨between, _, after⟩ | ⟨between, _, after⟩
  · refine never ⟨.register device, plant⟩ ?_ rfl
    rw [after]
    simp
  · cases between with
    | nil =>
      cases after
      exact never _ List.mem_cons_self rfl
    | cons first rest =>
      obtain ⟨_, rfl⟩ := List.cons.inj after
      have tracked := (since moment (by simp)).2 access
      rw [untracked] at tracked
      cases tracked

/-- A registry knows of its history exactly this: a device is found under its id if the last call
about the id registered it, if every access since then has found it tracked, and if it is tracked
now. The list of devices says the same, and what is evicted is reported once, at the access that
evicts it. The order in which devices are listed may be any. -/
theorem registry_follows_history (past : List RegistryMoment) (host : Host)
    (history : RegistryHistory past host) (order : Listing) :
    (∀ (id : DeviceId) (device : DeviceRef), (host.resolve id).2 = some device ↔
      StillRegistered past id device ∧ host.plant.tracked device = true) ∧
    (((host.liveDevices order).2.map fun device => (host.device device).id).Nodup ∧
      (∀ (id : DeviceId) (device : DeviceRef),
        device ∈ (host.liveDevices order).2 ∧ (host.device device).id = id ↔
          (host.resolve id).2 = some device) ∧
      host.liveCount.2 = (host.liveDevices order).2.length ∧
      (host.noneLive.2 = true ↔ ∀ id, (host.resolve id).2 = none)) ∧
    (∀ (id : DeviceId) (device : DeviceRef),
      (host.resolve id).2 = some device ∨ device ∈ (host.liveDevices order).2 →
        host.plant.tracked device = true) ∧
    (∀ (front back : List RegistryMoment) (moment : RegistryMoment) (device : DeviceRef),
      past = front ++ moment :: back → moment.call.Accesses →
      moment.plant.tracked device = false →
      (∀ m ∈ moment :: back, m.call ≠ .register device) →
        ∀ id, (host.resolve id).2 ≠ some device) ∧
    ∀ call : RegistryCall, ∃ evicted : List DeviceRef, evicted.Nodup ∧
      (∀ device, device ∈ evicted ↔ call.Accesses ∧
        (∃ id, StillRegistered past id device) ∧ host.plant.tracked device = false) ∧
      (host.afterCall call).log.toList = host.log.toList ++ evicted.map fun device =>
        ⟨.information, host.prefixed (Host.evictionText (host.nameOf device))⟩ := by
  have keyed := history.keyed
  have resolved (id : DeviceId) (device : DeviceRef) : (host.resolve id).2 = some device ↔
      StillRegistered past id device ∧ host.plant.tracked device = true := by
    rw [← history.registered, Host.resolve_eq_some_iff keyed]
  have listed := Host.mem_liveDevices keyed order
  have swept := keyed.calm host.calm_sweep
  have count : host.liveCount.2 = (host.liveDevices order).2.length :=
    ((order.perm _).length_eq.trans (List.length_map _)).symm
  refine ⟨resolved, ⟨?_, listed, count, ?_⟩, ?_, ?_, ?_⟩
  · have ids := swept.ids_eq ▸ swept.distinct
    refine ((order.perm _).map _).nodup_iff.mpr ?_
    unfold Host.device at ids ⊢
    rw [host.plant_sweep] at ids
    exact ids
  · have none_iff : host.noneLive.2 = true ↔ (host.liveDevices order).2 = [] := by
      rw [← List.length_eq_zero_iff, ← count]
      exact beq_iff_eq
    rw [none_iff, List.eq_nil_iff_forall_not_mem]
    constructor
    · intro empty id
      refine Option.eq_none_iff_forall_ne_some.mpr fun device found => ?_
      exact empty device ((listed id device).mpr found).1
    · intro absent device member
      have found := (listed _ device).mp ⟨member, rfl⟩
      rw [absent] at found
      cases found
  · rintro id device (found | member)
    · exact ((resolved id device).mp found).2
    · exact ((resolved _ device).mp ((listed _ device).mp ⟨member, rfl⟩)).2
  · rintro front back moment device rfl access untracked never id found
    exact not_stillRegistered_of_untracked access untracked never id
      ((resolved id device).mp found).1
  · intro call
    obtain ⟨evicted, once, which, messages⟩ := Host.log_afterCall keyed call
    refine ⟨evicted, once, fun device => ?_, messages⟩
    rw [which]
    simp only [history.registered]

namespace Host

/-- The device of the cell is registered, -/
def registeredCell : Host := cell.afterCall (.register ⟨0⟩)

/-- then its station loses its name, -/
def namelessCell : Host := registeredCell.modifyPlant fun p => p.renameStation ⟨0⟩ ""

/-- and gets it back after an access. -/
def renamedCell : Host :=
  (namelessCell.afterCall .devices).modifyPlant fun p => p.renameStation ⟨0⟩ "Cell"

theorem outside_renameStation (host : Host) (station : StationRef) (name : String) :
    host.Outside (host.modifyPlant fun p => p.renameStation station name) :=
  ⟨rfl, rfl, rfl, fun _ present => ⟨present, rfl⟩⟩

/-- The access evicts the device and says so. The device is not found again, although it is tracked
again. -/
theorem registry_follows_history_cell :
    (registeredCell.resolve ⟨"gripper"⟩).2 = some ⟨0⟩ ∧
    (namelessCell.afterCall .devices).log.toList = [⟨.information, "LuaScript: Remove old " ++
      "component Gripper from cache. Scripts only work with a named station."⟩] ∧
    renamedCell.plant.tracked ⟨0⟩ = true ∧ ∀ id, (renamedCell.resolve id).2 ≠ some ⟨0⟩ := by
  have registered : RegistryHistory [⟨.register ⟨0⟩, cell.plant⟩] registeredCell := by
    refine .call [] cell (.new cell rfl) (.register ⟨0⟩) ?_
    intro device same
    cases same
    decide
  have nameless := registered.outside _ _ _ (registeredCell.outside_renameStation ⟨0⟩ "")
  have renamed := (nameless.call _ _ .devices fun device same => by cases same).outside _ _ _
    (outside_renameStation _ ⟨0⟩ "Cell")
  obtain ⟨resolved, _⟩ := registry_follows_history _ _ registered .registered
  obtain ⟨_, _, _, forgotten, _⟩ := registry_follows_history _ _ renamed .registered
  refine ⟨(resolved ⟨"gripper"⟩ ⟨0⟩).mpr ⟨⟨[], _, [], rfl, ?_, ?_⟩, ?_⟩, ?_, ?_, ?_⟩
  · decide
  · exact fun _ member => absurd member List.not_mem_nil
  · decide +kernel
  · decide +kernel
  · decide +kernel
  · refine forgotten [_] [] ⟨.devices, namelessCell.plant⟩ ⟨0⟩ rfl trivial (by decide +kernel) ?_
    intro moment member
    rw [List.mem_singleton.mp member]
    exact fun same => by cases same

end Host

end StationScript
