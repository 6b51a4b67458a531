import StationScript.Proofs.Dispatcher.Attendance
import StationScript.Proofs.Host.Alike

/-!
Dispatchers that are alike but for one device. An event of another device is handled in the same way
by both, and one of the hidden device does not show.
-/

set_option autoImplicit false

namespace StationScript

/-- Hosts that are alike but for one device, seen from another device, whose id this is. -/
structure Host.Visible (hidden device : DeviceRef) (id : DeviceId) (one other : Host) : Prop where
  alike : Host.Alike hidden one other
  different : (one.device device).id ≠ (one.device hidden).id
  binds : one.Binds device
  own : id = (one.device device).id

theorem Host.playsAlike_alike (hidden : DeviceRef) {device : DeviceRef} (visible : device ≠ hidden)
    (id : DeviceId) : Host.PlaysAlike id (Host.Visible hidden device id) := by
  rintro one other ⟨alike, different, binds, rfl⟩ α run
  obtain ⟨result, after⟩ := Host.play_alike alike visible different binds run false
  have calm := one.play_calm (one.device device).id run false
  have same (ref : DeviceRef) :
      ((one.play (one.device device).id run false).1.device ref).id = (one.device ref).id :=
    calm.layout.id_eq ref
  refine ⟨result, after, ?_, binds.calm calm, (same device).symm⟩
  rw [same, same]
  exact different

namespace Host

/-- Registering is done in the same way in hosts that are alike. -/
theorem Alike.register {hidden : DeviceRef} {one other : Host} (alike : Alike hidden one other)
    (ref : DeviceRef) : Alike hidden (one.register ref) (other.register ref) := by
  have left := one.advance_register ref
  have right := other.advance_register ref
  have plant : (one.register ref).plant.Alike hidden (other.register ref).plant := by
    have first : (one.register ref).plant = one.plant := one.plant_sweep
    have second : (other.register ref).plant = other.plant := other.plant_sweep
    rw [first, second]
    exact alike.plant
  have id : (other.device ref).id = (one.device ref).id := alike.plant.layout.id_eq ref
  have live : (other.register ref).liveRegistry.entries =
      (one.register ref).liveRegistry.entries := by
    simp only [liveRegistry_register, alike.live, id, alike.plant.layout.tracked_eq]
  have swept := alike.both (.sweep one) (.sweep other)
  exact ⟨plant, swept.logPrefix, swept.clock, congrArg Registry.mk live, swept.times⟩

/-- Registering the hidden device does not show once it is bound. -/
theorem Alike.register_hidden {hidden : DeviceRef} {host : Host} (keyed : host.Keyed)
    (binds : host.Binds hidden) : Alike hidden host (host.register hidden) := by
  have swept : Alike hidden host host.sweep := .sweep host
  exact ⟨swept.plant, swept.logPrefix, swept.clock, liveRegistry_register_of_binds keyed binds,
    swept.times⟩

end Host

namespace Dispatcher

variable {engine : Engine}

/-- Nothing but one device, its session, the files and the log tells the dispatchers apart. -/
structure Alike (hidden : DeviceRef) (one other : Dispatcher engine) : Prop where
  host : one.host.Alike hidden other.host
  config : other.config = one.config
  lastRefresh : other.lastRefresh = one.lastRefresh
  sessions : ∀ id, id ≠ (one.host.device hidden).id → other.session? id = one.session? id

namespace Alike

variable {hidden : DeviceRef} {one other : Dispatcher engine}

theorem refl (d : Dispatcher engine) : Alike hidden d d := ⟨.refl _, rfl, rfl, fun _ _ => rfl⟩

theorem symm (alike : Alike hidden one other) : Alike hidden other one := by
  refine ⟨alike.host.symm, alike.config.symm, alike.lastRefresh.symm,
    fun id visible => (alike.sessions id ?_).symm⟩
  have same : (other.host.device hidden).id = (one.host.device hidden).id :=
    alike.host.plant.layout.id_eq hidden
  rwa [← same]

theorem trans {third : Dispatcher engine} (left : Alike hidden one other)
    (right : Alike hidden other third) : Alike hidden one third := by
  refine ⟨left.host.trans right.host, right.config.trans left.config,
    right.lastRefresh.trans left.lastRefresh, fun id visible => ?_⟩
  have same : (other.host.device hidden).id = (one.host.device hidden).id :=
    left.host.plant.layout.id_eq hidden
  exact (right.sessions id (same ▸ visible)).trans (left.sessions id visible)

theorem both {left right : Dispatcher engine} (alike : Alike hidden one other)
    (first : Alike hidden one left) (second : Alike hidden other right) : Alike hidden left right :=
  (first.symm.trans alike).trans second

/-- The same work on both hosts. -/
theorem modifyHost (alike : Alike hidden one other) {left right : Host → Host}
    (host : (left one.host).Alike hidden (right other.host))
    (layout : one.host.plant.SameLayout (left one.host).plant) :
    Alike hidden (one.modifyHost left) (other.modifyHost right) := by
  refine ⟨host, alike.config, alike.lastRefresh, fun id visible => alike.sessions id ?_⟩
  have same : ((left one.host).device hidden).id = (one.host.device hidden).id :=
    layout.id_eq hidden
  rwa [← same]

theorem register (alike : Alike hidden one other) (device : DeviceRef) :
    Alike hidden (one.register device) (other.register device) :=
  alike.modifyHost (alike.host.register device) (one.register_advance device).host.layout

/-- The same session stored on both sides, next to hosts that are alike. -/
theorem put (alike : Alike hidden one other) {left right : Host} (host : left.Alike hidden right)
    (layout : one.host.plant.SameLayout left.plant) (id : DeviceId) {session again : Session engine}
    (same : again = session) :
    Alike hidden ({ one with host := left }.putSession id session)
      ({ other with host := right }.putSession id again) := by
  subst same
  refine ⟨host, alike.config, alike.lastRefresh, fun key visible => ?_⟩
  have hid : (left.device hidden).id = (one.host.device hidden).id := layout.id_eq hidden
  have before := alike.sessions key (by rwa [← hid])
  unfold session? putSession at *
  dsimp only at *
  by_cases own : key = id
  · rw [own, Entries.lookup_put_self, Entries.lookup_put_self]
  · rw [Entries.lookup_put_of_ne _ _ own, Entries.lookup_put_of_ne _ _ own, before]

theorem device_eq (alike : Alike hidden one other) {device : DeviceRef}
    (visible : device ≠ hidden) :
    other.host.device device = one.host.device device :=
  alike.host.plant.devices device visible

end Alike

/-- What is logged about connections does not show. -/
theorem warnAcyclic_alike {hidden : DeviceRef} (d : Dispatcher engine) (device : DeviceRef) :
    Alike hidden d (d.warnAcyclic device) := by
  obtain ⟨log, _, whole, _⟩ := d.warnAcyclic_log device
  rw [whole]
  exact ⟨⟨.refl _, rfl, rfl, rfl, fun _ _ => rfl⟩, rfl, rfl, fun _ _ => rfl⟩

theorem afterLoad_alike {hidden : DeviceRef} {one other : Host} (alike : one.Alike hidden other)
    (device : DeviceRef) (state : SessionState) (result : Except ScriptError Unit) :
    (afterLoad one device state result).Alike hidden (afterLoad other device state result) := by
  unfold afterLoad
  cases result with
  | ok done =>
    dsimp only
    split
    · exact alike.setStatus device _
    · exact alike
  | error e =>
    dsimp only
    split
    · exact ((alike.reports _ _ _ _).setScriptPath device "").setStatus device _
    · exact alike.reports _ _ _ _

theorem afterInvoke_alike {hidden : DeviceRef} {one other : Host} (alike : one.Alike hidden other)
    (device : DeviceRef) (entry : String) (outcome : EntryOutcome) :
    (afterInvoke one device entry outcome).Alike hidden
      (afterInvoke other device entry outcome) := by
  cases outcome with
  | failed message => exact alike.reports _ _ _ _
  | _ => exact alike

end Dispatcher

end StationScript
