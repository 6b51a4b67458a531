import StationScript.Proofs.Dispatcher.Serving

/-!
What handling an event keeps, whatever it is: a relation between hosts that every move for a device
keeps, and that holds wherever the plant stays the same, holds before and after an event, apart from
the propagation with which a step begins.
-/

set_option autoImplicit false

namespace StationScript

/-- A relation that the work of the host on behalf of any device cannot break. -/
structure Host.Robust (kept : Host → Host → Prop) : Prop where
  aside : ∀ {before after : Host}, after.plant = before.plant → kept before after
  move : ∀ {device : DeviceRef} {called : HostFunction → Prop} {before after : Host},
    before.Move device called after → kept before after
  trans : ∀ {first second third : Host}, kept first second → kept second third → kept first third

namespace Host.Robust

variable {kept : Host → Host → Prop}

theorem refl (robust : Robust kept) (host : Host) : kept host host := robust.aside rfl

theorem moves (robust : Robust kept) {device : DeviceRef} {called : HostFunction → Prop}
    {before after : Host} (moves : before.Moves device called after) : kept before after := by
  induction moves with
  | refl => exact robust.refl before
  | tail _ last ih => exact robust.trans ih (robust.move last)

end Host.Robust

namespace Dispatcher

variable {engine : Engine} {kept : Host → Host → Prop}

/-- An advance that keeps a relation between the hosts. -/
structure Along (kept : Host → Host → Prop) (before after : Dispatcher engine) : Prop extends
    Advance before after where
  kept : before.Sound → kept before.host after.host

namespace Along

theorem refl (robust : Host.Robust kept) (d : Dispatcher engine) : Along kept d d :=
  ⟨.refl d, fun _ => robust.refl d.host⟩

theorem trans (robust : Host.Robust kept) {first second third : Dispatcher engine}
    (left : Along kept first second) (right : Along kept second third) : Along kept first third :=
  ⟨left.toAdvance.trans right.toAdvance,
    fun sound => robust.trans (left.kept sound) (right.kept (left.sound sound))⟩

theorem foldl (robust : Host.Robust kept) {α : Type}
    {step : Dispatcher engine → α → Dispatcher engine} (each : ∀ d a, Along kept d (step d a))
    (items : List α) (d : Dispatcher engine) : Along kept d (items.foldl step d) := by
  induction items generalizing d with
  | nil => exact refl robust d
  | cons a rest ih => exact trans robust (each d a) (ih _)

end Along

theorem Serving.along (robust : Host.Robust kept) {device : DeviceRef}
    {runs : List (Execution engine)} {before after : Dispatcher engine}
    (serving : Serving device runs before after) : Along kept before after :=
  ⟨serving.toHandling.advance, fun sound => robust.moves (serving.moves sound)⟩

/-- From the propagation on, an event keeps what every move keeps. -/
theorem handle_along (robust : Host.Robust kept) (d : Dispatcher engine) {e : Event}
    {device : DeviceRef} (about : e.device? = some device) :
    Along kept (d.prepare e) (d.handle e) :=
  have registered : Along kept (d.prepare e) ((d.prepare e).register device) :=
    ⟨register_advance _ device, fun _ => robust.aside (d.prepare e).host.plant_sweep⟩
  registered.trans robust ((d.handle_serving about).along robust)

theorem onLogMessage_along (robust : Host.Robust kept) (d : Dispatcher engine) (now : Nat)
    (text : String) (order : Listing) : Along kept d (d.onLogMessage now text order).1 := by
  unfold onLogMessage
  split
  · exact .refl robust d
  · have swept : Along kept d { d with host := d.host.sweep } :=
      ⟨⟨d.host.calm_sweep.toAdvance, rfl, fun sound => sound.of_sessions_eq rfl⟩,
        fun _ => robust.aside d.host.plant_sweep⟩
    have refreshed := swept.trans robust
      (.foldl robust (fun d device => (d.refreshLogged_serving device).along robust)
        (d.host.liveDevices order).2 _)
    exact ⟨⟨refreshed.host, refreshed.config, fun sound =>
      (refreshed.sound sound).of_sessions_eq rfl⟩, refreshed.kept⟩

end Dispatcher

end StationScript
