import StationScript.Proofs.Dispatcher.Serving

/-!
What the calls of scripts find.

A handler registers its device before any script runs, and everything from there to the last call is
calm. So the calls find the device of the event, or fail altogether. A broadcast registers nobody;
the sweep before it leaves live devices only, each of them bound.
-/

set_option autoImplicit false

namespace StationScript.Dispatcher

variable {engine : Engine}

/-- What a sweep leaves is bound. -/
theorem sweep_binds {host : Host} (keyed : host.Keyed) :
    ∀ device ∈ host.sweep.registry.devices,
      host.sweep.plant.tracked device = true ∧ host.sweep.Binds device := by
  intro device listed
  have swept := keyed.calm host.calm_sweep
  obtain ⟨entry, member, rfl⟩ := List.mem_map.mp listed
  have live : host.sweep.plant.tracked entry.2 = true := by
    rw [Host.plant_sweep]
    rw [Host.registry_sweep] at member
    exact (List.mem_filter.mp member).2
  have own : (host.sweep.device entry.2).id = entry.1 := (swept.own entry member).2
  refine ⟨live, Host.binds_of_registered swept.distinct ?_ live⟩
  rw [own]
  exact member

/-- A broadcast is for live devices only, and every run is framed for one of them. -/
theorem loggedExecutions_framed {d : Dispatcher engine} (reachable : d.Reachable) (now : Nat)
    (text : String) (order : Listing) : ∀ x ∈ d.loggedExecutions now text order,
      Handling { d with host := d.host.sweep } x.before ∧
        ∃ device, d.host.plant.tracked device = true ∧ x.Framed device := by
  intro x member
  unfold loggedExecutions at member
  split at member
  · exact absurd member List.not_mem_nil
  · have swept : ({ d with host := d.host.sweep } : Dispatcher engine).Sound :=
      reachable.sound.of_sessions_eq rfl
    have bound : ∀ device ∈ (d.host.liveDevices order).2,
        d.host.sweep.plant.tracked device = true ∧ d.host.sweep.Binds device :=
      fun device listed => sweep_binds reachable.keyed device (Host.mem_liveDevices_sweep.mp listed)
    obtain ⟨started, device, listed, framed⟩ := broadcast_framed swept (d.host.liveDevices order).2
      (fun device listed => (bound device listed).2) x member
    exact ⟨started, device, d.host.plant_sweep ▸ (bound device listed).1, framed⟩

theorem onLogMessage_closed {d : Dispatcher engine} (sound : d.Sound) (now : Nat) (text : String)
    (order : Listing) {id : DeviceId}
    (closed : (d.onLogMessage now text order).1.sessionState? id = some .closed) :
    d.sessionState? id = some .closed ∨
      ∃ x ∈ d.loggedExecutions now text order, none ∈ x.found := by
  unfold onLogMessage at closed
  unfold loggedExecutions
  split at closed
  · exact Or.inl closed
  · rename_i asks
    rw [if_neg asks]
    have swept : ({ d with host := d.host.sweep } : Dispatcher engine).Sound :=
      sound.of_sessions_eq rfl
    exact broadcast_closed swept (d.host.liveDevices order).2 closed

/-- During the event of a device all calls of all scripts find this very device, or all fail. In a
broadcast each finds the device that is refreshed, so that no session is closed. -/
theorem calls_find_their_device {d : Dispatcher engine} (reachable : d.Reachable) :
    (∀ (e : Event) (device : DeviceRef), e.device? = some device →
      ((d.host.plant.tracked device = true ∧ ∀ x ∈ d.executions e,
          x.device? = some device ∧ ∀ found ∈ x.found, found = some device) ∨
        (d.host.plant.tracked device = false ∧ ∀ x ∈ d.executions e,
          x.device? = some device ∧ ∀ found ∈ x.found, found = none)) ∧
      (d.host.plant.tracked device = true → ∀ id,
        (d.handle e).sessionState? id = some .closed → d.sessionState? id = some .closed)) ∧
    (∀ (now : Nat) (text : String) (order : Listing),
      (∀ x ∈ d.executions (.logged now text order), ∃ device, x.device? = some device ∧
        d.host.plant.tracked device = true ∧ ∀ found ∈ x.found, found = some device) ∧
      ∀ id, (d.handle (.logged now text order)).sessionState? id = some .closed →
        d.sessionState? id = some .closed) := by
  constructor
  · intro e device about
    have prepared := d.prepare_handling e
    have serving := d.handle_serving about
    have layout := prepared.calm.layout.trans
      ((d.prepare e).host.advance_register device).layout
    have sound := (register_advance (d.prepare e) device).sound (prepared.sound reachable.sound)
    have framed := serving.framed sound ((d.prepare e).host.register_binds device)
    have bound : ∀ x ∈ d.executions e, x.device? = some device ∧ ∀ found ∈ x.found,
        found = if d.host.plant.tracked device then some device else none := by
      intro x member
      have reached := layout.trans (serving.started x member).calm.layout
      refine ⟨(framed x member).about, fun found looked => ?_⟩
      rw [(framed x member).found found looked]
      exact Host.boundTo_eq reached device
    constructor
    · cases live : d.host.plant.tracked device with
      | true => exact Or.inl ⟨rfl, by simpa [live] using bound⟩
      | false => exact Or.inr ⟨rfl, by simpa [live] using bound⟩
    · intro live id closed
      rcases serving.closed sound id closed with before | ⟨x, member, vain⟩
      · cases e <;> exact before
      · have found := (bound x member).2 none vain
        rw [if_pos live] at found
        cases found
  · intro now text order
    have bound : ∀ x ∈ d.executions (.logged now text order), ∃ device, x.device? = some device ∧
        d.host.plant.tracked device = true ∧ ∀ found ∈ x.found, found = some device := by
      intro x member
      obtain ⟨started, device, live, framed⟩ :=
        loggedExecutions_framed reachable now text order x member
      refine ⟨device, framed.about, live, fun found looked => ?_⟩
      have reached := d.host.calm_sweep.layout.trans started.calm.layout
      rw [framed.found found looked, Host.boundTo_eq reached, Host.boundTo, if_pos live]
    refine ⟨bound, fun id closed => ?_⟩
    rcases onLogMessage_closed reachable.sound now text order closed with before | ⟨x, member, vain⟩
    · exact before
    · obtain ⟨device, _, _, found⟩ := bound x member
      cases found none vain

/-- The cell's script makes one call when the library is replaced, and finds its device. -/
theorem calls_find_their_device_loadedCell :
    loadedCell.Reachable ∧
    (loadedCell.executions (.libraryReplaced ⟨0⟩)).map Execution.found = [[some ⟨0⟩]] ∧
    ∀ x ∈ loadedCell.executions (.libraryReplaced ⟨0⟩), x.device? = some ⟨0⟩ ∧
      ∀ found ∈ x.found, found = some ⟨0⟩ := by
  have live : loadedCell.host.plant.tracked ⟨0⟩ = true := by decide +kernel
  have looked : (loadedCell.executions (.libraryReplaced ⟨0⟩)).map Execution.found =
      [[some ⟨0⟩]] := by decide +kernel
  obtain ⟨events, _⟩ := calls_find_their_device loadedCell_reachable
  obtain ⟨finds, _⟩ := events (.libraryReplaced ⟨0⟩) ⟨0⟩ rfl
  refine ⟨loadedCell_reachable, looked, ?_⟩
  rcases finds with ⟨_, bound⟩ | ⟨gone, _⟩
  · exact bound
  · rw [live] at gone
    cases gone

end StationScript.Dispatcher
