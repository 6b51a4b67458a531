import StationScript.Proofs.Simulation.Operations

/-!
What a simulation keeps from its first moment on: a relation between hosts that no move for a device
breaks, no propagation, and no hand-over of the changes that propagation queued.
-/

set_option autoImplicit false

namespace StationScript

/-- A relation that neither the work on behalf of a device nor the course of a step can break. -/
structure Host.Steady (kept : Host → Host → Prop) : Prop extends Host.Robust kept where
  called : ∀ (host : Host) (id : DeviceId) (function : HostFunction) (arguments : List Value),
    kept host (host.answer id function arguments).host
  propagated : ∀ (host : Host) (station : StationRef) (object : String),
    kept host (host.modifyPlant fun p => p.propagate station object)
  taken : ∀ (host : Host) (station : StationRef),
    kept host { host with plant := (host.plant.takePending station).1 }

variable {engine : Engine} {kept : Host → Host → Prop}

namespace Host.Steady

/-- Nor can a run of any id's script. -/
theorem play (steady : Steady kept) {α : Type} (id : DeviceId) (run : Run α) (host : Host)
    (closing : Bool) : kept host (host.play id run closing).1 := by
  induction run generalizing host closing with
  | done result => exact steady.refl host
  | call function arguments resume ih =>
    exact steady.trans (steady.called host id function arguments) (ih _ _ _)

theorem playAll (steady : Steady kept) (id : DeviceId) (stints : List Stint) (host : Host) :
    kept host (host.playAll id stints) := by
  induction stints generalizing host with
  | nil => exact steady.refl host
  | cons stint rest ih => exact steady.trans (steady.play id stint.run host false) (ih _)

end Host.Steady

namespace Dispatcher

theorem prepare_steady (steady : Host.Steady kept) (d : Dispatcher engine) (e : Event) :
    Along kept d (d.prepare e) := by
  refine ⟨(d.prepare_handling e).advance, fun _ => ?_⟩
  cases e with
  | stepped device time =>
    have timed (host : Host) (id : DeviceId) : kept host (host.recordTime id time) :=
      steady.aside rfl
    unfold prepare beginStep
    refine steady.trans ?_ (timed _ _)
    dsimp only [modifyHost]
    split
    · exact steady.refl _
    · exact steady.propagated d.host _ _
  | _ => exact steady.refl _

theorem handle_steady (steady : Host.Steady kept) (d : Dispatcher engine) (e : Event) :
    Along kept d (d.handle e) := by
  cases about : e.device? with
  | some device =>
    exact (d.prepare_steady steady e).trans steady.toRobust (d.handle_along steady.toRobust about)
  | none =>
    cases e with
    | logged now text order => exact d.onLogMessage_along steady.toRobust now text order
    | tornDown id =>
      refine ⟨d.teardown_advance id, fun sound => ?_⟩
      have parted := congrArg Dispatcher.host (releaseMachine_eq sound id).1
      have played : kept d.host (d.releaseMachine id).host := by
        rw [parted]
        exact steady.playAll id (d.farewell id) d.host
      exact steady.trans played (steady.aside rfl)
    | _ => cases about

theorem handleAll_steady (steady : Host.Steady kept) (d : Dispatcher engine)
    (events : List Event) : Along kept d (d.handleAll events) :=
  .foldl steady.toRobust (fun d e => d.handle_steady steady e) events d

theorem deliver_steady (steady : Host.Steady kept) (d : Dispatcher engine)
    (station : StationRef) : Along kept d (d.deliver station) := by
  refine ⟨d.deliver_advance station, fun sound => ?_⟩
  have delivered := Along.foldl steady.toRobust
    (fun (d : Dispatcher engine) (change : SignalChange) =>
      d.handle_steady steady (.signalChanged change.device change.signal))
    (d.host.plant.takePending station).2
    (d.modifyHost fun host => { host with plant := (d.host.plant.takePending station).1 })
  exact steady.trans (steady.taken d.host station) (delivered.kept (sound.of_sessions_eq rfl))

end Dispatcher

namespace Simulation

theorem turns_steady (steady : Host.Steady kept) (time : Float) (devices : List DeviceRef)
    (s : Simulation engine) :
    s.dispatcher.Along kept (devices.foldl (stepDevice time) s).dispatcher := by
  induction devices generalizing s with
  | nil => exact .refl steady.toRobust _
  | cons device rest ih =>
    have turn := (s.dispatcher.handle_steady steady (.stepped device time)).trans steady.toRobust
      (Dispatcher.deliver_steady steady _ s.station)
    exact turn.trans steady.toRobust (ih (stepDevice time s device))

/-- What holds before and after something that a simulation does. -/
structure Keeping (kept : Host → Host → Prop) (before after : Simulation engine) : Prop where
  host : before.dispatcher.Sound → kept before.host after.host
  sound : before.dispatcher.Sound → after.dispatcher.Sound

namespace Keeping

theorem trans (robust : Host.Robust kept) {first second third : Simulation engine}
    (left : Keeping kept first second) (right : Keeping kept second third) :
    Keeping kept first third :=
  ⟨fun sound => robust.trans (left.host sound) (right.host (left.sound sound)),
    fun sound => right.sound (left.sound sound)⟩

theorem of_along {before after : Simulation engine}
    (along : before.dispatcher.Along kept after.dispatcher) : Keeping kept before after :=
  ⟨along.kept, along.sound⟩

/-- Where neither the plant nor the sessions change, anything is kept. -/
theorem aside (robust : Host.Robust kept) {before after : Simulation engine}
    (plant : after.host.plant = before.host.plant)
    (sessions : after.dispatcher.sessions = before.dispatcher.sessions) :
    Keeping kept before after :=
  ⟨fun _ => robust.aside plant, fun sound => sound.of_sessions_eq sessions⟩

end Keeping

variable (steady : Host.Steady kept)
include steady

theorem step_keeping (s : Simulation engine) (stepMs : Float) : Keeping kept s (s.step stepMs) := by
  have ticked : Keeping kept s (s.tick stepMs) := .aside steady.toRobust rfl rfl
  have turned := turns_steady steady (s.tick stepMs).host.clock.time (s.tick stepMs).devices
    (s.tick stepMs)
  have pumped := ((s.tick stepMs).stepDevices.pump_along steady.toRobust).1
  exact ticked.trans steady.toRobust (.of_along (turned.trans steady.toRobust pumped))

theorem stepTimes_keeping (stepMs : Float) (count : Nat) (s : Simulation engine) :
    Keeping kept s (stepTimes stepMs count s) := by
  induction count generalizing s with
  | zero => exact .aside steady.toRobust rfl rfl
  | succ n ih => exact (step_keeping steady s stepMs).trans steady.toRobust (ih _)

theorem run_keeping (s : Simulation engine) (count : Nat) (stepMs : Float) :
    Keeping kept s (s.run count stepMs) := by
  have begun : Keeping kept s (s.setState .running) := .aside steady.toRobust rfl rfl
  have stepped := stepTimes_keeping steady stepMs count (s.setState .running)
  exact (begun.trans steady.toRobust stepped).trans steady.toRobust (.aside steady.toRobust rfl rfl)

theorem hostMessage_keeping (s : Simulation engine) (text : String) :
    Keeping kept s (s.hostMessage text) := by
  have announced : Keeping kept s (s.announce text) := .aside steady.toRobust rfl rfl
  exact announced.trans steady.toRobust (.of_along ((s.announce text).pump_along steady.toRobust).1)

theorem performAll_keeping (s : Simulation engine) (operations : List Operation) :
    Keeping kept s (s.performAll operations) := by
  induction operations generalizing s with
  | nil => exact .aside steady.toRobust rfl rfl
  | cons operation rest ih =>
    refine Keeping.trans steady.toRobust ?_ (ih (s.perform operation))
    cases operation with
    | step stepMs => exact step_keeping steady s stepMs
    | run count stepMs => exact run_keeping steady s count stepMs
    | hostMessage text => exact hostMessage_keeping steady s text

/-- Between the built station and any moment of its simulation. -/
theorem start_along (built : BuiltStation) (files : Files) (config : ScriptConfig)
    (arrival : Nat → Nat) (order : Nat → Listing) :
    (Dispatcher.new (bareHost built files config) config).Along kept
      (start built files config arrival order : Simulation engine).dispatcher := by
  have launched := (@launch_along engine _ steady.toRobust built files config arrival order).1
  exact launched.trans steady.toRobust
    ((launch built files config arrival order).pump_along steady.toRobust).1

theorem afterOperations_kept (built : BuiltStation) (files : Files) (config : ScriptConfig)
    (arrival : Nat → Nat) (order : Nat → Listing) (operations : List Operation) :
    kept (bareHost built files config)
      (afterOperations built files config arrival order operations : Simulation engine).host := by
  have bare := @Dispatcher.new_sound engine (bareHost built files config) config .none
  have started := @start_along engine _ steady built files config arrival order
  have performed := performAll_keeping steady
    (start built files config arrival order : Simulation engine) operations
  exact steady.trans (started.kept bare) (performed.host (started.sound bare))

end Simulation

end StationScript
