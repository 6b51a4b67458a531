import StationScript.Proofs.Dispatcher.Refresh
import StationScript.Proofs.Dispatcher.Serving

/-!
Scripts that do not run. A session that is there and not ready stands in the way of a load, and
makes nothing of a call. So events of its device come to nothing but the registration of the device,
until the path is changed, the chooser gives a script, or the session is torn down.
-/

set_option autoImplicit false

namespace StationScript.Dispatcher

variable {engine : Engine}

/-- There is a session for the id, and its script does not run. -/
structure Stopped (d : Dispatcher engine) (id : DeviceId) (session : Session engine) : Prop where
  held : d.session? id = some session
  idle : session.state ≠ .ready

/-- The change of the signal opens the chooser. -/
def opensChooser (d : Dispatcher engine) (device : DeviceRef) (signal : String) : Bool :=
  signal = controlSignal && match (d.host.device device).signals.get? signal with
    | none => false
    | some s => s.value == 1.0

/-- What the user makes of the question for a script, and all questions so far. -/
def choice (d : Dispatcher engine) (device : DeviceRef) : List Question × Selection :=
  d.chooser.select d.asked (d.host.device device).name (d.host.device device).scriptPath

/-- The questions that were asked when the event is over. -/
def askedBy (d : Dispatcher engine) : Event → List Question
  | .signalChanged device signal =>
    if d.opensChooser device signal then (d.choice device).1 else d.asked
  | _ => d.asked

/-- The event can start the script of the id again, at once or by the next event. -/
def Restarts (d : Dispatcher engine) (id : DeviceId) : Event → Prop
  | .scriptPathChanged device => (d.host.device device).id = id
  | .signalChanged device signal =>
    (d.host.device device).id = id ∧ d.opensChooser device signal = true ∧
      (d.choice device).2 ≠ .unchanged
  | .tornDown other => other = id
  | .attached _ | .stepped _ _ | .libraryReplaced _ | .logged _ _ _ => False

section Idle

variable {d : Dispatcher engine} {device : DeviceRef} {session : Session engine}

theorem ensure_of_held (held : d.session? (d.host.device device).id = some session) :
    d.ensure device = d ∧ d.ensureExecutions device = [] := by
  unfold ensure ensureExecutions
  rw [held]
  exact ⟨rfl, rfl⟩

variable (sound : d.Sound) (stopped : d.Stopped (d.host.device device).id session)
include sound stopped

theorem dispatch_of_stopped (entry : String) (arguments : List Value) :
    d.dispatch device entry arguments = d ∧ d.dispatchExecutions device entry arguments = [] := by
  have idle : session.invoke d.host entry arguments = (session, d.host, .notReady) := by
    unfold Session.invoke
    rw [if_pos stopped.idle]
  have never : session.invokeStints d.host entry arguments = [] := by
    unfold Session.invokeStints Session.invokeRun?
    rw [if_neg stopped.idle]
  unfold dispatch dispatchExecutions
  simp only [stopped.held, idle, never]
  refine ⟨?_, rfl⟩
  have same := Entries.put_of_lookup sound.distinct stopped.held
  exact congrArg (fun sessions => { d with sessions }) same

theorem refresh_of_stopped : d.refresh device = d ∧ d.refreshExecutions device = [] := by
  unfold refresh refreshExecutions
  obtain ⟨ensured, none⟩ := ensure_of_held stopped.held
  obtain ⟨called, never⟩ := dispatch_of_stopped sound stopped signalChangedEntry
    [.ofText "", .ofFloat 0.0]
  rw [ensured, called, none, never]
  exact ⟨rfl, rfl⟩

end Idle

/-- What is read of a device before it is registered. -/
theorem device_register (d : Dispatcher engine) (device ref : DeviceRef) :
    (d.register device).host.device ref = d.host.device ref :=
  congrArg (fun plant => plant.device ref) d.host.plant_sweep

/-- A sweep changes no device. -/
theorem device_swept (d : Dispatcher engine) (ref : DeviceRef) :
    d.swept.host.device ref = d.host.device ref :=
  congrArg (fun plant => plant.device ref) d.host.plant_sweep

theorem chooseScript_of_unchanged {d : Dispatcher engine} {device : DeviceRef}
    (cancelled : (d.choice device).2 = .unchanged) :
    d.chooseScript device = { d with asked := (d.choice device).1 } ∧
      d.chooseScriptExecutions device = [] := by
  unfold choice at cancelled
  unfold chooseScript chooseScriptExecutions
  dsimp only
  rw [cancelled]
  exact ⟨rfl, rfl⟩

/-- A change of a signal that is not there, of an output, or of the control signal to another value
than one comes to nothing but the registration of the device, whatever its session is. -/
theorem onSignalChanged_of_ignored {d : Dispatcher engine} {device : DeviceRef} {signal : String}
    (ignored : ∀ s, (d.host.device device).signals.get? signal = some s →
      if signal = controlSignal then (s.value == 1.0) = false else s.kind.isInput = false) :
    d.handle (.signalChanged device signal) = d.register device ∧
      d.executions (.signalChanged device signal) = [] := by
  change d.onSignalChanged device signal = _ ∧ d.signalChangedExecutions device signal = _
  unfold onSignalChanged signalChangedExecutions
  dsimp only
  rw [device_register]
  cases found : (d.host.device device).signals.get? signal with
  | none => exact ⟨rfl, rfl⟩
  | some s =>
    have quiet := ignored s found
    dsimp only
    by_cases control : signal = controlSignal
    · rw [if_pos control] at quiet
      rw [if_pos control, if_pos control, quiet]
      exact ⟨rfl, rfl⟩
    · rw [if_neg control] at quiet
      rw [if_neg control, if_neg control, quiet]
      exact ⟨rfl, rfl⟩

theorem Stopped.register {d : Dispatcher engine} {id : DeviceId} {session : Session engine}
    (stopped : d.Stopped id session) (device : DeviceRef) :
    (d.register device).Stopped id session :=
  ⟨stopped.held, stopped.idle⟩

/-- What comes before the registration of the device touches no session. -/
theorem session?_prepare (d : Dispatcher engine) (e : Event) (id : DeviceId) :
    (d.prepare e).session? id = d.session? id := by
  cases e <;> rfl

theorem Stopped.prepare {d : Dispatcher engine} {id : DeviceId} {session : Session engine}
    (stopped : d.Stopped id session) (e : Event) : (d.prepare e).Stopped id session :=
  ⟨(d.session?_prepare e id).trans stopped.held, stopped.idle⟩

theorem choice_register (d : Dispatcher engine) (device : DeviceRef) :
    (d.register device).choice device = d.choice device := by
  unfold choice
  rw [device_register]
  rfl

/-- Any other change of a signal of a stopped script does not come to more, but for a question to
the user. -/
theorem onSignalChanged_of_stopped {d : Dispatcher engine} {device : DeviceRef}
    {session : Session engine} (sound : d.Sound)
    (stopped : d.Stopped (d.host.device device).id session) {signal : String}
    (spared : d.opensChooser device signal = true → (d.choice device).2 = .unchanged) :
    d.handle (.signalChanged device signal) =
        { d.register device with asked := d.askedBy (.signalChanged device signal) } ∧
      d.executions (.signalChanged device signal) = [] := by
  have registered : (d.register device).Sound := sound.of_sessions_eq rfl
  have still : (d.register device).Stopped ((d.register device).host.device device).id session := by
    rw [device_register]
    exact stopped.register device
  unfold opensChooser at spared
  change d.onSignalChanged device signal = _ ∧ d.signalChangedExecutions device signal = _
  unfold onSignalChanged signalChangedExecutions askedBy opensChooser
  dsimp only
  rw [device_register]
  cases found : (d.host.device device).signals.get? signal with
  | none =>
    rw [Bool.and_false]
    exact ⟨rfl, rfl⟩
  | some s =>
    rw [found] at spared
    dsimp only at spared ⊢
    by_cases control : signal = controlSignal
    · rw [if_pos control, if_pos control, decide_eq_true control, Bool.true_and]
      rw [decide_eq_true control, Bool.true_and] at spared
      cases one : s.value == 1.0 with
      | false => exact ⟨rfl, rfl⟩
      | true =>
        have cancelled : ((d.register device).choice device).2 = .unchanged := by
          rw [choice_register]
          exact spared one
        rw [← choice_register]
        exact chooseScript_of_unchanged cancelled
    · rw [if_neg control, if_neg control, decide_eq_false control, Bool.false_and]
      cases s.kind.isInput with
      | false => exact ⟨rfl, rfl⟩
      | true =>
        obtain ⟨ensured, none⟩ := ensure_of_held still.held
        obtain ⟨called, never⟩ := dispatch_of_stopped registered still signalChangedEntry
          [.ofText signal, .ofFloat s.value]
        simp only [if_true, ensured, called, none, never]
        exact ⟨rfl, rfl⟩

/-- An event of a device whose script is stopped comes to no more than what comes before the device
is registered, the registration, and a question to the user. -/
theorem handle_of_stopped {d : Dispatcher engine} (sound : d.Sound) {e : Event}
    {device : DeviceRef} (about : e.device? = some device) {session : Session engine}
    (stopped : d.Stopped (d.host.device device).id session)
    (spared : ¬ d.Restarts (d.host.device device).id e) :
    d.handle e = { (d.prepare e).register device with asked := d.askedBy e } ∧
      d.executions e = [] := by
  have prepared := d.prepare_handling e
  have id : (((d.prepare e).register device).host.device device).id =
      (d.host.device device).id := by
    rw [device_register]
    exact prepared.calm.layout.id_eq device
  have registered : ((d.prepare e).register device).Sound :=
    (prepared.sound sound).of_sessions_eq rfl
  have still : ((d.prepare e).register device).Stopped
      (((d.prepare e).register device).host.device device).id session := by
    rw [id]
    exact (stopped.prepare e).register device
  cases e <;> cases about
  case attached => exact ⟨rfl, rfl⟩
  case scriptPathChanged => exact absurd rfl spared
  case signalChanged signal =>
    refine onSignalChanged_of_stopped sound stopped fun opens => ?_
    exact Classical.byContradiction fun chosen => spared ⟨rfl, opens, chosen⟩
  case stepped time =>
    obtain ⟨ensured, none⟩ := ensure_of_held still.held
    obtain ⟨called, never⟩ := dispatch_of_stopped registered still simulationStepEntry []
    unfold Dispatcher.handle onSimulationStep executions
    simp only [Dispatcher.prepare] at ensured none called never
    simp only [ensured, none, called, never]
    exact ⟨rfl, rfl⟩
  case libraryReplaced => exact refresh_of_stopped registered still

/-- Between these two dispatchers the id has kept its session and its devices, and the runs are
those of other ids. -/
structure Spares (id : DeviceId) (runs : List (Execution engine))
    (before after : Dispatcher engine) :
    Prop where
  session : after.session? id = before.session? id
  devices : ∀ ref, (before.host.device ref).id = id → after.host.device ref = before.host.device ref
  others : ∀ x ∈ runs, x.id ≠ id

namespace Spares

variable {id : DeviceId} {device : DeviceRef}

theorem of_quiet {before after : Dispatcher engine}
    (session : after.session? id = before.session? id)
    (devices : ∀ ref, after.host.device ref = before.host.device ref) : Spares id [] before after :=
  ⟨session, fun ref _ => devices ref, fun _ member => absurd member List.not_mem_nil⟩

theorem refl (d : Dispatcher engine) : Spares id [] d d := .of_quiet rfl fun _ => rfl

theorem trans {first second third : Dispatcher engine} {front back : List (Execution engine)}
    (left : Spares id front first second) (right : Spares id back second third) :
    Spares id (front ++ back) first third := by
  refine ⟨right.session.trans left.session, fun ref own => ?_, fun x member => ?_⟩
  · have same := left.devices ref own
    exact (right.devices ref (same ▸ own)).trans same
  · rcases List.mem_append.mp member with early | late
    · exact left.others x early
    · exact right.others x late

/-- To serve a device is to spare every other id. -/
theorem of_serving {before after : Dispatcher engine} {runs : List (Execution engine)}
    (serving : Serving device runs before after) (sound : before.Sound)
    (binds : before.host.Binds device) (other : (before.host.device device).id ≠ id) :
    Spares id runs before after := by
  refine ⟨serving.sessions id other.symm, fun ref own => ?_, fun x member => ?_⟩
  · have apart : ref ≠ device := fun same => other (same ▸ own)
    exact (serving.moves sound).device_of_ne apart binds
  · have same := (serving.started x member).calm.layout.id_eq device
    rw [(serving.framed sound binds x member).own]
    exact fun own => other (same.symm.trans own)

end Spares

/-- To register a device spares every id. -/
theorem register_spares {id : DeviceId} (d : Dispatcher engine) (device : DeviceRef) :
    Spares id [] d (d.register device) :=
  .of_quiet rfl fun ref => d.device_register device ref

/-- So does a sweep. -/
theorem swept_spares {id : DeviceId} (d : Dispatcher engine) : Spares id [] d d.swept :=
  .of_quiet rfl d.device_swept

section Broadcast

variable {d : Dispatcher engine} {id : DeviceId} {session : Session engine}

theorem Stopped.spared {after : Dispatcher engine} {runs : List (Execution engine)}
    (stopped : d.Stopped id session) (spares : Spares id runs d after) : after.Stopped id session :=
  ⟨spares.session.trans stopped.held, stopped.idle⟩

/-- The refresh of a stopped script is announced, and that is all. -/
theorem refreshLogged_of_stopped {device : DeviceRef} (sound : d.Sound)
    (stopped : d.Stopped (d.host.device device).id session) :
    d.refreshLogged device = d.modifyHost (fun host =>
        host.info ("Updating component " ++ host.nameOf device)) ∧
      d.refreshExecutions device = [] := by
  obtain ⟨refreshed, none⟩ := refresh_of_stopped sound stopped
  unfold refreshLogged
  rw [refreshed]
  exact ⟨rfl, none⟩

theorem refreshLogged_spares (sound : d.Sound) (stopped : d.Stopped id session) {device : DeviceRef}
    (binds : d.host.Binds device) :
    Spares id (d.refreshExecutions device) d (d.refreshLogged device) := by
  by_cases own : (d.host.device device).id = id
  · subst own
    obtain ⟨announced, none⟩ := refreshLogged_of_stopped sound stopped
    rw [announced, none]
    exact .of_quiet rfl fun _ => rfl
  · exact .of_serving (d.refreshLogged_serving device) sound binds own

theorem broadcast_spares (sound : d.Sound) (stopped : d.Stopped id session)
    (devices : List DeviceRef) (binds : ∀ device ∈ devices, d.host.Binds device) :
    Spares id (d.broadcastExecutions devices) d (d.broadcast devices) := by
  induction devices generalizing d with
  | nil => exact .refl d
  | cons device rest ih =>
    have first := refreshLogged_spares sound stopped (binds device List.mem_cons_self)
    have handling := d.refreshLogged_handling device
    refine first.trans (ih (handling.sound sound) (stopped.spared first) fun other listed => ?_)
    exact (binds other (List.mem_cons_of_mem _ listed)).calm handling.calm

end Broadcast

section Event

variable {d : Dispatcher engine} {id : DeviceId} {session : Session engine}

theorem onLogMessage_spares (sound : d.Sound) (keyed : d.host.Keyed)
    (stopped : d.Stopped id session) (now : Nat) (text : String) (order : Listing) :
    Spares id (d.loggedExecutions now text order) d (d.onLogMessage now text order).1 := by
  unfold loggedExecutions onLogMessage
  split
  · exact .refl d
  · have refreshed := broadcast_spares (d.swept_handling.sound sound)
      (stopped.spared d.swept_spares) (d.host.liveDevices order).2
      fun device listed => (sweep_binds keyed device (Host.mem_liveDevices_sweep.mp listed)).2
    have whole := d.swept_spares.trans refreshed
    exact ⟨whole.session, whole.devices, whole.others⟩

/-- An event of a device with another id spares the id, once what comes before the registration of
the device is done. -/
theorem handle_spares_of_other (sound : d.Sound) {e : Event} {device : DeviceRef}
    (about : e.device? = some device) (other : (d.host.device device).id ≠ id) :
    Spares id (d.executions e) (d.prepare e) (d.handle e) := by
  have prepared := d.prepare_handling e
  have same : ((d.prepare e).host.device device).id = (d.host.device device).id :=
    prepared.calm.layout.id_eq device
  have ready : ((d.prepare e).register device).Sound := (prepared.sound sound).of_sessions_eq rfl
  refine (register_spares _ device).trans (.of_serving (d.handle_serving about) ready
    ((d.prepare e).host.register_binds device) ?_)
  rw [device_register, same]
  exact other

/-- To tear an id down spares every other one. -/
theorem teardown_spares (sound : d.Sound) (keyed : d.host.Keyed) {other : DeviceId}
    (apart : other ≠ id) : Spares id (d.tornDownExecutions other) d (d.teardown other) := by
  have forgotten (after : Dispatcher engine) : Spares id [] after (after.forget other) :=
    .of_quiet (Entries.lookup_erase_of_ne _ apart.symm) fun _ => rfl
  have released : Spares id (d.tornDownExecutions other) d (d.releaseMachine other) := by
    unfold releaseMachine tornDownExecutions
    cases held : d.session? other with
    | none => exact .refl d
    | some session =>
      have bound := (sound.of_session? held).1
      refine ⟨rfl, fun ref own => ?_, fun x member => ?_⟩
      · have host := session.host_release d.host
        have frame := d.host.playAll_frame_leads session.id session.releaseStints
        rw [← host, bound] at frame
        refine frame.others ref fun leads => apart ?_
        have stands := (Host.get_live keyed other ref).mp leads
        exact (keyed.own _ (Entries.mem_of_lookup stands.1)).2.symm.trans own
      · obtain ⟨front, stint, back, _, rfl⟩ := Execution.mem_ofStints.mp member
        exact bound ▸ apart
  have whole := released.trans (forgotten _)
  rw [List.append_nil] at whole
  exact whole

/-- An event that does not start the script spares the id, once what comes before the registration
of its device is done. -/
theorem handle_spares (sound : d.Sound) (keyed : d.host.Keyed) (stopped : d.Stopped id session)
    {e : Event} (spared : ¬ d.Restarts id e) :
    Spares id (d.executions e) (d.prepare e) (d.handle e) := by
  cases about : e.device? with
  | some device =>
    by_cases own : (d.host.device device).id = id
    · subst own
      obtain ⟨whole, none⟩ := handle_of_stopped sound about stopped spared
      rw [whole, none]
      exact .of_quiet rfl fun ref => device_register _ device ref
    · exact handle_spares_of_other sound about own
  | none =>
    cases e with
    | logged now text order => exact onLogMessage_spares sound keyed stopped now text order
    | tornDown other => exact teardown_spares sound keyed spared
    | _ => cases about

end Event

end StationScript.Dispatcher
