import StationScript.Proofs.Dispatcher.Executions

/-!
Serving one device: what the dispatcher does between the registration of a device and the end of the
event, with a record of the scripts it runs meanwhile.

All of it is done in moves of the host for this device. Sessions of other ids are left alone, and so
is everything of the dispatcher that is neither its host nor its sessions nor the questions asked.
-/

set_option autoImplicit false

namespace StationScript

namespace Execution

variable {engine : Engine}

/-- What a run for a device finds and may change of the host, and what the load or call around it
may change of the dispatcher. -/
structure Framed (device : DeviceRef) (x : Execution engine) : Prop where
  about : x.device? = some device
  own : x.id = (x.before.host.device device).id
  found : ∀ found ∈ x.found, found = x.before.host.boundTo device
  host : Host.Frame (· = device) x.before.host x.host
  dispatcher : x.after = { x.before with host := x.after.host, sessions := x.after.sessions }
  sessions : ∀ id, id ≠ (x.before.host.device device).id →
    x.after.session? id = x.before.session? id

/-- Every run of a bound device changes what belongs to the device, and nothing else. -/
theorem framed_ofStint {d : Dispatcher engine} (after : Dispatcher engine) {device : DeviceRef}
    (stint : Stint) (binds : d.host.Binds device)
    (rest : after = { d with host := after.host, sessions := after.sessions })
    (sessions : ∀ id, id ≠ (d.host.device device).id → after.session? id = d.session? id) :
    (ofStint (some device) d after (d.host.device device).id stint).Framed device := by
  have found := Host.lookups_of_binds binds stint.run
  refine ⟨rfl, rfl, found, ?_, rest, sessions⟩
  refine d.host.play_frame (· = device) _ stint.run false fun other member => ?_
  have same := found _ member
  unfold Host.boundTo at same
  split at same
  · exact Option.some.inj same
  · cases same

end Execution

namespace Dispatcher

variable {engine : Engine}

/-- Between these two dispatchers a device was served, and these runs were started for it. A session
that is closed meanwhile is closed by a call in vain. -/
structure Serving (device : DeviceRef) (runs : List (Execution engine))
    (before after : Dispatcher engine) : Prop extends Handling before after where
  chooser : after.chooser = before.chooser
  lastRefresh : after.lastRefresh = before.lastRefresh
  sessions : ∀ id, id ≠ (before.host.device device).id → after.session? id = before.session? id
  path : before.chooser = .none →
    (after.host.device device).scriptPath = (before.host.device device).scriptPath ∨
      (after.host.device device).scriptPath = ""
  moves : before.Sound → before.host.Moves device (Execution.Called runs) after.host
  started : ∀ x ∈ runs, Handling before x.before
  framed : before.Sound → before.host.Binds device → ∀ x ∈ runs, x.Framed device
  closed : before.Sound → ∀ id, after.sessionState? id = some .closed →
    before.sessionState? id = some .closed ∨ ∃ x ∈ runs, none ∈ x.found

namespace Serving

variable {device : DeviceRef}

/-- Where no session changes, nothing ran. -/
theorem quiet {before after : Dispatcher engine} (handling : Handling before after)
    (sessions : after.sessions = before.sessions)
    (rest : after.chooser = before.chooser ∧ after.lastRefresh = before.lastRefresh)
    (path : before.chooser = .none →
      (after.host.device device).scriptPath = (before.host.device device).scriptPath ∨
        (after.host.device device).scriptPath = "")
    (moves : before.host.Moves device (fun _ => False) after.host) :
    Serving device [] before after := by
  have same (id : DeviceId) : after.session? id = before.session? id := by
    rw [session?, sessions]
    rfl
  refine ⟨handling, rest.1, rest.2, fun id _ => same id, path,
    fun _ => moves.mono fun _ never => never.elim, fun _ member => absurd member List.not_mem_nil,
    fun _ _ _ member => absurd member List.not_mem_nil, fun _ id closed => ?_⟩
  rw [sessionState?, same] at closed
  exact Or.inl closed

theorem refl (d : Dispatcher engine) : Serving device [] d d :=
  quiet (.refl d) rfl ⟨rfl, rfl⟩ (fun _ => Or.inl rfl) .refl

theorem trans {first second third : Dispatcher engine} {front back : List (Execution engine)}
    (left : Serving device front first second) (right : Serving device back second third) :
    Serving device (front ++ back) first third := by
  have same := left.calm.layout.id_eq device
  refine ⟨left.toHandling.trans right.toHandling, right.chooser.trans left.chooser,
    right.lastRefresh.trans left.lastRefresh, ?_, ?_, ?_, ?_, ?_, ?_⟩
  · intro id other
    have later : id ≠ (second.host.device device).id := fun equal => other (equal.trans same)
    exact (right.sessions id later).trans (left.sessions id other)
  · intro none
    rcases right.path (left.chooser.trans none) with kept | cleared
    · rw [kept]
      exact left.path none
    · exact Or.inr cleared
  · intro sound
    have early := (left.moves sound).mono fun _ call => Execution.called_append_left call back
    have late := (right.moves (left.sound sound)).mono fun _ call =>
      Execution.called_append_right call front
    exact Relation.ReflTransGen.trans early late
  · intro x member
    rcases List.mem_append.mp member with early | late
    · exact left.started x early
    · exact left.toHandling.trans (right.started x late)
  · intro sound binds x member
    rcases List.mem_append.mp member with early | late
    · exact left.framed sound binds x early
    · exact right.framed (left.sound sound) (binds.calm left.calm) x late
  · intro sound id closed
    rcases right.closed (left.sound sound) id closed with before | ⟨x, member, vain⟩
    · rcases left.closed sound id before with earlier | ⟨x, member, vain⟩
      · exact Or.inl earlier
      · exact Or.inr ⟨x, List.mem_append_left _ member, vain⟩
    · exact Or.inr ⟨x, List.mem_append_right _ member, vain⟩

/-- Moves of the host alone, of which the script does not hear. -/
theorem modifyHost (d : Dispatcher engine) {change : Host → Host}
    (moves : d.host.Moves device (fun _ => False) (change d.host))
    (path : ((change d.host).device device).scriptPath = (d.host.device device).scriptPath ∨
      ((change d.host).device device).scriptPath = "" ∨ d.chooser ≠ .none) :
    Serving device [] d (d.modifyHost change) := by
  refine quiet (.modifyHost d moves.calm) rfl ⟨rfl, rfl⟩ (fun none => ?_) moves
  rcases path with kept | cleared | asking
  · exact Or.inl kept
  · exact Or.inr cleared
  · exact absurd none asking

end Serving

theorem warnAcyclic_serving (d : Dispatcher engine) (device : DeviceRef) :
    Serving device [] d (d.warnAcyclic device) := by
  unfold warnAcyclic
  split
  · exact .refl d
  · split
    · exact .refl d
    · rename_i station _
      obtain ⟨log, whole, _⟩ := d.host.foldl_report .warning
        (((d.host.plant.connections station).filter fun c => !c.allowCycle).flatMap
          (acyclicTexts (d.host.nameOf device)))
      refine .modifyHost d (Host.moves_foldl_report _ _ _) (Or.inl ?_)
      exact congrArg (fun host => (host.device device).scriptPath) whole

theorem moves_afterLoad (host : Host) (device : DeviceRef) (called : HostFunction → Prop)
    (state : SessionState) (result : Except ScriptError Unit) :
    host.Moves device called (afterLoad host device state result) := by
  unfold afterLoad
  split
  · split
    · exact .single (.setStatus host _)
    · exact .refl
  · rename_i e
    dsimp only
    have reported : host.Move device called
        (host.error (host.nameOf device ++ ": " ++ e.message ++ ".")) := .report host .error _
    split
    · exact .head reported (.head (.setScriptPath _ "") (.single (.setStatus _ _)))
    · exact .single reported

theorem path_afterLoad (host : Host) (device : DeviceRef) (state : SessionState)
    (result : Except ScriptError Unit) :
    ((afterLoad host device state result).device device).scriptPath =
        (host.device device).scriptPath ∨
      ((afterLoad host device state result).device device).scriptPath = "" := by
  have relabelled (host : Host) (status : String) :
      ((host.setStatus device status).device device).scriptPath =
        (host.device device).scriptPath :=
    host.plant.project_modifyDevice Device.scriptPath device (fun d => { d with status })
      (fun _ => rfl) device
  have emptied (host : Host) : ((host.setScriptPath device "").device device).scriptPath = "" ∨
      ((host.setScriptPath device "").device device).scriptPath =
        (host.device device).scriptPath := by
    unfold Host.setScriptPath Host.modifyPlant Plant.setScriptPath Host.device
    rw [Plant.device_modifyDevice]
    split
    · exact Or.inl rfl
    · exact Or.inr rfl
  unfold afterLoad
  split
  · split
    · exact Or.inl (relabelled host _)
    · exact Or.inl rfl
  · rename_i e
    dsimp only
    split
    · rw [relabelled]
      exact (emptied _).symm
    · exact Or.inl rfl

/-- A load or a call serves its device if its host moves on from where its stints have led, and if a
session that it closes was closed before or looked in vain. The runs are recorded with the
dispatcher that was reached when the load or call was `finished`. -/
theorem serving_of_stints {d after finished : Dispatcher engine} {device : DeviceRef}
    {id : DeviceId}
    {stints : List Stint} (handling : Handling d after)
    (bound : d.Sound → id = (d.host.device device).id)
    (rest : after.chooser = d.chooser ∧ after.lastRefresh = d.lastRefresh)
    (others : ∀ key, key ≠ (d.host.device device).id → after.session? key = d.session? key)
    (path : (after.host.device device).scriptPath =
        ((d.host.playAll id stints).device device).scriptPath ∨
      (after.host.device device).scriptPath = "")
    (moves : ∀ called, (d.host.playAll id stints).Moves device called after.host)
    (whole : finished = { d with host := finished.host, sessions := finished.sessions })
    (apart : ∀ key, key ≠ (d.host.device device).id → finished.session? key = d.session? key)
    (closed : d.Sound → after.sessionState? (d.host.device device).id = some .closed →
      d.sessionState? (d.host.device device).id = some .closed ∨ Session.Vain id d.host stints) :
    Serving device (Execution.ofStints (some device) finished id d stints) d after := by
  refine ⟨handling, rest.1, rest.2, others, fun _ => ?_, fun sound => ?_, ?_, ?_, ?_⟩
  · rwa [(d.host.playAll_frame_leads id stints).paths device] at path
  · obtain rfl := bound sound
    have played := d.host.moves_playAll stints device (Execution.Called
      (Execution.ofStints (some device) finished (d.host.device device).id d stints)) ?_
    · exact Relation.ReflTransGen.trans played (moves _)
    · intro front stint back split f call
      exact ⟨_, Execution.mem_ofStints.mpr ⟨front, stint, back, split, rfl⟩, call⟩
  · intro x member
    obtain ⟨front, stint, back, _, rfl⟩ := Execution.mem_ofStints.mp member
    exact d.played_handling id front
  · intro sound binds x member
    obtain ⟨front, stint, back, _, rfl⟩ := Execution.mem_ofStints.mp member
    obtain rfl := bound sound
    have calm := d.host.playAll_calm (d.host.device device).id front
    have same : ((d.played (d.host.device device).id front).host.device device).id =
        (d.host.device device).id := calm.layout.id_eq device
    have framed := Execution.framed_ofStint (d := d.played (d.host.device device).id front)
      finished stint (binds.calm calm) whole (by rw [same]; exact apart)
    rwa [same] at framed
  · intro sound key shut
    by_cases own : key = (d.host.device device).id
    · obtain rfl := own
      rcases closed sound shut with before | ⟨front, stint, back, split, vain⟩
      · exact Or.inl before
      · exact Or.inr ⟨_, Execution.mem_ofStints.mpr ⟨front, stint, back, split, rfl⟩, vain⟩
    · rw [sessionState?, others key own] at shut
      exact Or.inl shut

/-- The dispatcher after a load, when nothing is left but the warnings. -/
def loaded (d : Dispatcher engine) (device : DeviceRef) : Dispatcher engine :=
  let id := (d.host.device device).id
  let loaded := (d.sessionFor id).load d.host (d.host.device device).scriptPath
  { d with host := afterLoad loaded.2.1 device loaded.1.state loaded.2.2 }.putSession id loaded.1

theorem reload_eq (d : Dispatcher engine) (device : DeviceRef) :
    d.reload device = (d.loaded device).warnAcyclic device := rfl

theorem reload_rest (d : Dispatcher engine) (device : DeviceRef) :
    d.reload device =
      { d with host := (d.reload device).host, sessions := (d.reload device).sessions } := by
  obtain ⟨log, _, warned, _, _⟩ := (d.loaded device).warnAcyclic_log device
  rw [reload_eq, warned]
  rfl

theorem loaded_handling (d : Dispatcher engine) (device : DeviceRef) :
    Handling d (d.loaded device) := by
  have loading := Session.load_cases (d.sessionFor (d.host.device device).id) d.host
    (d.host.device device).scriptPath
  refine ⟨loading.calm.trans (calm_afterLoad _ _ _ _), rfl, fun sound => ?_⟩
  obtain ⟨bound, reachable⟩ := sound.sessionFor (d.host.device device).id
  exact sound.put rfl (loading.id_eq.trans bound) (.load _ reachable _ _)

theorem loaded_serving (d : Dispatcher engine) (device : DeviceRef) :
    Serving device (d.reloadExecutions device) d (d.loaded device) := by
  have host := (d.sessionFor (d.host.device device).id).host_load d.host
    (d.host.device device).scriptPath
  refine serving_of_stints (d.loaded_handling device) (fun sound => (sound.sessionFor _).1)
    ⟨rfl, rfl⟩
    (fun key other => Entries.lookup_put_of_ne _ _ other) ?_ (fun called => ?_)
    (d.reload_rest device) (fun key other => ?_) fun _ closed => Or.inr ?_
  · rw [← host]
    exact path_afterLoad _ device _ _
  · rw [← host]
    exact moves_afterLoad _ device called _ _
  · rw [session?_reload, if_neg other]
  · have stored : (d.loaded device).session? (d.host.device device).id =
        some ((d.sessionFor (d.host.device device).id).load d.host
          (d.host.device device).scriptPath).1 := Entries.lookup_put_self _ _ _
    rw [sessionState?, stored, Option.map_some, Option.some.injEq] at closed
    exact Session.load_vain closed

theorem reload_serving (d : Dispatcher engine) (device : DeviceRef) :
    Serving device (d.reloadExecutions device) d (d.reload device) := by
  have serving := (d.loaded_serving device).trans ((d.loaded device).warnAcyclic_serving device)
  rw [List.append_nil] at serving
  exact serving

theorem ensure_serving (d : Dispatcher engine) (device : DeviceRef) :
    Serving device (d.ensureExecutions device) d (d.ensure device) := by
  unfold ensure ensureExecutions
  split
  · exact .refl d
  · exact d.reload_serving device

theorem moves_afterInvoke (host : Host) (device : DeviceRef) (called : HostFunction → Prop)
    (entry : String) (outcome : EntryOutcome) :
    host.Moves device called (afterInvoke host device entry outcome) := by
  cases outcome with
  | failed message => exact .single (.report host .error _)
  | _ => exact .refl

theorem path_afterInvoke (host : Host) (device : DeviceRef) (entry : String)
    (outcome : EntryOutcome) : ((afterInvoke host device entry outcome).device device).scriptPath =
      (host.device device).scriptPath := by
  cases outcome <;> rfl

theorem dispatch_serving (d : Dispatcher engine) (device : DeviceRef) (entry : String)
    (arguments : List Value) :
    Serving device (d.dispatchExecutions device entry arguments) d
      (d.dispatch device entry arguments) := by
  cases held : d.session? (d.host.device device).id with
  | none =>
    simp only [dispatch, dispatchExecutions, held]
    exact .refl d
  | some session =>
    have host := session.host_invoke d.host entry arguments
    have after : d.dispatch device entry arguments =
        putSession { d with
            host := afterInvoke (session.invoke d.host entry arguments).2.1 device entry
              (session.invoke d.host entry arguments).2.2 }
          (d.host.device device).id (session.invoke d.host entry arguments).1 := by
      simp only [dispatch, held]
    have others (id : DeviceId) (other : id ≠ (d.host.device device).id) :
        (d.dispatch device entry arguments).session? id = d.session? id := by
      rw [session?_dispatch held, if_neg other]
    have whole : d.dispatch device entry arguments = { d with
        host := (d.dispatch device entry arguments).host
        sessions := (d.dispatch device entry arguments).sessions } := by
      rw [after]
      rfl
    have rest : (d.dispatch device entry arguments).chooser = d.chooser ∧
        (d.dispatch device entry arguments).lastRefresh = d.lastRefresh := by
      rw [after]
      exact ⟨rfl, rfl⟩
    unfold dispatchExecutions
    rw [held]
    refine serving_of_stints (d.dispatch_handling device entry arguments)
      (fun sound => (sound.of_session? held).1) rest others (Or.inl ?_) (fun called => ?_)
      whole others
      fun sound closed => ?_
    · rw [after, ← host]
      exact path_afterInvoke _ device entry _
    · rw [after, ← host]
      exact moves_afterInvoke _ device called entry _
    · rw [sessionState?, session?_dispatch held, if_pos rfl, Option.map_some, Option.some.injEq]
        at closed
      rw [sessionState?, held, Option.map_some, Option.some.injEq]
      exact Session.invoke_vain (sound.of_session? held).2.settled closed

theorem refresh_serving (d : Dispatcher engine) (device : DeviceRef) :
    Serving device (d.refreshExecutions device) d (d.refresh device) :=
  (d.ensure_serving device).trans (dispatch_serving _ device _ _)

theorem refreshLogged_serving (d : Dispatcher engine) (device : DeviceRef) :
    Serving device (d.refreshExecutions device) d (d.refreshLogged device) := by
  have logged : Serving device [] (d.refresh device) (d.refreshLogged device) :=
    .modifyHost _ (.single (.report _ _ _)) (Or.inl rfl)
  have serving := (d.refresh_serving device).trans logged
  rw [List.append_nil] at serving
  exact serving

theorem chooseScript_serving (d : Dispatcher engine) (device : DeviceRef) :
    Serving device (d.chooseScriptExecutions device) d (d.chooseScript device) := by
  have noted (asked : List Question) : Serving device [] d { d with asked } :=
    .quiet ⟨.refl _, rfl, fun sound => sound.of_sessions_eq rfl⟩ rfl ⟨rfl, rfl⟩
      (fun _ => Or.inl rfl) .refl
  unfold chooseScript chooseScriptExecutions
  dsimp only
  cases chosen : (d.chooser.select d.asked (d.host.device device).name
      (d.host.device device).scriptPath).2 with
  | unchanged => exact noted _
  | reopen => exact (noted _).trans (reload_serving _ device)
  | path path =>
    have asking : d.chooser ≠ .none := by
      intro none
      rw [none] at chosen
      cases chosen
    have moved : Serving device [] { d with asked := (d.chooser.select d.asked
          (d.host.device device).name (d.host.device device).scriptPath).1 }
        (modifyHost { d with asked := (d.chooser.select d.asked
          (d.host.device device).name (d.host.device device).scriptPath).1 }
          fun host => host.setScriptPath device path) :=
      .modifyHost _ (.single (.setScriptPath _ path)) (Or.inr (Or.inr asking))
    exact ((noted _).trans moved).trans (reload_serving _ device)

theorem onSignalChanged_serving (d : Dispatcher engine) (device : DeviceRef) (signal : String) :
    Serving device (d.signalChangedExecutions device signal) (d.register device)
      (d.onSignalChanged device signal) := by
  unfold onSignalChanged signalChangedExecutions
  dsimp only
  cases ((d.register device).host.device device).signals.get? signal with
  | none => exact .refl _
  | some s =>
    dsimp only
    by_cases control : signal = controlSignal
    · rw [if_pos control, if_pos control]
      cases s.value == 1.0 with
      | true => exact chooseScript_serving _ device
      | false => exact .refl _
    · rw [if_neg control, if_neg control]
      cases s.kind.isInput with
      | true => exact (ensure_serving _ device).trans (dispatch_serving _ device _ _)
      | false => exact .refl _

/-- Once its device is registered, the rest of an event serves this device. -/
theorem handle_serving (d : Dispatcher engine) {e : Event} {device : DeviceRef}
    (about : e.device? = some device) :
    Serving device (d.executions e) ((d.prepare e).register device) (d.handle e) := by
  cases e <;> cases about
  case attached => exact .refl _
  case scriptPathChanged => exact reload_serving _ device
  case signalChanged signal => exact d.onSignalChanged_serving device signal
  case stepped => exact (ensure_serving _ device).trans (dispatch_serving _ device _ _)
  case libraryReplaced => exact refresh_serving _ device

/-- What the script of an id still runs when its machine is given up. -/
def farewell (d : Dispatcher engine) (id : DeviceId) : List Stint :=
  match d.session? id with
  | none => []
  | some session => session.releaseStints

/-- To give a machine up is to play this and nothing else. -/
theorem releaseMachine_eq {d : Dispatcher engine} (sound : d.Sound) (id : DeviceId) :
    d.releaseMachine id = d.played id (d.farewell id) ∧ d.executions (.tornDown id) =
      Execution.ofStints (d.host.leadsTo id) (d.releaseMachine id) id d (d.farewell id) := by
  change _ ∧ d.tornDownExecutions id = _
  unfold tornDownExecutions farewell releaseMachine
  cases held : d.session? id with
  | none => exact ⟨rfl, rfl⟩
  | some session =>
    have bound := (sound.of_session? held).1
    have host := session.host_release d.host
    rw [bound] at host
    dsimp only
    rw [bound]
    exact ⟨congrArg (fun host => { d with host }) host, rfl⟩

/-- Where nothing is left to run, nothing happens when a machine is given up. -/
theorem releaseMachine_of_silent {d : Dispatcher engine} (sound : d.Sound) {id : DeviceId}
    (silent : ∀ stint ∈ d.farewell id, stint.run = .done ()) : d.releaseMachine id = d := by
  rw [(releaseMachine_eq sound id).1]
  exact congrArg (fun host => { d with host }) (d.host.playAll_of_silent id _ silent)

/-- In a broadcast every run is framed for the device it refreshes. -/
theorem broadcast_framed {d : Dispatcher engine} (sound : d.Sound) (devices : List DeviceRef)
    (binds : ∀ device ∈ devices, d.host.Binds device) :
    ∀ x ∈ d.broadcastExecutions devices, Handling d x.before ∧ ∃ device ∈ devices,
      x.Framed device := by
  induction devices generalizing d with
  | nil => exact fun _ member => absurd member List.not_mem_nil
  | cons device rest ih =>
    intro x member
    have serving := d.refreshLogged_serving device
    rcases List.mem_append.mp member with now | later
    · exact ⟨serving.started x now, device, List.mem_cons_self,
        serving.framed sound (binds device List.mem_cons_self) x now⟩
    · obtain ⟨started, other, listed, framed⟩ := ih (serving.sound sound)
        (fun other listed => (binds other (List.mem_cons_of_mem _ listed)).calm serving.calm)
        x later
      exact ⟨serving.toHandling.trans started, other, List.mem_cons_of_mem _ listed, framed⟩

/-- A broadcast closes sessions only by calls in vain. -/
theorem broadcast_closed {d : Dispatcher engine} (sound : d.Sound) (devices : List DeviceRef)
    {id : DeviceId} (closed : (d.broadcast devices).sessionState? id = some .closed) :
    d.sessionState? id = some .closed ∨ ∃ x ∈ d.broadcastExecutions devices, none ∈ x.found := by
  induction devices generalizing d with
  | nil => exact Or.inl closed
  | cons device rest ih =>
    have serving := d.refreshLogged_serving device
    rcases ih (serving.sound sound) closed with before | ⟨x, member, vain⟩
    · rcases serving.closed sound id before with earlier | ⟨x, member, vain⟩
      · exact Or.inl earlier
      · exact Or.inr ⟨x, List.mem_append_left _ member, vain⟩
    · exact Or.inr ⟨x, List.mem_append_right _ member, vain⟩

end Dispatcher

end StationScript
