import StationScript.Host.Dispatcher
import StationScript.Proofs.Session.Lifecycle

/-!
What handling does to a dispatcher, once the device of an event is registered: the host stays calm,
and every session remains one that its own operations lead to.
-/

set_option autoImplicit false

namespace StationScript.Dispatcher

variable {engine : Engine}

/-- One session for an id, bound to it. -/
structure Sound (d : Dispatcher engine) : Prop where
  distinct : (Entries.keys d.sessions).Nodup
  bound : ∀ entry ∈ d.sessions, entry.2.id = entry.1
  reachable : ∀ entry ∈ d.sessions, entry.2.Reachable

/-- Soundness is a matter of the sessions alone. -/
theorem Sound.of_sessions_eq {before after : Dispatcher engine} (sound : before.Sound)
    (same : after.sessions = before.sessions) : after.Sound := by
  refine ⟨?_, ?_, ?_⟩
  · rw [same]
    exact sound.distinct
  · rw [same]
    exact sound.bound
  · rw [same]
    exact sound.reachable

structure Handling (before after : Dispatcher engine) : Prop where
  calm : before.host.Calm after.host
  config : after.config = before.config
  sound : before.Sound → after.Sound

namespace Handling

theorem refl (d : Dispatcher engine) : Handling d d := ⟨.refl _, rfl, id⟩

theorem trans {first second third : Dispatcher engine} (left : Handling first second)
    (right : Handling second third) : Handling first third :=
  ⟨left.calm.trans right.calm, right.config.trans left.config, right.sound ∘ left.sound⟩

theorem modifyHost (d : Dispatcher engine) {change : Host → Host}
    (calm : d.host.Calm (change d.host)) : Handling d (d.modifyHost change) :=
  ⟨calm, rfl, fun sound => sound.of_sessions_eq rfl⟩

end Handling

theorem Sound.put {before after : Dispatcher engine} (sound : before.Sound) {id : DeviceId}
    {session : Session engine} (stored : after.sessions = Entries.put before.sessions id session)
    (bound : session.id = id) (reachable : session.Reachable) : after.Sound := by
  constructor
  · rw [stored]
    exact Entries.nodup_keys_put sound.distinct id session
  · intro entry member
    rw [stored] at member
    rcases Entries.mem_put member with rfl | ⟨old, _⟩
    · exact bound
    · exact sound.bound entry old
  · intro entry member
    rw [stored] at member
    rcases Entries.mem_put member with rfl | ⟨old, _⟩
    · exact reachable
    · exact sound.reachable entry old

theorem Sound.of_session? {d : Dispatcher engine} (sound : d.Sound) {id : DeviceId}
    {session : Session engine} (found : d.session? id = some session) :
    session.id = id ∧ session.Reachable :=
  have member := Entries.mem_of_lookup found
  ⟨sound.bound _ member, sound.reachable _ member⟩

theorem Sound.sessionFor {d : Dispatcher engine} (sound : d.Sound) (id : DeviceId) :
    (d.sessionFor id).id = id ∧ (d.sessionFor id).Reachable := by
  unfold Dispatcher.sessionFor
  cases found : d.session? id with
  | none => exact ⟨rfl, .new id⟩
  | some session => exact sound.of_session? found

/-- Warnings about connections are all that is left to log after a load. -/
theorem warnAcyclic_log (d : Dispatcher engine) (device : DeviceRef) :
    ∃ log warnings, d.warnAcyclic device = { d with host := { d.host with log } } ∧
      log.toList = d.host.log.toList ++ warnings ∧ ∀ m ∈ warnings, m.severity = .warning := by
  unfold warnAcyclic
  split
  · exact ⟨d.host.log, [], rfl, by simp, by simp⟩
  · split
    · exact ⟨d.host.log, [], rfl, by simp, by simp⟩
    · obtain ⟨log, whole, messages⟩ := d.host.foldl_report .warning _
      refine ⟨log, _, congrArg (fun host => { d with host }) whole, messages, ?_⟩
      intro m member
      obtain ⟨text, _, rfl⟩ := List.mem_map.mp member
      rfl

theorem warnAcyclic_handling (d : Dispatcher engine) (device : DeviceRef) :
    Handling d (d.warnAcyclic device) := by
  unfold warnAcyclic
  split
  · exact .refl d
  · split
    · exact .refl d
    · exact .modifyHost d (Host.calm_foldl_report _ _ _)

theorem calm_afterLoad (host : Host) (device : DeviceRef) (state : SessionState)
    (result : Except ScriptError Unit) : host.Calm (afterLoad host device state result) := by
  unfold afterLoad
  split
  · split
    · exact host.calm_setStatus device _
    · exact .refl host
  · rename_i e
    dsimp only
    have reported := host.calm_report .error (host.nameOf device ++ ": " ++ e.message ++ ".")
    split
    · exact (reported.trans (Host.calm_setScriptPath _ device "")).trans
        (Host.calm_setStatus _ device e.status)
    · exact reported

theorem reload_handling (d : Dispatcher engine) (device : DeviceRef) :
    Handling d (d.reload device) := by
  have loading := Session.load_cases (d.sessionFor (d.host.device device).id) d.host
    (d.host.device device).scriptPath
  unfold reload
  refine Handling.trans ?_ (warnAcyclic_handling _ device)
  refine ⟨loading.calm.trans (calm_afterLoad _ _ _ _), rfl, fun sound => ?_⟩
  obtain ⟨bound, reachable⟩ := sound.sessionFor (d.host.device device).id
  exact sound.put rfl (loading.id_eq.trans bound) (.load _ reachable _ _)

/-- A load stores a session under its device's id, and no other. -/
theorem session?_reload (d : Dispatcher engine) (device : DeviceRef) (id : DeviceId) :
    (d.reload device).session? id = if id = (d.host.device device).id then
      some ((d.sessionFor id).load d.host (d.host.device device).scriptPath).1
    else d.session? id := by
  obtain ⟨log, _, whole, _⟩ := @warnAcyclic_log engine _ device
  unfold reload
  rw [whole]
  split
  · rename_i same
    rw [same]
    exact Entries.lookup_put_self _ _ _
  · exact Entries.lookup_put_of_ne _ _ ‹_›

theorem ensure_handling (d : Dispatcher engine) (device : DeviceRef) :
    Handling d (d.ensure device) := by
  unfold ensure
  split
  · exact .refl d
  · exact d.reload_handling device

theorem calm_afterInvoke (host : Host) (device : DeviceRef) (entry : String)
    (outcome : EntryOutcome) : host.Calm (afterInvoke host device entry outcome) := by
  cases outcome with
  | failed message => exact host.calm_report .error _
  | _ => exact .refl host

theorem dispatch_handling (d : Dispatcher engine) (device : DeviceRef) (entry : String)
    (arguments : List Value) : Handling d (d.dispatch device entry arguments) := by
  unfold dispatch
  dsimp only
  split
  · exact .refl d
  · rename_i session found
    have invoking := Session.invoke_cases session d.host entry arguments
    refine ⟨invoking.calm.trans (calm_afterInvoke _ _ _ _), rfl, fun sound => ?_⟩
    obtain ⟨bound, reachable⟩ := sound.of_session? found
    exact sound.put rfl (invoking.id_eq.trans bound) (.invoke _ reachable _ _ _)

/-- A call stores the session of its device, and no other. -/
theorem session?_dispatch {d : Dispatcher engine} {device : DeviceRef} {session : Session engine}
    (held : d.session? (d.host.device device).id = some session) (entry : String)
    (arguments : List Value) (id : DeviceId) :
    (d.dispatch device entry arguments).session? id = if id = (d.host.device device).id then
      some (session.invoke d.host entry arguments).1
    else d.session? id := by
  simp only [dispatch, held]
  split
  · rename_i same
    rw [same]
    exact Entries.lookup_put_self _ _ _
  · exact Entries.lookup_put_of_ne _ _ ‹_›

theorem refresh_handling (d : Dispatcher engine) (device : DeviceRef) :
    Handling d (d.refresh device) :=
  (d.ensure_handling device).trans (dispatch_handling _ device _ _)

theorem refreshLogged_handling (d : Dispatcher engine) (device : DeviceRef) :
    Handling d (d.refreshLogged device) :=
  (d.refresh_handling device).trans (.modifyHost _ (Host.calm_report _ _ _))

theorem broadcast_handling (d : Dispatcher engine) (devices : List DeviceRef) :
    Handling d (d.broadcast devices) := by
  unfold broadcast
  induction devices generalizing d with
  | nil => exact .refl d
  | cons device rest ih => exact (d.refreshLogged_handling device).trans (ih _)

theorem chooseScript_handling (d : Dispatcher engine) (device : DeviceRef) :
    Handling d (d.chooseScript device) := by
  unfold chooseScript
  dsimp only
  have noted (asked : List Question) : Handling d { d with asked } :=
    ⟨.refl _, rfl, fun sound => sound.of_sessions_eq rfl⟩
  split
  · exact noted _
  · exact (noted _).trans (reload_handling _ device)
  · rename_i path _
    exact ((noted _).trans (.modifyHost _ (Host.calm_setScriptPath _ device path))).trans
      (reload_handling _ device)

theorem onLogMessage_handling (d : Dispatcher engine) (now : Nat) (text : String)
    (order : Listing) : Handling d (d.onLogMessage now text order).1 := by
  unfold onLogMessage
  split
  · exact .refl d
  · have swept : Handling d { d with host := d.host.sweep } :=
      ⟨d.host.calm_sweep, rfl, fun sound => sound.of_sessions_eq rfl⟩
    have refreshed := swept.trans
      (broadcast_handling _ (order.arrange d.host.sweep.registry.devices))
    exact ⟨refreshed.calm, refreshed.config, fun sound =>
      (refreshed.sound sound).of_sessions_eq rfl⟩

/-- The dispatcher ignores what is written in the host's own name. -/
theorem onLogMessage_of_owns {d : Dispatcher engine} {text : String}
    (own : d.host.owns text = true) (now : Nat) (order : Listing) :
    d.onLogMessage now text order = (d, false) := by
  unfold onLogMessage asksForRefresh
  rw [own]
  rfl

/-- What any event does: besides handling, devices are registered or forgotten. -/
structure Advance (before after : Dispatcher engine) : Prop where
  host : before.host.Advance after.host
  config : after.config = before.config
  sound : before.Sound → after.Sound

theorem Handling.advance {before after : Dispatcher engine} (handling : Handling before after) :
    Advance before after :=
  ⟨handling.calm.toAdvance, handling.config, handling.sound⟩

namespace Advance

theorem refl (d : Dispatcher engine) : Advance d d := ⟨.refl _, rfl, id⟩

theorem trans {first second third : Dispatcher engine} (left : Advance first second)
    (right : Advance second third) : Advance first third :=
  ⟨left.host.trans right.host, right.config.trans left.config, right.sound ∘ left.sound⟩

theorem modifyHost (d : Dispatcher engine) {change : Host → Host}
    (host : d.host.Advance (change d.host)) : Advance d (d.modifyHost change) :=
  ⟨host, rfl, fun sound => sound.of_sessions_eq rfl⟩

theorem foldl {α : Type} {step : Dispatcher engine → α → Dispatcher engine}
    (each : ∀ d a, Advance d (step d a)) (items : List α) (d : Dispatcher engine) :
    Advance d (items.foldl step d) := by
  induction items generalizing d with
  | nil => exact .refl d
  | cons a rest ih => exact (each d a).trans (ih _)

end Advance

theorem register_advance (d : Dispatcher engine) (device : DeviceRef) :
    Advance d (d.register device) :=
  .modifyHost d (d.host.advance_register device)

theorem onSignalChanged_handling (d : Dispatcher engine) (device : DeviceRef) (signal : String) :
    Handling (d.register device) (d.onSignalChanged device signal) := by
  unfold onSignalChanged
  dsimp only
  split
  · exact .refl _
  · split
    · split
      · exact chooseScript_handling _ device
      · exact .refl _
    · split
      · exact (ensure_handling _ device).trans (dispatch_handling _ device _ _)
      · exact .refl _

theorem beginStep_handling (d : Dispatcher engine) (device : DeviceRef) (time : Float) :
    Handling d (d.beginStep device time) := by
  unfold beginStep
  dsimp only
  refine Handling.trans (.modifyHost d ?_) (.modifyHost _ ?_)
  · split
    · exact .refl _
    · exact Host.calm_modifyPlant _ (.propagate _ _ _)
  · exact ⟨⟨.of_log_eq rfl rfl, rfl, rfl, .refl _⟩, Or.inl rfl⟩

/-- To give a machine up changes nothing but the host. -/
theorem releaseMachine_rest (d : Dispatcher engine) (id : DeviceId) :
    d.releaseMachine id = { d with host := (d.releaseMachine id).host } := by
  unfold releaseMachine
  split <;> rfl

/-- To give a machine up is calm, and touches no session. -/
theorem releaseMachine_handling (d : Dispatcher engine) (id : DeviceId) :
    Handling d (d.releaseMachine id) := by
  unfold releaseMachine
  split
  · exact .refl d
  · rename_i session _
    exact .modifyHost d (session.release_calm d.host)

theorem forget_advance (d : Dispatcher engine) (id : DeviceId) : Advance d (d.forget id) := by
  refine ⟨⟨.of_log_eq rfl rfl, rfl, rfl, .refl _⟩, rfl,
    fun sound => ⟨Entries.nodup_keys_filter sound.distinct _, ?_, ?_⟩⟩
  · intro entry member
    exact sound.bound entry (List.mem_filter.mp member).1
  · intro entry member
    exact sound.reachable entry (List.mem_filter.mp member).1

theorem teardown_advance (d : Dispatcher engine) (id : DeviceId) : Advance d (d.teardown id) :=
  (d.releaseMachine_handling id).advance.trans (forget_advance _ id)

end StationScript.Dispatcher
