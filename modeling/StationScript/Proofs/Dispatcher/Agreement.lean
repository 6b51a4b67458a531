import Mathlib.Data.List.Forall2
import StationScript.Proofs.Dispatcher.Refresh
import StationScript.Proofs.Host.Agreement

/-!
Dispatchers that agree. They hold the same under each id, in whatever order, and everything else is
the same. Every event starts the same runs in both, and leaves them in agreement.
-/

set_option autoImplicit false

namespace StationScript

theorem Host.playsAlike_agree (id : DeviceId) : Host.PlaysAlike id Host.Agree :=
  fun agree _ run => agree.play id run false

namespace Dispatcher

variable {engine : Engine}

/-- Nothing but the order of what is held for ids tells the dispatchers apart. -/
structure Agree (one other : Dispatcher engine) : Prop where
  host : one.host.Agree other.host
  sessions : ∀ id, other.session? id = one.session? id
  rest : other = { one with host := other.host, sessions := other.sessions }

namespace Agree

variable {one other : Dispatcher engine}

theorem device_eq (agree : Agree one other) (device : DeviceRef) :
    other.host.device device = one.host.device device :=
  congrArg (fun plant : Plant => plant.device device) agree.host.plant

theorem sessionFor_eq (agree : Agree one other) (id : DeviceId) :
    other.sessionFor id = one.sessionFor id :=
  congrArg (Option.getD · (Session.new id)) (agree.sessions id)

theorem modifyHost (agree : Agree one other) (left right : Host → Host)
    (host : (left one.host).Agree (right other.host)) :
    Agree (one.modifyHost left) (other.modifyHost right) := by
  refine ⟨host, agree.sessions, ?_⟩
  have rest := congrArg (fun d : Dispatcher engine => d.modifyHost right) agree.rest
  exact rest

theorem register (agree : Agree one other) (device : DeviceRef) :
    Agree (one.register device) (other.register device) :=
  agree.modifyHost _ _ (agree.host.register device)

/-- The same session is stored on both sides. -/
theorem put (agree : Agree one other) {left right : Host} (host : left.Agree right) (id : DeviceId)
    {session again : Session engine} (same : again = session) :
    Agree ({ one with host := left }.putSession id session)
      ({ other with host := right }.putSession id again) := by
  subst same
  refine ⟨host, fun key => ?_, ?_⟩
  · have before := agree.sessions key
    unfold session? putSession at *
    dsimp only at *
    by_cases own : key = id
    · rw [own, Entries.lookup_put_self, Entries.lookup_put_self]
    · rw [Entries.lookup_put_of_ne _ _ own, Entries.lookup_put_of_ne _ _ own, before]
  · have rest := congrArg (fun d : Dispatcher engine =>
      { d with host := right, sessions := Entries.put other.sessions id again }) agree.rest
    exact rest

end Agree

theorem afterLoad_agree {one other : Host} (agree : one.Agree other) (device : DeviceRef)
    (state : SessionState) (result : Except ScriptError Unit) :
    (afterLoad one device state result).Agree (afterLoad other device state result) := by
  unfold afterLoad
  cases result with
  | ok done =>
    dsimp only
    split
    · exact agree.modifyPlant _
    · exact agree
  | error e =>
    dsimp only
    rw [agree.nameOf]
    split
    · exact ((agree.report _ _).modifyPlant _).modifyPlant _
    · exact agree.report _ _

theorem afterInvoke_agree {one other : Host} (agree : one.Agree other) (device : DeviceRef)
    (entry : String) (outcome : EntryOutcome) :
    (afterInvoke one device entry outcome).Agree (afterInvoke other device entry outcome) := by
  cases outcome with
  | failed message =>
    unfold afterInvoke
    dsimp only
    rw [agree.nameOf]
    exact agree.report _ _
  | _ => exact agree

theorem warnAcyclic_agree {one other : Dispatcher engine} (agree : Agree one other)
    (device : DeviceRef) : Agree (one.warnAcyclic device) (other.warnAcyclic device) := by
  have config : other.config = one.config := by rw [agree.rest]
  unfold warnAcyclic
  rw [config, agree.host.plant, agree.host.nameOf]
  split
  · exact agree
  · split
    · exact agree
    · apply agree.modifyHost
      apply agree.host.map (fun host => List.foldl Host.warn host _)
      · exact fun times => one.host.foldl_report_withTimes times .warning _
      · obtain ⟨log, whole, _⟩ := one.host.foldl_report .warning _
        have kept := congrArg Host.times whole
        exact kept

/-- The same run of a script, in dispatchers that agree before and after it. -/
structure RunsAlike (x y : Execution engine) : Prop where
  stint : y.toStint = x.toStint
  id : y.id = x.id
  device? : y.device? = x.device?
  before : x.before.Agree y.before
  after : x.after.Agree y.after

namespace RunsAlike

variable {x y : Execution engine} (alike : RunsAlike x y)
include alike

theorem found_calls : y.found = x.found ∧ y.calls = x.calls := by
  unfold Execution.found Execution.calls
  rw [alike.id, alike.stint]
  exact alike.before.host.lookups x.id x.run

theorem host : x.host.Agree y.host := by
  unfold Execution.host
  rw [alike.id, alike.stint]
  exact (alike.before.host.play x.id x.run false).2

end RunsAlike

/-- The same stints. -/
theorem RunsAlike.ofStints {before before' after after' : Dispatcher engine}
    (start : Agree before before') (finish : Agree after after') (device? : Option DeviceRef)
    (id : DeviceId) (stints : List Stint) :
    List.Forall₂ RunsAlike (Execution.ofStints device? after id before stints)
      (Execution.ofStints device? after' id before' stints) := by
  induction stints generalizing before before' with
  | nil => exact .nil
  | cons stint rest ih =>
    have played : Agree (before.played id [stint]) (before'.played id [stint]) :=
      start.modifyHost (fun host => host.playAll id [stint]) (fun host => host.playAll id [stint])
        (start.host.play id stint.run false).2
    exact .cons ⟨rfl, rfl, rfl, start, finish⟩ (ih played)

/-- What one dispatcher does and what the other one does agree: they leave themselves in agreement,
and start the same runs. -/
structure DoesAlike (one other : Dispatcher engine) (runs runs' : List (Execution engine)) :
    Prop where
  agree : Agree one other
  runs : List.Forall₂ RunsAlike runs runs'

namespace DoesAlike

/-- Nothing is run. -/
theorem quiet {one other : Dispatcher engine} (agree : Agree one other) :
    DoesAlike one other ([] : List (Execution engine)) [] :=
  ⟨agree, .nil⟩

theorem trans {one other : Dispatcher engine} {front front' back back' : List (Execution engine)}
    (first : List.Forall₂ RunsAlike front front') (second : DoesAlike one other back back') :
    DoesAlike one other (front ++ back) (front' ++ back') :=
  ⟨second.agree, List.rel_append first second.runs⟩

end DoesAlike

section Serving

variable {one other : Dispatcher engine} (agree : Agree one other) (device : DeviceRef)
include agree

theorem reload_agree : DoesAlike (one.reload device) (other.reload device)
    (one.reloadExecutions device) (other.reloadExecutions device) := by
  have own := agree.device_eq device
  have session := agree.sessionFor_eq (one.host.device device).id
  obtain ⟨after, result, hosts, stints⟩ := Session.load_congr
    (one.sessionFor (one.host.device device).id) (Host.playsAlike_agree _) agree.host
    (one.host.device device).scriptPath (.inr (by rw [agree.host.files]))
  have loaded : Agree (one.loaded device) (other.loaded device) := by
    unfold loaded
    dsimp only
    rw [own, session, after, result]
    exact agree.put (afterLoad_agree hosts device _ _) _ rfl
  have reloaded : Agree (one.reload device) (other.reload device) := warnAcyclic_agree loaded device
  refine ⟨reloaded, ?_⟩
  unfold reloadExecutions
  dsimp only
  rw [own, session, stints]
  exact RunsAlike.ofStints agree reloaded _ _ _

theorem ensure_agree : DoesAlike (one.ensure device) (other.ensure device)
    (one.ensureExecutions device) (other.ensureExecutions device) := by
  have reloaded := reload_agree agree device
  unfold ensure ensureExecutions
  rw [agree.device_eq, agree.sessions]
  split
  · exact .quiet agree
  · exact reloaded

theorem dispatch_agree (entry : String) (arguments : List Value) :
    DoesAlike (one.dispatch device entry arguments) (other.dispatch device entry arguments)
      (one.dispatchExecutions device entry arguments)
      (other.dispatchExecutions device entry arguments) := by
  have dispatched : Agree (one.dispatch device entry arguments)
      (other.dispatch device entry arguments) := by
    unfold dispatch
    dsimp only
    rw [agree.device_eq, agree.sessions]
    split
    · exact agree
    · rename_i session _
      obtain ⟨after, result, hosts, _⟩ := Session.invoke_congr session
        (Host.playsAlike_agree _) agree.host entry arguments
      rw [result]
      exact agree.put (afterInvoke_agree hosts device entry _) _ after
  refine ⟨dispatched, ?_⟩
  unfold dispatchExecutions
  rw [agree.device_eq, agree.sessions]
  split
  · exact .nil
  · rename_i session _
    obtain ⟨_, _, _, stints⟩ := Session.invoke_congr session
      (Host.playsAlike_agree _) agree.host entry arguments
    rw [stints]
    exact RunsAlike.ofStints agree dispatched _ _ _

theorem ensured_agree (entry : String) (arguments : List Value) :
    DoesAlike ((one.ensure device).dispatch device entry arguments)
      ((other.ensure device).dispatch device entry arguments)
      (one.ensureExecutions device ++ (one.ensure device).dispatchExecutions device entry arguments)
      (other.ensureExecutions device ++
        (other.ensure device).dispatchExecutions device entry arguments) := by
  have ensured := ensure_agree agree device
  exact .trans ensured.runs (dispatch_agree ensured.agree device entry arguments)

theorem chooseScript_agree : DoesAlike (one.chooseScript device) (other.chooseScript device)
    (one.chooseScriptExecutions device) (other.chooseScriptExecutions device) := by
  have noted (asked : List Question) : Agree { one with asked } { other with asked } := by
    have rest := congrArg (fun d : Dispatcher engine => { d with asked }) agree.rest
    exact ⟨agree.host, agree.sessions, rest⟩
  have same : other.chooser.select other.asked (other.host.device device).name
      (other.host.device device).scriptPath = one.chooser.select one.asked
      (one.host.device device).name (one.host.device device).scriptPath := by
    rw [agree.device_eq, agree.rest]
  unfold chooseScript chooseScriptExecutions
  dsimp only
  rw [same]
  generalize one.chooser.select one.asked (one.host.device device).name
    (one.host.device device).scriptPath = chosen
  cases chosen.2 with
  | unchanged => exact .quiet (noted _)
  | reopen => exact reload_agree (noted _) device
  | path path =>
    apply reload_agree _ device
    exact (noted chosen.1).modifyHost _ _ (agree.host.modifyPlant _)

theorem onSignalChanged_agree (signal : String) :
    DoesAlike (one.onSignalChanged device signal) (other.onSignalChanged device signal)
      (one.signalChangedExecutions device signal)
      (other.signalChangedExecutions device signal) := by
  have registered := agree.register device
  unfold onSignalChanged signalChangedExecutions
  dsimp only
  rw [registered.device_eq]
  cases ((one.register device).host.device device).signals.get? signal with
  | none => exact .quiet registered
  | some s =>
    dsimp only
    split
    · split
      · exact chooseScript_agree registered device
      · exact .quiet registered
    · split
      · exact ensured_agree registered device _ _
      · exact .quiet registered

theorem recordTime_agree (time : Float) :
    Agree (one.modifyHost fun host => host.recordTime (host.device device).id time)
      (other.modifyHost fun host => host.recordTime (host.device device).id time) := by
  apply agree.modifyHost
  rw [agree.device_eq]
  exact agree.host.recordTime _ time

/-- The same connections carry the same values, and the same time is recorded. -/
theorem beginStep_agree (time : Float) :
    Agree (one.beginStep device time) (other.beginStep device time) := by
  unfold beginStep
  apply recordTime_agree
  apply agree.modifyHost
  rw [agree.host.plant]
  split
  · exact agree.host
  · exact agree.host.modifyPlant _

/-- The devices of a broadcast have their turns in the same way. -/
theorem broadcast_agree (devices : List DeviceRef) :
    DoesAlike (one.broadcast devices) (other.broadcast devices)
      (one.broadcastExecutions devices) (other.broadcastExecutions devices) := by
  induction devices generalizing one other with
  | nil => exact .quiet agree
  | cons device rest ih =>
    have refreshed : DoesAlike (one.refresh device) (other.refresh device)
        (one.refreshExecutions device) (other.refreshExecutions device) :=
      ensured_agree agree device _ _
    have logged : Agree (one.refreshLogged device) (other.refreshLogged device) := by
      apply refreshed.agree.modifyHost
      rw [refreshed.agree.host.nameOf]
      exact refreshed.agree.host.report _ _
    exact .trans refreshed.runs (ih logged)

theorem onLogMessage_agree (now : Nat) (text : String) (order : Listing) :
    DoesAlike (one.onLogMessage now text order).1 (other.onLogMessage now text order).1
      (one.loggedExecutions now text order) (other.loggedExecutions now text order) := by
  have asks : other.asksForRefresh text = one.asksForRefresh text := by
    rw [agree.rest, agree.host.whole]
    rfl
  have within : other.withinWindow now = one.withinWindow now := by
    rw [agree.rest]
    rfl
  have swept : Agree one.swept other.swept := agree.modifyHost _ _ agree.host.sweep
  have devices : other.host.sweep.registry.devices = one.host.sweep.registry.devices := by
    rw [agree.host.sweep.registry]
  have refreshed := broadcast_agree swept (one.host.liveDevices order).2
  unfold onLogMessage loggedExecutions
  rw [asks, within]
  split
  · exact .quiet agree
  · unfold Host.liveDevices
    dsimp only
    rw [devices]
    have rest := congrArg (fun d : Dispatcher engine => { d with lastRefresh := some now })
      refreshed.agree.rest
    exact ⟨⟨refreshed.agree.host, refreshed.agree.sessions, rest⟩, refreshed.runs⟩

/-- The same machine is given up. -/
theorem releaseMachine_agree (id : DeviceId) :
    DoesAlike (one.releaseMachine id) (other.releaseMachine id) (one.tornDownExecutions id)
      (other.tornDownExecutions id) := by
  have released : Agree (one.releaseMachine id) (other.releaseMachine id) := by
    unfold releaseMachine
    rw [agree.sessions]
    split
    · exact agree
    · rename_i session _
      apply agree.modifyHost
      exact (Session.release_congr session (Host.playsAlike_agree _) agree.host).2
  refine ⟨released, ?_⟩
  unfold tornDownExecutions
  rw [agree.sessions, agree.host.leadsTo_eq]
  split
  · exact .nil
  · exact RunsAlike.ofStints agree released _ _ _

theorem forget_agree (id : DeviceId) : Agree (one.forget id) (other.forget id) := by
  have forgotten := agree.host.forgetTime id
  have host := forgotten.map (fun host => (host.unregister id).1) (fun _ => rfl) rfl
  refine ⟨host, fun key => ?_, ?_⟩
  · have before := agree.sessions key
    change (Entries.erase other.sessions id).lookup key = (Entries.erase one.sessions id).lookup key
    by_cases own : key = id
    · rw [own, Entries.lookup_erase_self, Entries.lookup_erase_self]
    · rw [Entries.lookup_erase_of_ne _ own, Entries.lookup_erase_of_ne _ own]
      exact before
  · have rest := congrArg (fun d : Dispatcher engine => d.forget id) agree.rest
    exact rest

/-- Every event is handled in the same way. -/
theorem handle_agree (e : Event) :
    DoesAlike (one.handle e) (other.handle e) (one.executions e) (other.executions e) := by
  cases e with
  | attached device => exact .quiet (agree.register device)
  | scriptPathChanged device => exact reload_agree (agree.register device) device
  | signalChanged device signal => exact onSignalChanged_agree agree device signal
  | stepped device time =>
    exact ensured_agree ((beginStep_agree agree device time).register device) device _ _
  | libraryReplaced device => exact ensured_agree (agree.register device) device _ _
  | logged now text order => exact onLogMessage_agree agree now text order
  | tornDown id =>
    have released := releaseMachine_agree agree id
    exact ⟨forget_agree released.agree id, released.runs⟩

end Serving

end Dispatcher

end StationScript
