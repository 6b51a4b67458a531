import StationScript.Proofs.Dispatcher.Serving

/-!
Where times are recorded. An event records one only when it begins a step of its device; no script
changes a time, so that all runs of an event find the same.
-/

set_option autoImplicit false

namespace StationScript

namespace SimulationTimes

theorem last_record (times : SimulationTimes) (own id : DeviceId) (time : Float) :
    (times.record own time).last id = if id = own then time else times.last id := by
  unfold record last
  by_cases same : id = own
  · rw [if_pos same, same, Entries.lookup_put_self]
    rfl
  · rw [if_neg same, Entries.lookup_put_of_ne _ _ same]

theorem last_forget (times : SimulationTimes) (own id : DeviceId) :
    (times.forget own).last id = if id = own then neverSimulated else times.last id := by
  unfold forget last
  by_cases same : id = own
  · rw [if_pos same, same, Entries.lookup_erase_self]
    rfl
  · rw [if_neg same, Entries.lookup_erase_of_ne _ same]

end SimulationTimes

theorem Host.times_playAll (host : Host) (id : DeviceId) (stints : List Stint) :
    (host.playAll id stints).times = host.times :=
  (host.playAll_frame_leads id stints).times

namespace Dispatcher

variable {engine : Engine}

/-- No time was recorded between these two dispatchers, and these runs were started. -/
structure Timeless (before after : Dispatcher engine) (runs : List (Execution engine)) : Prop where
  times : after.host.times = before.host.times
  runs : ∀ x ∈ runs, x.before.host.times = before.host.times

namespace Timeless

theorem quiet {before after : Dispatcher engine} (times : after.host.times = before.host.times) :
    Timeless before after [] :=
  ⟨times, fun _ member => absurd member List.not_mem_nil⟩

theorem trans {first second third : Dispatcher engine} {front back : List (Execution engine)}
    (left : Timeless first second front) (right : Timeless second third back) :
    Timeless first third (front ++ back) := by
  refine ⟨right.times.trans left.times, fun x member => ?_⟩
  rcases List.mem_append.mp member with early | late
  · exact left.runs x early
  · exact (right.runs x late).trans left.times

/-- What comes before does not count if it records nothing. -/
theorem behind {first second third : Dispatcher engine} {runs : List (Execution engine)}
    (times : second.host.times = first.host.times) (rest : Timeless second third runs) :
    Timeless first third runs :=
  (quiet times).trans rest

end Timeless

theorem warnAcyclic_timeless (d : Dispatcher engine) (device : DeviceRef) :
    Timeless d (d.warnAcyclic device) [] := by
  obtain ⟨log, _, whole, _⟩ := d.warnAcyclic_log device
  exact .quiet (by rw [whole])

theorem times_afterLoad (host : Host) (device : DeviceRef) (state : SessionState)
    (result : Except ScriptError Unit) :
    (afterLoad host device state result).times = host.times := by
  unfold afterLoad
  split
  · split <;> rfl
  · dsimp only
    split <;> rfl

theorem reload_timeless (d : Dispatcher engine) (device : DeviceRef) :
    Timeless d (d.reload device) (d.reloadExecutions device) := by
  have loaded : Timeless d (d.loaded device) (d.reloadExecutions device) := by
    refine ⟨?_, fun x member => ?_⟩
    · refine (times_afterLoad _ device _ _).trans ?_
      rw [Session.host_load, Host.times_playAll]
    · obtain ⟨stints, before⟩ := mem_reloadExecutions member
      rw [before]
      exact d.host.times_playAll _ stints
  have warned := loaded.trans ((d.loaded device).warnAcyclic_timeless device)
  rw [List.append_nil] at warned
  exact warned

theorem ensure_timeless (d : Dispatcher engine) (device : DeviceRef) :
    Timeless d (d.ensure device) (d.ensureExecutions device) := by
  unfold ensure ensureExecutions
  split
  · exact .quiet rfl
  · exact d.reload_timeless device

theorem times_dispatch (d : Dispatcher engine) (device : DeviceRef) (entry : String)
    (arguments : List Value) : (d.dispatch device entry arguments).host.times = d.host.times := by
  unfold dispatch
  dsimp only
  split
  · rfl
  · rename_i session _
    have invoked : (session.invoke d.host entry arguments).2.1.times = d.host.times := by
      rw [Session.host_invoke, Host.times_playAll]
    unfold afterInvoke
    dsimp only [putSession]
    split <;> exact invoked

theorem dispatch_timeless (d : Dispatcher engine) (device : DeviceRef) (entry : String)
    (arguments : List Value) : Timeless d (d.dispatch device entry arguments)
      (d.dispatchExecutions device entry arguments) := by
  refine ⟨d.times_dispatch device entry arguments, fun x member => ?_⟩
  obtain ⟨session, _, stints, before⟩ := mem_dispatchExecutions member
  rw [before]
  exact d.host.times_playAll _ stints

theorem refresh_timeless (d : Dispatcher engine) (device : DeviceRef) :
    Timeless d (d.refresh device) (d.refreshExecutions device) :=
  (d.ensure_timeless device).trans (dispatch_timeless _ device _ _)

theorem broadcast_timeless (d : Dispatcher engine) (devices : List DeviceRef) :
    Timeless d (d.broadcast devices) (d.broadcastExecutions devices) := by
  induction devices generalizing d with
  | nil => exact .quiet rfl
  | cons device rest ih =>
    have logged : Timeless d (d.refreshLogged device) (d.refreshExecutions device) :=
      ⟨(d.refresh_timeless device).times, (d.refresh_timeless device).runs⟩
    exact logged.trans (ih (d.refreshLogged device))

/-- What was asked of the user meanwhile has nothing to do with times. -/
theorem chooseScript_timeless (d : Dispatcher engine) (device : DeviceRef) :
    Timeless d (d.chooseScript device) (d.chooseScriptExecutions device) := by
  unfold chooseScript chooseScriptExecutions
  dsimp only
  generalize
    d.chooser.select d.asked (d.host.device device).name (d.host.device device).scriptPath =
    chosen
  have reloaded (located : Dispatcher engine) (times : located.host.times = d.host.times) :
      Timeless d (located.reload device) (located.reloadExecutions device) :=
    .behind times (located.reload_timeless device)
  cases chosen.2 with
  | unchanged => exact .quiet rfl
  | reopen => exact reloaded { d with asked := chosen.1 } rfl
  | path path =>
    exact reloaded (({ d with asked := chosen.1 } : Dispatcher engine).modifyHost fun host =>
      host.setScriptPath device path) rfl

theorem times_register (d : Dispatcher engine) (device : DeviceRef) :
    (d.register device).host.times = d.host.times := d.host.times_sweep

theorem onSignalChanged_timeless (d : Dispatcher engine) (device : DeviceRef) (signal : String) :
    Timeless d (d.onSignalChanged device signal) (d.signalChangedExecutions device signal) := by
  refine .behind (d.times_register device) ?_
  unfold onSignalChanged signalChangedExecutions
  dsimp only
  cases ((d.register device).host.device device).signals.get? signal with
  | none => exact .quiet rfl
  | some s =>
    dsimp only
    split
    · split
      · exact chooseScript_timeless _ device
      · exact .quiet rfl
    · split
      · exact (ensure_timeless _ device).trans (dispatch_timeless _ device _ _)
      · exact .quiet rfl

theorem onLogMessage_timeless (d : Dispatcher engine) (now : Nat) (text : String)
    (order : Listing) :
    Timeless d (d.onLogMessage now text order).1 (d.loggedExecutions now text order) := by
  unfold onLogMessage loggedExecutions
  split
  · exact .quiet rfl
  · have swept : Timeless d { d with host := d.host.sweep } [] := .quiet d.host.times_sweep
    have broadcast := swept.trans (broadcast_timeless _ (d.host.liveDevices order).2)
    exact ⟨broadcast.times, broadcast.runs⟩

/-- A step begins by recording its time, and that is all. -/
theorem stepped_timeless (d : Dispatcher engine) (device : DeviceRef) (time : Float) :
    Timeless (d.beginStep device time) (d.handle (.stepped device time))
      (d.executions (.stepped device time)) :=
  .behind (times_register _ device)
    ((ensure_timeless _ device).trans (dispatch_timeless _ device _ _))

/-- A step records the time under the id of its device, and nothing else comes before the
registration that could record one. -/
theorem times_beginStep (d : Dispatcher engine) (device : DeviceRef) (time : Float) :
    (d.beginStep device time).host.times = d.host.times.record (d.host.device device).id time := by
  have id : ((d.beginStep device time).host.device device).id = (d.host.device device).id :=
    (d.beginStep_handling device time).calm.layout.id_eq device
  rw [← id]
  unfold beginStep
  dsimp only [modifyHost]
  split <;> rfl

/-- To give a machine up changes no time. -/
theorem releaseMachine_timeless (d : Dispatcher engine) (id : DeviceId) :
    Timeless d (d.releaseMachine id) (d.tornDownExecutions id) := by
  unfold releaseMachine tornDownExecutions
  cases d.session? id with
  | none => exact .quiet rfl
  | some session =>
    refine ⟨?_, fun x member => ?_⟩
    · change (session.release d.host).2.times = d.host.times
      rw [Session.host_release, Host.times_playAll]
    · obtain ⟨front, stint, back, _, rfl⟩ := Execution.mem_ofStints.mp member
      exact d.host.times_playAll _ front

/-- Once what comes before the registration is done, no event but a teardown changes a time. -/
theorem handle_timeless (d : Dispatcher engine) {e : Event} (kept : ∀ id, e ≠ .tornDown id) :
    Timeless (d.prepare e) (d.handle e) (d.executions e) := by
  cases e with
  | attached device => exact .quiet (d.times_register device)
  | scriptPathChanged device =>
    exact .behind (d.times_register device) (reload_timeless _ device)
  | signalChanged device signal => exact d.onSignalChanged_timeless device signal
  | stepped device time => exact d.stepped_timeless device time
  | libraryReplaced device =>
    exact .behind (d.times_register device) (refresh_timeless _ device)
  | logged now text order => exact d.onLogMessage_timeless now text order
  | tornDown id => exact absurd rfl (kept id)

end Dispatcher

end StationScript
