import StationScript.Proofs.Dispatcher.Serving
import StationScript.Proofs.Host.Twin

/-!
Dispatchers that one device cannot tell apart. A refresh of the device makes the same calls in both,
leaves the same behind and writes the same messages.
-/

set_option autoImplicit false

namespace StationScript

/-- Both hosts attend to the device, whose id this is, and it cannot tell them apart. -/
structure Host.Companions (device : DeviceRef) (front back : List LogMessage) (id : DeviceId)
    (one other : Host) : Prop where
  attends : one.Attends device
  also : other.Attends device
  twin : Host.Twin device front back one other
  own : id = (one.device device).id

theorem Host.Companions.play {device : DeviceRef} {front back : List LogMessage} {id : DeviceId}
    {one other : Host} (companions : Host.Companions device front back id one other) {α : Type}
    (run : Run α) :
    other.calls id run = one.calls id run ∧
      (other.play id run false).2 = (one.play id run false).2 ∧
      Host.Companions device front back id
        (one.play id run false).1 (other.play id run false).1 := by
  obtain ⟨attends, also, twin, rfl⟩ := companions
  obtain ⟨calls, result, after⟩ := Host.play_twin attends also twin run false
  have calm := one.play_calm (one.device device).id run false
  exact ⟨calls, result, attends.calm calm, also.calm (other.play_calm _ run false), after,
    (calm.layout.id_eq device).symm⟩

theorem Host.playsAlike_twin (device : DeviceRef) (front back : List LogMessage) (id : DeviceId) :
    Host.PlaysAlike id (Host.Companions device front back id) :=
  fun companions _ run => (companions.play run).2

/-- The stints of the device make the same calls. -/
theorem Execution.calls_twin {engine : Engine} {device : DeviceRef} {front back : List LogMessage}
    {id : DeviceId} {device? : Option DeviceRef} {one other after again : Dispatcher engine}
    (companions : Host.Companions device front back id one.host other.host) (stints : List Stint) :
    (Execution.ofStints device? again id other stints).map Execution.calls =
      (Execution.ofStints device? after id one stints).map Execution.calls := by
  induction stints generalizing one other with
  | nil => rfl
  | cons stint rest ih =>
    obtain ⟨calls, _, later⟩ := companions.play stint.run
    have companions : Host.Companions device front back id (one.played id [stint]).host
        (other.played id [stint]).host := later
    exact congrArg₂ List.cons calls (ih companions)

namespace Dispatcher

variable {engine : Engine}

/-- The sessions are in order, and the device is registered among live ones. -/
structure Attends (device : DeviceRef) (d : Dispatcher engine) : Prop where
  sound : d.Sound
  host : d.host.Attends device

theorem Attends.handling {device : DeviceRef} {before after : Dispatcher engine}
    (attends : Attends device before) (handling : Handling before after) : Attends device after :=
  ⟨handling.sound attends.sound, attends.host.calm handling.calm⟩

/-- The device, its session and the settings are the same. -/
structure Twin (device : DeviceRef) (front back : List LogMessage) (one other : Dispatcher engine) :
    Prop where
  host : one.host.Twin device front back other.host
  config : other.config = one.config
  session : other.session? (one.host.device device).id = one.session? (one.host.device device).id

variable {device : DeviceRef} {front back : List LogMessage} {one other : Dispatcher engine}

namespace Twin

/-- The same session stored on both sides for the device, next to hosts it cannot tell apart. -/
theorem put (twin : Twin device front back one other) {left right : Host}
    (hosts : left.Twin device front back right)
    (layout : one.host.plant.SameLayout left.plant) {session again : Session engine}
    (same : again = session) :
    Twin device front back
      ({ one with host := left }.putSession (one.host.device device).id session)
      ({ other with host := right }.putSession (one.host.device device).id again) := by
  have id : (left.device device).id = (one.host.device device).id := layout.id_eq device
  refine ⟨hosts, twin.config, ?_⟩
  unfold session? putSession
  dsimp only
  rw [id, Entries.lookup_put_self, Entries.lookup_put_self, same]

end Twin

theorem afterLoad_twin {one other : Host} (twin : one.Twin device front back other)
    (state : SessionState) (result : Except ScriptError Unit) :
    (afterLoad one device state result).Twin device front back
      (afterLoad other device state result) := by
  unfold afterLoad
  cases result with
  | ok done =>
    dsimp only
    split
    · exact twin.setStatus _
    · exact twin
  | error e =>
    have text : other.nameOf device ++ ": " ++ e.message ++ "." =
        one.nameOf device ++ ": " ++ e.message ++ "." := by rw [twin.nameOf]
    dsimp only
    split
    · exact ((twin.report _ text).setScriptPath "").setStatus _
    · exact twin.report _ text

theorem afterInvoke_twin {one other : Host} (twin : one.Twin device front back other)
    (entry : String) (outcome : EntryOutcome) :
    (afterInvoke one device entry outcome).Twin device front back
      (afterInvoke other device entry outcome) := by
  cases outcome with
  | failed message =>
    refine twin.report _ ?_
    rw [twin.nameOf]
  | _ => exact twin

theorem warnAcyclic_twin (twin : Twin device front back one other) :
    Twin device front back (one.warnAcyclic device) (other.warnAcyclic device) := by
  unfold warnAcyclic
  rw [twin.config, twin.host.layout.stationOf?_eq, twin.host.nameOf]
  split
  · exact twin
  · split
    · exact twin
    · rename_i station _
      rw [twin.host.connections]
      dsimp only
      generalize (((one.host.plant.connections station).filter fun c => !c.allowCycle).flatMap
        (acyclicTexts (one.host.nameOf device))) = texts
      have hosts := twin.host.reports .warning texts
      have id : ((texts.foldl Host.warn one.host).device device).id =
          (one.host.device device).id :=
        (one.host.calm_foldl_report .warning texts).layout.id_eq device
      refine ⟨hosts, twin.config, ?_⟩
      exact (congrArg other.session? id).trans (twin.session.trans (congrArg one.session? id.symm))

section Refresh

variable (attends : Attends device one) (also : Attends device other)
  (twin : Twin device front back one other)
include attends also twin

theorem companions {id : DeviceId} (own : id = (one.host.device device).id) :
    Host.Companions device front back id one.host other.host :=
  ⟨attends.host, also.host, twin.host, own⟩

theorem loaded_twin : Twin device front back (one.loaded device) (other.loaded device) := by
  have session : other.sessionFor (one.host.device device).id =
      one.sessionFor (one.host.device device).id := by
    unfold sessionFor
    rw [twin.session]
  have own := (attends.sound.sessionFor (one.host.device device).id).1
  obtain ⟨after, result, ⟨_, _, hosts, _⟩, _⟩ := Session.load_congr _
    (Host.playsAlike_twin device front back _) (companions attends also twin own)
    (one.host.device device).scriptPath (.inr (by rw [twin.host.files]))
  have layout := (one.loaded_handling device).calm.layout
  unfold loaded at layout ⊢
  dsimp only at layout ⊢
  rw [twin.host.own, session, after, result]
  exact twin.put (afterLoad_twin hosts _ _) layout rfl

theorem reload_twin : Twin device front back (one.reload device) (other.reload device) :=
  warnAcyclic_twin (loaded_twin attends also twin)

theorem ensure_twin : Twin device front back (one.ensure device) (other.ensure device) := by
  have reloaded := reload_twin attends also twin
  unfold ensure
  rw [twin.host.own, twin.session]
  split
  · exact twin
  · exact reloaded

theorem dispatch_twin (entry : String) (arguments : List Value) :
    Twin device front back (one.dispatch device entry arguments)
      (other.dispatch device entry arguments) := by
  have layout := (one.dispatch_handling device entry arguments).calm.layout
  unfold dispatch at layout ⊢
  dsimp only at layout ⊢
  rw [twin.host.own, twin.session]
  cases held : one.session? (one.host.device device).id with
  | none => exact twin
  | some session =>
    rw [held] at layout
    dsimp only at layout ⊢
    obtain ⟨after, result, ⟨_, _, hosts, _⟩, _⟩ := Session.invoke_congr _
      (Host.playsAlike_twin device front back _)
      (companions attends also twin (attends.sound.of_session? held).1) entry arguments
    rw [result]
    exact twin.put (afterInvoke_twin hosts entry _) layout after

/-- A load makes the same calls. -/
theorem reloadExecutions_twin : (other.reloadExecutions device).map Execution.calls =
    (one.reloadExecutions device).map Execution.calls := by
  have session : other.sessionFor (one.host.device device).id =
      one.sessionFor (one.host.device device).id := by
    unfold sessionFor
    rw [twin.session]
  have own := (attends.sound.sessionFor (one.host.device device).id).1
  have both := companions attends also twin own
  obtain ⟨_, _, _, stints⟩ := Session.load_congr _ (Host.playsAlike_twin device front back _) both
    (one.host.device device).scriptPath (.inr (by rw [twin.host.files]))
  unfold reloadExecutions
  dsimp only
  rw [twin.host.own, session, stints]
  exact Execution.calls_twin both _

theorem ensureExecutions_twin : (other.ensureExecutions device).map Execution.calls =
    (one.ensureExecutions device).map Execution.calls := by
  have reloaded := reloadExecutions_twin attends also twin
  unfold ensureExecutions
  rw [twin.host.own, twin.session]
  split
  · rfl
  · exact reloaded

theorem dispatchExecutions_twin (entry : String) (arguments : List Value) :
    (other.dispatchExecutions device entry arguments).map Execution.calls =
      (one.dispatchExecutions device entry arguments).map Execution.calls := by
  unfold dispatchExecutions
  rw [twin.host.own, twin.session]
  cases held : one.session? (one.host.device device).id with
  | none => rfl
  | some session =>
    have both := companions attends also twin (attends.sound.of_session? held).1
    obtain ⟨_, _, _, stints⟩ :=
      Session.invoke_congr _ (Host.playsAlike_twin device front back _) both
      entry arguments
    dsimp only
    rw [stints]
    exact Execution.calls_twin both _

/-- A refresh makes the same calls in both. -/
theorem refreshExecutions_twin : (other.refreshExecutions device).map Execution.calls =
    (one.refreshExecutions device).map Execution.calls := by
  have ensured := ensure_twin attends also twin
  unfold refreshExecutions
  rw [List.map_append, List.map_append, ensureExecutions_twin attends also twin,
    dispatchExecutions_twin (attends.handling (one.ensure_handling device))
      (also.handling (other.ensure_handling device)) ensured]

/-- A refresh comes to the same in both. -/
theorem refreshLogged_twin :
    Twin device front back (one.refreshLogged device) (other.refreshLogged device) := by
  have ensured := ensure_twin attends also twin
  have refreshed : Twin device front back (one.refresh device) (other.refresh device) :=
    dispatch_twin (attends.handling (one.ensure_handling device))
      (also.handling (other.ensure_handling device)) ensured signalChangedEntry
      [.ofText "", .ofFloat 0.0]
  refine ⟨refreshed.host.report .information ?_, refreshed.config, refreshed.session⟩
  rw [refreshed.host.nameOf]

end Refresh

end Dispatcher

end StationScript
