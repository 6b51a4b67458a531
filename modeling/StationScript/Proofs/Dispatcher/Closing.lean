import StationScript.Proofs.Dispatcher.History
import StationScript.Proofs.Session.Stints

/-!
A call that looks for its device in vain closes the session at the end of the run, whatever the
script does besides, and nothing else does. The dispatcher then takes the session for closed: the
path stays, and neither an error of the script nor a value it returned is logged.
-/

set_option autoImplicit false

namespace StationScript

namespace Session

variable {engine : Engine} {session : Session engine} {host : Host}

/-- A load that comes to its run ends as the run does. -/
theorem Loading.of_run {path : String} {after : Session engine × Host × Except ScriptError Unit}
    (loading : Loading session host path after) {run : Run (Except String engine.Machine)}
    (started : session.loadRun? host path = some run) :
    Running session.id (session.release host).2 run after := by
  cases loading with
  | unloaded empty => simp [loadRun?, empty] at started
  | unreadable given fault refused => simp [loadRun?, given, refused] at started
  | uncompiled given source message read refused =>
    simp [loadRun?, given, read, refused, Except.toOption] at started
  | ran other same after running =>
    rw [started] at same
    cases same
    exact running

section Running

variable {id : DeviceId} {run : Run (Except String engine.Machine)}
  {after : Session engine × Host × Except ScriptError Unit} (running : Running id host run after)
include running

theorem Running.of_vain (vain : none ∈ host.lookups id run) :
    after.1.state = .closed ∧ after.1.machine = none ∧ after.2.2 = .error (.unknownDevice id) := by
  cases running with
  | closed _ shut ends =>
    obtain ⟨asked, whole⟩ := (new id).shut_session (host.play id run false).1 _
    rw [ends, whole]
    exact ⟨rfl, rfl, rfl⟩
  | ready found => exact absurd vain found
  | raised found => exact absurd vain found

theorem Running.of_ok (found : none ∉ host.lookups id run) {machine : engine.Machine}
    (result : (host.play id run false).2.2 = .ok machine) :
    after = ({ id, machine := some machine, state := .ready }, (host.play id run false).1,
      .ok ()) := by
  cases running with
  | closed vain => exact absurd vain found
  | ready _ other same =>
    rw [result] at same
    cases same
    rfl
  | raised _ message failed =>
    rw [result] at failed
    cases failed

theorem Running.of_error (found : none ∉ host.lookups id run) {message : String}
    (result : (host.play id run false).2.2 = .error message) :
    after = ({ id, state := .error }, (host.play id run false).1, .error (.runtime message)) := by
  cases running with
  | closed vain => exact absurd vain found
  | ready _ machine passed =>
    rw [result] at passed
    cases passed
  | raised _ other same =>
    rw [result] at same
    cases same
    rfl

end Running

theorem Invoking.of_vain {entry : String} {arguments : List Value}
    {after : Session engine × Host × EntryOutcome}
    (invoking : Invoking session host entry arguments after)
    {run : Run (engine.Machine × Invocation)}
    (started : session.invokeRun? entry arguments = some run)
    (vain : none ∈ host.lookups session.id run) :
    after.1.state = .closed ∧ after.1.machine = none ∧ after.2.2 = .closed := by
  cases invoking with
  | idle none =>
    rw [started] at none
    cases none
  | closed other same asked shut ends =>
    obtain ⟨asked, whole⟩ := (new session.id).shut_session (host.play session.id other false).1 _
    rw [ends, whole]
    exact ⟨rfl, rfl, rfl⟩
  | finished other same _ found =>
    rw [started] at same
    cases same
    exact absurd vain found

theorem Invoking.of_found {entry : String} {arguments : List Value}
    {after : Session engine × Host × EntryOutcome} (settled : session.Settled)
    (invoking : Invoking session host entry arguments after)
    {run : Run (engine.Machine × Invocation)}
    (started : session.invokeRun? entry arguments = some run)
    (found : none ∉ host.lookups session.id run) :
    after = ({ session with machine := some (host.play session.id run false).2.2.1 },
      (host.play session.id run false).1, outcomeOf (host.play session.id run false).2.2.2) := by
  cases invoking with
  | idle none =>
    rw [started] at none
    cases none
  | closed other same asked =>
    rw [started] at same
    cases same
    rcases asked with flag | vain
    · have live := settled.live_iff.mpr (invokeRun?_isSome started)
      rw [settled.unasked live] at flag
      cases flag
    · exact absurd vain found
  | finished other same =>
    rw [started] at same
    cases same
    rfl

/-- A settled session that is ready has a run for every call. -/
theorem Settled.invokeRun? (settled : session.Settled) (ready : session.state = .ready)
    (entry : String) (arguments : List Value) :
    ∃ run, session.invokeRun? entry arguments = some run := by
  have live := settled.live_iff.mpr ready
  obtain ⟨machine, held⟩ := Option.isSome_iff_exists.mp live
  exact ⟨engine.invoke machine entry arguments, by simp [Session.invokeRun?, ready, held]⟩

theorem outcomeOf_ne_closed (invocation : Invocation) : outcomeOf invocation ≠ .closed := by
  cases invocation <;> simp [outcomeOf]

end Session

namespace Dispatcher

variable {engine : Engine}

/-- The message about a load in vain. -/
def unknownText (name : String) (id : DeviceId) : String :=
  name ++ ": unknown component: " ++ id.text ++ "."

/-- A load in vain is logged, but it does not clear the path. -/
theorem afterLoad_unknown (host : Host) (device : DeviceRef) (state : SessionState)
    (id : DeviceId) : afterLoad host device state (.error (.unknownDevice id)) =
      host.error (unknownText (host.nameOf device) id) := by
  have message : (ScriptError.unknownDevice id).message = "unknown component: " ++ id.text := rfl
  have joined : ": unknown component: " = ": " ++ "unknown component: " := by decide
  have text : unknownText (host.nameOf device) id =
      host.nameOf device ++ ": " ++ (ScriptError.unknownDevice id).message ++ "." := by
    rw [unknownText, message, joined]
    simp only [String.append_assoc]
  rw [text]
  rfl

/-- After a load in vain a closed session is stored and the log says that the device is unknown;
the paths are left alone. -/
theorem reload_of_vain {d : Dispatcher engine} (sound : d.Sound) {device : DeviceRef}
    {id : DeviceId}
    (identity : (d.host.device device).id = id) {run : Run (Except String engine.Machine)}
    (started : (d.sessionFor id).loadRun? d.host (d.host.device device).scriptPath = some run)
    (vain : none ∈ ((d.sessionFor id).release d.host).2.lookups id run) :
    (∃ session, (d.reload device).session? id = some session ∧
      session.state = .closed ∧ session.machine = none) ∧
    (∀ ref, ((d.reload device).host.device ref).scriptPath = (d.host.device ref).scriptPath) ∧
    ∃ warnings, (d.reload device).host.log.toList =
        (d.host.playAll id ((d.sessionFor id).loadStints d.host
          (d.host.device device).scriptPath)).log.toList ++
          ⟨.error, d.host.prefixed (unknownText (d.host.nameOf device) id)⟩ :: warnings ∧
      ∀ m ∈ warnings, m.severity = .warning := by
  have bound := (sound.sessionFor id).1
  have host := (d.sessionFor id).host_load d.host (d.host.device device).scriptPath
  rw [bound] at host
  have frame := d.host.playAll_frame_leads id
    ((d.sessionFor id).loadStints d.host (d.host.device device).scriptPath)
  rw [← host] at frame ⊢
  obtain ⟨closed, given, result⟩ := ((Session.load_cases (d.sessionFor id) d.host
    (d.host.device device).scriptPath).of_run started).of_vain (by rw [bound]; exact vain)
  rw [bound] at result
  have name : ((d.sessionFor id).load d.host (d.host.device device).scriptPath).2.1.nameOf device =
      d.host.nameOf device := frame.layout.name_eq device
  have reloaded : d.reload device =
      (putSession { d with
          host := ((d.sessionFor id).load d.host (d.host.device device).scriptPath).2.1.error
            (unknownText (d.host.nameOf device) id) }
        id ((d.sessionFor id).load d.host (d.host.device device).scriptPath).1).warnAcyclic
          device := by
    simp only [reload, identity, result, afterLoad_unknown, name]
  generalize (d.sessionFor id).load d.host (d.host.device device).scriptPath = loaded at *
  obtain ⟨log, warnings, whole, messages, severity⟩ := warnAcyclic_log _ device
  have logged := loaded.2.1.log_report .error (unknownText (d.host.nameOf device) id)
  rw [Host.prefixed_eq frame.logPrefix] at logged
  rw [reloaded, whole]
  refine ⟨⟨_, Entries.lookup_put_self _ _ _, closed, given⟩, frame.paths, warnings, ?_, severity⟩
  rw [messages]
  refine (congrArg (· ++ warnings) logged).trans ?_
  rw [List.append_assoc]
  rfl

/-- After a call in vain a closed session is stored, and nothing is logged about the call. -/
theorem dispatch_of_vain {d : Dispatcher engine} (sound : d.Sound) {device : DeviceRef}
    {id : DeviceId} (identity : (d.host.device device).id = id) {session : Session engine}
    (held : d.session? id = some session) {entry : String} {arguments : List Value}
    {run : Run (engine.Machine × Invocation)}
    (started : session.invokeRun? entry arguments = some run)
    (vain : none ∈ d.host.lookups id run) :
    (∃ closed, (d.dispatch device entry arguments).session? id = some closed ∧
      closed.state = .closed ∧ closed.machine = none) ∧
    (d.dispatch device entry arguments).host =
      d.host.playAll id (session.invokeStints d.host entry arguments) := by
  have bound := (sound.of_session? held).1
  have host := session.host_invoke d.host entry arguments
  rw [bound] at host
  obtain ⟨closed, given, result⟩ := (Session.invoke_cases session d.host entry arguments).of_vain
    started (by rw [bound]; exact vain)
  have dispatched : d.dispatch device entry arguments =
      putSession { d with host := (session.invoke d.host entry arguments).2.1 } id
        (session.invoke d.host entry arguments).1 := by
    simp only [dispatch, identity, held, result, afterInvoke]
  rw [dispatched]
  exact ⟨⟨_, Entries.lookup_put_self _ _ _, closed, given⟩, host⟩

/-- A look-up in vain always closes, and nothing else does: first of the two runs of a session,
then of what the dispatcher makes of them. A program runs in the host that the machine before it has
left when it was given up. -/
theorem vain_lookup_closes (engine : Engine) :
    (∀ (session : Session engine) (host : Host) (source : String),
      (∀ message, engine.load session.id.text source = .error message →
        (session.loadSource host source).1.state = .error ∧
        (session.loadSource host source).1.machine = none ∧
        (session.loadSource host source).2 =
          ((session.release host).2, .error (.compile message))) ∧
      (∀ run, engine.load session.id.text source = .ok run →
        (none ∈ (session.release host).2.lookups session.id run →
          (session.loadSource host source).1.state = .closed ∧
          (session.loadSource host source).1.machine = none ∧
          (session.loadSource host source).2.2 = .error (.unknownDevice session.id)) ∧
        (none ∉ (session.release host).2.lookups session.id run →
          (∀ machine, ((session.release host).2.play session.id run false).2.2 = .ok machine →
            (session.loadSource host source).1.state = .ready ∧
            (session.loadSource host source).1.machine = some machine ∧
            (session.loadSource host source).2.2 = .ok ()) ∧
          (∀ message, ((session.release host).2.play session.id run false).2.2 = .error message →
            (session.loadSource host source).1.state = .error ∧
            (session.loadSource host source).1.machine = none ∧
            (session.loadSource host source).2.2 = .error (.runtime message))))) ∧
    (∀ (session : Session engine), session.Reachable → session.state = .ready →
      ∀ (host : Host) (entry : String) (arguments : List Value),
      ∃ run, session.invokeRun? entry arguments = some run ∧
        (none ∈ host.lookups session.id run →
          (session.invoke host entry arguments).1.state = .closed ∧
          (session.invoke host entry arguments).1.machine = none ∧
          (session.invoke host entry arguments).2.2 = .closed) ∧
        (none ∉ host.lookups session.id run →
          (session.invoke host entry arguments).1.state = .ready ∧
          (session.invoke host entry arguments).1.machine =
            some (host.play session.id run false).2.2.1 ∧
          (session.invoke host entry arguments).2.2 ≠ .closed)) ∧
    (∀ (d : Dispatcher engine), d.Sound → ∀ (device : DeviceRef) (id : DeviceId),
      (d.host.device device).id = id →
      (∀ run, (d.sessionFor id).loadRun? d.host (d.host.device device).scriptPath = some run →
        none ∈ ((d.sessionFor id).release d.host).2.lookups id run →
          (∃ session, (d.reload device).session? id = some session ∧
            session.state = .closed ∧ session.machine = none) ∧
          (∀ ref, ((d.reload device).host.device ref).scriptPath =
            (d.host.device ref).scriptPath) ∧
          ∃ warnings, (d.reload device).host.log.toList =
              (d.host.playAll id ((d.sessionFor id).loadStints d.host
                (d.host.device device).scriptPath)).log.toList ++
                ⟨.error, d.host.prefixed (unknownText (d.host.nameOf device) id)⟩ :: warnings ∧
            ∀ m ∈ warnings, m.severity = .warning) ∧
      (∀ session entry arguments run, d.session? id = some session →
        session.invokeRun? entry arguments = some run → none ∈ d.host.lookups id run →
          (∃ closed, (d.dispatch device entry arguments).session? id = some closed ∧
            closed.state = .closed ∧ closed.machine = none) ∧
          (d.dispatch device entry arguments).host =
            d.host.playAll id (session.invokeStints d.host entry arguments))) := by
  refine ⟨?loading, ?invoking, ?dispatcher⟩
  case loading =>
    intro session host source
    refine ⟨fun message refused => ?_, fun run compiled => ?_⟩
    · obtain ⟨asked, whole⟩ := session.release_session host
      simp [Session.loadSource, whole, refused]
    · have running := Session.loadSource_run compiled host
      refine ⟨running.of_vain, fun found => ⟨fun machine result => ?_, fun message result => ?_⟩⟩
      · rw [running.of_ok found result]
        exact ⟨rfl, rfl, rfl⟩
      · rw [running.of_error found result]
        exact ⟨rfl, rfl, rfl⟩
  case invoking =>
    intro session reachable ready host entry arguments
    have settled := reachable.settled
    have invoking := Session.invoke_cases session host entry arguments
    obtain ⟨run, started⟩ := settled.invokeRun? ready entry arguments
    refine ⟨run, started, invoking.of_vain started, fun found => ?_⟩
    rw [invoking.of_found settled started found]
    exact ⟨ready, rfl, Session.outcomeOf_ne_closed _⟩
  case dispatcher =>
    intro d sound device id identity
    refine ⟨fun run started vain => ?_, fun session entry arguments run held started vain => ?_⟩
    · exact reload_of_vain sound identity started vain
    · exact dispatch_of_vain sound identity held started vain

/-- A script of the cell that was loaded while its device was registered. -/
def readyCell : Session (.repeating (.call .clearSignals [] fun _ => .done ())) :=
  ((Session.new ⟨"gripper"⟩).loadSource (Host.cell.register ⟨0⟩) "").1

/-- Where nobody registered the device of the cell, its script looks for it in vain: a load ends
closed, and so does a step of a session that was ready. -/
theorem vain_lookup_closes_cell :
    ((∃ run, (cell.sessionFor ⟨"gripper"⟩).loadRun? cell.host "gripper.lua" = some run ∧
        none ∈ cell.host.lookups ⟨"gripper"⟩ run) ∧
      ∃ session, (cell.reload ⟨0⟩).session? ⟨"gripper"⟩ = some session ∧
        session.state = .closed ∧ session.machine = none) ∧
    readyCell.state = .ready ∧
      (readyCell.invoke Host.cell simulationStepEntry []).2.2 = .closed := by
  have sound : cell.Sound := new_sound Host.cell {} .none
  have identity : (cell.host.device ⟨0⟩).id = ⟨"gripper"⟩ := by decide
  have path : (cell.host.device ⟨0⟩).scriptPath = "gripper.lua" := by decide
  have read : (cell.host.files.readText "gripper.lua").toOption = some "" := by decide +kernel
  have started : (cell.sessionFor ⟨"gripper"⟩).loadRun? cell.host "gripper.lua" =
      some (.call .clearSignals [] fun _ => .done (.ok ())) := by
    unfold Session.loadRun?
    rw [if_neg (by decide)]
    cases text : cell.host.files.readText "gripper.lua" with
    | error fault =>
      rw [text] at read
      cases read
    | ok source => rfl
  have vain : none ∈ cell.host.lookups ⟨"gripper"⟩
      (.call .clearSignals [] fun _ => .done (.ok ()) : Run (Except String Unit)) := by
    decide +kernel
  have ready : readyCell.state = .ready := by decide +kernel
  have machine : readyCell.machine = some () := rfl
  have called : readyCell.invokeRun? simulationStepEntry [] =
      some (.call .clearSignals [] fun _ => .done ((), .completed)) := by
    rw [Session.invokeRun?, if_pos ready, machine]
    rfl
  have missed : none ∈ Host.cell.lookups readyCell.id
      (.call .clearSignals [] fun _ => .done ((), .completed) : Run (Unit × Invocation)) := by
    decide +kernel
  obtain ⟨_, invoking, dispatcher⟩ :=
    vain_lookup_closes (.repeating (.call .clearSignals [] fun _ => .done ()))
  obtain ⟨reloading, _⟩ := dispatcher cell sound ⟨0⟩ ⟨"gripper"⟩ identity
  rw [path] at reloading
  obtain ⟨run, same, closes, _⟩ := invoking readyCell (.loadSource _ (.new _) _ _) ready Host.cell
    simulationStepEntry []
  rw [called] at same
  cases same
  exact ⟨⟨⟨_, started, vain⟩, (reloading _ started vain).1⟩, ready, (closes missed).2.2⟩

end Dispatcher

end StationScript
