import StationScript.Host.Session
import StationScript.Proofs.Host.Calls

/-!
The life cycle of a session: everything that loading and invoking can come to.

Between two events a session is settled: it holds a machine exactly if it is ready, it is not
loading, and nobody asks for the machine that it holds to be closed.
-/

set_option autoImplicit false

namespace StationScript

/-- Nothing is left to run when a machine is given up. -/
def Engine.Silent (engine : Engine) : Prop := ∀ machine, engine.release machine = .done ()

namespace Session

variable {engine : Engine}

/-- The run of the top level that loading a path starts, if it comes that far. -/
def loadRun? (session : Session engine) (host : Host) (path : String) :
    Option (Run (Except String engine.Machine)) :=
  if path = "" then none
  else
    match host.files.readText path with
    | .error _ => none
    | .ok source => (engine.load session.id.text source).toOption

/-- The run that calling an entry point starts in a ready session. -/
def invokeRun? (session : Session engine) (entry : String) (arguments : List Value) :
    Option (Run (engine.Machine × Invocation)) :=
  if session.state = .ready then
    session.machine.map fun machine => engine.invoke machine entry arguments
  else none

section Release

variable (session : Session engine) (host : Host)

theorem release_of_none {session : Session engine} (none : session.machine = none) (host : Host) :
    session.release host = (session, host) := by
  unfold release
  rw [none]

theorem release_of_some {session : Session engine} {machine : engine.Machine}
    (held : session.machine = some machine) (host : Host) :
    session.release host =
      ({ session with machine := none, closeRequested :=
          (host.play session.id (engine.release machine) session.closeRequested).2.1 },
        (host.play session.id (engine.release machine) false).1) := by
  rw [← (host.play_start session.id (engine.release machine) session.closeRequested).1]
  unfold release
  rw [held]

/-- Nothing of the session changes but that it holds no machine and may be asked to close. -/
theorem release_session : ∃ asked,
    (session.release host).1 = { session with machine := none, closeRequested := asked } := by
  cases held : session.machine with
  | none =>
    rw [release_of_none held]
    exact ⟨session.closeRequested, by rw [← held]⟩
  | some machine =>
    rw [release_of_some held]
    exact ⟨_, rfl⟩

@[simp] theorem release_id : (session.release host).1.id = session.id := by
  obtain ⟨asked, whole⟩ := session.release_session host
  rw [whole]

@[simp] theorem release_state : (session.release host).1.state = session.state := by
  obtain ⟨asked, whole⟩ := session.release_session host
  rw [whole]

@[simp] theorem release_machine : (session.release host).1.machine = none := by
  obtain ⟨asked, whole⟩ := session.release_session host
  rw [whole]

/-- What a machine still runs is calm like every run. -/
theorem release_calm : host.Calm (session.release host).2 := by
  cases held : session.machine with
  | none =>
    rw [release_of_none held]
    exact .refl host
  | some machine =>
    rw [release_of_some held]
    exact Host.play_calm _ _ host false

/-- A machine that has nothing left to run asks for nothing when it is given up. -/
theorem release_silent (silent : engine.Silent) :
    (session.release host).1.closeRequested = session.closeRequested := by
  cases held : session.machine with
  | none => rw [release_of_none held]
  | some machine =>
    rw [release_of_some held, silent machine]
    rfl

/-- It does not matter which session of the id is shut. -/
theorem shut_eq (machine : Option engine.Machine) :
    session.shut host machine = (new session.id : Session engine).shut host machine := by
  cases machine <;> rfl

theorem shut_session (machine : Option engine.Machine) : ∃ asked, (session.shut host machine).1 =
    { session with machine := none, state := .closed, closeRequested := asked } := by
  obtain ⟨asked, whole⟩ :=
    ({ session with machine, closeRequested := false } : Session engine).release_session host
  refine ⟨asked, ?_⟩
  unfold shut close
  dsimp only
  rw [whole]

theorem shut_calm (machine : Option engine.Machine) : host.Calm (session.shut host machine).2 :=
  release_calm _ host

theorem shut_silent (silent : engine.Silent) (machine : Option engine.Machine) :
    (session.shut host machine).1.closeRequested = false :=
  release_silent _ host silent

end Release

/-- How running a program ends for the script of an id, by what its calls find. -/
inductive Running (id : DeviceId) (host : Host) (run : Run (Except String engine.Machine)) :
    Session engine × Host × Except ScriptError Unit → Prop where
  | closed (vain : none ∈ host.lookups id run) (shut : Session engine × Host)
    (ends : shut = (new id).shut (host.play id run false).1 (host.play id run false).2.2.toOption) :
    Running id host run (shut.1, shut.2, .error (.unknownDevice id))
  | ready (found : none ∉ host.lookups id run) (machine : engine.Machine)
    (result : (host.play id run false).2.2 = .ok machine) :
    Running id host run
      ({ id, machine := some machine, state := .ready }, (host.play id run false).1, .ok ())
  | raised (found : none ∉ host.lookups id run) (message : String)
    (result : (host.play id run false).2.2 = .error message) :
    Running id host run
      ({ id, state := .error }, (host.play id run false).1, .error (.runtime message))

theorem loadSource_run {session : Session engine} {source : String}
    {run : Run (Except String engine.Machine)}
    (compiled : engine.load session.id.text source = .ok run) (host : Host) :
    Running session.id (session.release host).2 run (session.loadSource host source) := by
  obtain ⟨asked, whole⟩ := session.release_session host
  generalize started : (session.release host).2 = start
  have flag := start.play_closing_iff session.id run false
  unfold loadSource
  simp only [whole, started, compiled]
  cases played : start.play session.id run false with
  | mk after rest =>
    obtain ⟨closing, result⟩ := rest
    rw [played] at flag
    have ends : (start.play session.id run false).1 = after := by rw [played]
    subst ends
    cases closing with
    | true =>
      have vain : none ∈ start.lookups session.id run := by simpa using flag
      refine .closed vain _ ?_
      rw [shut_eq, played]
    | false =>
      have found : none ∉ start.lookups session.id run := by simpa using flag
      cases result with
      | ok machine => exact .ready found machine (by rw [played])
      | error message => exact .raised found message (by rw [played])

/-- Everything that loading a script can come to. -/
inductive Loading (session : Session engine) (host : Host) (path : String) :
    Session engine × Host × Except ScriptError Unit → Prop where
  | unloaded (empty : path = "") :
    Loading session host path
      ({ (session.release host).1 with state := .unloaded }, (session.release host).2, .ok ())
  | unreadable (given : path ≠ "") (fault : ReadFault)
    (refused : host.files.readText path = .error fault) :
    Loading session host path
      ({ (session.release host).1 with state := .error }, (session.release host).2,
        .error (.fileAccess path))
  | uncompiled (given : path ≠ "") (source message : String)
    (read : host.files.readText path = .ok source)
    (refused : engine.load session.id.text source = .error message) :
    Loading session host path
      ({ id := session.id, state := .error }, (session.release host).2, .error (.compile message))
  | ran (run : Run (Except String engine.Machine)) (started : session.loadRun? host path = some run)
    (after : Session engine × Host × Except ScriptError Unit)
    (running : Running session.id (session.release host).2 run after) :
    Loading session host path after

theorem load_cases (session : Session engine) (host : Host) (path : String) :
    Loading session host path (session.load host path) := by
  have files := (session.release_calm host).files
  have again : (session.release host).1.release (session.release host).2 = session.release host :=
    release_of_none (session.release_machine host) _
  unfold load
  dsimp only
  rw [files]
  by_cases empty : path = ""
  · rw [if_pos empty]
    exact .unloaded empty
  · rw [if_neg empty]
    cases read : host.files.readText path with
    | error fault => exact .unreadable empty fault read
    | ok source =>
      dsimp only
      cases compiled : engine.load session.id.text source with
      | error message =>
        obtain ⟨asked, whole⟩ := session.release_session host
        have ends : (session.release host).1.loadSource (session.release host).2 source =
            ({ id := session.id, state := .error }, (session.release host).2,
              .error (.compile message)) := by
          unfold loadSource
          rw [again]
          simp only [whole, compiled]
        rw [ends]
        exact .uncompiled empty source message read compiled
      | ok run =>
        have started : session.loadRun? host path = some run := by
          simp only [loadRun?, if_neg empty, read, compiled, Except.toOption]
        have compiles : engine.load (session.release host).1.id.text source = .ok run := by
          rw [release_id]
          exact compiled
        have running := loadSource_run compiles (session.release host).2
        rw [again, release_id] at running
        exact .ran run started _ running

/-- Everything that calling an entry point can come to. -/
inductive Invoking (session : Session engine) (host : Host) (entry : String)
    (arguments : List Value) : Session engine × Host × EntryOutcome → Prop where
  | idle (none : session.invokeRun? entry arguments = none) :
    Invoking session host entry arguments (session, host, .notReady)
  | closed (run : Run (engine.Machine × Invocation))
    (started : session.invokeRun? entry arguments = some run)
    (asked : session.closeRequested = true ∨ none ∈ host.lookups session.id run)
    (shut : Session engine × Host)
    (ends : shut = (new session.id).shut (host.play session.id run false).1
      (some (host.play session.id run false).2.2.1)) :
    Invoking session host entry arguments (shut.1, shut.2, .closed)
  | finished (run : Run (engine.Machine × Invocation))
    (started : session.invokeRun? entry arguments = some run)
    (unasked : session.closeRequested = false) (found : none ∉ host.lookups session.id run) :
    Invoking session host entry arguments
      ({ session with machine := some (host.play session.id run false).2.2.1 },
        (host.play session.id run false).1, outcomeOf (host.play session.id run false).2.2.2)

theorem invoke_cases (session : Session engine) (host : Host) (entry : String)
    (arguments : List Value) :
    Invoking session host entry arguments (session.invoke host entry arguments) := by
  unfold invoke
  by_cases ready : session.state = .ready
  · rw [if_neg (not_not_intro ready)]
    cases held : session.machine with
    | none => exact .idle (by simp [invokeRun?, ready, held])
    | some machine =>
      have started : session.invokeRun? entry arguments =
          some (engine.invoke machine entry arguments) := by
        simp [invokeRun?, ready, held]
      have flag := host.play_closing_iff session.id (engine.invoke machine entry arguments)
        session.closeRequested
      have same := host.play_start session.id (engine.invoke machine entry arguments)
        session.closeRequested
      dsimp only
      cases played : host.play session.id (engine.invoke machine entry arguments)
          session.closeRequested with
      | mk after rest =>
        obtain ⟨closing, next, invocation⟩ := rest
        rw [played] at flag same
        obtain ⟨sameHost, sameResult⟩ := same
        dsimp only at sameHost sameResult
        subst sameHost
        cases closing with
        | true =>
          refine .closed _ started (by simpa using flag) _ ?_
          rw [shut_eq, ← sameResult]
        | false =>
          have clear : ¬ (session.closeRequested = true ∨
              none ∈ host.lookups session.id (engine.invoke machine entry arguments)) := by
            simpa using flag
          have unasked : session.closeRequested = false := by
            simpa using fun asked => clear (Or.inl asked)
          have ends : Invoking session host entry arguments _ :=
            .finished _ started unasked fun vain => clear (Or.inr vain)
          rw [← sameResult] at ends
          exact ends
  · rw [if_pos ready]
    exact .idle (by simp [invokeRun?, ready])

/-- What holds of a session between two events. -/
structure Settled (session : Session engine) : Prop where
  live_iff : session.isLive = true ↔ session.state = .ready
  notLoading : session.state ≠ .loading
  unasked : session.isLive = true → session.closeRequested = false

/-- A session that holds no machine is settled unless it seems to be ready or at work. -/
theorem settled_of_none {session : Session engine} (none : session.machine = none)
    (idle : session.state ≠ .ready) (notLoading : session.state ≠ .loading) : session.Settled := by
  have dead : session.isLive = false := by rw [isLive, none, Option.isSome_none]
  refine ⟨?_, notLoading, ?_⟩
  · simp [dead, idle]
  · simp [dead]

theorem new_settled (id : DeviceId) : (new id : Session engine).Settled :=
  settled_of_none rfl (by simp [new]) (by simp [new])

theorem close_settled (session : Session engine) : session.close.Settled :=
  settled_of_none rfl (by simp [close]) (by simp [close])

section Run

variable {session : Session engine} {host : Host}

/-- A run settles its session whatever came before. -/
theorem Running.settled {id : DeviceId} {run : Run (Except String engine.Machine)}
    {after : Session engine × Host × Except ScriptError Unit}
    (running : Running id host run after) : after.1.Settled := by
  cases running with
  | closed vain shut ends =>
    rw [ends]
    exact close_settled _
  | ready => exact ⟨by simp [isLive], by simp, fun _ => rfl⟩
  | raised => exact settled_of_none rfl (by simp) (by simp)

theorem loadSource_settled (session : Session engine) (host : Host) (source : String) :
    (session.loadSource host source).1.Settled := by
  cases compiled : engine.load session.id.text source with
  | error message =>
    obtain ⟨asked, whole⟩ := session.release_session host
    simp only [loadSource, whole, compiled]
    exact settled_of_none rfl (by simp) (by simp)
  | ok run => exact (loadSource_run compiled host).settled

/-- So does a load. -/
theorem Loading.settled {path : String} {after : Session engine × Host × Except ScriptError Unit}
    (loading : Loading session host path after) : after.1.Settled := by
  cases loading with
  | unloaded => exact settled_of_none (session.release_machine host) (by simp) (by simp)
  | unreadable => exact settled_of_none (session.release_machine host) (by simp) (by simp)
  | uncompiled => exact settled_of_none rfl (by simp) (by simp)
  | ran run started after running => exact running.settled

theorem invokeRun?_isSome {entry : String} {arguments : List Value}
    {run : Run (engine.Machine × Invocation)}
    (started : session.invokeRun? entry arguments = some run) : session.state = .ready := by
  unfold invokeRun? at started
  split at started
  · assumption
  · cases started

theorem Invoking.settled {entry : String} {arguments : List Value}
    {after : Session engine × Host × EntryOutcome} (settled : session.Settled)
    (invoking : Invoking session host entry arguments after) : after.1.Settled := by
  cases invoking with
  | idle => exact settled
  | closed run started asked shut ends =>
    rw [ends]
    exact close_settled _
  | finished run started unasked =>
    have ready := invokeRun?_isSome started
    exact ⟨by simp [isLive, ready], by simp [ready], fun _ => unasked⟩

theorem Running.id_eq {id : DeviceId} {run : Run (Except String engine.Machine)}
    {after : Session engine × Host × Except ScriptError Unit}
    (running : Running id host run after) : after.1.id = id := by
  cases running with
  | closed vain shut ends =>
    obtain ⟨asked, whole⟩ := (new id).shut_session (host.play id run false).1 _
    rw [ends, whole]
    rfl
  | _ => rfl

theorem Loading.id_eq {path : String} {after : Session engine × Host × Except ScriptError Unit}
    (loading : Loading session host path after) : after.1.id = session.id := by
  cases loading with
  | unloaded => exact session.release_id host
  | unreadable => exact session.release_id host
  | uncompiled => rfl
  | ran run started after running => exact running.id_eq

theorem Invoking.id_eq {entry : String} {arguments : List Value}
    {after : Session engine × Host × EntryOutcome}
    (invoking : Invoking session host entry arguments after) : after.1.id = session.id := by
  cases invoking with
  | closed run started asked shut ends =>
    obtain ⟨asked, whole⟩ := (new session.id).shut_session (host.play session.id run false).1 _
    rw [ends, whole]
    rfl
  | _ => rfl

theorem Running.calm {id : DeviceId} {run : Run (Except String engine.Machine)}
    {after : Session engine × Host × Except ScriptError Unit}
    (running : Running id host run after) : Host.Calm host after.2.1 := by
  have played := Host.play_calm id run host false
  cases running with
  | closed vain shut ends =>
    rw [ends]
    exact played.trans (shut_calm _ _ _)
  | ready => exact played
  | raised => exact played

theorem Loading.calm {path : String} {after : Session engine × Host × Except ScriptError Unit}
    (loading : Loading session host path after) : Host.Calm host after.2.1 := by
  have released := session.release_calm host
  cases loading with
  | ran run started after running => exact released.trans running.calm
  | _ => exact released

theorem Invoking.calm {entry : String} {arguments : List Value}
    {after : Session engine × Host × EntryOutcome}
    (invoking : Invoking session host entry arguments after) : Host.Calm host after.2.1 := by
  cases invoking with
  | idle => exact .refl host
  | closed run started asked shut ends =>
    rw [ends]
    exact (Host.play_calm _ run host false).trans (shut_calm _ _ _)
  | finished run => exact Host.play_calm _ run host false

/-- A load closes its session only if one of the calls of its program looks in vain. -/
theorem Loading.not_closed {path : String}
    {after : Session engine × Host × Except ScriptError Unit}
    (loading : Loading session host path after)
    (found : ∀ run, session.loadRun? host path = some run →
      none ∉ (session.release host).2.lookups session.id run) :
    after.1.state ≠ .closed := by
  cases loading with
  | ran run started after running =>
    cases running with
    | closed vain => exact absurd vain (found run started)
    | _ => simp
  | _ => simp

/-- A call of a settled session closes it only if one of its own calls looks in vain. -/
theorem Invoking.not_closed {entry : String} {arguments : List Value}
    {after : Session engine × Host × EntryOutcome} (settled : session.Settled)
    (invoking : Invoking session host entry arguments after)
    (found : ∀ run, session.invokeRun? entry arguments = some run →
      none ∉ host.lookups session.id run) :
    after.1.state = .closed → session.state = .closed := by
  cases invoking with
  | idle => exact fun closed => closed
  | closed run started asked =>
    rcases asked with flag | vain
    · have ready := invokeRun?_isSome started
      rw [settled.unasked (settled.live_iff.mpr ready)] at flag
      cases flag
    · exact absurd vain (found run started)
  | finished => exact fun closed => closed

/-- Where nothing is left to run, a load leaves no request to close. -/
theorem Loading.unasked (silent : engine.Silent) {path : String}
    {after : Session engine × Host × Except ScriptError Unit}
    (loading : Loading session host path after) (before : session.closeRequested = false) :
    after.1.closeRequested = false := by
  have released := (session.release_silent host silent).trans before
  cases loading with
  | unloaded => exact released
  | unreadable => exact released
  | uncompiled => rfl
  | ran run started after running =>
    cases running with
    | closed vain shut ends =>
      rw [ends]
      exact shut_silent _ _ silent _
    | _ => rfl

theorem loadSource_unasked (silent : engine.Silent) (session : Session engine) (host : Host)
    (source : String) : (session.loadSource host source).1.closeRequested = false := by
  cases compiled : engine.load session.id.text source with
  | error message =>
    obtain ⟨asked, whole⟩ := session.release_session host
    simp only [loadSource, whole, compiled]
  | ok run =>
    have running := loadSource_run compiled host
    generalize session.loadSource host source = after at running
    cases running with
    | closed vain shut ends =>
      rw [ends]
      exact shut_silent _ _ silent _
    | _ => rfl

/-- Nor does a call. -/
theorem Invoking.unasked (silent : engine.Silent) {entry : String} {arguments : List Value}
    {after : Session engine × Host × EntryOutcome}
    (invoking : Invoking session host entry arguments after)
    (before : session.closeRequested = false) : after.1.closeRequested = false := by
  cases invoking with
  | idle => exact before
  | closed run started asked shut ends =>
    rw [ends]
    exact shut_silent _ _ silent _
  | finished => exact before

end Run

/-- The sessions that loading, invoking and closing lead to. -/
inductive Reachable : Session engine → Prop where
  | new (id : DeviceId) : Reachable (new id)
  | loadSource (session : Session engine) (before : Reachable session) (host : Host)
    (source : String) : Reachable (session.loadSource host source).1
  | load (session : Session engine) (before : Reachable session) (host : Host) (path : String) :
    Reachable (session.load host path).1
  | invoke (session : Session engine) (before : Reachable session) (host : Host) (entry : String)
    (arguments : List Value) : Reachable (session.invoke host entry arguments).1
  | close (session : Session engine) (before : Reachable session) (host : Host) :
    Reachable (session.release host).1.close

theorem Reachable.settled {session : Session engine} (reachable : session.Reachable) :
    session.Settled := by
  induction reachable with
  | new id => exact new_settled id
  | loadSource session before host source => exact loadSource_settled session host source
  | load session before host path => exact (load_cases session host path).settled
  | invoke session before host entry arguments settled =>
    exact (invoke_cases session host entry arguments).settled settled
  | close session before host => exact close_settled _

/-- Where nothing is left to run when a machine is given up, no request to close is ever left. -/
theorem Reachable.unasked (silent : engine.Silent) {session : Session engine}
    (reachable : session.Reachable) : session.closeRequested = false := by
  induction reachable with
  | new id => rfl
  | loadSource session before host source => exact loadSource_unasked silent session host source
  | load session before host path unasked =>
    exact (load_cases session host path).unasked silent unasked
  | invoke session before host entry arguments unasked =>
    exact (invoke_cases session host entry arguments).unasked silent unasked
  | close session before host unasked => exact (session.release_silent host silent).trans unasked

end Session

end StationScript
