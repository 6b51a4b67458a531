import StationScript.Proofs.Dispatcher.Closing
import StationScript.Proofs.Dispatcher.Serving
import StationScript.Proofs.Text.Utf8

/-!
What a change of the stored path comes to. First the machine that the id may hold is given up, and
what its script has left to run for this moment is run. In the host that this leaves, the path, the
file, the program, what its calls find and how it ends decide on one of six outcomes; the outcome
decides on the session, the path, the label and the dispatcher's own message.
-/

set_option autoImplicit false

namespace StationScript

/-- A file at the path has the text. -/
def Files.Holds (files : Files) (path text : String) : Prop :=
  ∃ bytes, files path = .content bytes ∧ Utf8.decode bytes = .ok text

theorem Files.readText_eq_ok_iff (files : Files) (path text : String) :
    files.readText path = .ok text ↔ files.Holds path text := by
  unfold readText Holds
  cases files path with
  | content bytes =>
    dsimp only
    cases decoded : Utf8.decode bytes with
    | ok read => simp [decoded]
    | error fault => simp [decoded]
  | absent fault => simp
  | directory => simp
  | locked => simp

/-- What loading the script of a device comes to. -/
inductive Outcome (engine : Engine) where
  /-- No path is stored. -/
  | unloaded
  | unreadable
  | uncompiled (message : String)
  | raised (message : String)
  /-- Some call found no device. -/
  | closed
  | ready (machine : engine.Machine)

namespace Outcome

variable {engine : Engine}

/-- The text at the path compiles to a program that runs like this. -/
def Compiles (host : Host) (id : DeviceId) (path : String)
    (run : Run (Except String engine.Machine)) : Prop :=
  path ≠ "" ∧ ∃ source, host.files.Holds path source ∧ engine.load id.text source = .ok run

/-- When loading a path for an id comes to the outcome. -/
def When (host : Host) (id : DeviceId) (path : String) : Outcome engine → Prop
  | unloaded => path = ""
  | unreadable => path ≠ "" ∧ ∀ source, ¬ host.files.Holds path source
  | uncompiled message => path ≠ "" ∧
    ∃ source, host.files.Holds path source ∧ engine.load id.text source = .error message
  | raised message => ∃ run : Run (Except String engine.Machine), Compiles host id path run ∧
    none ∉ host.lookups id run ∧ (host.play id run false).2.2 = .error message
  | closed => ∃ run : Run (Except String engine.Machine), Compiles host id path run ∧
    none ∈ host.lookups id run
  | ready machine => ∃ run, Compiles host id path run ∧ none ∉ host.lookups id run ∧
    (host.play id run false).2.2 = .ok machine

def state : Outcome engine → SessionState
  | unloaded => .unloaded
  | unreadable | uncompiled _ | raised _ => .error
  | closed => .closed
  | ready _ => .ready

def machine : Outcome engine → Option engine.Machine
  | ready machine => some machine
  | _ => none

/-- The program ran. -/
def ran : Outcome engine → Bool
  | unloaded | unreadable | uncompiled _ => false
  | raised _ | closed | ready _ => true

/-- The stored path afterwards. -/
def path (old : String) : Outcome engine → String
  | unloaded | closed | ready _ => old
  | unreadable | uncompiled _ | raised _ => ""

/-- The status label afterwards. A script that closes leaves the one before; without a path it is
the one that the machine before has left. -/
def status (old left : String) : Outcome engine → String
  | unloaded => left
  | closed => old
  | unreadable => "Can't open file"
  | uncompiled _ => "Load error"
  | raised _ => "Run error"
  | ready _ => "File loaded"

/-- What the dispatcher has to say about it. -/
def complaint? (id : DeviceId) (path : String) : Outcome engine → Option String
  | unloaded | ready _ => none
  | unreadable => some ("can't open file: " ++ path)
  | uncompiled message => some ("error when loading file: " ++ message)
  | raised message => some ("error when running main: " ++ message)
  | closed => some ("unknown component: " ++ id.text)

/-- What the session tells the dispatcher. -/
def result (id : DeviceId) (path : String) : Outcome engine → Except ScriptError Unit
  | unloaded | ready _ => .ok ()
  | unreadable => .error (.fileAccess path)
  | uncompiled message => .error (.compile message)
  | raised message => .error (.runtime message)
  | closed => .error (.unknownDevice id)

section Load

variable {session : Session engine} {host : Host} {path : String}

/-- Every load comes to one of the outcomes. -/
theorem exists_when (session : Session engine) (host : Host) (path : String) :
    ∃ outcome : Outcome engine, outcome.When host session.id path := by
  by_cases empty : path = ""
  · exact ⟨unloaded, empty⟩
  · cases read : host.files.readText path with
    | error fault =>
      refine ⟨unreadable, empty, fun source held => ?_⟩
      rw [← Files.readText_eq_ok_iff, read] at held
      cases held
    | ok source =>
      have held := (host.files.readText_eq_ok_iff path source).mp read
      cases compiled : engine.load session.id.text source with
      | error message => exact ⟨uncompiled message, empty, source, held, compiled⟩
      | ok run =>
        have compiles : Compiles host session.id path run := ⟨empty, source, held, compiled⟩
        by_cases vain : none ∈ host.lookups session.id run
        · exact ⟨closed, run, compiles, vain⟩
        · cases ends : (host.play session.id run false).2.2 with
          | ok machine => exact ⟨ready machine, run, compiles, vain, ends⟩
          | error message => exact ⟨raised message, run, compiles, vain, ends⟩

theorem Compiles.load {run : Run (Except String engine.Machine)}
    (compiles : Compiles (session.release host).2 session.id path run) :
    session.loadRun? host path = some run ∧
      Session.Running session.id (session.release host).2 run (session.load host path) := by
  obtain ⟨given, source, held, compiled⟩ := compiles
  rw [(session.release_calm host).files] at held
  have read := (host.files.readText_eq_ok_iff path source).mpr held
  have started : session.loadRun? host path = some run := by
    simp only [Session.loadRun?, if_neg given, read, compiled, Except.toOption]
  exact ⟨started, (Session.load_cases session host path).of_run started⟩

/-- The program ran exactly if the outcome says so. -/
def Plays (host : Host) (id : DeviceId) (path : String) (stints : List Stint)
    (outcome : Outcome engine) : Prop :=
  (outcome.ran = false ∧ stints = []) ∨ (outcome.ran = true ∧
    ∃ run : Run (Except String engine.Machine), Compiles host id path run ∧
      stints = Session.programStints id host run)

/-- What the outcome tells about the load. -/
theorem When.load (session : Session engine) {outcome : Outcome engine}
    (occurs : outcome.When (session.release host).2 session.id path) :
    (session.load host path).1.state = outcome.state ∧
    (session.load host path).1.machine = outcome.machine ∧
    (session.load host path).2.2 = outcome.result session.id path ∧
    outcome.Plays (session.release host).2 session.id path (session.topStints host path) := by
  have files := (session.release_calm host).files
  have played {run : Run (Except String engine.Machine)}
      (compiles : Compiles (session.release host).2 session.id path run)
      (ran : outcome.ran = true) :
      outcome.Plays (session.release host).2 session.id path (session.topStints host path) := by
    refine .inr ⟨ran, run, compiles, ?_⟩
    unfold Session.topStints
    rw [compiles.load.1]
  cases outcome with
  | unloaded =>
    have none : path = "" := occurs
    simp only [Session.load, Session.topStints, Session.loadRun?, if_pos none]
    exact ⟨rfl, session.release_machine host, rfl, .inl ⟨rfl, rfl⟩⟩
  | unreadable =>
    obtain ⟨given, missing⟩ := occurs
    rw [files] at missing
    cases read : host.files.readText path with
    | ok source =>
      exact absurd ((host.files.readText_eq_ok_iff path source).mp read) (missing source)
    | error fault =>
      simp only [Session.load, Session.topStints, Session.loadRun?, if_neg given, files, read]
      exact ⟨rfl, session.release_machine host, rfl, .inl ⟨rfl, rfl⟩⟩
  | uncompiled message =>
    obtain ⟨given, source, held, refused⟩ := occurs
    rw [files] at held
    have read := (host.files.readText_eq_ok_iff path source).mpr held
    simp only [Session.load, Session.loadSource, Session.topStints, Session.loadRun?, if_neg given,
      files, read, refused, Session.release_id]
    exact ⟨rfl, Session.release_machine _ _, rfl, .inl ⟨rfl, rfl⟩⟩
  | raised message =>
    obtain ⟨run, compiles, found, ends⟩ := occurs
    rw [compiles.load.2.of_error found ends]
    exact ⟨rfl, rfl, rfl, played compiles rfl⟩
  | closed =>
    obtain ⟨run, compiles, vain⟩ := occurs
    obtain ⟨state, machine, result⟩ := compiles.load.2.of_vain vain
    exact ⟨state, machine, result, played compiles rfl⟩
  | ready machine =>
    obtain ⟨run, compiles, found, ends⟩ := occurs
    rw [compiles.load.2.of_ok found ends]
    exact ⟨rfl, rfl, rfl, played compiles rfl⟩

/-- No load comes to two outcomes, as one can be told from another by what it does. -/
theorem When.unique {host : Host} {id : DeviceId} {path : String} {one other : Outcome engine}
    (left : one.When host id path) (right : other.When host id path) : one = other := by
  -- Which session loads does not matter: a new one does, which has no machine to give up.
  have first : one.When ((Session.new id : Session engine).release host).2 id path := left
  have second : other.When ((Session.new id : Session engine).release host).2 id path := right
  obtain ⟨state, machine, result, _⟩ := When.load (.new id) first
  obtain ⟨sameState, sameMachine, sameResult, _⟩ := When.load (.new id) second
  rw [sameState] at state
  rw [sameMachine] at machine
  rw [sameResult] at result
  cases one <;> cases other <;>
    simp_all [Outcome.state, Outcome.machine, Outcome.result]

end Load

/-- The device and the log after the outcome is shown, and nothing else is different. -/
theorem afterLoad_outcome (outcome : Outcome engine) (host : Host) {device : DeviceRef}
    (present : host.plant.Has device) (id : DeviceId) (file : String) :
    ∃ plant log, Dispatcher.afterLoad host device outcome.state (outcome.result id file) =
        { host with plant, log } ∧
      plant.device device = { host.device device with
        scriptPath := outcome.path (host.device device).scriptPath
        status := outcome.status (host.device device).status (host.device device).status } ∧
      log.toList = host.log.toList ++ (outcome.complaint? id file).toList.map fun text =>
        ⟨.error, host.prefixed (host.nameOf device ++ ": " ++ text ++ ".")⟩ := by
  have shown (status : String) : (host.plant.setStatus device status).device device =
      { host.device device with status } :=
    (host.plant.device_modifyDevice device device _).trans (if_pos ⟨rfl, present⟩)
  have cleared (status : String) :
      ((host.plant.setScriptPath device "").setStatus device status).device device =
        { host.device device with scriptPath := "", status } := by
    have still : (host.plant.setScriptPath device "").Has device :=
      (host.calm_setScriptPath device "").layout.has_iff device |>.mpr present
    have first : (host.plant.setScriptPath device "").device device =
        { host.device device with scriptPath := "" } :=
      (host.plant.device_modifyDevice device device _).trans (if_pos ⟨rfl, present⟩)
    rw [Plant.setStatus, Plant.device_modifyDevice, if_pos ⟨rfl, still⟩, first]
  cases outcome with
  | unloaded => exact ⟨host.plant, host.log, rfl, rfl, (List.append_nil _).symm⟩
  | ready machine => exact ⟨_, host.log, rfl, shown _, (List.append_nil _).symm⟩
  | closed => exact ⟨host.plant, _, rfl, rfl, host.log_report _ _⟩
  | unreadable | uncompiled message | raised message =>
    exact ⟨_, _, rfl, cleared _, host.log_report _ _⟩

end Outcome

/-- An end of a connection. -/
inductive ConnectionEnd where
  | source
  | target
  deriving DecidableEq

namespace ConnectionEnd

def object (c : Connection) : ConnectionEnd → String
  | source => c.sourceObject
  | target => c.targetObject

/-- What is said about the end if the connection refuses cycles. -/
def warning (name : String) (c : Connection) : ConnectionEnd → String
  | source => name ++ ": Connection from " ++ c.sourceSignal ++ " to " ++ c.targetObject ++ "." ++
      c.targetSignal ++ " should allow cyclic connection."
  | target => name ++ ": Connection from " ++ c.sourceObject ++ "." ++ c.sourceSignal ++ " to " ++
      c.targetSignal ++ " should allow cyclic connection."

/-- The ends at an object of connections that refuse cycles, in the order of the list. -/
def refusing (name : String) (connections : List Connection) :
    List (Connection × ConnectionEnd) :=
  (connections.flatMap fun c => [(c, source), (c, target)]).filter fun (c, at_) =>
    !c.allowCycle && at_.object c = name

theorem acyclicTexts_eq (name : String) (connections : List Connection) :
    (connections.filter fun c => !c.allowCycle).flatMap (Dispatcher.acyclicTexts name) =
      (refusing name connections).map fun (c, at_) => at_.warning name c := by
  have one (c : Connection) : (if !c.allowCycle then Dispatcher.acyclicTexts name c else []) =
      ([(c, source), (c, target)].filter fun (c, at_) => !c.allowCycle && at_.object c = name).map
        fun (c, at_) => at_.warning name c := by
    unfold Dispatcher.acyclicTexts
    cases refuses : c.allowCycle <;> by_cases from_ : c.sourceObject = name <;>
      by_cases into : c.targetObject = name <;>
        simp [object, warning, refuses, from_, into]
  unfold refusing
  rw [List.filter_flatMap, List.map_flatMap]
  simp only [← one]
  induction connections with
  | nil => rfl
  | cons c rest ih =>
    rw [List.flatMap_cons, ← ih]
    cases refuses : c.allowCycle <;> simp [refuses]

end ConnectionEnd

namespace Dispatcher

variable {engine : Engine}

/-- The warnings about connections at the device that refuse cycles: none if they are not wanted or
the device's station is gone, and else one for each end of a connection at the device. -/
def acyclicWarnings (d : Dispatcher engine) (device : DeviceRef) : List LogMessage :=
  match d.config.warnAcyclic, d.host.plant.stationOf? device with
  | true, some station =>
    (ConnectionEnd.refusing (d.host.nameOf device) (d.host.plant.connections station)).map
      fun (c, at_) => ⟨.warning, d.host.prefixed (at_.warning (d.host.nameOf device) c)⟩
  | _, _ => []

theorem warnAcyclic_eq (d : Dispatcher engine) (device : DeviceRef) :
    ∃ log, d.warnAcyclic device = { d with host := { d.host with log } } ∧
      log.toList = d.host.log.toList ++ d.acyclicWarnings device := by
  unfold warnAcyclic acyclicWarnings
  cases d.config.warnAcyclic with
  | false => exact ⟨d.host.log, rfl, (List.append_nil _).symm⟩
  | true =>
    cases d.host.plant.stationOf? device with
    | none => exact ⟨d.host.log, rfl, (List.append_nil _).symm⟩
    | some station =>
      obtain ⟨log, whole, messages⟩ := d.host.foldl_report .warning
        (((d.host.plant.connections station).filter fun c => !c.allowCycle).flatMap
          (acyclicTexts (d.host.nameOf device)))
      refine ⟨log, congrArg (fun host => { d with host }) whole, ?_⟩
      rw [messages, ConnectionEnd.acyclicTexts_eq, List.map_map]
      rfl

/-- Stints of an id that leads nowhere change no device. -/
theorem device_playAll_of_lost {host : Host} {id : DeviceId} (lost : host.leadsTo id = none)
    (stints : List Stint) (device : DeviceRef) :
    (host.playAll id stints).device device = host.device device := by
  refine (host.playAll_frame_leads id stints).others device fun leads => ?_
  rw [lost] at leads
  cases leads

section Reload

variable {d : Dispatcher engine} {device : DeviceRef} {outcome : Outcome engine}

/-- The stints of the device's script, once the machine before it is given up. -/
def program (d : Dispatcher engine) (device : DeviceRef) : List Stint :=
  (d.sessionFor (d.host.device device).id).topStints d.host (d.host.device device).scriptPath

/-- The host when the device's script has run, if it comes that far. -/
def worked (d : Dispatcher engine) (device : DeviceRef) : Host :=
  (d.releaseMachine (d.host.device device).id).host.playAll (d.host.device device).id
    (d.program device)

theorem farewell_eq (d : Dispatcher engine) (id : DeviceId) :
    d.farewell id = (d.sessionFor id).releaseStints := by
  unfold farewell sessionFor
  cases d.session? id <;> rfl

theorem host_releaseMachine (d : Dispatcher engine) (id : DeviceId) :
    (d.releaseMachine id).host = ((d.sessionFor id).release d.host).2 := by
  unfold releaseMachine sessionFor
  cases d.session? id <;> rfl

/-- A load gives a machine up, and then runs the program, if it comes that far. -/
theorem reload_runs (sound : d.Sound) (device : DeviceRef) :
    (d.loaded device).host = afterLoad (d.worked device) device
        ((d.sessionFor (d.host.device device).id).load d.host
          (d.host.device device).scriptPath).1.state
        ((d.sessionFor (d.host.device device).id).load d.host
          (d.host.device device).scriptPath).2.2 ∧
      d.reloadExecutions device =
        Execution.ofStints (some device) (d.reload device) (d.host.device device).id d
          (d.farewell (d.host.device device).id) ++
        Execution.ofStints (some device) (d.reload device) (d.host.device device).id
          (d.releaseMachine (d.host.device device).id) (d.program device) := by
  have bound := (sound.sessionFor (d.host.device device).id).1
  have released := (releaseMachine_eq sound (d.host.device device).id).1
  constructor
  · unfold loaded worked
    dsimp only [putSession]
    rw [Session.host_load, bound, released]
    unfold Session.loadStints
    rw [Host.playAll_append, farewell_eq]
    rfl
  · unfold reloadExecutions
    dsimp only
    unfold Session.loadStints
    rw [Execution.ofStints_append, bound, released, farewell_eq]
    rfl

theorem worked_eq (sound : d.Sound) (device : DeviceRef) :
    d.worked device = d.host.playAll (d.host.device device).id
      (d.farewell (d.host.device device).id ++ d.program device) := by
  unfold worked
  rw [(releaseMachine_eq sound (d.host.device device).id).1, Host.playAll_append]
  rfl

/-- The outcome says the same of the path and of the label if it is told those after the run. -/
theorem shown_worked (sound : d.Sound)
    (occurs : outcome.When (d.releaseMachine (d.host.device device).id).host
      (d.host.device device).id (d.host.device device).scriptPath)
    (plays : outcome.Plays (d.releaseMachine (d.host.device device).id).host
      (d.host.device device).id (d.host.device device).scriptPath (d.program device)) :
    outcome.path ((d.worked device).device device).scriptPath =
        outcome.path (d.host.device device).scriptPath ∧
      outcome.status ((d.worked device).device device).status
          ((d.worked device).device device).status =
        outcome.status (d.host.device device).status
          ((d.releaseMachine (d.host.device device).id).host.device device).status := by
  constructor
  · rw [worked_eq sound, (d.host.playAll_frame_leads (d.host.device device).id _).paths device]
  cases outcome with
  | unloaded =>
    obtain ⟨_, none⟩ | ⟨ran, _⟩ := plays
    · unfold worked
      rw [none]
      rfl
    · cases ran
  | closed =>
    obtain ⟨run, _, vain⟩ := occurs
    have lost : d.host.leadsTo (d.host.device device).id = none := by
      rw [← (d.releaseMachine_handling (d.host.device device).id).calm.leadsTo_eq]
      exact (Host.lookups_eq _ _ run _ vain).symm
    rw [worked_eq sound, device_playAll_of_lost lost]
    rfl
  | unreadable | uncompiled message | raised message | ready machine => rfl

/-- What the outcome makes of the dispatcher, with the host that the runs have left. -/
theorem reload_of_outcome (sound : d.Sound) (present : d.host.plant.Has device)
    (occurs : outcome.When (d.releaseMachine (d.host.device device).id).host
      (d.host.device device).id (d.host.device device).scriptPath) :
    (∃ session, (d.reload device).session? (d.host.device device).id = some session ∧
      session.state = outcome.state ∧ session.machine = outcome.machine) ∧
    outcome.Plays (d.releaseMachine (d.host.device device).id).host (d.host.device device).id
      (d.host.device device).scriptPath (d.program device) ∧
    (d.reload device).host.device device = { (d.worked device).device device with
      scriptPath := outcome.path (d.host.device device).scriptPath
      status := outcome.status (d.host.device device).status
        ((d.releaseMachine (d.host.device device).id).host.device device).status } ∧
    (d.reload device).host.log.toList = (d.worked device).log.toList ++
      ((outcome.complaint? (d.host.device device).id (d.host.device device).scriptPath).toList.map
        fun text => ⟨.error, d.host.prefixed (d.host.nameOf device ++ ": " ++ text ++ ".")⟩) ++
      (d.reload device).acyclicWarnings device := by
  have bound := (sound.sessionFor (d.host.device device).id).1
  have loads : outcome.When ((d.sessionFor (d.host.device device).id).release d.host).2
      (d.sessionFor (d.host.device device).id).id (d.host.device device).scriptPath := by
    rw [bound, ← host_releaseMachine]
    exact occurs
  obtain ⟨state, machine, result, plays⟩ := loads.load (d.sessionFor (d.host.device device).id)
  rw [bound, ← host_releaseMachine] at plays
  have calm : d.host.Calm (d.worked device) := by
    rw [worked_eq sound]
    exact d.host.playAll_calm _ _
  obtain ⟨path, status⟩ := shown_worked sound occurs plays
  obtain ⟨plant, log, shown, record, messages⟩ := outcome.afterLoad_outcome (d.worked device)
    ((calm.layout.has_iff device).mpr present) (d.host.device device).id
    (d.host.device device).scriptPath
  have loaded : (d.loaded device).host = { d.worked device with plant, log } := by
    rw [(reload_runs sound device).1, state, result, bound]
    exact shown
  obtain ⟨after, warned, warnings⟩ := (d.loaded device).warnAcyclic_eq device
  rw [← reload_eq] at warned
  refine ⟨⟨_, ?_, state, machine⟩, plays, ?_, ?_⟩
  · rw [session?_reload, if_pos rfl]
  · rw [warned, loaded, ← path, ← status]
    exact record
  · have same : (d.reload device).acyclicWarnings device =
        (d.loaded device).acyclicWarnings device := by
      rw [warned]
      rfl
    have name : (d.worked device).nameOf device = d.host.nameOf device := calm.layout.name_eq device
    rw [same, warned]
    refine warnings.trans ?_
    rw [loaded, messages, name]
    simp only [Host.prefixed_eq calm.logPrefix]

end Reload

/-- The dispatcher once the device is registered and the machine of its id is given up. -/
def vacated (d : Dispatcher engine) (device : DeviceRef) : Dispatcher engine :=
  (d.register device).releaseMachine (d.host.device device).id

/-- What a change of the device's path comes to, which is decided when the machine before is
gone. -/
def ComesTo (d : Dispatcher engine) (device : DeviceRef) (outcome : Outcome engine) : Prop :=
  outcome.When (d.vacated device).host (d.host.device device).id (d.host.device device).scriptPath

/-- What a change of the path comes to. First the machine before is given up: what its script has
left to run is run, and it touches no more than its device; where nothing is left to run, nothing
happens. Then exactly one of the six outcomes occurs. It decides on the session, so that no machine
is left but the one the program has just ended with; on whether the program ran at all; on the path
and the label, whatever label the script has set; and on the one error that the dispatcher logs on
its own account, or none. Without a path the label stays as the machine before has left it. Warnings
about connections come last. -/
theorem path_change_outcome (d : Dispatcher engine) (reachable : d.Reachable) (device : DeviceRef)
    (known : d.host.plant.Has device) :
    (∃ outcome, d.ComesTo device outcome ∧ ∀ other, d.ComesTo device other → other = outcome) ∧
    (∀ id, id ≠ (d.host.device device).id →
      (d.handle (.scriptPathChanged device)).session? id = d.session? id) ∧
    (d.register device).host.log.toList = d.host.log.toList ++ d.host.stale.map (fun gone =>
      ⟨.information, d.host.prefixed (Host.evictionText (d.host.nameOf gone))⟩) ∧
    (d.vacated device = (d.register device).played (d.host.device device).id
        (d.farewell (d.host.device device).id) ∧
      Host.Frame (· = device) (d.register device).host (d.vacated device).host ∧
      ((∀ stint ∈ d.farewell (d.host.device device).id, stint.run = .done ()) →
        d.vacated device = d.register device)) ∧
    ∀ outcome, d.ComesTo device outcome →
      (∃ session, (d.handle (.scriptPathChanged device)).session? (d.host.device device).id =
          some session ∧
        session.state = outcome.state ∧ session.machine = outcome.machine) ∧
      ((d.handle (.scriptPathChanged device)).host.device device).scriptPath =
        outcome.path (d.host.device device).scriptPath ∧
      ((d.handle (.scriptPathChanged device)).host.device device).status =
        outcome.status (d.host.device device).status
          ((d.vacated device).host.device device).status ∧
      ∃ program : List Stint,
        outcome.Plays (d.vacated device).host (d.host.device device).id
          (d.host.device device).scriptPath program ∧
        d.executions (.scriptPathChanged device) =
          Execution.ofStints (some device) (d.handle (.scriptPathChanged device))
            (d.host.device device).id (d.register device) (d.farewell (d.host.device device).id) ++
          Execution.ofStints (some device) (d.handle (.scriptPathChanged device))
            (d.host.device device).id (d.vacated device) program ∧
        (d.handle (.scriptPathChanged device)).host.log.toList =
          ((d.vacated device).host.playAll (d.host.device device).id program).log.toList ++
          ((outcome.complaint? (d.host.device device).id
            (d.host.device device).scriptPath).toList.map
            fun text => ⟨.error, d.host.prefixed (d.host.nameOf device ++ ": " ++ text ++ ".")⟩) ++
          (d.handle (.scriptPathChanged device)).acyclicWarnings device := by
  have advance := d.register_advance device
  have sound := advance.sound reachable.sound
  have plant : (d.register device).host.plant = d.host.plant := d.host.plant_sweep
  have same : (d.register device).host.device device = d.host.device device :=
    congrArg (fun plant => plant.device device) plant
  have bound := (sound.sessionFor (d.host.device device).id).1
  have released := (releaseMachine_eq sound (d.host.device device).id).1
  refine ⟨?exclusive, ?others, d.host.log_sweep, ⟨released, ?frame, fun silent => ?silent⟩,
    fun outcome occurs => ?decided⟩
  case exclusive =>
    obtain ⟨outcome, occurs⟩ := Outcome.exists_when
      ((d.register device).sessionFor (d.host.device device).id) (d.vacated device).host
      (d.host.device device).scriptPath
    rw [bound] at occurs
    exact ⟨outcome, occurs, fun other also => also.unique occurs⟩
  case others =>
    intro id other
    refine ((d.register device).session?_reload device id).trans (if_neg ?_)
    rw [same]
    exact other
  case frame =>
    have binds : (d.register device).host.Binds device := d.host.register_binds device
    have frame := (d.register device).host.playAll_frame_leads (d.host.device device).id
      (d.farewell (d.host.device device).id)
    unfold vacated
    rw [released]
    refine frame.mono fun ref leads => binds.leads ?_
    have own : ((d.register device).host.device device).id = (d.host.device device).id :=
      congrArg Device.id same
    rw [own]
    exact leads
  case silent =>
    exact releaseMachine_of_silent sound silent
  case decided =>
    have there : (d.register device).host.plant.Has device :=
      (advance.host.layout.has_iff device).mpr known
    have told := reload_of_outcome sound there (by rw [same]; exact occurs)
    have name : (d.register device).host.nameOf device = d.host.nameOf device :=
      advance.host.layout.name_eq device
    have runs := (reload_runs sound device).2
    have worked : (d.register device).worked device = (d.vacated device).host.playAll
        (d.host.device device).id ((d.register device).program device) := by
      unfold Dispatcher.worked
      rw [same]
      rfl
    rw [same] at runs
    rw [same, name, worked] at told
    simp only [Host.prefixed_eq advance.host.logPrefix] at told
    obtain ⟨session, plays, record, log⟩ := told
    refine ⟨session, congrArg Device.scriptPath record, congrArg Device.status record, _, plays,
      runs, log⟩

/-- The script of the cell runs to its end, and its device is shown as loaded although the script
has set another label. -/
theorem path_change_outcome_cell :
    cell.Reachable ∧ cell.host.plant.Has ⟨0⟩ ∧ cell.ComesTo ⟨0⟩ (.ready ()) ∧
    (∃ session, (cell.handle (.scriptPathChanged ⟨0⟩)).session? ⟨"gripper"⟩ = some session ∧
      session.state = .ready ∧ session.machine = some ()) ∧
    ((cell.handle (.scriptPathChanged ⟨0⟩)).host.device ⟨0⟩).status = "File loaded" ∧
    (cell.executions (.scriptPathChanged ⟨0⟩)).map (fun x => (x.host.device ⟨0⟩).status) =
      ["Cleared"] := by
  have reachable : cell.Reachable := .new Host.cell {} .none
  have known : cell.host.plant.Has ⟨0⟩ := by decide
  have occurs : cell.ComesTo ⟨0⟩ (.ready ()) := by
    refine ⟨.call .clearSignals [] fun _ => .done (.ok ()), ⟨by decide, "", ?_, rfl⟩, ?_, rfl⟩
    · exact ⟨ByteArray.empty, rfl, Utf8.decode_toUTF8 ""⟩
    · decide +kernel
  obtain ⟨_, _, _, _, decided⟩ := path_change_outcome cell reachable ⟨0⟩ known
  obtain ⟨session, _, status, _⟩ := decided _ occurs
  exact ⟨reachable, known, occurs, session, status, by decide +kernel⟩

/-- The path of the cell's device was taken away, which the dispatcher is not yet told. -/
def strippedCell : Dispatcher (.parting (.call .clearSignals [] fun _ => .done ())) :=
  partingCell.modifyHost fun host => host.setScriptPath ⟨0⟩ ""

/-- Without a path the session is unloaded, and still a script runs and the label changes: when the
machine before is given up. -/
theorem unloading_lets_old_script_speak :
    (strippedCell.host.device ⟨0⟩).scriptPath = "" ∧
      (strippedCell.host.device ⟨0⟩).status = "File loaded" ∧
      (strippedCell.handle (.scriptPathChanged ⟨0⟩)).sessionState? ⟨"gripper"⟩ = some .unloaded ∧
      (strippedCell.executions (.scriptPathChanged ⟨0⟩)).map Execution.calls = [[.clearSignals]] ∧
      ((strippedCell.handle (.scriptPathChanged ⟨0⟩)).host.device ⟨0⟩).status = "Cleared" ∧
      (strippedCell.handle (.scriptPathChanged ⟨0⟩)).host.log ≠ strippedCell.host.log := by
  refine ⟨?_, ?_, ?_, ?_, ?_, ?_⟩ <;> decide +kernel

end Dispatcher

end StationScript
