import StationScript.Proofs.Dispatcher.History
import StationScript.Proofs.Session.Stints

/-!
The scripts that an event runs: top levels, calls of functions, and what machines still run when
they are given up, each with the host before and after it and with what its calls find.
-/

set_option autoImplicit false

namespace StationScript

/-- A dispatcher with the host that some stints of an id's script leave. -/
def Dispatcher.played {engine : Engine} (d : Dispatcher engine) (id : DeviceId)
    (stints : List Stint) : Dispatcher engine :=
  { d with host := d.host.playAll id stints }

/-- A stint of an id's script on behalf of a device. It starts in the dispatcher `before`, whose
host is the one that the run finds; `after` is the dispatcher after the load, call or teardown that
it was part of. -/
structure Execution (engine : Engine) extends Stint where
  id : DeviceId
  /-- The device of the event, or the one to be refreshed; in a teardown, where the id leads. -/
  device? : Option DeviceRef
  before : Dispatcher engine
  after : Dispatcher engine

namespace Execution

variable {engine : Engine}

/-- What the calls find when they look for the device. -/
def found (x : Execution engine) : List (Option DeviceRef) := x.before.host.lookups x.id x.run

def calls (x : Execution engine) : List HostFunction := x.before.host.calls x.id x.run

/-- The host that the run leaves behind. -/
def host (x : Execution engine) : Host := (x.before.host.play x.id x.run false).1

def ofStint (device? : Option DeviceRef) (before after : Dispatcher engine) (id : DeviceId)
    (stint : Stint) : Execution engine := { stint with id, device?, before, after }

/-- Stints in a row, each in the host that the one before it left. -/
def ofStints (device? : Option DeviceRef) (after : Dispatcher engine) (id : DeviceId) :
    Dispatcher engine → List Stint → List (Execution engine)
  | _, [] => []
  | before, stint :: rest =>
    ofStint device? before after id stint ::
      ofStints device? after id (before.played id [stint]) rest

theorem ofStints_append (device? : Option DeviceRef) (before after : Dispatcher engine)
    (id : DeviceId) (front back : List Stint) :
    ofStints device? after id before (front ++ back) = ofStints device? after id before front ++
      ofStints device? after id (before.played id front) back := by
  induction front generalizing before with
  | nil => rfl
  | cons stint rest ih => exact congrArg (_ :: ·) (ih _)

/-- Each of them is one of the stints, played after those in front of it. -/
theorem mem_ofStints {device? : Option DeviceRef} {before after : Dispatcher engine} {id : DeviceId}
    {stints : List Stint} {x : Execution engine} :
    x ∈ ofStints device? after id before stints ↔ ∃ front stint back,
      stints = front ++ stint :: back ∧
      x = ofStint device? (before.played id front) after id stint := by
  induction stints generalizing before with
  | nil => simp [ofStints]
  | cons first rest ih =>
    constructor
    · intro member
      rcases List.mem_cons.mp member with rfl | later
      · exact ⟨[], first, rest, rfl, rfl⟩
      · obtain ⟨front, stint, back, rfl, rfl⟩ := ih.mp later
        exact ⟨first :: front, stint, back, rfl, rfl⟩
    · rintro ⟨front, stint, back, split, rfl⟩
      cases front with
      | nil =>
        cases split
        exact List.mem_cons_self
      | cons _ front =>
        cases split
        exact List.mem_cons_of_mem _ (ih.mpr ⟨front, stint, back, rfl, rfl⟩)

/-- The functions that some of the runs call. -/
def Called (runs : List (Execution engine)) (function : HostFunction) : Prop :=
  ∃ x ∈ runs, function ∈ x.calls

theorem called_iff (runs : List (Execution engine)) (function : HostFunction) :
    Called runs function ↔ ∃ calls ∈ runs.map Execution.calls, function ∈ calls := by
  constructor
  · rintro ⟨x, member, call⟩
    exact ⟨x.calls, List.mem_map_of_mem member, call⟩
  · rintro ⟨_, listed, call⟩
    obtain ⟨x, member, rfl⟩ := List.mem_map.mp listed
    exact ⟨x, member, call⟩

theorem called_append_left {front : List (Execution engine)} {function : HostFunction}
    (called : Called front function) (back : List (Execution engine)) :
    Called (front ++ back) function := by
  obtain ⟨x, member, call⟩ := called
  exact ⟨x, List.mem_append_left back member, call⟩

theorem called_append_right {back : List (Execution engine)} {function : HostFunction}
    (called : Called back function) (front : List (Execution engine)) :
    Called (front ++ back) function := by
  obtain ⟨x, member, call⟩ := called
  exact ⟨x, List.mem_append_right front member, call⟩

end Execution

namespace Dispatcher

variable {engine : Engine}

def reloadExecutions (d : Dispatcher engine) (device : DeviceRef) : List (Execution engine) :=
  let session := d.sessionFor (d.host.device device).id
  Execution.ofStints (some device) (d.reload device) session.id d
    (session.loadStints d.host (d.host.device device).scriptPath)

def ensureExecutions (d : Dispatcher engine) (device : DeviceRef) : List (Execution engine) :=
  if (d.session? (d.host.device device).id).isSome then [] else d.reloadExecutions device

def dispatchExecutions (d : Dispatcher engine) (device : DeviceRef) (entry : String)
    (arguments : List Value) : List (Execution engine) :=
  match d.session? (d.host.device device).id with
  | none => []
  | some session =>
    Execution.ofStints (some device) (d.dispatch device entry arguments) session.id d
      (session.invokeStints d.host entry arguments)

def refreshExecutions (d : Dispatcher engine) (device : DeviceRef) : List (Execution engine) :=
  d.ensureExecutions device ++
    (d.ensure device).dispatchExecutions device signalChangedEntry [.ofText "", .ofFloat 0.0]

def broadcastExecutions : Dispatcher engine → List DeviceRef → List (Execution engine)
  | _, [] => []
  | d, device :: rest =>
    d.refreshExecutions device ++ (d.refreshLogged device).broadcastExecutions rest

def chooseScriptExecutions (d : Dispatcher engine) (device : DeviceRef) : List (Execution engine) :=
  let current := d.host.device device
  let chosen := d.chooser.select d.asked current.name current.scriptPath
  let d := { d with asked := chosen.1 }
  match chosen.2 with
  | .unchanged => []
  | .reopen => d.reloadExecutions device
  | .path path => (d.modifyHost fun host => host.setScriptPath device path).reloadExecutions device

def signalChangedExecutions (d : Dispatcher engine) (device : DeviceRef) (signal : String) :
    List (Execution engine) :=
  let d := d.register device
  match (d.host.device device).signals.get? signal with
  | none => []
  | some s =>
    if signal = controlSignal then
      if s.value == 1.0 then d.chooseScriptExecutions device else []
    else if s.kind.isInput then
      d.ensureExecutions device ++ (d.ensure device).dispatchExecutions device signalChangedEntry
        [.ofText signal, .ofFloat s.value]
    else []

def loggedExecutions (d : Dispatcher engine) (now : Nat) (text : String) (order : Listing) :
    List (Execution engine) :=
  if !d.asksForRefresh text || d.withinWindow now then []
  else
    let (host, devices) := d.host.liveDevices order
    { d with host }.broadcastExecutions devices

def tornDownExecutions (d : Dispatcher engine) (id : DeviceId) : List (Execution engine) :=
  match d.session? id with
  | none => []
  | some session =>
    Execution.ofStints (d.host.leadsTo id) (d.releaseMachine id) session.id d session.releaseStints

/-- The runs that handling an event starts, in order, each with what it does to the host. -/
def executions (d : Dispatcher engine) : Event → List (Execution engine)
  | .attached _ => []
  | .scriptPathChanged device => (d.register device).reloadExecutions device
  | .signalChanged device signal => d.signalChangedExecutions device signal
  | .stepped device time =>
    let d := (d.beginStep device time).register device
    d.ensureExecutions device ++ (d.ensure device).dispatchExecutions device simulationStepEntry []
  | .libraryReplaced device => (d.register device).refreshExecutions device
  | .logged now text order => d.loggedExecutions now text order
  | .tornDown id => d.tornDownExecutions id

theorem played_handling (d : Dispatcher engine) (id : DeviceId) (stints : List Stint) :
    Handling d (d.played id stints) :=
  ⟨d.host.playAll_calm id stints, rfl, fun sound => sound.of_sessions_eq rfl⟩

/-- The runs of a load are its stints, in the dispatcher that loads. -/
theorem mem_reloadExecutions {d : Dispatcher engine} {device : DeviceRef} {x : Execution engine}
    (member : x ∈ d.reloadExecutions device) :
    ∃ stints, x.before = d.played (d.sessionFor (d.host.device device).id).id stints := by
  obtain ⟨front, stint, back, _, rfl⟩ := Execution.mem_ofStints.mp member
  exact ⟨front, rfl⟩

/-- So are those of a call. -/
theorem mem_dispatchExecutions {d : Dispatcher engine} {device : DeviceRef} {entry : String}
    {arguments : List Value} {x : Execution engine}
    (member : x ∈ d.dispatchExecutions device entry arguments) :
    ∃ session, d.session? (d.host.device device).id = some session ∧
      ∃ stints, x.before = d.played session.id stints := by
  unfold dispatchExecutions at member
  split at member
  · cases member
  · rename_i session held
    obtain ⟨front, stint, back, _, rfl⟩ := Execution.mem_ofStints.mp member
    exact ⟨session, held, front, rfl⟩

end Dispatcher

end StationScript
