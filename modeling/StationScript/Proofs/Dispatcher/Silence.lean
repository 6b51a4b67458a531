import StationScript.Proofs.Dispatcher.Stopped
import StationScript.Proofs.Plant.Propagation

/-!
The silence of scripts that do not run. What one event does not do to such a script is a record of
facts; it is kept by every event that does not start the script, and so by a run of any length.
-/

set_option autoImplicit false

namespace StationScript.Dispatcher

variable {engine : Engine}

/-- The plant when the connections into the device of a step are carried. No other event carries
any. -/
def propagated (d : Dispatcher engine) : Event → Plant
  | .stepped device _ =>
    match d.host.plant.stationOf? device with
    | none => d.host.plant
    | some station => d.host.plant.propagate station (d.host.nameOf device)
  | _ => d.host.plant

/-- The dispatcher with other files to read. -/
def withFiles (d : Dispatcher engine) (files : Files) : Dispatcher engine :=
  d.modifyHost fun host => { host with files }

section Prepared

variable (d : Dispatcher engine) (e : Event)

theorem prepare_eq : ∃ times, d.prepare e =
    { d with host := { d.host with plant := d.propagated e, times } } := by
  cases e with
  | stepped device time =>
    unfold prepare beginStep propagated
    dsimp only [modifyHost]
    cases d.host.plant.stationOf? device with
    | none => exact ⟨_, rfl⟩
    | some station => exact ⟨_, rfl⟩
  | _ => exact ⟨d.host.times, rfl⟩

/-- Propagation leaves everything of a device alone but its signals. -/
theorem device_propagated (ref : DeviceRef) : ∃ signals,
    (d.propagated e).device ref = { d.host.device ref with signals } := by
  refine ⟨((d.propagated e).device ref).signals, ?_⟩
  cases e with
  | stepped device time =>
    unfold propagated
    dsimp only
    split
    · rfl
    · rename_i station _
      have kept := Plant.project_propagate (fun x : Device => { x with signals := .initial })
        (fun _ _ => rfl) d.host.plant station (d.host.nameOf device) ref
      exact congrArg (fun x : Device => { x with
        signals := ((d.host.plant.propagate station (d.host.nameOf device)).device ref).signals })
          kept
  | _ => rfl

theorem stale_prepare : (d.prepare e).host.stale = d.host.stale := by
  have layout := (d.prepare_handling e).calm.layout
  obtain ⟨times, whole⟩ := d.prepare_eq e
  rw [whole] at layout ⊢
  unfold Host.stale
  simp only [layout.tracked_eq]

/-- Registering the device of an event evicts and writes of nothing else. -/
theorem log_register_prepare (device : DeviceRef) :
    ((d.prepare e).register device).host.log.toList = d.host.log.toList ++
      d.host.stale.map fun gone =>
        ⟨.information, d.host.prefixed (Host.evictionText (d.host.nameOf gone))⟩ := by
  have layout := (d.prepare_handling e).calm.layout
  have name (gone : DeviceRef) : (d.prepare e).host.nameOf gone = d.host.nameOf gone :=
    layout.name_eq gone
  refine (d.prepare e).host.log_sweep.trans ?_
  rw [stale_prepare]
  simp only [name]
  obtain ⟨times, whole⟩ := d.prepare_eq e
  rw [whole]
  rfl

theorem withFiles_prepare (files : Files) :
    (d.withFiles files).prepare e = (d.prepare e).withFiles files := by
  cases e with
  | stepped device time =>
    unfold prepare beginStep withFiles
    dsimp only [modifyHost]
    cases d.host.plant.stationOf? device <;> rfl
  | _ => rfl

theorem withFiles_register (files : Files) (device : DeviceRef) :
    (d.withFiles files).register device = (d.register device).withFiles files := by
  have reports (texts : List String) (host : Host) :
      texts.foldl Host.info { host with files } = { texts.foldl Host.info host with files } :=
    List.foldl_hom (fun host : Host => { host with files }) fun _ _ => rfl
  have swept : ({ d.host with files } : Host).sweep = { d.host.sweep with files } :=
    reports (d.host.stale.map fun gone => Host.evictionText (d.host.nameOf gone))
      { d.host with registry := d.host.liveRegistry }
  exact congrArg (fun host : Host => { d with host := { host with
    registry := host.registry.insert (host.device device).id device } }) swept

end Prepared

/-- What an event of a stopped script's device does not depend on is the files. -/
theorem withFiles_handle {d : Dispatcher engine} (sound : d.Sound) {e : Event} {device : DeviceRef}
    (about : e.device? = some device) {session : Session engine}
    (stopped : d.Stopped (d.host.device device).id session)
    (spared : ¬ d.Restarts (d.host.device device).id e) (files : Files) :
    (d.withFiles files).handle e = (d.handle e).withFiles files := by
  have also : ¬ (d.withFiles files).Restarts (d.host.device device).id e := by
    cases e <;> exact spared
  obtain ⟨whole, _⟩ := handle_of_stopped sound about stopped spared
  have apart : (d.withFiles files).Sound := sound.of_sessions_eq rfl
  obtain ⟨other, _⟩ := handle_of_stopped apart about ⟨stopped.held, stopped.idle⟩ also
  have asked : (d.withFiles files).askedBy e = d.askedBy e := by
    cases e <;> rfl
  rw [other, whole, asked, withFiles_prepare, withFiles_register]
  rfl

/-- In a refresh of all devices the turn of a stopped script comes to an announcement. -/
theorem turn_of_stopped {d : Dispatcher engine} (sound : d.Sound) (keyed : d.host.Keyed)
    {device : DeviceRef} {session : Session engine}
    (stopped : d.Stopped (d.host.device device).id session) {order : Listing}
    {earlier later : List DeviceRef}
    (listed : (d.host.liveDevices order).2 = earlier ++ device :: later) :
    (d.swept.broadcast earlier).refreshLogged device =
      (d.swept.broadcast earlier).modifyHost fun host =>
        host.info ("Updating component " ++ host.nameOf device) := by
  have registered := d.swept_handling.sound sound
  have still : d.swept.Stopped (d.host.device device).id session := ⟨stopped.held, stopped.idle⟩
  have handling := d.swept.broadcast_handling earlier
  have spares := broadcast_spares registered still earlier fun other member => by
    have live : other ∈ (d.host.liveDevices order).2 := listed ▸ List.mem_append_left _ member
    exact (sweep_binds keyed other (Host.mem_liveDevices_sweep.mp live)).2
  have id : ((d.swept.broadcast earlier).host.device device).id = (d.host.device device).id :=
    (d.swept_handling.calm.trans handling.calm).layout.id_eq device
  have reached := still.spared spares
  rw [← id] at reached
  exact (refreshLogged_of_stopped (handling.sound registered) reached).1

/-- What an event does not do to the script of an id. No run is one of the script; the session
stays, and so does everything of its devices but the signals that propagation writes. An event of
such a device is the same whatever the files are, and all that is logged are evictions. In a refresh
of all devices it has its turn, and all that happens in it is that the update is announced. -/
structure PassesBy (d : Dispatcher engine) (id : DeviceId) (e : Event) : Prop where
  session : (d.handle e).session? id = d.session? id
  runs : ∀ x ∈ d.executions e, x.id ≠ id
  devices : ∀ ref, (d.host.device ref).id = id →
    (d.handle e).host.device ref = (d.propagated e).device ref
  files : ∀ device, e.device? = some device → (d.host.device device).id = id →
    ∀ files, (d.withFiles files).handle e = (d.handle e).withFiles files
  log : ∀ device, e.device? = some device → (d.host.device device).id = id →
    (d.handle e).host.log.toList = d.host.log.toList ++ d.host.stale.map fun gone =>
      ⟨.information, d.host.prefixed (Host.evictionText (d.host.nameOf gone))⟩
  turn : ∀ now text order, e = .logged now text order → (d.onLogMessage now text order).2 = true →
    ∀ earlier device later, (d.host.liveDevices order).2 = earlier ++ device :: later →
      (d.host.device device).id = id →
        d.handle e = { ((d.swept.broadcast earlier).modifyHost fun host =>
          host.info ("Updating component " ++ host.nameOf device)).broadcast later with
            lastRefresh := some now }

theorem passesBy_of_stopped {d : Dispatcher engine} (sound : d.Sound) (keyed : d.host.Keyed)
    {id : DeviceId} {session : Session engine} (stopped : d.Stopped id session) {e : Event}
    (spared : ¬ d.Restarts id e) : d.PassesBy id e := by
  have spares := handle_spares sound keyed stopped spared
  have prepared := d.prepare_handling e
  obtain ⟨times, before⟩ := d.prepare_eq e
  have ids (ref : DeviceRef) : ((d.prepare e).host.device ref).id = (d.host.device ref).id :=
    prepared.calm.layout.id_eq ref
  refine ⟨?session, spares.others, fun ref own => ?devices, ?files, ?log, ?turn⟩
  case session =>
    rw [spares.session, before]
    rfl
  case devices =>
    rw [spares.devices ref (ids ref ▸ own), before]
    rfl
  case files =>
    rintro device about rfl files
    exact withFiles_handle sound about stopped spared files
  case log =>
    rintro device about rfl
    obtain ⟨whole, _⟩ := handle_of_stopped sound about stopped spared
    rw [whole]
    exact d.log_register_prepare e device
  case turn =>
    rintro now text order rfl granted earlier device later listed rfl
    have whole : d.handle (.logged now text order) =
        { d.swept.broadcast (d.host.liveDevices order).2 with lastRefresh := some now } :=
      onLogMessage_of_granted granted
    have turn := turn_of_stopped sound keyed stopped listed
    rw [whole, listed, ← turn]
    unfold broadcast
    rw [List.foldl_append]
    rfl

/-- The devices that events are about exist. -/
def Knows (d : Dispatcher engine) (events : List Event) : Prop :=
  ∀ e ∈ events, ∀ device, e.device? = some device → d.host.plant.Has device

/-- No event of a run can start the script of the id. -/
def NeverRestarts (d : Dispatcher engine) (id : DeviceId) (events : List Event) : Prop :=
  ∀ front e back, events = front ++ e :: back → ¬ (d.handleAll front).Restarts id e

/-- The event is about a device of the id. -/
def Concerns (d : Dispatcher engine) (id : DeviceId) (e : Event) : Prop :=
  ∃ device, e.device? = some device ∧ (d.host.device device).id = id

section Run

variable {d : Dispatcher engine} {id : DeviceId} {e : Event} {rest : List Event}

theorem Knows.tail (known : d.Knows (e :: rest)) : (d.handle e).Knows rest :=
  fun other listed device about => ((d.handle_advance e).host.layout.has_iff device).mpr
    (known other (List.mem_cons_of_mem e listed) device about)

theorem NeverRestarts.head (never : d.NeverRestarts id (e :: rest)) : ¬ d.Restarts id e :=
  never [] e rest rfl

theorem NeverRestarts.tail (never : d.NeverRestarts id (e :: rest)) :
    (d.handle e).NeverRestarts id rest :=
  fun front other back split => never (e :: front) other back (congrArg (e :: ·) split)

/-- What a run of events keeps of a script that is stopped at its beginning. -/
structure Keeps (id : DeviceId) (session : Session engine) (before after : Dispatcher engine) :
    Prop where
  reachable : after.Reachable
  stopped : after.Stopped id session
  devices : ∀ ref, (before.host.device ref).id = id →
    ∃ signals, after.host.device ref = { before.host.device ref with signals }

theorem keeps_handleAll {session : Session engine} (reachable : d.Reachable)
    (stopped : d.Stopped id session) {events : List Event} (known : d.Knows events)
    (never : d.NeverRestarts id events) : Keeps id session d (d.handleAll events) := by
  induction events generalizing d with
  | nil => exact ⟨reachable, stopped, fun ref _ => ⟨_, rfl⟩⟩
  | cons e rest ih =>
    have passes := passesBy_of_stopped reachable.sound reachable.keyed stopped never.head
    have next : (d.handle e).Reachable := .event d reachable e (known e List.mem_cons_self)
    have kept := ih next ⟨passes.session.trans stopped.held, stopped.idle⟩ known.tail never.tail
    refine ⟨kept.reachable, kept.stopped, fun ref own => ?_⟩
    obtain ⟨signals, carried⟩ := d.device_propagated e ref
    have first := (passes.devices ref own).trans carried
    obtain ⟨last, later⟩ := kept.devices ref (by rw [first]; exact own)
    rw [first] at later
    exact ⟨last, later⟩

/-- So every event on the way passes the script by. -/
theorem passesBy_handleAll {session : Session engine} (reachable : d.Reachable)
    (stopped : d.Stopped id session) {events : List Event} (known : d.Knows events)
    (never : d.NeverRestarts id events) {front back : List Event}
    (split : events = front ++ e :: back) : (d.handleAll front).PassesBy id e := by
  have known' : d.Knows front := fun other listed =>
    known other (split ▸ List.mem_append_left _ listed)
  have never' : d.NeverRestarts id front := fun first other last part =>
    never first other (last ++ e :: back) (by simp [split, part])
  have early := keeps_handleAll reachable stopped known' never'
  exact passesBy_of_stopped early.reachable.sound early.reachable.keyed early.stopped
    (never front e back split)

/-- Events of the stopped script's devices write nothing but information. -/
theorem log_handleAll {session : Session engine} (reachable : d.Reachable)
    (stopped : d.Stopped id session) {events : List Event} (known : d.Knows events)
    (never : d.NeverRestarts id events) (own : ∀ e ∈ events, d.Concerns id e) :
    ∃ added, (d.handleAll events).host.log.toList = d.host.log.toList ++ added ∧
      ∀ message ∈ added, message.severity = .information := by
  induction events generalizing d with
  | nil => exact ⟨[], (List.append_nil _).symm, fun _ member => absurd member List.not_mem_nil⟩
  | cons e rest ih =>
    have passes := passesBy_of_stopped reachable.sound reachable.keyed stopped never.head
    have next : (d.handle e).Reachable := .event d reachable e (known e List.mem_cons_self)
    have layout := (d.handle_advance e).host.layout
    obtain ⟨device, about, same⟩ := own e List.mem_cons_self
    obtain ⟨added, log, information⟩ := ih next ⟨passes.session.trans stopped.held, stopped.idle⟩
      known.tail never.tail fun other listed => by
        obtain ⟨device, about, same⟩ := own other (List.mem_cons_of_mem e listed)
        exact ⟨device, about, (layout.id_eq device).trans same⟩
    rw [passes.log device about same, List.append_assoc] at log
    refine ⟨_, log, fun message member => ?_⟩
    rcases List.mem_append.mp member with early | late
    · obtain ⟨gone, _, rfl⟩ := List.mem_map.mp early
      rfl
    · exact information message late

end Run

/-- A script that does not run stays that way and keeps quiet, whatever happens to its devices,
until the path is changed, the chooser gives a script, or the session is torn down. Every single
event passes it by. So after any number of events the session is the same, its devices are the same
but for their signals, and their own events have written nothing but information. Changes of signals
to which scripts do not listen pass by every script. -/
theorem stopped_script_stays_silent (d : Dispatcher engine) (reachable : d.Reachable) :
    (∀ (id : DeviceId) (session : Session engine), d.Stopped id session →
      ∀ events, d.Knows events → d.NeverRestarts id events →
        (d.handleAll events).session? id = some session ∧
        (∀ ref, (d.host.device ref).id = id → ∃ signals,
          (d.handleAll events).host.device ref = { d.host.device ref with signals }) ∧
        (∀ front e back, events = front ++ e :: back → (d.handleAll front).PassesBy id e) ∧
        ((∀ e ∈ events, d.Concerns id e) → ∃ added,
          (d.handleAll events).host.log.toList = d.host.log.toList ++ added ∧
          ∀ message ∈ added, message.severity = .information)) ∧
    (∀ (device : DeviceRef) (signal : String),
      (∀ s, (d.host.device device).signals.get? signal = some s →
        if signal = controlSignal then (s.value == 1.0) = false else s.kind.isInput = false) →
      d.handle (.signalChanged device signal) = d.register device ∧
        d.executions (.signalChanged device signal) = []) ∧
    ∀ (id : DeviceId) (session : Session engine), d.Stopped id session →
      ∀ events e, d.Knows (events ++ [e]) →
        (∃ x ∈ (d.handleAll events).executions e, x.id = id) →
        ∃ front other back, events ++ [e] = front ++ other :: back ∧
          (d.handleAll front).Restarts id other := by
  refine ⟨?stopped, fun device signal => onSignalChanged_of_ignored, ?started⟩
  case stopped =>
    intro id session stopped events known never
    have kept := keeps_handleAll reachable stopped known never
    exact ⟨kept.stopped.held, kept.devices,
      fun front e back => passesBy_handleAll reachable stopped known never,
      log_handleAll reachable stopped known never⟩
  case started =>
    rintro id session stopped events e known ⟨x, ran, own⟩
    refine Classical.byContradiction fun none => ?_
    have never : d.NeverRestarts id (events ++ [e]) := fun front other back split restarts =>
      none ⟨front, other, back, split, restarts⟩
    have passes := passesBy_handleAll reachable stopped known never rfl
    exact passes.runs x ran own

/-- The script of the cell is missing, as was found out when the path was set. -/
def missingCell : Dispatcher (.repeating (.call .clearSignals [] fun _ => .done ())) :=
  ({ new { Host.cell with files := .none } {} with chooser := .none } : Dispatcher _).handle
    (.scriptPathChanged ⟨0⟩)

/-- What happens in it afterwards. -/
def laterEvents : List Event := [.stepped ⟨0⟩ 1.0, .libraryReplaced ⟨0⟩, .stepped ⟨0⟩ 2.0]

theorem mem_laterEvents {e : Event} (listed : e ∈ laterEvents) :
    e.device? = some ⟨0⟩ ∧
      ∀ {engine : Engine} (d : Dispatcher engine) (id : DeviceId), ¬ d.Restarts id e := by
  simp only [laterEvents, List.mem_cons, List.not_mem_nil, or_false] at listed
  rcases listed with rfl | rfl | rfl <;> exact ⟨rfl, fun _ _ => id⟩

/-- Its device goes on to take part in the simulation, but that the script is missing is said
once. -/
theorem stopped_script_stays_silent_missingCell :
    missingCell.Reachable ∧ missingCell.sessionState? ⟨"gripper"⟩ = some .error ∧
    (missingCell.handleAll laterEvents).sessionState? ⟨"gripper"⟩ = some .error ∧
    ((missingCell.handleAll laterEvents).host.log.toList.filter fun message =>
      message.severity = .error) =
        [⟨.error, "LuaScript: Gripper: can't open file: gripper.lua."⟩] := by
  have reachable : missingCell.Reachable := by
    refine .event _ (.new { Host.cell with files := .none } {} .none) (.scriptPathChanged ⟨0⟩) ?_
    intro device about
    cases about
    decide
  have failed : missingCell.sessionState? ⟨"gripper"⟩ = some .error := by decide +kernel
  obtain ⟨session, held, state⟩ := Option.map_eq_some_iff.mp failed
  have stopped : missingCell.Stopped ⟨"gripper"⟩ session := ⟨held, by rw [state]; decide⟩
  have known : missingCell.Knows laterEvents := by
    intro e listed device about
    rw [(mem_laterEvents listed).1] at about
    cases about
    decide +kernel
  have never : missingCell.NeverRestarts ⟨"gripper"⟩ laterEvents := by
    intro front e back split
    have listed : e ∈ laterEvents := split ▸ List.mem_append_right _ List.mem_cons_self
    exact (mem_laterEvents listed).2 _ _
  obtain ⟨silent, _⟩ := stopped_script_stays_silent missingCell reachable
  obtain ⟨still, _, _, quiet⟩ := silent _ session stopped _ known never
  obtain ⟨added, log, information⟩ := quiet fun e listed =>
    ⟨⟨0⟩, (mem_laterEvents listed).1, by decide +kernel⟩
  refine ⟨reachable, failed, ?_, ?_⟩
  · rw [sessionState?, still, Option.map_some, state]
  · have none : (added.filter fun message => message.severity = .error) = [] := by
      refine List.filter_eq_nil_iff.mpr fun message member => ?_
      rw [information message member]
      decide
    rw [log, List.filter_append, none, List.append_nil]
    decide +kernel

end StationScript.Dispatcher
