import StationScript.Proofs.Dispatcher.Timeless
import StationScript.Proofs.Dispatcher.Refresh

/-!
What scripts learn about time. A script is told the time of the last step of its device, also by the
run that the step itself has started, and the clock as it stands. Whatever happens to the device or
to its script in between, only the teardown of the id makes the host forget.
-/

set_option autoImplicit false

namespace StationScript

/-- A call of a host function, with the host that it is made in. -/
structure HostCall where
  host : Host
  function : HostFunction
  arguments : List Value

namespace HostCall

/-- The device that a call by the script of an id is about; none if it cannot be resolved. -/
def device? (call : HostCall) (id : DeviceId) : Option DeviceRef := (call.host.resolve id).2

/-- What the script is told. -/
def reply (call : HostCall) (id : DeviceId) : Reply :=
  (call.host.answer id call.function call.arguments).reply

end HostCall

namespace Host

/-- The calls of a run, in order. -/
def dialogue {α : Type} (id : DeviceId) : Run α → Host → List HostCall
  | .done _, _ => []
  | .call function arguments resume, host =>
    let answer := host.answer id function arguments
    ⟨host, function, arguments⟩ :: dialogue id (resume answer.reply) answer.host

/-- What came before a call of the run was done by the calls before it. -/
theorem frame_of_mem_dialogue {α : Type} {host : Host} {id : DeviceId} {run : Run α}
    {call : HostCall} (member : call ∈ host.dialogue id run) :
    Frame (fun _ => True) host call.host := by
  induction run generalizing host with
  | done result => cases member
  | call function arguments resume ih =>
    rcases List.mem_cons.mp member with rfl | later
    · exact .refl host
    · have first := answer_frame (fun _ => True) host id function arguments fun _ _ => trivial
      exact first.trans (ih _ later)

/-- In a keyed host the time of the calling script's own device is told. -/
theorem reply_getLastSimulationTime {host : Host} (keyed : host.Keyed) {id : DeviceId}
    {device : DeviceRef} (found : (host.resolve id).2 = some device) (arguments : List Value) :
    (host.answer id .getLastSimulationTime arguments).reply =
      .ok [.ofFloat (host.times.last id), .ofFloat host.clock.time,
        .integer (Int64.ofNat host.clock.state.code)] := by
  have swept := host.calm_sweep
  have stored : (id, device) ∈ host.sweep.registry.entries := Entries.mem_of_lookup found
  have own : (host.sweep.device device).id = id := ((keyed.calm swept).own _ stored).2
  have resolved : host.resolve id = (host.sweep, some device) := Prod.ext rfl found
  have told : host.sweep.simulationTime device = [.ofFloat (host.times.last id),
      .ofFloat host.clock.time, .integer (Int64.ofNat host.clock.state.code)] := by
    unfold simulationTime
    rw [own, host.times_sweep, swept.clock]
  unfold answer
  have accepted : Request.ofArguments arguments .getLastSimulationTime =
      .ok .getLastSimulationTime := rfl
  rw [accepted, resolved]
  exact congrArg Except.ok told

end Host

namespace Dispatcher

variable {engine : Engine}

/-- Every run of an event finds a keyed host. -/
theorem executions_keyed {d : Dispatcher engine} (reachable : d.Reachable) {e : Event}
    (known : ∀ device, e.device? = some device → d.host.plant.Has device) :
    ∀ x ∈ d.executions e, x.before.host.Keyed := by
  intro x member
  cases about : e.device? with
  | some device =>
    have prepared := d.prepare_handling e
    have present := (prepared.calm.layout.has_iff device).mpr (known device about)
    have registered := (reachable.keyed.calm prepared.calm).register present
    exact registered.calm ((d.handle_serving about).started x member).calm
  | none =>
    cases e with
    | logged now text order =>
      obtain ⟨started, _⟩ := loggedExecutions_framed reachable now text order x member
      exact (reachable.keyed.calm d.host.calm_sweep).calm started.calm
    | tornDown id =>
      exact reachable.keyed.calm (tornDownExecutions_confined reachable id x member).1.calm
    | _ => cases about

end Dispatcher

/-- The event is a step of a device with this id, or the teardown of the id. -/
def Event.Times (plant : Plant) (id : DeviceId) : Event → Prop
  | .stepped device _ => (plant.device device).id = id
  | .tornDown other => other = id
  | .attached _ | .scriptPathChanged _ | .signalChanged _ _ | .libraryReplaced _
  | .logged _ _ _ => False

/-- The events that have left their mark on the times when a run of this event asks for one. A step
is recorded before anything runs, a teardown forgets afterwards. -/
def Event.upTo (past : List Event) : Event → List Event
  | .tornDown _ => past
  | e => past ++ [e]

/-- The time of the most recent step under an id since the id was torn down, and -1 if there is no
such step. -/
inductive LastStep (plant : Plant) (id : DeviceId) (past : List Event) : Float → Prop where
  | stepped (front back : List Event) (device : DeviceRef) (time : Float)
    (own : (plant.device device).id = id) (split : past = front ++ .stepped device time :: back)
    (latest : ∀ e ∈ back, ¬ e.Times plant id) : LastStep plant id past time
  | never (forgotten : ∀ front back device time, past = front ++ .stepped device time :: back →
      (plant.device device).id = id → .tornDown id ∈ back) : LastStep plant id past neverSimulated

namespace LastStep

variable {plant : Plant} {id : DeviceId} {past : List Event} {time : Float}

/-- Of two steps in a list one comes later, unless they are one. -/
theorem eq_or_later {front back front' back' : List Event} {e e' : Event}
    (split : front ++ e :: back = front' ++ e' :: back') : e = e' ∨ e' ∈ back ∨ e ∈ back' := by
  rcases List.append_eq_append_iff.mp split with ⟨between, _, after⟩ | ⟨between, _, after⟩
  · cases between with
    | nil => exact .inl (List.cons.inj after).1
    | cons first rest =>
      rw [List.cons_append, List.cons.injEq] at after
      rw [after.2]
      exact .inr (.inl (by simp))
  · cases between with
    | nil => exact .inl (List.cons.inj after).1.symm
    | cons first rest =>
      rw [List.cons_append, List.cons.injEq] at after
      rw [after.2]
      exact .inr (.inr (by simp))

/-- In a list with one more event at its end, an event is that one or was there before. -/
theorem eq_or_earlier {front back : List Event} {e s : Event}
    (split : past ++ [e] = front ++ s :: back) :
    e = s ∨ ∃ before, back = before ++ [e] ∧ past = front ++ s :: before := by
  rcases back.eq_nil_or_concat with rfl | ⟨before, last, rfl⟩
  · have same := (List.append_inj' split rfl).2
    exact .inl (List.cons.inj same).1
  · rw [List.concat_eq_append] at split ⊢
    rw [← List.cons_append, ← List.append_assoc] at split
    obtain ⟨earlier, same⟩ := List.append_inj' split rfl
    rw [(List.cons.inj same).1]
    exact .inr ⟨before, rfl, earlier⟩

/-- There is only one such time. -/
theorem unique {other : Float} (one : LastStep plant id past time)
    (also : LastStep plant id past other) : time = other := by
  cases one with
  | stepped front back device time own split latest =>
    cases also with
    | stepped front' back' device' other own' split' latest' =>
      rcases eq_or_later (split.symm.trans split') with same | later | later
      · exact (Event.stepped.inj same).2
      · exact absurd own' (latest _ later)
      · exact absurd own (latest' _ later)
    | never forgotten => exact absurd rfl (latest _ (forgotten front back device time split own))
  | never forgotten =>
    cases also with
    | stepped front back device other own split latest =>
      exact absurd rfl (latest _ (forgotten front back device other split own))
    | never _ => rfl

/-- What has nothing to do with the times of the id does not count. -/
theorem concat (last : LastStep plant id past time) {e : Event} (other : ¬ e.Times plant id) :
    LastStep plant id (past ++ [e]) time := by
  cases last with
  | stepped front back device time own split latest =>
    refine .stepped front (back ++ [e]) device time own (by rw [split]; simp) fun next member => ?_
    rcases List.mem_append.mp member with early | last
    · exact latest next early
    · rwa [List.mem_singleton.mp last]
  | never forgotten =>
    refine .never fun front back device time split own => ?_
    rcases eq_or_earlier split with rfl | ⟨before, rfl, earlier⟩
    · exact absurd own other
    · exact List.mem_append_left _ (forgotten front before device time earlier own)

theorem of_step (past : List Event) (device : DeviceRef) (time : Float)
    (own : (plant.device device).id = id) :
    LastStep plant id (past ++ [.stepped device time]) time :=
  .stepped past [] device time own rfl fun _ member => absurd member List.not_mem_nil

theorem of_teardown (past : List Event) :
    LastStep plant id (past ++ [.tornDown id]) neverSimulated := by
  refine .never fun front back device time split _ => ?_
  rcases eq_or_earlier split with same | ⟨before, rfl, _⟩
  · cases same
  · exact List.mem_append_right _ List.mem_cons_self

/-- It matters of the plant which ids the devices have that took a step. -/
theorem congr {other : Plant} (last : LastStep plant id past time)
    (same : ∀ device time, .stepped device time ∈ past →
      (other.device device).id = (plant.device device).id) : LastStep other id past time := by
  cases last with
  | stepped front back device time own split latest =>
    have listed {e : Event} (member : e ∈ back) : e ∈ past := by
      rw [split]
      exact List.mem_append_right _ (List.mem_cons_of_mem _ member)
    refine .stepped front back device time ?_ split fun e member => ?_
    · rw [same device time (by rw [split]; simp), own]
    · have never := latest e member
      cases e with
      | stepped device time =>
        have id : (other.device device).id = (plant.device device).id :=
          same device time (listed member)
        exact fun own => never (id.symm.trans own)
      | _ => exact never
  | never forgotten =>
    refine .never fun front back device time split own => ?_
    rw [same device time (by rw [split]; simp)] at own
    exact forgotten front back device time split own

end LastStep

namespace Dispatcher

variable {engine : Engine}

/-- The events that have led to a dispatcher, in order, with whatever happened outside in between.
-/
inductive EventHistory : List Event → Dispatcher engine → Prop where
  | new (host : Host) (config : ScriptConfig) (chooser : Chooser) :
    EventHistory [] { Dispatcher.new host config with chooser }
  | outside (past : List Event) (d : Dispatcher engine) (before : EventHistory past d) (host : Host)
    (change : d.host.Outside host) : EventHistory past { d with host }
  | event (past : List Event) (d : Dispatcher engine) (before : EventHistory past d) (e : Event)
    (known : ∀ device, e.device? = some device → d.host.plant.Has device) :
    EventHistory (past ++ [e]) (d.handle e)

section Event

variable (d : Dispatcher engine) (e : Event) (id : DeviceId)

/-- What a machine still runs when its device is torn down changes no time; then one is
forgotten. -/
theorem times_tornDown (gone : DeviceId) :
    (d.handle (.tornDown gone)).host.times = d.host.times.forget gone :=
  congrArg (·.forget gone) (d.releaseMachine_timeless gone).times

/-- An event that is no step of a device of the id, nor its teardown, does not touch the time. -/
theorem last_handle_of_other (other : ¬ e.Times d.host.plant id) :
    (d.handle e).host.times.last id = d.host.times.last id := by
  by_cases torn : ∃ gone, e = .tornDown gone
  · obtain ⟨gone, rfl⟩ := torn
    have apart : id ≠ gone := fun same => other same.symm
    rw [times_tornDown]
    exact (d.host.times.last_forget gone id).trans (if_neg apart)
  · have handled := d.handle_timeless fun gone same => torn ⟨gone, same⟩
    rw [handled.times]
    cases e with
    | stepped device time =>
      have apart : id ≠ (d.host.device device).id := fun same => other same.symm
      change (d.beginStep device time).host.times.last id = _
      rw [times_beginStep, SimulationTimes.last_record, if_neg apart]
    | _ => rfl

/-- The record follows the events. -/
theorem lastStep_handle {past : List Event}
    (last : LastStep d.host.plant id past (d.host.times.last id)) :
    LastStep d.host.plant id (past ++ [e]) ((d.handle e).host.times.last id) := by
  by_cases other : e.Times d.host.plant id
  · cases e with
    | stepped device time =>
      have handled := d.handle_timeless (e := .stepped device time) fun _ same => by cases same
      have own : (d.host.device device).id = id := other
      have recorded : (d.handle (.stepped device time)).host.times.last id = time := by
        rw [handled.times]
        change (d.beginStep device time).host.times.last id = _
        rw [times_beginStep, SimulationTimes.last_record, if_pos own.symm]
      rw [recorded]
      exact .of_step past device time own
    | tornDown gone =>
      obtain rfl : gone = id := other
      have forgotten : (d.handle (.tornDown gone)).host.times.last gone = neverSimulated := by
        rw [times_tornDown]
        exact (d.host.times.last_forget gone gone).trans (if_pos rfl)
      rw [forgotten]
      exact .of_teardown past
    | _ => exact other.elim
  · rw [last_handle_of_other d e id other]
    exact last.concat other

/-- All runs of an event find the times that stand before the registration. -/
theorem times_of_execution :
    ∀ x ∈ d.executions e, x.before.host.times = (d.prepare e).host.times := by
  by_cases torn : ∃ gone, e = .tornDown gone
  · obtain ⟨gone, rfl⟩ := torn
    exact (d.releaseMachine_timeless gone).runs
  · exact (d.handle_timeless fun gone same => torn ⟨gone, same⟩).runs

/-- By then a step has been recorded, and a teardown has forgotten nothing yet. -/
theorem lastStep_prepare {past : List Event}
    (last : LastStep d.host.plant id past (d.host.times.last id)) :
    LastStep d.host.plant id (e.upTo past) ((d.prepare e).host.times.last id) := by
  have handled (kept : ∀ gone, e ≠ .tornDown gone) :
      LastStep d.host.plant id (past ++ [e]) ((d.prepare e).host.times.last id) := by
    rw [← (d.handle_timeless kept).times]
    exact d.lastStep_handle e id last
  cases e with
  | tornDown gone => exact last
  | _ => exact handled nofun

end Event

namespace EventHistory

variable {past : List Event} {d : Dispatcher engine}

theorem reachable (history : EventHistory past d) : d.Reachable := by
  induction history with
  | new host config chooser => exact .new host config chooser
  | outside past d before host change ih => exact .outside d ih host change
  | event past d before e known ih => exact .event d ih e known

/-- The devices of past events are there. -/
theorem present (history : EventHistory past d) :
    ∀ e ∈ past, ∀ device, e.device? = some device → d.host.plant.Has device := by
  induction history with
  | new host config chooser => exact fun _ member => absurd member List.not_mem_nil
  | outside past d before host change ih =>
    exact fun e member device about => (change.devices device (ih e member device about)).1
  | event past d before e known ih =>
    intro other member device about
    apply ((d.handle_advance e).host.layout.has_iff device).mpr
    rcases List.mem_append.mp member with early | last
    · exact ih other early device about
    · rw [List.mem_singleton.mp last] at about
      exact known device about

/-- What the host remembers of an id is the last step. -/
theorem lastStep (history : EventHistory past d) (id : DeviceId) :
    LastStep d.host.plant id past (d.host.times.last id) := by
  induction history with
  | new host config chooser => exact .never fun _ _ _ _ split _ => by simp at split
  | outside past d before host change ih =>
    rw [change.times]
    refine ih.congr fun device time member => ?_
    exact (change.devices device (before.present _ member device rfl)).2
  | event past d before e known ih =>
    refine (d.lastStep_handle e id ih).congr fun device time _ => ?_
    exact (d.handle_advance e).host.layout.id_eq device

end EventHistory

/-- A script that asks for the time is told the one that stands for its id before the registration,
and what the clock has shown since before the event. -/
theorem reply_of_execution {d : Dispatcher engine} (reachable : d.Reachable) {e : Event}
    (known : ∀ device, e.device? = some device → d.host.plant.Has device) {x : Execution engine}
    (member : x ∈ d.executions e) {call : HostCall}
    (asked : call ∈ x.before.host.dialogue x.id x.run)
    (function : call.function = .getLastSimulationTime) {device : DeviceRef}
    (found : call.device? x.id = some device) :
    call.host.clock = d.host.clock ∧
      call.reply x.id = .ok [.ofFloat ((d.prepare e).host.times.last x.id),
        .ofFloat call.host.clock.time, .integer (Int64.ofNat call.host.clock.state.code)] := by
  have keyed := executions_keyed reachable known x member
  obtain ⟨advance, _, _⟩ := executions_confined reachable e x member
  have frame := Host.frame_of_mem_dialogue asked
  have times : call.host.times = (d.prepare e).host.times :=
    frame.times.trans (d.times_of_execution e x member)
  refine ⟨frame.clock.trans advance.clock, ?_⟩
  unfold HostCall.reply
  rw [function, ← times]
  exact Host.reply_getLastSimulationTime (keyed.calm frame.toCalm) found call.arguments

/-- A script that asks for the time, and finds its device, is told the time of the last step of a
device with its id since the id was torn down. A step that started the run counts as well; a
teardown during which the script still runs does not yet. Without a step the script is told -1. It
is also told what the clock shows when it asks, which is what it shows during the whole event.
Nothing else has a part in this: neither evictions, registrations, loads, failures, closed sessions
nor events of other devices change what is remembered. -/
theorem scripts_see_last_step {past : List Event} {d : Dispatcher engine}
    (history : EventHistory past d) (e : Event)
    (known : ∀ device, e.device? = some device → d.host.plant.Has device) :
    (∀ id, ¬ e.Times d.host.plant id →
      (d.handle e).host.times.last id = d.host.times.last id) ∧
    ∀ x ∈ d.executions e,
      (∀ device, x.device? = some device → (d.host.device device).id = x.id) ∧
      (∃ time, LastStep d.host.plant x.id (e.upTo past) time) ∧
      ∀ call ∈ x.before.host.dialogue x.id x.run, call.function = .getLastSimulationTime →
        ∀ device, call.device? x.id = some device →
          call.host.clock = d.host.clock ∧
          ∀ time, LastStep d.host.plant x.id (e.upTo past) time →
            call.reply x.id = .ok [.ofFloat time, .ofFloat call.host.clock.time,
              .integer (Int64.ofNat call.host.clock.state.code)] := by
  have reachable := history.reachable
  refine ⟨fun id other => last_handle_of_other d e id other, ?_⟩
  intro x member
  have last := d.lastStep_prepare e x.id (history.lastStep x.id)
  obtain ⟨advance, confined, _⟩ := executions_confined reachable e x member
  refine ⟨fun device about => ?_, ⟨_, last⟩, ?_⟩
  · exact (confined.own device about).trans (advance.layout.id_eq device) |>.symm
  intro call asked function device found
  obtain ⟨clock, reply⟩ := reply_of_execution reachable known member asked function found
  refine ⟨clock, fun time told => ?_⟩
  rw [reply, last.unique told]

/-- Nothing happened yet in the cell; its script asks for the time, whenever it runs. -/
def timedCell : Dispatcher (.repeating (.call .getLastSimulationTime [] fun _ => .done ())) :=
  { new Host.cell {} with chooser := .none }

/-- The first step of the loaded script's device is at 40 ms, and the script is told so already when
it is called for this step. -/
theorem scripts_see_last_step_timedCell :
    let d := timedCell.handle (.scriptPathChanged ⟨0⟩)
    let runs := d.executions (.stepped ⟨0⟩ 40.0)
    runs.map Execution.calls = [[.getLastSimulationTime]] ∧
    runs.map Execution.found = [[some ⟨0⟩]] ∧
    ∀ x ∈ runs, ∀ call ∈ x.before.host.dialogue x.id x.run,
      call.function = .getLastSimulationTime → call.device? x.id = some ⟨0⟩ →
        call.reply x.id = .ok [.ofFloat 40.0, .ofFloat call.host.clock.time,
          .integer (Int64.ofNat call.host.clock.state.code)] := by
  intro d runs
  have known (e : Event) (about : e.device? = some ⟨0⟩) (device : DeviceRef)
      (same : e.device? = some device) : timedCell.host.plant.Has device := by
    obtain rfl := Option.some.inj (about.symm.trans same)
    decide
  have history : EventHistory [.scriptPathChanged ⟨0⟩] d :=
    .event [] timedCell (.new Host.cell {} .none) (.scriptPathChanged ⟨0⟩) (known _ rfl)
  have still (device : DeviceRef) (same : Event.device? (.stepped ⟨0⟩ 40.0) = some device) :
      d.host.plant.Has device :=
    ((timedCell.handle_advance (.scriptPathChanged ⟨0⟩)).host.layout.has_iff device).mpr
      (known (.stepped ⟨0⟩ 40.0) rfl device same)
  refine ⟨by decide +kernel, by decide +kernel, ?_⟩
  intro x member call asked function found
  have about : x.device? = some ⟨0⟩ :=
    (executions_confined history.reachable _ x member).2.2 ⟨0⟩ rfl
  obtain ⟨_, told⟩ := scripts_see_last_step history (.stepped ⟨0⟩ 40.0) still
  obtain ⟨own, _, replies⟩ := told x member
  exact (replies call asked function ⟨0⟩ found).2 40.0
    (.of_step [.scriptPathChanged ⟨0⟩] ⟨0⟩ 40.0 (own ⟨0⟩ about))

end Dispatcher

end StationScript
