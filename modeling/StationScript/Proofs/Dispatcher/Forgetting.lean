import StationScript.Proofs.Dispatcher.Agreement
import StationScript.Proofs.Dispatcher.FirstLoad
import StationScript.Proofs.Dispatcher.Happening
import StationScript.Proofs.Dispatcher.StepTimes

/-!
Forgetting an id. A teardown gives up the machine of the id, which is the last time that its script
runs; then it takes away what the dispatcher holds for the id and touches nothing else. From then on
nothing tells the dispatcher apart from one that never held anything for the id: whatever comes
about, the same runs are started and the same is written.

So the id begins anew. The first event that calls for its script loads the script from the stored
path into a new session; until then none of its scripts runs. No step of it is remembered, and
nothing of it can be evicted, until a device with the id takes a step or is registered.
-/

set_option autoImplicit false

namespace StationScript

/-- It is no event of this kind. -/
def Happening.Avoids (kind : Event → Prop) : Happening → Prop
  | .event e => ¬ kind e
  | .outside _ => True

namespace Dispatcher

variable {engine : Engine}

/-- It can come about here: the device of an event is there, and devices keep their ids and never
cease to exist. -/
def Admits (d : Dispatcher engine) : Happening → Prop
  | .event e => ∀ device, e.device? = some device → d.host.plant.Has device
  | .outside now => ∀ ref, d.host.plant.Has ref →
      now.plant.Has ref ∧ (now.plant.device ref).id = (d.host.device ref).id

/-- This holds of each happening, where the ones before it have led. -/
def Throughout (holds : Dispatcher engine → Happening → Prop) (d : Dispatcher engine)
    (happenings : List Happening) : Prop :=
  ∀ front h back, happenings = front ++ h :: back → holds (d.undergoAll front) h

namespace Throughout

variable {holds : Dispatcher engine → Happening → Prop} {d : Dispatcher engine} {h : Happening}
  {rest : List Happening}

theorem head (all : Throughout holds d (h :: rest)) : holds d h := all [] h rest rfl

theorem tail (all : Throughout holds d (h :: rest)) : Throughout holds (d.undergo h) rest :=
  fun front other back split => all (h :: front) other back (congrArg (h :: ·) split)

theorem nil : Throughout holds d [] := fun front _ _ split => by simp at split

theorem cons (first : holds d h) (later : Throughout holds (d.undergo h) rest) :
    Throughout holds d (h :: rest) := by
  intro front other back split
  cases front with
  | nil =>
    obtain ⟨rfl, _⟩ := List.cons.inj split
    exact first
  | cons before between =>
    obtain ⟨rfl, rest⟩ := List.cons.inj split
    exact later between other back rest

theorem and {also : Dispatcher engine → Happening → Prop} {happenings : List Happening}
    (left : Throughout holds d happenings) (right : Throughout also d happenings) :
    Throughout (fun d h => holds d h ∧ also d h) d happenings :=
  fun front h back split => ⟨left front h back split, right front h back split⟩

/-- What each such happening keeps is kept by all of them. -/
theorem keeps {happenings : List Happening} (all : Throughout holds d happenings)
    (kept : Dispatcher engine → Prop) (start : kept d)
    (step : ∀ d h, holds d h → kept d → kept (d.undergo h)) : kept (d.undergoAll happenings) := by
  induction happenings generalizing d with
  | nil => exact start
  | cons h rest ih => exact ih all.tail (step d h all.head start)

end Throughout

theorem Admits.outside {d : Dispatcher engine} {now : Surroundings}
    (admits : d.Admits (.outside now)) : d.host.Outside (d.host.amid now) :=
  ⟨rfl, rfl, rfl, admits⟩

theorem Reachable.undergo {d : Dispatcher engine} (reachable : d.Reachable) {h : Happening}
    (admits : d.Admits h) : (d.undergo h).Reachable := by
  cases h with
  | event e => exact .event d reachable e admits
  | outside now => exact .outside d reachable _ admits.outside

theorem Reachable.undergoAll {d : Dispatcher engine} (reachable : d.Reachable)
    {happenings : List Happening} (admitted : Throughout Admits d happenings) :
    (d.undergoAll happenings).Reachable :=
  admitted.keeps Reachable reachable fun _ _ admits before => before.undergo admits

section Held

/-- Nothing is held for the id: no session, no time, no device. -/
structure HoldsNothing (d : Dispatcher engine) (id : DeviceId) : Prop where
  session : d.session? id = none
  time : d.host.times.entries.lookup id = none
  device : d.host.registry.get? id = none

/-- Nothing but what is held for the id tells the dispatchers apart. -/
structure SameBut (id : DeviceId) (one other : Dispatcher engine) : Prop where
  rest : other = { one with
    host := { one.host with times := other.host.times, registry := other.host.registry }
    sessions := other.sessions }
  sessions : ∀ key, key ≠ id → other.session? key = one.session? key
  times : ∀ key, key ≠ id → other.host.times.entries.lookup key = one.host.times.entries.lookup key
  registry : other.host.registry.erase id = one.host.registry.erase id

variable (d : Dispatcher engine) (id : DeviceId)

theorem forget_holdsNothing : (d.forget id).HoldsNothing id :=
  ⟨Entries.lookup_erase_self _ _, Entries.lookup_erase_self _ _, Entries.lookup_erase_self _ _⟩

theorem forget_sameBut : SameBut id d (d.forget id) := by
  refine ⟨rfl, fun key other => Entries.lookup_erase_of_ne _ other,
    fun key other => Entries.lookup_erase_of_ne _ other, ?_⟩
  have again : Entries.erase (Entries.erase d.host.registry.entries id) id =
      Entries.erase d.host.registry.entries id :=
    Entries.erase_of_absent (Entries.lookup_erase_self _ _)
  exact congrArg Registry.mk again

/-- Dispatchers that hold nothing for the id agree if nothing else tells them apart. -/
theorem agree_of_sameBut {d other : Dispatcher engine} {id : DeviceId} (same : SameBut id d other)
    (nothing : other.HoldsNothing id) : Agree (d.forget id) other := by
  have forgotten := d.forget_holdsNothing id
  have local_ := d.forget_sameBut id
  have registry : other.host.registry = d.host.registry.erase id := by
    rw [← same.registry]
    exact (congrArg Registry.mk (Entries.erase_of_absent nothing.device)).symm
  have host : other.host = (d.forget id).host.withTimes other.host.times := by
    have rest := congrArg Dispatcher.host same.rest
    rw [registry] at rest
    exact rest
  refine ⟨⟨host, fun key => ?times⟩, fun key => ?sessions, ?rest⟩
  case times =>
    by_cases own : key = id
    · rw [own, nothing.time, forgotten.time]
    · rw [same.times key own, local_.times key own]
  case sessions =>
    by_cases own : key = id
    · rw [own, nothing.session, forgotten.session]
    · rw [same.sessions key own, local_.sessions key own]
  case rest =>
    have rest := congrArg (fun x : Dispatcher engine =>
      { x with host := other.host, sessions := other.sessions }) same.rest
    exact rest

end Held

section Agreement

variable {one other : Dispatcher engine} (agree : Agree one other)
include agree

theorem undergo_agree (h : Happening) : Agree (one.undergo h) (other.undergo h) := by
  cases h with
  | event e => exact (handle_agree agree e).agree
  | outside now =>
    have host := agree.host.map (fun host => host.amid now) (fun _ => rfl) rfl
    exact agree.modifyHost (fun host => host.amid now) (fun host => host.amid now) host

/-- Dispatchers that agree do so whatever comes about. -/
theorem undergoAll_agree (happenings : List Happening) :
    Agree (one.undergoAll happenings) (other.undergoAll happenings) := by
  induction happenings generalizing one other with
  | nil => exact agree
  | cons h rest ih => exact ih (undergo_agree agree h)

end Agreement

section Registry

variable {d : Dispatcher engine} {e : Event} {id : DeviceId}

theorem absent_prepare (absent : d.host.registry.get? id = none) {device : DeviceRef}
    (other : (d.host.device device).id ≠ id) :
    ((d.prepare e).register device).host.registry.get? id = none := by
  have calm := (d.prepare_handling e).calm
  apply Host.absent_register (calm.absent absent)
  intro same
  exact other ((calm.layout.id_eq device).symm.trans same)

/-- An event about no device of the id registers none. -/
theorem absent_handle (absent : d.host.registry.get? id = none) (other : ¬ d.Concerns id e) :
    (d.handle e).host.registry.get? id = none := by
  cases about : e.device? with
  | some device =>
    have apart : (d.host.device device).id ≠ id := fun own => other ⟨device, about, own⟩
    exact (d.handle_handling about).calm.absent (absent_prepare absent apart)
  | none =>
    cases e with
    | logged now text order => exact (d.onLogMessage_handling now text order).calm.absent absent
    | tornDown gone =>
      exact Entries.lookup_filter_of_absent ((d.releaseMachine_handling gone).calm.absent absent) _
    | _ => cases about

/-- Nor does any of its runs find a device of the id. -/
theorem absent_before (reachable : d.Reachable) (absent : d.host.registry.get? id = none)
    (other : ¬ d.Concerns id e) :
    ∀ x ∈ d.executions e, x.before.host.registry.get? id = none := by
  intro x member
  cases about : e.device? with
  | some device =>
    have apart : (d.host.device device).id ≠ id := fun own => other ⟨device, about, own⟩
    exact ((d.handle_serving about).started x member).calm.absent (absent_prepare absent apart)
  | none =>
    cases e with
    | logged now text order =>
      obtain ⟨started, _⟩ := loggedExecutions_framed reachable now text order x member
      exact started.calm.absent (d.host.calm_sweep.absent absent)
    | tornDown gone =>
      exact (tornDownExecutions_confined reachable gone x member).1.calm.absent absent
    | _ => cases about

end Registry

/-- The event is a step of a device with the id. -/
def Steps (d : Dispatcher engine) (id : DeviceId) : Event → Prop
  | .stepped device _ => (d.host.device device).id = id
  | _ => False

/-- No step of the id is remembered, and the scripts that an event runs are told so, unless the
event is such a step itself. -/
structure Untimed (d : Dispatcher engine) (id : DeviceId) : Prop where
  time : d.host.times.last id = neverSimulated
  told : ∀ e, d.Admits (.event e) → ¬ d.Steps id e → ∀ x ∈ d.executions e, x.id = id →
    ∀ call ∈ x.before.host.dialogue id x.run,
      call.function = .getLastSimulationTime → ∀ device, call.device? id = some device →
        call.reply id = .ok [.ofFloat neverSimulated, .ofFloat call.host.clock.time,
          .integer (Int64.ofNat call.host.clock.state.code)]

/-- Nobody is registered under the id, and while an event is about no device of the id, no call of a
script finds it otherwise. -/
structure Unregistered (d : Dispatcher engine) (id : DeviceId) : Prop where
  vacant : d.host.Vacant id
  calls : ∀ e, d.Admits (.event e) → ¬ d.Concerns id e → ∀ x ∈ d.executions e,
    ∀ call ∈ x.before.host.dialogue x.id x.run, call.host.Vacant id

section Fresh

variable {d : Dispatcher engine} {id : DeviceId}

/-- What is remembered stays -1 until a step. -/
theorem last_handle_of_unstepped (never : d.host.times.last id = neverSimulated) {e : Event}
    (other : ¬ d.Steps id e) : (d.handle e).host.times.last id = neverSimulated := by
  by_cases torn : e = .tornDown id
  · rw [torn, times_tornDown]
    exact (d.host.times.last_forget id id).trans (if_pos rfl)
  · have apart : ¬ e.Times d.host.plant id := by
      intro times
      cases e with
      | stepped device time => exact other times
      | tornDown gone => exact torn (congrArg Event.tornDown times)
      | _ => exact times
    rw [d.last_handle_of_other e id apart, never]

/-- Nor does what comes before the registration remember a step of the id. -/
theorem last_prepare_of_unstepped {e : Event} (other : ¬ d.Steps id e) :
    (d.prepare e).host.times.last id = d.host.times.last id := by
  cases e with
  | stepped device time =>
    have apart : id ≠ (d.host.device device).id := fun same => other same.symm
    change (d.beginStep device time).host.times.last id = _
    rw [times_beginStep, SimulationTimes.last_record, if_neg apart]
  | _ => rfl

theorem untimed_of_never (reachable : d.Reachable) (never : d.host.times.last id = neverSimulated) :
    d.Untimed id := by
  refine ⟨never, ?_⟩
  rintro e known other x member rfl call asked function device found
  obtain ⟨_, reply⟩ := reply_of_execution reachable known member asked function found
  rw [last_prepare_of_unstepped other, never] at reply
  exact reply

theorem unregistered_of_absent (reachable : d.Reachable)
    (absent : d.host.registry.get? id = none) : d.Unregistered id := by
  refine ⟨Host.vacant_of_absent reachable.keyed absent, ?_⟩
  intro e known other x member call asked
  have found := absent_before reachable absent other x member
  have frame := Host.frame_of_mem_dialogue asked
  have keyed := executions_keyed reachable known x member
  exact Host.vacant_of_absent (keyed.calm frame.toCalm) (frame.toCalm.absent found)

/-- A device that is there stays, and keeps its id. -/
theorem device_undergo {ref : DeviceRef} (h : Happening) (admits : d.Admits h)
    (there : d.host.plant.Has ref ∧ (d.host.device ref).id = id) :
    (d.undergo h).host.plant.Has ref ∧ ((d.undergo h).host.device ref).id = id := by
  cases h with
  | event e =>
    have layout := (d.handle_advance e).host.layout
    exact ⟨(layout.has_iff ref).mpr there.1, (layout.id_eq ref).trans there.2⟩
  | outside now =>
    obtain ⟨still, same⟩ := admits ref there.1
    exact ⟨still, same.trans there.2⟩

variable {happenings : List Happening} (reachable : d.Reachable)
  (admitted : Throughout Admits d happenings)
include reachable admitted

/-- Until an event calls for the script, the id has no session. -/
theorem unloaded_undergoAll (new : d.session? id = none)
    (uncalled : Throughout (fun d h => h.Avoids (d.CallsFor id)) d happenings) :
    (d.undergoAll happenings).Unloaded id := by
  apply unloaded_of_new (reachable.undergoAll admitted)
  have kept : (d.undergoAll happenings).Reachable ∧
      (d.undergoAll happenings).session? id = none := by
    apply (admitted.and uncalled).keeps (fun d => d.Reachable ∧ d.session? id = none)
    · exact ⟨reachable, new⟩
    · rintro d h ⟨admits, avoids⟩ ⟨before, new⟩
      refine ⟨before.undergo admits, ?_⟩
      cases h with
      | event e => exact ((unloaded_of_new before new).uncalled e avoids).1
      | outside now => exact new
  exact kept.2

/-- Until a device of the id takes a step, no time is remembered. -/
theorem untimed_undergoAll (never : d.host.times.last id = neverSimulated)
    (unstepped : Throughout (fun d h => h.Avoids (d.Steps id)) d happenings) :
    (d.undergoAll happenings).Untimed id := by
  apply untimed_of_never (reachable.undergoAll admitted)
  apply unstepped.keeps (fun d => d.host.times.last id = neverSimulated) never
  intro d h avoids never
  cases h with
  | event e => exact last_handle_of_unstepped never avoids
  | outside now => exact never

/-- Until an event is about a device of the id, nobody is registered under it. -/
theorem unregistered_undergoAll (absent : d.host.registry.get? id = none)
    (unconcerned : Throughout (fun d h => h.Avoids (d.Concerns id)) d happenings) :
    (d.undergoAll happenings).Unregistered id := by
  apply unregistered_of_absent (reachable.undergoAll admitted)
  apply unconcerned.keeps (fun d => d.host.registry.get? id = none) absent
  intro d h avoids absent
  cases h with
  | event e => exact absent_handle absent avoids
  | outside now => exact absent

end Fresh

/-- A teardown gives up the machine of an id, if there is one: what the script has left to run for
this moment is run as a script of the id, and touches no more than the device that the id leads to.
Where nothing is left to run, nothing happens. Then the teardown takes the session, the time and the
device of the id away, and nothing else. What comes about later, it comes about as for any
dispatcher that is told apart by nothing but that it never held anything for the id. So the id
begins anew: the first event that calls for its script loads the script from the stored path into a
new session, and none of its scripts runs before; scripts are told that it was never simulated until
it takes a step; and no sweep evicts a device of the id, let alone the one that was registered
before, until an event is about such a device. -/
theorem teardown_leaves_no_trace {d : Dispatcher engine} (reachable : d.Reachable) (id : DeviceId) :
    (d.releaseMachine id = d.played id (d.farewell id) ∧
      d.executions (.tornDown id) =
        Execution.ofStints (d.host.leadsTo id) (d.releaseMachine id) id d
        (d.farewell id) ∧
      Host.Frame (fun ref => d.host.leadsTo id = some ref) d.host (d.releaseMachine id).host ∧
      ((∀ stint ∈ d.farewell id, stint.run = .done ()) → d.releaseMachine id = d)) ∧
    (d.teardown id).HoldsNothing id ∧ SameBut id (d.releaseMachine id) (d.teardown id) ∧
    (∀ other : Dispatcher engine, SameBut id (d.releaseMachine id) other → other.HoldsNothing id →
      ∀ happenings, Agree ((d.teardown id).undergoAll happenings) (other.undergoAll happenings) ∧
        ∀ e, List.Forall₂ RunsAlike (((d.teardown id).undergoAll happenings).executions e)
          ((other.undergoAll happenings).executions e)) ∧
    ∀ happenings, Throughout Admits (d.teardown id) happenings →
      (Throughout (fun d h => h.Avoids (d.CallsFor id)) (d.teardown id) happenings →
        ((d.teardown id).undergoAll happenings).Unloaded id) ∧
      (Throughout (fun d h => h.Avoids (d.Steps id)) (d.teardown id) happenings →
        ((d.teardown id).undergoAll happenings).Untimed id) ∧
      (Throughout (fun d h => h.Avoids (d.Concerns id)) (d.teardown id) happenings →
        ((d.teardown id).undergoAll happenings).Unregistered id ∧
        ∀ old, d.host.registry.get? id = some old →
          old ∉ ((d.teardown id).undergoAll happenings).host.stale) := by
  have forgotten : (d.teardown id).HoldsNothing id := forget_holdsNothing _ id
  have torn : (d.teardown id).Reachable :=
    .event d reachable (.tornDown id) fun device about => by cases about
  obtain ⟨played, runs⟩ := releaseMachine_eq reachable.sound id
  refine ⟨⟨played, runs, ?frame, releaseMachine_of_silent reachable.sound⟩, forgotten,
    forget_sameBut _ id, ?alike, ?anew⟩
  case frame =>
    rw [played]
    exact d.host.playAll_frame_leads id _
  case alike =>
    intro other same nothing happenings
    have agree := undergoAll_agree (agree_of_sameBut same nothing) happenings
    exact ⟨agree, fun e => (handle_agree agree e).runs⟩
  case anew =>
    intro happenings admitted
    have never : (d.teardown id).host.times.last id = neverSimulated := by
      have forgets : (d.teardown id).host.times = d.host.times.forget id := d.times_tornDown id
      rw [forgets]
      exact (d.host.times.last_forget id id).trans (if_pos rfl)
    refine ⟨unloaded_undergoAll torn admitted forgotten.session,
      untimed_undergoAll torn admitted never, fun unconcerned => ?_⟩
    have unregistered := unregistered_undergoAll torn admitted forgotten.device unconcerned
    refine ⟨unregistered, fun old found stale => ?_⟩
    have before := reachable.keyed.own _ (Entries.mem_of_lookup found)
    have layout := (d.handle_advance (.tornDown id)).host.layout
    have there : (d.teardown id).host.plant.Has old ∧ ((d.teardown id).host.device old).id = id :=
      ⟨(layout.has_iff old).mpr before.1, (layout.id_eq old).trans before.2⟩
    have still := admitted.keeps (fun d =>
      d.host.plant.Has old ∧ (d.host.device old).id = id) there fun d h => device_undergo h
    exact unregistered.vacant.evicted old stale still.2

/-- The script of the cell is loaded. Its id is torn down and the device attached again: then the
script is loaded afresh by the next step, and until then no step is remembered. -/
theorem teardown_leaves_no_trace_loadedCell :
    (loadedCell.session? ⟨"gripper"⟩).isSome = true ∧
      ((loadedCell.teardown ⟨"gripper"⟩).handle (.attached ⟨0⟩)).LoadsAfresh ⟨"gripper"⟩
        (.stepped ⟨0⟩ 40.0) ∧
      ((loadedCell.teardown ⟨"gripper"⟩).handle (.attached ⟨0⟩)).host.times.last ⟨"gripper"⟩ =
        neverSimulated := by
  obtain ⟨_, _, _, _, anew⟩ := teardown_leaves_no_trace loadedCell_reachable ⟨"gripper"⟩
  have present : (loadedCell.teardown ⟨"gripper"⟩).host.plant.Has ⟨0⟩ := by decide +kernel
  have admits : (loadedCell.teardown ⟨"gripper"⟩).Admits (.event (.attached ⟨0⟩)) := by
    intro device about
    cases about
    exact present
  obtain ⟨unloaded, untimed, _⟩ := anew [.event (.attached ⟨0⟩)] (.cons admits .nil)
  have attached : ((loadedCell.teardown ⟨"gripper"⟩).handle (.attached ⟨0⟩)).host.plant.Has ⟨0⟩ :=
    ((Dispatcher.handle_advance _ (.attached ⟨0⟩)).host.layout.has_iff ⟨0⟩).mpr present
  refine ⟨by decide +kernel, ?_, (untimed (.cons not_false .nil)).time⟩
  apply (unloaded (.cons not_false .nil)).called (.stepped ⟨0⟩ 40.0)
  · intro device about
    cases about
    exact attached
  · show (((loadedCell.teardown ⟨"gripper"⟩).handle (.attached ⟨0⟩)).host.device ⟨0⟩).id =
      ⟨"gripper"⟩
    decide +kernel

/-- A teardown is neither silent nor followed by a fresh load with the next event. What the cell's
script has left to run labels the device and leaves a message; and while the device has the id and a
path is stored for it, to attach it is no more than to register it. -/
theorem teardown_is_heard_and_attachment_loads_nothing :
    (partingCell.teardown ⟨"gripper"⟩).host.log ≠ partingCell.host.log ∧
      (partingCell.host.device ⟨0⟩).status = "File loaded" ∧
      ((partingCell.teardown ⟨"gripper"⟩).host.device ⟨0⟩).status = "Cleared" ∧
      ((partingCell.teardown ⟨"gripper"⟩).host.device ⟨0⟩).id = ⟨"gripper"⟩ ∧
      ((partingCell.teardown ⟨"gripper"⟩).host.device ⟨0⟩).scriptPath = "gripper.lua" ∧
      ¬ (partingCell.teardown ⟨"gripper"⟩).LoadsAfresh ⟨"gripper"⟩ (.attached ⟨0⟩) := by
  refine ⟨by decide +kernel, by decide +kernel, by decide +kernel, by decide +kernel,
    by decide +kernel, fun afresh => ?_⟩
  apply afresh.held
  exact (forget_holdsNothing (partingCell.releaseMachine ⟨"gripper"⟩) ⟨"gripper"⟩).session

end Dispatcher

end StationScript
