import StationScript.Proofs.Dispatcher.Binding

/-!
What a script may touch, as an equation for the host after a run.

A frame says of each part of the host whether it may have changed. Put together, the host after a
run is the host before it with other signals and another label of one device, more connections in
that device's station, more messages, and maybe fewer entries in the registry. A run whose id leads
nowhere has no device to touch.
-/

set_option autoImplicit false

namespace StationScript

namespace Plant

/-- The connections are listed after those of the station that the device was made for. -/
def extend (plant : Plant) (device : DeviceRef) (added : List Connection) : Plant :=
  match plant.stationOf? device with
  | none => plant
  | some station =>
    plant.modifyStation station fun s => { s with connections := s.connections ++ added }

/-- What one device's script may make of a plant. -/
def touch (plant : Plant) (device : DeviceRef) (signals : SignalStore) (status : String)
    (added : List Connection) : Plant :=
  (plant.modifyDevice device fun d => { d with signals, status }).extend device added

@[simp] theorem device_extend (plant : Plant) (device other : DeviceRef)
    (added : List Connection) : (plant.extend device added).device other = plant.device other := by
  unfold extend
  split <;> rfl

theorem station?_extend (plant : Plant) (device : DeviceRef) (added : List Connection)
    (ref : StationRef) : (plant.extend device added).station? ref =
      if plant.stationOf? device = some ref then
        (plant.station? ref).map fun s => { s with connections := s.connections ++ added }
      else plant.station? ref := by
  unfold extend
  cases plant.stationOf? device with
  | none => rfl
  | some station =>
    dsimp only
    rw [station?_modifyStation]
    by_cases same : ref = station
    · rw [if_pos same, if_pos (congrArg some same.symm)]
    · rw [if_neg same, if_neg fun equal => same (Option.some.inj equal).symm]

theorem sizes_touch (plant : Plant) (device : DeviceRef) (signals : SignalStore) (status : String)
    (added : List Connection) :
    (plant.touch device signals status added).devices.size = plant.devices.size ∧
      (plant.touch device signals status added).stations.size = plant.stations.size := by
  unfold touch extend
  split
  · exact ⟨size_modifyDevice plant device _, rfl⟩
  · exact ⟨size_modifyDevice plant device _, by simp [modifyStation, modifyDevice]⟩

end Plant

namespace Host

/-- What a script may make of a host, if its calls find a certain device or none. -/
def touch (host : Host) (device? : Option DeviceRef) (signals : SignalStore) (status : String)
    (added : List Connection) (written : List LogMessage) (registry : Registry) : Host :=
  { host with
    plant := match device? with
      | none => host.plant
      | some device => host.plant.touch device signals status added
    log := ⟨host.log.messages ++ written⟩
    registry }

namespace Frame

variable {device : DeviceRef} {before after : Host}

theorem device_eq (frame : Frame (· = device) before after) (ref : DeviceRef)
    (added : List Connection) : after.plant.device ref = (before.plant.touch device
      (after.device device).signals (after.device device).status added).device ref := by
  rw [Plant.touch, Plant.device_extend, Plant.device_modifyDevice]
  by_cases own : ref = device
  · subst own
    have identity := frame.layout.identity ref
    have path := frame.paths ref
    by_cases present : before.plant.Has ref
    · rw [if_pos ⟨rfl, present⟩]
      unfold Host.device at path ⊢
      unfold Device.identity at identity
      cases old : before.plant.device ref
      cases new : after.plant.device ref
      simp_all
    · -- a reference to nothing leads to the default device before and after
      rw [if_neg fun both => present both.2]
      have absent : ¬ after.plant.Has ref := mt (frame.layout.has_iff ref).mp present
      unfold Plant.Has at present absent
      rw [Plant.device, Plant.device, Array.getD, Array.getD, dif_neg present, dif_neg absent]
  · rw [if_neg fun both => own both.1]
    exact frame.others ref own

/-- The connections that were added, all of them in the device's own station. -/
theorem added (frame : Frame (· = device) before after) : ∃ added, ∀ ref,
    after.plant.station? ref = (before.plant.extend device added).station? ref := by
  have gone (ref : StationRef) (absent : before.plant.station? ref = none) :
      after.plant.station? ref = none := by
    rcases frame.layout.station?_cases ref with ⟨_, new⟩ | ⟨old, _, present, _⟩
    · exact new
    · rw [absent] at present
      cases present
  have foreign (ref : StationRef) (other : before.plant.stationOf? device ≠ some ref) :
      after.plant.station? ref = before.plant.station? ref := by
    cases present : before.plant.station? ref with
    | none => exact gone ref present
    | some old =>
      obtain ⟨added, found, owned⟩ := frame.stations ref old present
      have none : added = [] := by
        refine Classical.byContradiction fun some => ?_
        obtain ⟨_, rfl, home⟩ := owned some
        exact other home
      rw [found, none, List.append_nil]
  cases home : before.plant.stationOf? device with
  | none =>
    refine ⟨[], fun ref => ?_⟩
    rw [Plant.station?_extend, home, if_neg nofun]
    exact foreign ref (by rw [home]; exact nofun)
  | some station =>
    cases present : before.plant.station? station with
    | none =>
      refine ⟨[], fun ref => ?_⟩
      rw [Plant.station?_extend, home]
      split
      · rename_i same
        cases same
        rw [gone station present, present]
        rfl
      · exact foreign ref (by rwa [home])
    | some old =>
      obtain ⟨added, found, _⟩ := frame.stations station old present
      refine ⟨added, fun ref => ?_⟩
      rw [Plant.station?_extend, home]
      split
      · rename_i same
        cases same
        rw [found, present]
        rfl
      · exact foreign ref (by rwa [home])

theorem plant_touch (frame : Frame (· = device) before after) : ∃ added,
    after.plant = before.plant.touch device (after.device device).signals
      (after.device device).status added := by
  obtain ⟨added, stations⟩ := frame.added
  obtain ⟨devices, count⟩ := before.plant.sizes_touch device (after.device device).signals
    (after.device device).status added
  refine ⟨added, Plant.ext_refs (frame.layout.size.trans devices.symm)
    (frame.count.trans count.symm) (fun ref => frame.device_eq ref added) fun ref => ?_⟩
  rw [stations ref, Plant.station?_extend, Plant.touch, Plant.station?_extend,
    Plant.station?_modifyDevice]
  have home := (Plant.SameLayout.modifyDevice before.plant device
    (fun d => { d with signals := (after.device device).signals
                       status := (after.device device).status }) fun _ => rfl).stationOf?_eq device
  rw [home]

/-- Without an owner the plant stays as it is. -/
theorem plant_eq {owner : DeviceRef → Prop} (frame : Frame owner before after)
    (nobody : ∀ ref, ¬ owner ref) : after.plant = before.plant := by
  refine Plant.ext_refs frame.layout.size frame.count (fun ref => frame.others ref (nobody ref))
    fun ref => ?_
  have same := frame.stations_eq fun s => ?_
  · unfold Plant.station?
    rw [same]
  · unfold Plant.connections
    rcases frame.layout.station?_cases s with ⟨absent, new⟩ | ⟨old, _, present, _⟩
    · rw [absent, new]
    · obtain ⟨added, found, owned⟩ := frame.stations s old present
      have none : added = [] := by
        refine Classical.byContradiction fun some => ?_
        obtain ⟨ref, mine, _⟩ := owned some
        exact nobody ref mine
      rw [found, present, none, List.append_nil]

/-- A frame around one device, or around nothing, as an equation. -/
theorem touch_eq {device? : Option DeviceRef}
    (frame : Frame (fun ref => device? = some ref) before after) :
    ∃ signals status added written,
      after = before.touch device? signals status added written after.registry ∧
        ∀ message ∈ written, before.owns message.text = true := by
  obtain ⟨written, log, owned⟩ := frame.log
  have messages : after.log = ⟨before.log.messages ++ written⟩ := by
    have equal : after.log.messages = before.log.messages ++ written :=
      Array.toList_inj.mp (log.trans (Array.toList_appendList ..).symm)
    cases read : after.log
    rw [read] at equal
    exact congrArg Log.mk equal
  have rest : after = { before with
      plant := after.plant, log := ⟨before.log.messages ++ written⟩,
      registry := after.registry } := by
    rw [← messages, ← frame.files, ← frame.clock, ← frame.logPrefix, ← frame.times]
  cases device? with
  | none =>
    refine ⟨.empty, "", [], written, ?_, owned⟩
    rw [frame.plant_eq nofun] at rest
    exact rest
  | some device =>
    have own : Frame (· = device) before after := by
      simpa only [Option.some.injEq, eq_comm] using frame
    obtain ⟨added, plant⟩ := own.plant_touch
    refine ⟨(after.device device).signals, (after.device device).status, added, written, ?_, owned⟩
    rw [plant] at rest
    exact rest

end Frame

end Host

namespace Dispatcher

variable {engine : Engine}

theorem Reachable.logPrefix {d : Dispatcher engine} (reachable : d.Reachable) :
    d.host.logPrefix = d.config.logPrefix := by
  induction reachable with
  | new host config chooser => rfl
  | outside d before host change same => exact change.logPrefix.trans same
  | event d before e known same =>
    have advance := d.handle_advance e
    rw [advance.host.logPrefix, advance.config]
    exact same

end Dispatcher

/-- A run finds one device or none, whose id it runs under, and its effect is that of a script of
this device. The load, call or teardown around it stores no session but that of the id. -/
structure Execution.Confined {engine : Engine} (x : Execution engine) : Prop where
  own : ∀ device, x.device? = some device → x.id = (x.before.host.device device).id
  host : Host.Frame (fun ref => x.device? = some ref) x.before.host x.host
  dispatcher : x.after = { x.before with host := x.after.host, sessions := x.after.sessions }
  sessions : ∀ id, id ≠ x.id → x.after.session? id = x.before.session? id

theorem Execution.Framed.confined {engine : Engine} {x : Execution engine} {device : DeviceRef}
    (framed : x.Framed device) : x.Confined := by
  refine ⟨?_, ?_, framed.dispatcher, ?_⟩
  · rw [framed.about]
    rintro _ ⟨rfl⟩
    exact framed.own
  · simpa only [framed.about, Option.some.injEq, eq_comm] using framed.host
  · rw [framed.own]
    exact framed.sessions

namespace Dispatcher

variable {engine : Engine}

/-- What a machine runs when its device is torn down is confined to where the id leads. -/
theorem tornDownExecutions_confined {d : Dispatcher engine} (reachable : d.Reachable)
    (id : DeviceId) :
    ∀ x ∈ d.tornDownExecutions id, Handling d x.before ∧ x.Confined := by
  intro x member
  unfold tornDownExecutions at member
  split at member
  · exact absurd member List.not_mem_nil
  · rename_i session held
    have bound := (reachable.sound.of_session? held).1
    obtain ⟨front, stint, back, _, rfl⟩ := Execution.mem_ofStints.mp member
    have handling := d.played_handling session.id front
    refine ⟨handling, fun device leads => ?_, ?_, ?_, fun _ _ => ?_⟩
    · have stands := (Host.get_live reachable.keyed id device).mp leads
      have own := (reachable.keyed.own _ (Entries.mem_of_lookup stands.1)).2
      exact bound.trans (own.symm.trans (handling.calm.layout.id_eq device).symm)
    · have frame := (d.played session.id front).host.play_frame_leads session.id stint.run false
      rw [handling.calm.leadsTo_eq, bound] at frame
      rw [← bound] at frame ⊢
      exact frame
    · simp only [Execution.ofStint, releaseMachine, held]
      rfl
    · simp only [Execution.ofStint, releaseMachine, held]
      rfl

/-- Every run of an event starts where handling the event has led, and is confined. -/
theorem executions_confined {d : Dispatcher engine} (reachable : d.Reachable) (e : Event) :
    ∀ x ∈ d.executions e, d.host.Advance x.before.host ∧ x.Confined ∧
      ∀ device, e.device? = some device → x.device? = some device := by
  intro x member
  cases about : e.device? with
  | some device =>
    have prepared := d.prepare_handling e
    have registered := register_advance (d.prepare e) device
    have serving := d.handle_serving about
    have framed := serving.framed (registered.sound (prepared.sound reachable.sound))
      ((d.prepare e).host.register_binds device) x member
    refine ⟨(prepared.calm.toAdvance.trans registered.host).trans
      (serving.started x member).calm.toAdvance, framed.confined, ?_⟩
    rintro _ ⟨rfl⟩
    exact framed.about
  | none =>
    cases e with
    | logged now text order =>
      obtain ⟨started, device, _, framed⟩ :=
        loggedExecutions_framed reachable now text order x member
      exact ⟨d.host.calm_sweep.toAdvance.trans started.calm.toAdvance, framed.confined, nofun⟩
    | tornDown id =>
      obtain ⟨started, confined⟩ := tornDownExecutions_confined reachable id x member
      exact ⟨started.calm.toAdvance, confined, nofun⟩
    | _ => cases about

/-- A run that an event starts touches its own device and nothing else, apart from new connections
in the device's station, new messages of the host's own and evictions. The load, call or teardown
around it stores no session but that of the device's id. -/
theorem runs_are_confined {d : Dispatcher engine} (reachable : d.Reachable) (e : Event) :
    ∀ x ∈ d.executions e, (∀ device, e.device? = some device → x.device? = some device) ∧
      (∀ device, x.device? = some device → x.id = (x.before.host.device device).id) ∧
      (∃ signals status added written registry,
        x.host = x.before.host.touch x.device? signals status added written registry ∧
        (∀ message ∈ written, d.config.logPrefix.toList <+: message.text.toList) ∧
        (registry = x.before.host.registry ∨ registry = x.before.host.liveRegistry)) ∧
      (∃ host sessions, x.after = { x.before with host, sessions }) ∧
      ∀ id, id ≠ x.id → x.after.session? id = x.before.session? id := by
  intro x member
  obtain ⟨advance, confined, about⟩ := executions_confined reachable e x member
  obtain ⟨signals, status, added, written, whole, owned⟩ := confined.host.touch_eq
  refine ⟨about, confined.own, ⟨signals, status, added, written, _, whole,
    fun message listed => ?_, confined.host.registry⟩, ⟨_, _, confined.dispatcher⟩,
    confined.sessions⟩
  have own := owned message listed
  rw [Host.owns, advance.logPrefix, reachable.logPrefix, List.isPrefixOf_iff_prefix] at own
  exact own

/-- When the library is replaced, the cell's script runs once, and touches the gripper. -/
theorem runs_are_confined_loadedCell :
    loadedCell.Reachable ∧ (loadedCell.executions (.libraryReplaced ⟨0⟩)).length = 1 ∧
    ∀ x ∈ loadedCell.executions (.libraryReplaced ⟨0⟩), ∃ signals status added written registry,
      x.host = x.before.host.touch (some ⟨0⟩) signals status added written registry := by
  have once : (loadedCell.executions (.libraryReplaced ⟨0⟩)).length = 1 := by decide +kernel
  refine ⟨loadedCell_reachable, once, fun x member => ?_⟩
  obtain ⟨about, _, ⟨signals, status, added, written, registry, whole, _⟩, _⟩ :=
    runs_are_confined loadedCell_reachable (.libraryReplaced ⟨0⟩) x member
  rw [about ⟨0⟩ rfl] at whole
  exact ⟨signals, status, added, written, registry, whole⟩

end Dispatcher

end StationScript
