import StationScript.Proofs.Dispatcher.Together
import StationScript.Proofs.Simulation.Operations

/-!
Two simulations of one station side by side, alike but for one device. Their scripts are loaded and
their devices take turns: what a visible device does is the same on both sides, and what the hidden
one does shows on neither, as long as its runs add no connection and no connection starts at it.
-/

set_option autoImplicit false

namespace StationScript

namespace Dispatcher

open Execution (Silent)

variable {engine : Engine} {built : BuiltStation} {hidden : DeviceRef} {left right files : Files}
  {d one other : Dispatcher engine}

/-- The runs of a turn, told by the queue instead of the station. -/
theorem turnExecutions_eq {station : StationRef} {time : Float} {device : DeviceRef}
    (present : ((d.handle (.stepped device time)).host.plant.station? station).isSome = true) :
    d.turnExecutions station time device = d.executions (.stepped device time) ++
      gather receive (fun d change => d.executions (.signalChanged change.device change.signal))
        ((d.handle (.stepped device time)).host.plant.pending station)
        ((d.handle (.stepped device time)).clear station) := by
  obtain ⟨s, found⟩ := Option.isSome_iff_exists.mp present
  have stepped : d.onSimulationStep device time = d.handle (.stepped device time) := rfl
  unfold turnExecutions
  dsimp only
  rw [stepped]
  unfold Plant.takePending Plant.pending
  rw [found]
  rfl

theorem clear_calm (d : Dispatcher engine) (station : StationRef) :
    d.host.Calm (d.clear station).host := by
  have layout : d.host.plant.SameLayout (d.clear station).host.plant :=
    .modifyStation d.host.plant station _ fun _ => rfl
  show d.host.Calm (d.host.modifyPlant fun p => p.modifyStation station fun s =>
    { s with pending := [] })
  exact d.host.calm_modifyPlant layout

/-- A queue that is dropped does not show. -/
theorem clear_unseen (attended : Attended built files d) (station : StationRef) :
    Unseen built hidden files d (d.clear station) := by
  have plant : d.host.plant.Alike hidden (d.clear station).host.plant :=
    .enqueue d.host.plant station fun _ => []
  have host : d.host.Alike hidden (d.clear station).host :=
    .of_calm (d.clear_calm station) plant rfl
  refine ⟨⟨host, rfl, rfl, fun _ _ => rfl⟩, attended.handling ?_ rfl fun _ _ => Or.inl rfl⟩
  exact ⟨d.clear_calm station, rfl, fun sound => sound.of_sessions_eq rfl⟩

theorem Together.clear (together : Together built hidden left right one other)
    (station : StationRef) :
    Together built hidden left right (one.clear station) (other.clear station) :=
  together.unseen (clear_unseen together.one station) (clear_unseen together.other station)

/-- The clocks are set in the same way on both sides; what is written into the logs does not
matter. -/
theorem Together.outside (together : Together built hidden left right one other)
    (set : Clock → Clock) (write : Log → Log) : Together built hidden left right
      (one.modifyHost fun host => { host with clock := set host.clock, log := write host.log })
      (other.modifyHost fun host =>
        { host with clock := set host.clock, log := write host.log }) := by
  obtain ⟨⟨⟨plant, logPrefix, clock, live, times⟩, config, lastRefresh, sessions⟩, mine, yours⟩ :=
    together
  exact ⟨⟨⟨plant, logPrefix, congrArg set clock, live, times⟩, config, lastRefresh, sessions⟩,
    mine.aside rfl rfl rfl, yours.aside rfl rfl rfl⟩

/-- Changes of the hidden device are delivered without showing. -/
theorem deliverAll_unseen (keyed : built.Keyed) (attended : Attended built files d)
    (present : hidden ∈ built.refs) {changes : List SignalChange}
    (about : ∀ change ∈ changes, change.device = hidden)
    (silent : Silent hidden (gather receive
      (fun d change => d.executions (.signalChanged change.device change.signal)) changes d)) :
    Unseen built hidden files d (d.deliverAll changes) := by
  induction changes generalizing d with
  | nil => exact ⟨.refl d, attended⟩
  | cons change rest ih =>
    have mine := congrArg some (about change List.mem_cons_self)
    have next := handle_hidden keyed attended present
      (e := .signalChanged change.device change.signal) mine silent.left
    have others : ∀ later ∈ rest, later.device = hidden :=
      fun later member => about later (List.mem_cons_of_mem _ member)
    exact next.trans (ih next.attended others silent.right)

/-- Changes of a visible device are delivered in the same way on both sides. -/
theorem Together.deliverAll (keyed : built.Keyed) (shared : built.Shares hidden left right)
    (together : Together built hidden left right one other) (present : hidden ∈ built.refs)
    {device : DeviceRef} (listed : device ∈ built.refs) (visible : device ≠ hidden)
    {changes : List SignalChange} (about : ∀ change ∈ changes, change.device = device) :
    Together built hidden left right (one.deliverAll changes) (other.deliverAll changes) := by
  induction changes generalizing one other with
  | nil => exact together
  | cons change rest ih =>
    have mine := congrArg some (about change List.mem_cons_self)
    have next := together.handle keyed shared present listed visible
      (e := .signalChanged change.device change.signal) mine together
    exact ih next fun later member => about later (List.mem_cons_of_mem _ member)

end Dispatcher

namespace Simulation

open Dispatcher (Together Unseen Attended)
open Execution (Silent)

variable {engine : Engine} {built : BuiltStation} {hidden : DeviceRef} {left right files : Files}
  {config : ScriptConfig} {arrival arrival' : Nat → Nat} {order order' : Nat → Listing}

section Load

/-- Before any script is loaded the sides differ in their files only. -/
theorem attached_together (keyed : built.Keyed) :
    Together built hidden left right
      (attached built left config arrival order : Simulation engine).dispatcher
      (attached built right config arrival' order').dispatcher := by
  have bare (files : Files) : Dispatcher.Attending built files []
      (Dispatcher.new (bareHost built files config) config : Dispatcher engine) := by
    refine ⟨Dispatcher.new_sound _ config .none, ⟨List.nodup_nil, ?_⟩, .refl _, rfl, rfl,
      ?_, ?_, ?_⟩
    · exact fun _ member => absurd member List.not_mem_nil
    · exact fun _ member => absurd member List.not_mem_nil
    · exact fun _ member => absurd member List.not_mem_nil
    · exact fun b listed => Or.inl (keyed.paths b.device (List.mem_map_of_mem listed))
  have attended (files : Files) (arrival : Nat → Nat) (order : Nat → Listing) :
      Attended built files
        (attached built files config arrival order : Simulation engine).dispatcher :=
    (bare files).attach keyed (List.nil_subset _) (List.Subset.refl _) (by simp [BuiltStation.refs])
  refine ⟨?_, attended left arrival order, attended right arrival' order'⟩
  have alike (devices : List BuiltDevice) {one other : Dispatcher engine}
      (begun : Dispatcher.Alike hidden one other) : Dispatcher.Alike hidden
        (devices.foldl (fun d b => d.attach b.device) one)
        (devices.foldl (fun d b => d.attach b.device) other) := by
    induction devices generalizing one other with
    | nil => exact begun
    | cons b rest ih => exact ih (begun.register b.device)
  exact alike built.devices ⟨⟨.refl _, rfl, rfl, rfl, fun _ _ => rfl⟩, rfl, rfl, fun _ _ => rfl⟩

theorem loadExecutions_of_some (s : Simulation engine) {b : BuiltDevice} {path : String}
    (script : b.script = some path) : s.loadExecutions b =
      (s.dispatcher.modifyHost fun host => host.setScriptPath b.device path).executions
        (.scriptPathChanged b.device) := by
  unfold loadExecutions
  rw [script]
  rfl

/-- Loading the script of the hidden device does not show. -/
theorem loadScript_unseen (keyed : built.Keyed) (present : hidden ∈ built.refs)
    {s : Simulation engine} (attended : Attended built files s.dispatcher) {b : BuiltDevice}
    (listed : b ∈ built.devices) (mine : b.device = hidden)
    (silent : Silent hidden (s.loadExecutions b)) :
    Unseen built hidden files s.dispatcher (s.loadScript b).dispatcher := by
  cases script : b.script with
  | none =>
    rw [s.loadScript_of_none script]
    exact ⟨.refl _, attended⟩
  | some path =>
    rw [s.loadExecutions_of_some script] at silent
    have located := attended.locate keyed listed script
    have host : s.dispatcher.host.Alike hidden (s.dispatcher.host.setScriptPath b.device path) := by
      rw [mine]
      exact .of_calm (s.dispatcher.host.calm_setScriptPath hidden path)
        (.modifyHidden _ _ fun _ => rfl) rfl
    have before : Dispatcher.Alike hidden s.dispatcher
        (s.dispatcher.modifyHost fun host => host.setScriptPath b.device path) :=
      ⟨host, rfl, rfl, fun _ _ => rfl⟩
    have about : (Event.scriptPathChanged b.device).device? = some hidden := congrArg some mine
    rw [s.loadScript_of_some script]
    exact Unseen.trans ⟨before, located⟩
      (Dispatcher.handle_hidden keyed located present about silent)

/-- The script of a visible device is loaded in the same way on both sides. -/
theorem loadScript_together (keyed : built.Keyed) (shared : built.Shares hidden left right)
    (present : hidden ∈ built.refs) {one other : Simulation engine}
    (together : Together built hidden left right one.dispatcher other.dispatcher) {b : BuiltDevice}
    (listed : b ∈ built.devices) (visible : b.device ≠ hidden) :
    Together built hidden left right (one.loadScript b).dispatcher
      (other.loadScript b).dispatcher := by
  cases script : b.script with
  | none =>
    rw [one.loadScript_of_none script, other.loadScript_of_none script]
    exact together
  | some path =>
    have located : Together built hidden left right
        (one.dispatcher.modifyHost fun host => host.setScriptPath b.device path)
        (other.dispatcher.modifyHost fun host => host.setScriptPath b.device path) :=
      ⟨together.alike.modifyHost (together.alike.host.setScriptPath b.device path)
          (one.dispatcher.host.calm_setScriptPath b.device path).layout,
        together.one.locate keyed listed script, together.other.locate keyed listed script⟩
    have about : (Event.scriptPathChanged b.device).device? = some b.device := rfl
    rw [one.loadScript_of_some script, other.loadScript_of_some script]
    exact located.handle keyed shared present (List.mem_map_of_mem listed) visible about located

theorem loadScripts_together (keyed : built.Keyed) (shared : built.Shares hidden left right)
    (present : hidden ∈ built.refs) {devices : List BuiltDevice}
    (within : devices ⊆ built.devices) {one other : Simulation engine}
    (together : Together built hidden left right one.dispatcher other.dispatcher)
    (silent : Silent hidden (gather loadScript loadExecutions devices one))
    (also : Silent hidden (gather loadScript loadExecutions devices other)) :
    Together built hidden left right (devices.foldl loadScript one).dispatcher
      (devices.foldl loadScript other).dispatcher := by
  induction devices generalizing one other with
  | nil => exact together
  | cons b rest ih =>
    obtain ⟨listed, others⟩ := List.cons_subset.mp within
    refine ih others ?_ silent.right also.right
    by_cases mine : b.device = hidden
    · exact together.unseen
        (loadScript_unseen keyed present together.one listed mine silent.left)
        (loadScript_unseen keyed present together.other listed mine also.left)
    · exact loadScript_together keyed shared present together listed mine

end Load

theorem Standing.listed (keyed : built.Keyed) {s : Simulation engine} (standing : Standing built s)
    {device : DeviceRef} (listed : device ∈ built.refs) : device ∈ s.devices := by
  rw [standing.devices_eq]
  exact keyed.toProper.listed listed

/-- Two simulations of a station that took as many steps and are alike but for one device. -/
structure Paired (built : BuiltStation) (hidden : DeviceRef) (left right : Files)
    (one other : Simulation engine) : Prop where
  together : Together built hidden left right one.dispatcher other.dispatcher
  first : Standing built one
  second : Standing built other
  steps : other.steps = one.steps

/-- No connection starts at the device. -/
def Sourceless (built : BuiltStation) (hidden : DeviceRef) (s : Simulation engine) : Prop :=
  ∀ c ∈ s.connections, c.sourceObject ≠ (built.plant.device hidden).name

theorem Sourceless.before {s after : Simulation engine} (sourceless : Sourceless built hidden after)
    (grown : s.connections <+: after.connections) : Sourceless built hidden s :=
  fun c member => sourceless c (grown.subset member)

section Turn

/-- A turn of the hidden device does not show. -/
theorem Standing.turn_unseen (keyed : built.Keyed) {s : Simulation engine}
    (standing : Standing built s) (attended : Attended built files s.dispatcher)
    (present : hidden ∈ built.refs) (among : hidden ∈ s.devices) (time : Float)
    (silent : Silent hidden (s.dispatcher.turnExecutions s.station time hidden)) :
    Unseen built hidden files s.dispatcher (Simulation.stepDevice time s hidden).dispatcher := by
  have here := standing.station_stepped keyed.toProper among time
  rw [Dispatcher.turnExecutions_eq here, standing.pending_stepped keyed.toProper among] at silent
  have about := standing.queue_about keyed.toProper among
  have stepped := Dispatcher.handle_hidden keyed attended present (e := .stepped hidden time) rfl
    silent.left
  have cleared := stepped.trans (Dispatcher.clear_unseen stepped.attended s.station)
  rw [standing.stepDevice_eq keyed.toProper among]
  exact cleared.trans
    (Dispatcher.deliverAll_unseen keyed cleared.attended present about silent.right)

variable {one other : Simulation engine}

/-- A turn of a visible device is the same on both sides. -/
theorem Paired.turn_visible (keyed : built.Keyed) (shared : built.Shares hidden left right)
    (paired : Paired built hidden left right one other) (present : hidden ∈ built.refs)
    {device : DeviceRef} (listed : device ∈ built.refs) (visible : device ≠ hidden) (time : Float)
    (sourceless : Sourceless built hidden one) :
    Together built hidden left right (stepDevice time one device).dispatcher
      (stepDevice time other device).dispatcher := by
  obtain ⟨together, first, second, _⟩ := paired
  have among : device ∈ one.devices := first.listed keyed listed
  have also : device ∈ other.devices := second.listed keyed listed
  have empty : one.host.plant.pending built.station = [] := first.station ▸ first.settled
  have drained : other.host.plant.pending built.station = [] := second.station ▸ second.settled
  have sources : ∀ c ∈ one.host.plant.connections built.station,
      c.sourceObject ≠ (built.plant.device hidden).name := first.station ▸ sourceless
  obtain ⟨prepared, queued⟩ :=
    together.prepare keyed listed visible time (drained.trans empty.symm) sources
  have queue : other.queue device = one.queue device := by
    unfold queue
    rw [← first.plant_prepare keyed.toProper among time,
      ← second.plant_prepare keyed.toProper also time, first.station, second.station]
    exact queued
  have about := first.queue_about keyed.toProper among
  have stepped := together.handle keyed shared present listed visible
    (e := .stepped device time) rfl prepared
  rw [first.stepDevice_eq keyed.toProper among, second.stepDevice_eq keyed.toProper also, queue]
  dsimp only [delivering]
  rw [first.station, second.station]
  exact (stepped.clear built.station).deliverAll keyed shared present listed visible about

theorem Paired.turn (keyed : built.Keyed) (shared : built.Shares hidden left right)
    (paired : Paired built hidden left right one other) (present : hidden ∈ built.refs)
    {device : DeviceRef} (listed : device ∈ built.refs) (time : Float)
    (silent : Silent hidden (one.dispatcher.turnExecutions one.station time device))
    (also : Silent hidden (other.dispatcher.turnExecutions other.station time device))
    (sourceless : Sourceless built hidden one) :
    Paired built hidden left right (stepDevice time one device) (stepDevice time other device) := by
  have among : device ∈ one.devices := paired.first.listed keyed listed
  have within : device ∈ other.devices := paired.second.listed keyed listed
  refine ⟨?_, paired.first.stepDevice keyed.toProper among time,
    paired.second.stepDevice keyed.toProper within time, paired.steps⟩
  by_cases mine : device = hidden
  · subst mine
    exact paired.together.unseen
      (paired.first.turn_unseen keyed paired.together.one present among time silent)
      (paired.second.turn_unseen keyed paired.together.other present within time also)
  · exact paired.turn_visible keyed shared present listed mine time sourceless

theorem Paired.turns (keyed : built.Keyed) (shared : built.Shares hidden left right)
    (paired : Paired built hidden left right one other) (present : hidden ∈ built.refs)
    {devices : List DeviceRef} (listed : devices ⊆ built.refs) (time : Float)
    (silent : Silent hidden (gather (stepDevice time)
      (fun s device => s.dispatcher.turnExecutions s.station time device) devices one))
    (also : Silent hidden (gather (stepDevice time)
      (fun s device => s.dispatcher.turnExecutions s.station time device) devices other))
    (sourceless : Sourceless built hidden (devices.foldl (stepDevice time) one)) :
    Paired built hidden left right (devices.foldl (stepDevice time) one)
      (devices.foldl (stepDevice time) other) := by
  induction devices generalizing one other with
  | nil => exact paired
  | cons device rest ih =>
    obtain ⟨mine, others⟩ := List.cons_subset.mp listed
    have before : Sourceless built hidden one := by
      refine sourceless.before ?_
      have within : ∀ ref ∈ device :: rest, ref ∈ one.devices :=
        fun _ member => paired.first.listed keyed (listed member)
      have station := (paired.first.turns keyed.toProper time within).station
      unfold connections
      rw [station, ← paired.first.station]
      exact connections_turns keyed.toProper paired.first time within
    have next := paired.turn keyed shared present mine time silent.left also.left before
    exact ih next others silent.right also.right sourceless

end Turn

end Simulation

end StationScript
