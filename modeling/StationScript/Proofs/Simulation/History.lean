import StationScript.Proofs.Simulation.Pumping

/-!
Histories of a simulation: a station file, then steps, runs and messages from outside in any order.

Whatever the prefix, the marker and the scripts are, every pump ends after two rounds at most. In
the whole course of the dispatcher every message in the log is handed over once, in order, and only
those from outside lead to a refresh.
-/

set_option autoImplicit false

namespace StationScript

namespace Dispatcher

variable {engine : Engine}

theorem onSignalChanged_advance (d : Dispatcher engine) (device : DeviceRef) (signal : String) :
    Advance d (d.onSignalChanged device signal) :=
  (d.register_advance device).trans (d.onSignalChanged_handling device signal).advance

/-- Delivering queued changes writes nothing but what the scripts do. -/
theorem deliver_advance (d : Dispatcher engine) (station : StationRef) :
    Advance d (d.deliver station) := by
  unfold deliver
  refine Advance.trans (.modifyHost d ?_) (.foldl (fun d change => ?_) _ _)
  · exact ⟨.of_log_eq rfl rfl, rfl, rfl, .takePending d.host.plant station⟩
  · exact d.onSignalChanged_advance change.device change.signal

/-- Nor is any message handed over. -/
theorem deliver_unheard (d : Dispatcher engine) (station : StationRef) :
    Unheard d (d.deliver station) := by
  unfold deliver
  have taken := Unheard.outside d ⟨(d.host.plant.takePending station).1, d.host.files, d.host.clock,
    d.host.log⟩
  refine taken.trans (.foldl (fun d change => ?_) _ _)
  exact .event d (e := .signalChanged change.device change.signal) rfl

end Dispatcher

namespace Simulation

variable {engine : Engine}

namespace Quiet

theorem refl (s : Simulation engine) : Quiet s s :=
  ⟨rfl, rfl, rfl, .of_log_eq rfl rfl, .refl _⟩

theorem trans {first second third : Simulation engine} (left : Quiet first second)
    (right : Quiet second third) : Quiet first third :=
  ⟨right.cursor.trans left.cursor, right.arrival.trans left.arrival, right.order.trans left.order,
    left.writes.trans right.writes, left.unheard.trans right.unheard⟩

theorem mapDispatcher (s : Simulation engine) {change : Dispatcher engine → Dispatcher engine}
    (advance : s.dispatcher.Advance (change s.dispatcher))
    (unheard : s.dispatcher.Unheard (change s.dispatcher)) : Quiet s (s.mapDispatcher change) :=
  ⟨rfl, rfl, rfl, advance.host.toWrites, unheard⟩

/-- The plant and the clock are of the surroundings. -/
theorem mapHost (s : Simulation engine) (plant : Plant) (clock : Clock) :
    Quiet s (s.mapHost fun host => { host with plant, clock }) :=
  ⟨rfl, rfl, rfl, .of_log_eq rfl rfl, .outside s.dispatcher
    ⟨plant, s.host.files, clock, s.host.log⟩⟩

theorem foldl {α : Type} {act : Simulation engine → α → Simulation engine}
    (each : ∀ s a, Quiet s (act s a)) (items : List α) (s : Simulation engine) :
    Quiet s (items.foldl act s) := by
  induction items generalizing s with
  | nil => exact .refl s
  | cons a rest ih => exact (each s a).trans (ih _)

end Quiet

theorem loadScript_quiet (s : Simulation engine) (built : BuiltDevice) :
    Quiet s (s.loadScript built) := by
  unfold loadScript
  split
  · exact .refl s
  · rename_i path _
    have located := Quiet.mapHost s (s.host.plant.setScriptPath built.device path) s.host.clock
    refine located.trans (.mapDispatcher _ ?_ ?_)
    · exact Dispatcher.handle_advance _ (.scriptPathChanged built.device)
    · exact .event _ (e := .scriptPathChanged built.device) rfl

theorem stepDevices_quiet (s : Simulation engine) : Quiet s s.stepDevices := by
  refine Quiet.foldl (fun s device => .mapDispatcher s ?_ ?_) s.devices s
  · exact (s.dispatcher.handle_advance (.stepped device _)).trans (Dispatcher.deliver_advance _ _)
  · exact (Dispatcher.Unheard.event s.dispatcher (e := .stepped device _) rfl).trans
      (Dispatcher.deliver_unheard _ _)

theorem setState_quiet (s : Simulation engine) (state : RunState) : Quiet s (s.setState state) :=
  .mapHost s s.host.plant { s.host.clock with state }

theorem step_quiet (s : Simulation engine) (stepMs : Float) :
    Quiet s (s.tick stepMs).stepDevices := by
  have ticked : Quiet s (s.tick stepMs) :=
    ⟨rfl, rfl, rfl, .of_log_eq rfl rfl, .outside s.dispatcher ⟨s.host.plant, s.host.files,
      { s.host.clock with time := (s.stamp stepMs).time }, s.host.log⟩⟩
  exact ticked.trans (s.tick stepMs).stepDevices_quiet

/-- The host on which a station from a file is set up. -/
def bareHost (built : BuiltStation) (files : Files) (config : ScriptConfig) : Host where
  plant := built.plant
  files := files
  logPrefix := config.logPrefix

/-- The simulations that histories lead to, with the dispatcher that each began with and the places
in the log of the messages from outside. -/
inductive History : Dispatcher engine → Simulation engine → List Nat → Prop where
  | new (file : StationFile) (ids : Nat → DeviceId) (files : Files) (config : ScriptConfig)
    (arrival : Nat → Nat) (order : Nat → Listing) (built : BuiltStation)
    (made : file.build ids = .ok built) :
    History (Dispatcher.new (bareHost built files config) config)
      (start built files config arrival order) []
  | step (first : Dispatcher engine) (s : Simulation engine) (announced : List Nat)
    (before : History first s announced) (stepMs : Float) :
    History first (s.step stepMs) announced
  | run (first : Dispatcher engine) (s : Simulation engine) (announced : List Nat)
    (before : History first s announced) (count : Nat) (stepMs : Float) :
    History first (s.run count stepMs) announced
  | hostMessage (first : Dispatcher engine) (s : Simulation engine) (announced : List Nat)
    (before : History first s announced) (text : String) :
    History first (s.hostMessage text) (announced ++ [s.host.log.toList.length])

/-- Before the first pump nothing was handed over, and nothing came from outside. -/
theorem launch_recorded (built : BuiltStation) (files : Files) (config : ScriptConfig)
    (arrival : Nat → Nat) (order : Nat → Listing) :
    Recorded (Dispatcher.new (bareHost built files config) config)
      (launch built files config arrival order : Simulation engine) [] := by
  unfold launch
  dsimp only
  refine Recorded.quiet ?_ (.foldl loadScript_quiet built.devices _)
  have attach (d : Dispatcher engine) (b : BuiltDevice) : d.Advance (d.attach b.device) :=
    d.register_advance b.device
  have unheard (d : Dispatcher engine) (b : BuiltDevice) : d.Unheard (d.attach b.device) :=
    .event d (e := .attached b.device) rfl
  have attached := Dispatcher.Advance.foldl attach built.devices
    (Dispatcher.new (bareHost built files config) config)
  have bare : Recorded (Dispatcher.new (bareHost built files config) config : Dispatcher engine)
      { dispatcher := Dispatcher.new (bareHost built files config) config
        station := built.station, arrival, order } [] := by
    refine ⟨Nat.zero_le _, ⟨[], rfl, rfl⟩, fun i message listed => ?_⟩
    cases listed
  exact bare.quiet ⟨rfl, rfl, rfl, attached.host.toWrites, .foldl unheard built.devices _⟩

theorem stepTimes_recorded (stepMs : Float) (count : Nat) {first : Dispatcher engine}
    {s : Simulation engine} {announced : List Nat} (recorded : Recorded first s announced) :
    Recorded first (stepTimes stepMs count s) announced := by
  induction count generalizing s with
  | zero => exact recorded
  | succ n ih => exact ih (recorded.quiet (s.step_quiet stepMs)).pump

theorem fresh_stepTimes {s : Simulation engine} (settled : s.fresh = []) (stepMs : Float)
    (count : Nat) : (stepTimes stepMs count s).fresh = [] := by
  induction count generalizing s with
  | zero => exact settled
  | succ n ih => exact ih (fresh_pump _)

/-- Between two operations nothing is fresh, and the record is up to date. -/
theorem History.recorded {first : Dispatcher engine} {s : Simulation engine} {announced : List Nat}
    (history : History first s announced) : Recorded first s announced ∧ s.fresh = [] := by
  induction history with
  | new file ids files config arrival order built made =>
    exact ⟨(launch_recorded built files config arrival order).pump, fresh_pump _⟩
  | step first s announced before stepMs ih =>
    exact ⟨(ih.1.quiet (s.step_quiet stepMs)).pump, fresh_pump _⟩
  | run first s announced before count stepMs ih =>
    have running := ih.1.quiet (s.setState_quiet .running)
    have stopped := (stepTimes_recorded stepMs count running).quiet (setState_quiet _ .stopped)
    have settled : (s.setState .running).fresh = [] := ih.2
    exact ⟨stopped, fresh_stepTimes settled stepMs count⟩
  | hostMessage first s announced before text ih =>
    exact ⟨(ih.1.announce text).pump, fresh_pump _⟩

/-- The log does not feed itself. Each pump ends after two rounds at most; it hands the dispatcher
the messages that are left in the log, one after the other, and does nothing else to it. In the
whole course of the dispatcher, from the one that the simulation began with, every message of the
log is handed over once and in order, and leads to a refresh only if it came from outside. Any other
message is the host's own. -/
theorem pump_without_feedback (engine : Engine) :
    (∀ s : Simulation engine, ∃ n ≤ 2, s.pump = round^[n] s ∧
      (∀ k < n, (round^[k] s).fresh ≠ []) ∧ s.pump.fresh = [] ∧
      (s.cursor ≤ s.host.log.toList.length →
        s.pump.cursor = s.pump.host.log.toList.length ∧
        s.pump.dispatcher = s.dispatcher.hearAll
          (s.handovers (s.pump.host.log.toList.drop s.cursor) s.cursor))) ∧
    (∀ (first : Dispatcher engine) (s : Simulation engine) (announced : List Nat),
      History first s announced →
        s.cursor = s.host.log.toList.length ∧
        (∃ course : List Happening, s.dispatcher = first.undergoAll course ∧
          course.filterMap Happening.handover? = s.handovers s.host.log.toList 0 ∧
          ∀ (front : List Happening) (h : Handover) (back : List Happening),
            course = front ++ .event h.event :: back → h.Refreshes (first.undergoAll front) →
              (front.filterMap Happening.handover?).length ∈ announced) ∧
        ∀ i message, s.host.log.toList[i]? = some message → i ∉ announced →
          s.host.owns message.text = true) := by
  constructor
  · intro s
    obtain ⟨n, few, whole, rounds⟩ := s.pump_eq_rounds
    refine ⟨n, Nat.le_trans few s.unsettled_le_two, whole, rounds, s.fresh_pump, fun inside => ?_⟩
    have pumped := pump_eq inside
    exact ⟨congrArg Simulation.cursor pumped, congrArg Simulation.dispatcher pumped⟩
  · intro first s announced history
    obtain ⟨recorded, settled⟩ := history.recorded
    have cursor := recorded.cursor_eq settled
    obtain ⟨course, led, handed⟩ := recorded.course
    refine ⟨cursor, ⟨course, led, ?_, fun front h back split refreshes => ?_⟩, recorded.own⟩
    · rw [handed, cursor, List.take_length]
    · exact recorded.announced_of_refreshes led handed split refreshes

/-- A file with one device and no script. -/
def cellFile : StationFile := { name := "Cell", devices := [{ name := "Gripper" }] }

def cellStation : BuiltStation :=
  (cellFile.build fun _ => ⟨"gripper"⟩).toOption.getD default

/-- In the station of the file the first message of the log comes from outside, and the dispatcher
hears of it. -/
theorem pump_without_feedback_cell :
    ∃ (first : Dispatcher (.repeating (.done ()))) (s : Simulation (.repeating (.done ())))
      (course : List Happening), History first s [0] ∧ s.cursor = s.host.log.toList.length ∧
        s.dispatcher = first.undergoAll course ∧
        course.filterMap Happening.handover? = s.handovers s.host.log.toList 0 := by
  have made : cellFile.build (fun _ => ⟨"gripper"⟩) = .ok cellStation := rfl
  have idle : (launch cellStation Files.none {} (fun _ => 0) fun _ => .registered :
      Simulation (.repeating (.done ()))).fresh = [] := by
    decide +kernel
  have quiet : (launch cellStation Files.none {} (fun _ => 0) fun _ => .registered :
      Simulation (.repeating (.done ()))).host.log.toList.length = 0 := by
    decide +kernel
  have begun : History (Dispatcher.new (bareHost cellStation Files.none {}) {})
      (start cellStation Files.none {} fun _ => 0 : Simulation (.repeating (.done ()))) [] :=
    .new cellFile _ _ _ _ _ _ made
  have history := History.hostMessage _ _ _ begun "refresh"
  rw [start, pump_of_settled idle, quiet] at history
  obtain ⟨_, records⟩ := pump_without_feedback (.repeating (.done ()))
  obtain ⟨cursor, ⟨course, led, handed, _⟩, _⟩ := records _ _ _ history
  exact ⟨_, _, course, history, cursor, led, handed⟩

end Simulation

end StationScript
