import StationScript.Proofs.Dispatcher.Timeless
import StationScript.Proofs.Simulation.Time

/-!
The time that scripts are told of their device. It is the time of the last step that the device
took, so it does not go back as long as the times of the steps do not.
-/

set_option autoImplicit false

namespace StationScript

variable {engine : Engine}

/-- The time of the last step under a device's id; -1 if there was none. -/
def Host.localTime (host : Host) (id : DeviceId) : ℚ := Binary64.toRat (host.times.last id)

/-- What the runs of scripts bound to an id are told, in order. -/
def localTimes (id : DeviceId) (runs : List (Execution engine)) : List ℚ :=
  runs.map fun x => x.before.host.localTime id

/-- The time under an id does not go back from one host to another, nor for the runs in between. -/
structure Host.Onward (id : DeviceId) (before after : Host) (runs : List (Execution engine)) :
    Prop where
  forward : before.localTime id ≤ after.localTime id
  within : ∀ time ∈ localTimes id runs, before.localTime id ≤ time ∧ time ≤ after.localTime id
  ordered : (localTimes id runs).Pairwise (· ≤ ·)

namespace Host.Onward

variable {id : DeviceId}

theorem trans {first second third : Host} {front back : List (Execution engine)}
    (left : Onward id first second front) (right : Onward id second third back) :
    Onward id first third (front ++ back) := by
  have split : localTimes id (front ++ back) = localTimes id front ++ localTimes id back :=
    List.map_append
  refine ⟨left.forward.trans right.forward, fun time member => ?_, ?_⟩
  · rw [split, List.mem_append] at member
    rcases member with early | late
    · exact ⟨(left.within time early).1, (left.within time early).2.trans right.forward⟩
    · exact ⟨left.forward.trans (right.within time late).1, (right.within time late).2⟩
  · rw [split, List.pairwise_append]
    refine ⟨left.ordered, right.ordered, fun early first late second => ?_⟩
    exact (left.within early first).2.trans (right.within late second).1

/-- Where the times stay the same, nothing goes back. -/
theorem still {before after : Host} {runs : List (Execution engine)}
    (times : after.times = before.times)
    (same : ∀ x ∈ runs, x.before.host.times = before.times) : Onward id before after runs := by
  have told : ∀ time ∈ localTimes id runs, time = before.localTime id := by
    intro time member
    obtain ⟨x, listed, rfl⟩ := List.mem_map.mp member
    rw [Host.localTime, same x listed]
    rfl
  have last : after.localTime id = before.localTime id := by
    rw [Host.localTime, times]
    rfl
  refine ⟨last.ge, fun time member => ?_, ?_⟩
  · rw [last, told time member]
    exact ⟨le_rfl, le_rfl⟩
  · refine List.pairwise_of_forall_mem_list fun one first other second => ?_
    rw [told one first, told other second]

theorem of_timeless {before after : Dispatcher engine} {runs : List (Execution engine)}
    (timeless : before.Timeless after runs) : Onward id before.host after.host runs :=
  still timeless.times timeless.runs

end Host.Onward

open Host (Onward)

/-- As long as steps at these times do not go back, neither does the time under an id; what it comes
to is the time of one of the steps, or what it was before. -/
def Host.Paced (id : DeviceId) (before after : Host) (runs : List (Execution engine))
    (times : List ℚ) : Prop :=
  (before.localTime id :: times).Pairwise (· ≤ ·) →
    Onward id before after runs ∧ after.localTime id ∈ before.localTime id :: times

namespace Host.Paced

variable {id : DeviceId}

theorem trans {first second third : Host} {front back : List (Execution engine)}
    {early late : List ℚ} (left : Paced id first second front early)
    (right : Paced id second third back late) :
    Paced id first third (front ++ back) (early ++ late) := by
  intro ordered
  rw [← List.cons_append, List.pairwise_append] at ordered
  obtain ⟨begun, rest, between⟩ := ordered
  obtain ⟨onward, reached⟩ := left begun
  obtain ⟨further, last⟩ := right (List.pairwise_cons.mpr ⟨between _ reached, rest⟩)
  refine ⟨onward.trans further, ?_⟩
  rw [← List.cons_append, List.mem_append]
  rcases List.mem_cons.mp last with same | later
  · rw [same]
    exact .inl reached
  · exact .inr later

/-- Without a step the times stay as they are. -/
theorem of_timeless {before after : Dispatcher engine} {runs : List (Execution engine)}
    (timeless : before.Timeless after runs) : Paced id before.host after.host runs [] := by
  have last : after.host.localTime id = before.host.localTime id :=
    congrArg (fun times => Binary64.toRat (SimulationTimes.last times id)) timeless.times
  refine fun _ => ⟨.of_timeless timeless, ?_⟩
  rw [last]
  exact List.mem_cons_self

end Host.Paced

open Host (Paced)

/-- What is done item by item records nothing if no item does. -/
theorem timeless_gather {σ α : Type} (dispatcher : σ → Dispatcher engine) {act : σ → α → σ}
    {give : σ → α → List (Execution engine)}
    (each : ∀ s a, (dispatcher s).Timeless (dispatcher (act s a)) (give s a)) (items : List α)
    (s : σ) :
    (dispatcher s).Timeless (dispatcher (items.foldl act s)) (gather act give items s) := by
  induction items generalizing s with
  | nil => exact .quiet rfl
  | cons a rest ih => exact (each s a).trans (ih (act s a))

namespace Dispatcher

variable {id : DeviceId}

theorem localTime_record (host : Host) (own : DeviceId) (time : Float) :
    (host.recordTime own time).localTime id =
      if id = own then Binary64.toRat time else host.localTime id := by
  rw [Host.localTime, Host.recordTime, SimulationTimes.last_record]
  split <;> rfl

/-- Propagation comes first and records nothing. -/
theorem host_beginStep (d : Dispatcher engine) (device : DeviceRef) (time : Float) :
    ∃ (carried : Host) (own : DeviceId), carried.times = d.host.times ∧
      (d.beginStep device time).host = carried.recordTime own time := by
  refine ⟨_, _, ?_, rfl⟩
  dsimp only [modifyHost]
  split <;> rfl

/-- A step records its time, under the id of its device. -/
theorem localTime_beginStep (d : Dispatcher engine) (device : DeviceRef) (time : Float) :
    (d.beginStep device time).host.localTime id ∈
      [d.host.localTime id, Binary64.toRat time] := by
  obtain ⟨carried, own, times, recorded⟩ := d.host_beginStep device time
  have same : carried.localTime id = d.host.localTime id :=
    congrArg (fun times => Binary64.toRat (SimulationTimes.last times id)) times
  rw [recorded, localTime_record, same]
  split <;> simp

theorem deliver_timeless (d : Dispatcher engine) (station : StationRef) :
    d.Timeless (d.deliver station) (gather receive
      (fun d change => d.executions (.signalChanged change.device change.signal))
      (d.host.plant.takePending station).2
      (d.modifyHost fun host => { host with plant := (d.host.plant.takePending station).1 })) := by
  have received := timeless_gather (fun d => d)
    (fun (d : Dispatcher engine) (change : SignalChange) =>
      d.onSignalChanged_timeless change.device change.signal)
    (d.host.plant.takePending station).2
    (d.modifyHost fun host => { host with plant := (d.host.plant.takePending station).1 })
  exact ⟨received.times, received.runs⟩

/-- In a device's turn the time of its step is the last that anybody is told. -/
theorem paced_turn (d : Dispatcher engine) (device : DeviceRef) (station : StationRef)
    (time : Float) : Paced id d.host ((d.onSimulationStep device time).deliver station).host
      (d.turnExecutions station time device) [Binary64.toRat time] := by
  intro ordered
  have late : d.host.localTime id ≤ Binary64.toRat time :=
    (List.pairwise_cons.mp ordered).1 _ List.mem_cons_self
  have recorded : (d.beginStep device time).host.localTime id ∈
      [d.host.localTime id, Binary64.toRat time] := d.localTime_beginStep device time
  have forward : d.host.localTime id ≤ (d.beginStep device time).host.localTime id := by
    rcases List.mem_pair.mp recorded with same | new
    · exact same.ge
    · exact late.trans new.ge
  have began : Onward id d.host (d.beginStep device time).host ([] : List (Execution engine)) :=
    ⟨forward, fun _ member => absurd member List.not_mem_nil, .nil⟩
  have turned := (d.stepped_timeless device time).trans
    ((d.onSimulationStep device time).deliver_timeless station)
  have last : ((d.onSimulationStep device time).deliver station).host.localTime id =
      (d.beginStep device time).host.localTime id :=
    congrArg (fun times => Binary64.toRat (SimulationTimes.last times id)) turned.times
  refine ⟨began.trans (.of_timeless turned), ?_⟩
  rw [last]
  exact recorded

end Dispatcher

namespace Simulation

variable {id : DeviceId}

theorem round_timeless (s : Simulation engine) : s.dispatcher.Timeless s.round.dispatcher
    (gather handOver
      (fun s message => s.dispatcher.executions
        (.logged (s.arrival s.cursor) message.text (s.order s.cursor)))
      s.fresh s) :=
  timeless_gather Simulation.dispatcher
    (fun s message => s.dispatcher.onLogMessage_timeless _ message.text _) s.fresh s

theorem pump_timeless (s : Simulation engine) :
    s.dispatcher.Timeless s.pump.dispatcher s.pumpExecutions := by
  induction s using pump.induct with
  | case1 s settled =>
    rw [pump_of_settled settled, pumpExecutions, if_pos settled]
    exact .quiet rfl
  | case2 s news ih =>
    rw [pump_of_fresh news, pumpExecutions, if_neg news]
    exact s.round_timeless.trans ih

/-- All devices take a step at one time. -/
theorem paced_turns (id : DeviceId) (time : Float) (devices : List DeviceRef)
    (s : Simulation engine) :
    Paced id s.host (devices.foldl (stepDevice time) s).host
      (gather (stepDevice time)
        (fun s device => s.dispatcher.turnExecutions s.station time device) devices s)
      [Binary64.toRat time] := by
  induction devices generalizing s with
  | nil =>
    exact fun _ => ⟨.still rfl fun _ member => absurd member List.not_mem_nil, List.mem_cons_self⟩
  | cons device rest ih =>
    -- all turns have one time, so the time of the first is also the one to compare the others with
    intro ordered
    obtain ⟨turn, reached⟩ := s.dispatcher.paced_turn device s.station time ordered
    have late : (s.stepDevice time device).host.localTime id ≤ Binary64.toRat time := by
      rcases List.mem_pair.mp reached with same | new
      · exact same.le.trans ((List.pairwise_cons.mp ordered).1 _ List.mem_cons_self)
      · exact new.le
    obtain ⟨turns, last⟩ := ih (stepDevice time s device) (List.pairwise_pair.mpr late)
    refine ⟨turn.trans turns, ?_⟩
    rcases List.mem_pair.mp last with same | new
    · rw [List.foldl_cons, same]
      exact reached
    · rw [List.foldl_cons, new]
      exact List.mem_cons_of_mem _ List.mem_cons_self

theorem paced_step (s : Simulation engine) (stepMs : Float) :
    Paced id s.host (s.step stepMs).host (s.stepExecutions stepMs)
      [Binary64.toRat (s.stamp stepMs).time] := by
  have ticked : s.dispatcher.Timeless (s.tick stepMs).dispatcher [] := .quiet rfl
  have turns := paced_turns id (s.tick stepMs).host.clock.time (s.tick stepMs).devices
    (s.tick stepMs)
  have pumped := (s.tick stepMs).stepDevices.pump_timeless
  exact ((Paced.of_timeless ticked).trans turns).trans (.of_timeless pumped)

theorem paced_stepTimes (id : DeviceId) (stepMs : Float) (count : Nat) (s : Simulation engine) :
    Paced id s.host (stepTimes stepMs count s).host (stepTimesExecutions stepMs count s)
      ((stepTimesStamps stepMs count s).map fun stamp => Binary64.toRat stamp.time) := by
  induction count generalizing s with
  | zero =>
    exact fun _ => ⟨.still rfl fun _ member => absurd member List.not_mem_nil, List.mem_cons_self⟩
  | succ n ih => exact (s.paced_step stepMs).trans (ih (s.step stepMs))

theorem paced_perform (s : Simulation engine) (operation : Operation) :
    Paced id s.host (s.perform operation).host (s.executions operation)
      ((s.stamps operation).map fun stamp => Binary64.toRat stamp.time) := by
  cases operation with
  | step stepMs => exact s.paced_step stepMs
  | run count stepMs =>
    have running : s.dispatcher.Timeless (s.setState .running).dispatcher [] := .quiet rfl
    have stopped : (stepTimes stepMs count (s.setState .running)).dispatcher.Timeless
        (s.run count stepMs).dispatcher [] := .quiet rfl
    have steps := paced_stepTimes id stepMs count (s.setState .running)
    have whole := ((Paced.of_timeless running).trans steps).trans (.of_timeless stopped)
    rwa [List.append_nil, List.append_nil] at whole
  | hostMessage text =>
    have announced : s.dispatcher.Timeless (s.announce text).dispatcher [] := .quiet rfl
    exact .of_timeless (announced.trans (s.announce text).pump_timeless)

theorem paced_performAll (s : Simulation engine) (operations : List Operation) :
    Paced id s.host (s.performAll operations).host (gather perform executions operations s)
      ((s.allStamps operations).map fun stamp => Binary64.toRat stamp.time) := by
  induction operations generalizing s with
  | nil =>
    exact fun _ => ⟨.still rfl fun _ member => absurd member List.not_mem_nil, List.mem_cons_self⟩
  | cons operation rest ih =>
    have split : (s.allStamps (operation :: rest)).map (fun stamp => Binary64.toRat stamp.time) =
        (s.stamps operation).map (fun stamp => Binary64.toRat stamp.time) ++
          ((s.perform operation).allStamps rest).map fun stamp => Binary64.toRat stamp.time :=
      List.map_append
    rw [split]
    exact (s.paced_perform operation).trans (ih (s.perform operation))

theorem loadScript_timeless (s : Simulation engine) (b : BuiltDevice) :
    s.dispatcher.Timeless (s.loadScript b).dispatcher (s.loadExecutions b) := by
  cases script : b.script with
  | none =>
    rw [s.loadScript_of_none script, loadExecutions, script]
    exact .quiet rfl
  | some path =>
    rw [s.loadScript_of_some script, loadExecutions, script]
    have registered := (s.mapHost fun host =>
      host.setScriptPath b.device path).dispatcher.times_register b.device
    exact .behind registered (Dispatcher.reload_timeless _ b.device)

/-- Nothing was simulated before the start, and nothing is at the start. -/
theorem start_timeless (built : BuiltStation) (files : Files) (config : ScriptConfig)
    (arrival : Nat → Nat) (order : Nat → Listing) :
    (attached built files config arrival order : Simulation engine).dispatcher.Timeless
      (start built files config arrival order).dispatcher
      (startExecutions built files config arrival order) := by
  have loaded := timeless_gather Simulation.dispatcher loadScript_timeless built.devices
    (attached built files config arrival order : Simulation engine)
  exact loaded.trans (launch built files config arrival order).pump_timeless

theorem localTime_attached (built : BuiltStation) (files : Files) (config : ScriptConfig)
    (arrival : Nat → Nat) (order : Nat → Listing) (id : DeviceId) :
    (attached built files config arrival order : Simulation engine).host.localTime id = -1 := by
  have empty (devices : List BuiltDevice) (d : Dispatcher engine) :
      (devices.foldl (fun d b => d.attach b.device) d).host.times = d.host.times := by
    induction devices generalizing d with
    | nil => rfl
    | cons b rest ih => exact (ih _).trans (d.times_register b.device)
  have never : Binary64.toRat neverSimulated = -1 := by decide +kernel
  rw [Host.localTime, host, attached, empty]
  exact never

section Advance

variable (built : BuiltStation) (files : Files) (config : ScriptConfig) (arrival : Nat → Nat)
  (order : Nat → Listing) (operations : List Operation)

/-- The stamps of the steps by their durations alone. -/
theorem allStamps_start :
    (start built files config arrival order : Simulation engine).allStamps operations =
    stampsFrom 0 (operations.flatMap durations) := by
  obtain ⟨steps, _⟩ := @start_count engine built files config arrival order
  rw [(performAll_count _ operations).1, steps]

/-- If the times of the steps do not go back, no script is told a time that does. -/
theorem localTimes_ordered (id : DeviceId)
    (ordered : (0 :: ((start built files config arrival order : Simulation engine).allStamps
      operations).map fun stamp => Binary64.toRat stamp.time).Pairwise (· ≤ ·)) :
    (localTimes id (allExecutions built files config arrival order operations :
      List (Execution engine))).Pairwise (· ≤ ·) := by
  have begun : Paced id (attached built files config arrival order : Simulation engine).host
      (start built files config arrival order).host
        (startExecutions built files config arrival order) [] :=
    .of_timeless (start_timeless built files config arrival order)
  have whole := begun.trans (paced_performAll (start built files config arrival order) operations)
  refine (whole ?_).1.ordered
  obtain ⟨positive, rest⟩ := List.pairwise_cons.mp ordered
  rw [localTime_attached]
  refine List.pairwise_cons.mpr ⟨fun time member => ?_, rest⟩
  exact le_trans (by norm_num) (positive time member)

/-- The clock tells how long all steps took together if they are equally long. A step multiplies its
own duration by the number of steps; so its time is the sum of the durations, and what it takes for
the time of the step before is that time, exactly as long as no duration differs from the others.
Then neither the clock nor the time that a script is told goes back. -/
theorem time_advances_iff_uniform
    (exact : ExactTimes (operations.flatMap durations)) :
    let ds := operations.flatMap durations
    let stamps := (start built files config arrival order : Simulation engine).allStamps operations
    stamps.length = ds.length ∧
    (∀ stamp, stamps[0]? = some stamp → Binary64.toRat stamp.previous = 0) ∧
    ((∀ i stamp, stamps[i]? = some stamp →
      Binary64.toRat stamp.time = ((ds.take (i + 1)).map Binary64.toRat).sum) ↔ Uniform ds) ∧
    ((∀ i one other, stamps[i]? = some one → stamps[i + 1]? = some other →
      Binary64.toRat other.previous = Binary64.toRat one.time) ↔ Uniform ds) ∧
    (Uniform ds → (∀ d ∈ ds, 0 ≤ Binary64.toRat d) →
      Binary64.toRat (afterOperations built files config arrival order operations :
        Simulation engine).host.clock.time = (ds.map Binary64.toRat).sum ∧
      (0 :: stamps.map fun stamp => Binary64.toRat stamp.time).Pairwise (· ≤ ·) ∧
      ∀ id, (localTimes id (allExecutions built files config arrival order operations :
        List (Execution engine))).Pairwise (· ≤ ·)) := by
  intro ds stamps
  have closed : stamps = stampsFrom 0 ds :=
    allStamps_start built files config arrival order operations
  refine ⟨?_, fun stamp found => ?_, ?_, ?_, fun uniform forward => ?_⟩
  · rw [closed, length_stampsFrom]
  · rw [closed] at found
    obtain ⟨inside, previous, _⟩ := stamp_of_exact exact found
    rw [previous, Nat.cast_zero, zero_mul]
  · rw [closed]
    exact times_eq_sums_iff exact
  · rw [closed]
    exact previous_eq_times_iff exact
  · have ordered : (0 :: stamps.map fun stamp => Binary64.toRat stamp.time).Pairwise (· ≤ ·) := by
      rw [closed]
      exact times_ordered exact uniform forward
    refine ⟨?_, ordered, fun id =>
      localTimes_ordered built files config arrival order operations id ordered⟩
    have clock := (performAll_count (start built files config arrival order : Simulation engine)
      operations).2
    have last : (afterOperations built files config arrival order operations :
        Simulation engine).host.clock.time = timeAfter 0.0 (stampsFrom 0 ds) := by
      rw [← closed]
      exact clock.trans (by rw [(start_count built files config arrival order).2])
    rw [last]
    exact timeAfter_eq_sum exact uniform

end Advance

/-- A file with one device, whose script is given. -/
def timedFile : StationFile :=
  { name := "Cell", devices := [{ name := "Gripper", script := some "gripper.lua" }] }

def timedStation : BuiltStation :=
  (timedFile.build fun _ => ⟨"gripper"⟩).toOption.getD default

/-- A device whose script asks for the time takes three steps of 10 ms. -/
theorem time_advances_iff_uniform_timedStation :
    let asking : Engine := .repeating (.call .getLastSimulationTime [] fun _ => .done ())
    let files : Files := fun _ => .content ByteArray.empty
    let operations : List Operation := [.run 2 10.0, .step 10.0]
    Binary64.toRat
      (afterOperations timedStation files {} (fun _ => 0) (fun _ => .registered) operations :
      Simulation asking).host.clock.time = 30 ∧
    (localTimes ⟨"gripper"⟩
      (allExecutions timedStation files {} (fun _ => 0) (fun _ => .registered) operations :
      List (Execution asking))).Pairwise (· ≤ ·) := by
  intro asking files operations
  have exact : ExactTimes (operations.flatMap durations) := by decide +kernel
  have uniform : Uniform (operations.flatMap durations) := by decide +kernel
  have forward : ∀ d ∈ operations.flatMap durations, 0 ≤ Binary64.toRat d := by decide +kernel
  obtain ⟨_, _, _, _, advance⟩ := @time_advances_iff_uniform asking timedStation files {}
    (fun _ => 0) (fun _ => .registered) operations exact
  obtain ⟨clock, _, told⟩ := advance uniform forward
  have sum : ((operations.flatMap durations).map Binary64.toRat).sum = 30 := by decide +kernel
  exact ⟨clock.trans sum, told _⟩

/-- After a step of 10 ms and one of 1 ms the clock shows 2 ms. -/
theorem time_goes_back :
    let operations : List Operation := [.step 10.0, .step 1.0]
    let s : Simulation (.repeating (.done ())) := start cellStation Files.none {} fun _ => 0
    ExactTimes (operations.flatMap durations) ∧
    (s.allStamps operations).map StepStamp.time = [10.0, 2.0] ∧
    (s.allStamps operations).map StepStamp.previous = [0.0, 1.0] ∧
    (s.performAll operations).host.clock.time = 2.0 := by
  intro operations s
  have stamps : s.allStamps operations = stampsFrom 0 [10.0, 1.0] :=
    allStamps_start cellStation Files.none {} (fun _ => 0) (fun _ => .registered) operations
  refine ⟨by decide +kernel, ?_, ?_, ?_⟩
  · rw [stamps]
    decide +kernel
  · rw [stamps]
    decide +kernel
  · rw [(performAll_count s operations).2, stamps]
    decide +kernel

end Simulation

end StationScript
