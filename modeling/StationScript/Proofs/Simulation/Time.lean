import Mathlib
import StationScript.Proofs.Decimal.Exact
import StationScript.Proofs.Simulation.Operations

/-!
The times of a simulation's steps. A step takes its time from the number of steps and its own
duration, and not from the time of the step before it.
-/

set_option autoImplicit false

namespace StationScript.Simulation

variable {engine : Engine}

/-- The stamps of so many steps. -/
def stepTimesStamps (stepMs : Float) : Nat → Simulation engine → List StepStamp
  | 0, _ => []
  | n + 1, s => s.stamp stepMs :: stepTimesStamps stepMs n (s.step stepMs)

def stamps (s : Simulation engine) : Operation → List StepStamp
  | .step stepMs => [s.stamp stepMs]
  | .run count stepMs => stepTimesStamps stepMs count (s.setState .running)
  | .hostMessage _ => []

/-- The stamps of all steps that some operations make. -/
def allStamps (s : Simulation engine) (operations : List Operation) : List StepStamp :=
  gather perform stamps operations s

/-- The durations of the steps that an operation makes. -/
def durations : Operation → List Float
  | .step stepMs => [stepMs]
  | .run count stepMs => List.replicate count stepMs
  | .hostMessage _ => []

/-- The stamps of steps by their durations, after so many steps that were made before. -/
def stampsFrom (made : Nat) : List Float → List StepStamp
  | [] => []
  | d :: rest =>
    ⟨Binary64.ofInt made * d, Binary64.ofInt (made + 1 : Nat) * d⟩ :: stampsFrom (made + 1) rest

/-- The time on the clock when steps were stamped. -/
def timeAfter (time : Float) (stamps : List StepStamp) : Float :=
  (stamps.getLast?.map StepStamp.time).getD time

theorem stampsFrom_append (made : Nat) (front back : List Float) :
    stampsFrom made (front ++ back) =
      stampsFrom made front ++ stampsFrom (made + front.length) back := by
  induction front generalizing made with
  | nil => rfl
  | cons d rest ih =>
    rw [List.cons_append, stampsFrom, stampsFrom, ih, List.cons_append, List.length_cons,
      Nat.add_right_comm, Nat.add_assoc]

theorem length_stampsFrom (made : Nat) (ds : List Float) :
    (stampsFrom made ds).length = ds.length := by
  induction ds generalizing made with
  | nil => rfl
  | cons d rest ih => rw [stampsFrom, List.length_cons, List.length_cons, ih]

theorem stampsFrom_get (made : Nat) (ds : List Float) (i : Nat) :
    (stampsFrom made ds)[i]? = ds[i]?.map fun d =>
      ⟨Binary64.ofInt (made + i : Nat) * d, Binary64.ofInt (made + i + 1 : Nat) * d⟩ := by
  induction ds generalizing made i with
  | nil => rfl
  | cons d rest ih =>
    cases i with
    | zero => rfl
    | succ i =>
      have shift : made + 1 + i = made + (i + 1) := by omega
      rw [stampsFrom, List.getElem?_cons_succ, List.getElem?_cons_succ, ih]
      simp only [shift]

theorem timeAfter_append (time : Float) (front back : List StepStamp) :
    timeAfter time (front ++ back) = timeAfter (timeAfter time front) back := by
  unfold timeAfter
  cases back using List.reverseRecOn with
  | nil => simp
  | append_singleton back last => simp [← List.append_assoc]

section Count

theorem anything_robust : Host.Robust fun _ _ => True :=
  ⟨fun _ => trivial, fun _ => trivial, fun _ _ => trivial⟩

theorem clock_pump (s : Simulation engine) : s.pump.host.clock = s.host.clock :=
  (s.pump_along anything_robust).1.host.clock

theorem clock_step (s : Simulation engine) (stepMs : Float) :
    (s.step stepMs).host.clock.time = (s.stamp stepMs).time := by
  unfold step
  rw [clock_pump, stepDevices, clock_turns]
  rfl

theorem steps_step (s : Simulation engine) (stepMs : Float) :
    (s.step stepMs).steps = s.steps + 1 := by
  unfold step
  rw [steps_pump, stepDevices]
  refine (steps_foldl ?_ _ _).trans rfl
  exact fun _ _ => rfl

theorem stepTimes_count (stepMs : Float) (count : Nat) (s : Simulation engine) :
    (stepTimes stepMs count s).steps = s.steps + count ∧
      stepTimesStamps stepMs count s = stampsFrom s.steps (List.replicate count stepMs) ∧
      (stepTimes stepMs count s).host.clock.time =
        timeAfter s.host.clock.time (stepTimesStamps stepMs count s) := by
  induction count generalizing s with
  | zero => exact ⟨rfl, rfl, rfl⟩
  | succ n ih =>
    obtain ⟨steps, stamps, clock⟩ := ih (s.step stepMs)
    have head : stepTimesStamps stepMs (n + 1) s =
        [s.stamp stepMs] ++ stepTimesStamps stepMs n (s.step stepMs) := rfl
    refine ⟨?_, ?_, ?_⟩
    · rw [stepTimes, steps, steps_step]
      omega
    · rw [stepTimesStamps, stamps, steps_step]
      rfl
    · rw [stepTimes, clock, head, timeAfter_append, clock_step]
      rfl

/-- An operation makes steps of its durations; the last one sets the clock. -/
theorem perform_count (s : Simulation engine) (operation : Operation) :
    (s.perform operation).steps = s.steps + (durations operation).length ∧
      s.stamps operation = stampsFrom s.steps (durations operation) ∧
      (s.perform operation).host.clock.time =
        timeAfter s.host.clock.time (s.stamps operation) := by
  cases operation with
  | step stepMs => exact ⟨s.steps_step stepMs, rfl, s.clock_step stepMs⟩
  | run count stepMs =>
    obtain ⟨steps, stamps, clock⟩ := stepTimes_count stepMs count (s.setState .running)
    refine ⟨steps.trans ?_, stamps, clock⟩
    rw [durations, List.length_replicate]
    rfl
  | hostMessage text =>
    exact ⟨(steps_pump _).trans rfl, rfl, congrArg Clock.time (clock_pump _)⟩

theorem performAll_count (s : Simulation engine) (operations : List Operation) :
    s.allStamps operations = stampsFrom s.steps (operations.flatMap durations) ∧
      (s.performAll operations).host.clock.time =
        timeAfter s.host.clock.time (s.allStamps operations) := by
  induction operations generalizing s with
  | nil => exact ⟨rfl, rfl⟩
  | cons operation rest ih =>
    obtain ⟨steps, stamps, clock⟩ := s.perform_count operation
    obtain ⟨later, last⟩ := ih (s.perform operation)
    have split : s.allStamps (operation :: rest) =
        s.stamps operation ++ (s.perform operation).allStamps rest := rfl
    constructor
    · rw [split, later, stamps, steps, List.flatMap_cons, stampsFrom_append]
    · rw [split, timeAfter_append, ← clock]
      exact last

/-- No step was made at the start, and the clock shows 0. -/
theorem start_count (built : BuiltStation) (files : Files) (config : ScriptConfig)
    (arrival : Nat → Nat) (order : Nat → Listing) :
    (start built files config arrival order : Simulation engine).steps = 0 ∧
      (start built files config arrival order : Simulation engine).host.clock.time = 0.0 := by
  constructor
  · rw [start, steps_pump, steps_launch]
  · have launched := (@launch_along engine _ anything_robust built files config arrival order).1
    have clock : (start built files config arrival order : Simulation engine).host.clock =
        (bareHost built files config).clock := (clock_pump _).trans launched.host.clock
    rw [clock]
    rfl

end Count

section Durations

/-- All steps are equally long. -/
def Uniform (ds : List Float) : Prop :=
  ds.Pairwise fun d e => Binary64.toRat d = Binary64.toRat e

instance (ds : List Float) : Decidable (Uniform ds) :=
  inferInstanceAs (Decidable (List.Pairwise _ _))

/-- It is enough that every step is as long as the one before it. -/
theorem uniform_iff (ds : List Float) : Uniform ds ↔
    ∀ i (later : i + 1 < ds.length), Binary64.toRat ds[i] = Binary64.toRat ds[i + 1] := by
  have : Trans (fun d e => Binary64.toRat d = Binary64.toRat e)
      (fun d e => Binary64.toRat d = Binary64.toRat e)
      (fun d e => Binary64.toRat d = Binary64.toRat e) := ⟨Eq.trans⟩
  rw [Uniform, ← List.isChain_iff_pairwise, List.isChain_iff_getElem]

/-- Multiplication finds the times that the steps take from their durations. -/
def ExactTimes (ds : List Float) : Prop :=
  ∀ i (inside : i < ds.length), Binary64.Exact i ds[i] ∧ Binary64.Exact (i + 1) ds[i]

instance (ds : List Float) : Decidable (ExactTimes ds) :=
  inferInstanceAs (Decidable (∀ i (_ : i < ds.length), _))

variable {ds : List Float} (exact : ExactTimes ds)
include exact

theorem stamp_of_exact {i : Nat} {stamp : StepStamp} (found : (stampsFrom 0 ds)[i]? = some stamp) :
    ∃ inside : i < ds.length,
      Binary64.toRat stamp.previous = i * Binary64.toRat ds[i] ∧
      Binary64.toRat stamp.time = (i + 1 : Nat) * Binary64.toRat ds[i] := by
  rw [stampsFrom_get] at found
  obtain ⟨d, there, rfl⟩ := Option.map_eq_some_iff.mp found
  obtain ⟨inside, rfl⟩ := List.getElem?_eq_some_iff.mp there
  refine ⟨inside, ?_, ?_⟩
  · simp only [Nat.zero_add]
    exact (exact i inside).1.toRat
  · simp only [Nat.zero_add]
    exact (exact i inside).2.toRat

theorem stamp_exists {i : Nat} (inside : i < ds.length) :
    ∃ stamp, (stampsFrom 0 ds)[i]? = some stamp ∧
      Binary64.toRat stamp.previous = i * Binary64.toRat ds[i] ∧
      Binary64.toRat stamp.time = (i + 1 : Nat) * Binary64.toRat ds[i] := by
  have found : ∃ stamp, (stampsFrom 0 ds)[i]? = some stamp := by
    rw [stampsFrom_get, List.getElem?_eq_getElem inside]
    exact ⟨_, rfl⟩
  obtain ⟨stamp, found⟩ := found
  obtain ⟨_, values⟩ := stamp_of_exact exact found
  exact ⟨stamp, found, values⟩

/-- The steps take the sums of the durations for their times exactly if all are equally long. -/
theorem times_eq_sums_iff : (∀ i stamp, (stampsFrom 0 ds)[i]? = some stamp →
    Binary64.toRat stamp.time = ((ds.take (i + 1)).map Binary64.toRat).sum) ↔ Uniform ds := by
  have next (i : Nat) (inside : i < ds.length) : ((ds.take (i + 1)).map Binary64.toRat).sum =
      ((ds.take i).map Binary64.toRat).sum + Binary64.toRat ds[i] := by
    rw [List.take_succ_eq_append_getElem inside, List.map_append, List.sum_append]
    simp
  rw [uniform_iff]
  constructor
  · intro sums i later
    obtain ⟨one, first, _, time⟩ := stamp_exists exact (show i < ds.length by omega)
    obtain ⟨other, second, _, nextTime⟩ := stamp_exists exact later
    have sum := sums i one first
    have nextSum := sums (i + 1) other second
    rw [next (i + 1) later, ← sum, time, nextTime] at nextSum
    have steps : ((i + 1 : Nat) : ℚ) ≠ 0 := by positivity
    push_cast at nextSum steps
    have equal : ((i : ℚ) + 1) * (Binary64.toRat ds[i + 1] - Binary64.toRat ds[i]) = 0 := by
      linarith
    linarith [(mul_eq_zero.mp equal).resolve_left steps]
  · intro uniform i stamp found
    have sums (i : Nat) (inside : i < ds.length) : (i + 1 : Nat) * Binary64.toRat ds[i] =
        ((ds.take (i + 1)).map Binary64.toRat).sum := by
      induction i with
      | zero =>
        rw [next 0 inside]
        simp
      | succ i ih =>
        rw [next (i + 1) inside, ← ih (by omega), uniform i inside]
        push_cast
        ring
    obtain ⟨inside, _, time⟩ := stamp_of_exact exact found
    rw [time, sums i inside]

/-- Equally long steps leave the clock at the sum of their durations. -/
theorem timeAfter_eq_sum (uniform : Uniform ds) :
    Binary64.toRat (timeAfter 0.0 (stampsFrom 0 ds)) = (ds.map Binary64.toRat).sum := by
  rcases List.eq_nil_or_concat ds with rfl | ⟨front, d, whole⟩
  · decide +kernel
  · have count : ds.length = front.length + 1 := by simp [whole]
    obtain ⟨stamp, found, _, _⟩ := stamp_exists exact (show front.length < ds.length by omega)
    have last : (stampsFrom 0 ds).getLast? = some stamp := by
      rw [List.getLast?_eq_getElem?, length_stampsFrom, count]
      exact found
    have time := (times_eq_sums_iff exact).mpr uniform front.length stamp found
    rw [← count, List.take_length] at time
    rw [timeAfter, last]
    exact time

/-- The steps take the right time for that of the step before exactly if all are equally long. -/
theorem previous_eq_times_iff : (∀ i one other, (stampsFrom 0 ds)[i]? = some one →
    (stampsFrom 0 ds)[i + 1]? = some other →
    Binary64.toRat other.previous = Binary64.toRat one.time) ↔ Uniform ds := by
  rw [uniform_iff]
  constructor
  · intro links i later
    obtain ⟨one, first, _, time⟩ := stamp_exists exact (show i < ds.length by omega)
    obtain ⟨other, second, previous, _⟩ := stamp_exists exact later
    have link := links i one other first second
    rw [previous, time] at link
    have steps : ((i + 1 : Nat) : ℚ) ≠ 0 := by positivity
    exact (mul_left_cancel₀ steps link).symm
  · intro uniform i one other first second
    obtain ⟨_, _, time⟩ := stamp_of_exact exact first
    obtain ⟨later, previous, _⟩ := stamp_of_exact exact second
    rw [previous, time, uniform i later]

/-- Times of equally long steps do not go back, neither behind 0. -/
theorem times_ordered (uniform : Uniform ds) (forward : ∀ d ∈ ds, 0 ≤ Binary64.toRat d) :
    (0 :: (stampsFrom 0 ds).map fun stamp => Binary64.toRat stamp.time).Pairwise (· ≤ ·) := by
  rw [List.pairwise_cons]
  constructor
  · intro time member
    obtain ⟨stamp, listed, rfl⟩ := List.mem_map.mp member
    obtain ⟨i, found⟩ := List.getElem?_of_mem listed
    obtain ⟨inside, _, time⟩ := stamp_of_exact exact found
    have positive := forward _ (List.getElem_mem inside)
    rw [time]
    positivity
  · rw [List.pairwise_map, List.pairwise_iff_getElem]
    intro i j first second earlier
    obtain ⟨inside, _, time⟩ := stamp_of_exact exact (List.getElem?_eq_getElem first)
    obtain ⟨later, _, nextTime⟩ := stamp_of_exact exact (List.getElem?_eq_getElem second)
    have same := List.pairwise_iff_getElem.mp uniform i j inside later earlier
    have steps : ((i + 1 : Nat) : ℚ) ≤ (j + 1 : Nat) := by
      exact_mod_cast Nat.succ_le_succ earlier.le
    rw [time, nextTime, same]
    exact mul_le_mul_of_nonneg_right steps (forward _ (List.getElem_mem later))

end Durations

end StationScript.Simulation
