import Mathlib.Logic.Relation
import StationScript.Proofs.Host.Binding

/-!
What the host does on behalf of one device, move by move: it answers a call of the device's script,
writes a message, or gives the device another label or path. Whatever is kept by every move is kept
by all the work that an event makes.
-/

set_option autoImplicit false

namespace StationScript.Host

/-- The functions that a run calls, in order. -/
def calls {α : Type} (id : DeviceId) : Run α → Host → List HostFunction
  | .done _, _ => []
  | .call function arguments resume, host =>
    let answer := host.answer id function arguments
    function :: calls id (resume answer.reply) answer.host

/-- One move for a device whose script may call certain functions. -/
inductive Move (device : DeviceRef) (called : HostFunction → Prop) : Host → Host → Prop where
  | report (host : Host) (severity : Severity) (text : String) :
    Move device called host (host.report severity text)
  | answer (host : Host) (function : HostFunction) (arguments : List Value)
    (allowed : called function) :
    Move device called host (host.answer (host.device device).id function arguments).host
  | setStatus (host : Host) (status : String) :
    Move device called host (host.setStatus device status)
  | setScriptPath (host : Host) (path : String) :
    Move device called host (host.setScriptPath device path)

/-- Any number of moves. -/
abbrev Moves (device : DeviceRef) (called : HostFunction → Prop) : Host → Host → Prop :=
  Relation.ReflTransGen (Move device called)

theorem answer_calm (host : Host) (id : DeviceId) (function : HostFunction)
    (arguments : List Value) : Calm host (host.answer id function arguments).host :=
  (host.answer_frame (fun _ => True) id function arguments fun _ _ => trivial).toCalm

/-- A call of a bound device's script stays with the device. -/
theorem answer_frame_of_binds {host : Host} {device : DeviceRef} (binds : host.Binds device)
    (function : HostFunction) (arguments : List Value) :
    Frame (· = device) host (host.answer (host.device device).id function arguments).host := by
  refine host.answer_frame _ _ function arguments fun found looked => ?_
  unfold lookup? at looked
  split at looked
  · cases looked
  · have bound : (host.resolve (host.device device).id).2 = host.boundTo device := by
      unfold resolve
      dsimp only
      rw [registry_sweep]
      exact binds
    rw [bound, boundTo] at looked
    split at looked
    · exact (Option.some.inj (Option.some.inj looked)).symm
    · cases looked

variable {device : DeviceRef} {called : HostFunction → Prop} {before after : Host}

theorem Move.calm (move : Move device called before after) : Calm before after := by
  cases move with
  | report severity text => exact before.calm_report severity text
  | answer function arguments allowed => exact before.answer_calm _ function arguments
  | setStatus status => exact before.calm_setStatus device status
  | setScriptPath path => exact before.calm_setScriptPath device path

theorem Moves.calm (moves : Moves device called before after) : Calm before after := by
  induction moves with
  | refl => exact .refl before
  | tail _ last ih => exact ih.trans last.calm

/-- A script that may call more makes the same moves. -/
theorem Moves.mono {wider : HostFunction → Prop} (within : ∀ f, called f → wider f)
    (moves : Moves device called before after) : Moves device wider before after := by
  refine Relation.ReflTransGen.mono ?_ _ _ moves
  intro one next move
  cases move with
  | report severity text => exact .report one severity text
  | answer function arguments allowed => exact .answer one function arguments (within _ allowed)
  | setStatus status => exact .setStatus one status
  | setScriptPath path => exact .setScriptPath one path

/-- What every single move keeps is kept by all of them, for a device that is bound, as it stays
from move to move. -/
theorem Moves.keeps_bound (kept : Host → Host → Prop) (refl : ∀ host, kept host host)
    (trans : ∀ first second third, kept first second → kept second third → kept first third)
    (one : ∀ first second, first.Binds device → Move device called first second →
      kept first second)
    (binds : before.Binds device) (moves : Moves device called before after) :
    kept before after := by
  induction moves with
  | refl => exact refl before
  | tail front last ih => exact trans _ _ _ ih (one _ _ (binds.calm (Moves.calm front)) last)

/-- Every other device is as it was. -/
theorem Moves.device_of_ne {ref : DeviceRef} (other : ref ≠ device) (binds : before.Binds device)
    (moves : Moves device called before after) : after.device ref = before.device ref := by
  refine moves.keeps_bound (fun first second => second.device ref = first.device ref)
    (fun _ => rfl) (fun _ _ _ left right => right.trans left)
    (fun first second binds move => ?_) binds
  cases move with
  | report severity text => rfl
  | answer function arguments allowed =>
    exact (answer_frame_of_binds binds function arguments).others ref other
  | setStatus status => exact first.plant.device_modifyDevice_of_ne other _
  | setScriptPath path => exact first.plant.device_modifyDevice_of_ne other _

theorem moves_foldl_report (host : Host) (severity : Severity) (texts : List String) :
    Moves device called host (texts.foldl (fun h text => h.report severity text) host) := by
  induction texts generalizing host with
  | nil => exact .refl
  | cons text rest ih => exact .head (.report host severity text) (ih _)

/-- The run of a device's script makes the moves of its calls. -/
theorem moves_play {α : Type} (host : Host) (device : DeviceRef) (run : Run α) (closing : Bool) :
    Moves device (· ∈ host.calls (host.device device).id run) host
      (host.play (host.device device).id run closing).1 := by
  induction run generalizing host closing with
  | done result => exact .refl
  | call function arguments resume ih =>
    let answer := host.answer (host.device device).id function arguments
    have same : (answer.host.device device).id = (host.device device).id :=
      (host.answer_calm _ function arguments).layout.id_eq device
    have first : Move device
        (· ∈ host.calls (host.device device).id (.call function arguments resume))
        host answer.host :=
      .answer host function arguments List.mem_cons_self
    have rest := ih answer.reply answer.host (closing || answer.closing)
    rw [same] at rest
    exact .head first (rest.mono fun _ later => List.mem_cons_of_mem _ later)

end StationScript.Host
