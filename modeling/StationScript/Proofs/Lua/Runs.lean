import StationScript.Proofs.Lua.Globals

/-!
The runs of a machine belong to a history.

A program is loaded along a history, and every call of the host goes on with it, those of finalizers
included, as long as nothing tampers with the globals. So when such a run has ended, the guard is in
place and the globals hold what was assigned to them.
-/

set_option autoImplicit false

namespace StationScript

namespace Run

variable {α β : Type}

/-- The run can end with this result, if the host replies accordingly. -/
def Ends : Run α → α → Prop
  | .done result, last => result = last
  | .call _ _ resume, last => ∃ reply, (resume reply).Ends last

theorem ends_bind (run : Run α) (next : α → Run β) (last : β) :
    (run.bind next).Ends last ↔ ∃ a, run.Ends a ∧ (next a).Ends last := by
  induction run with
  | done result => simp [Ends]
  | call function arguments resume ih =>
    constructor
    · rintro ⟨reply, rest⟩
      obtain ⟨a, first, second⟩ := (ih reply).mp rest
      exact ⟨a, ⟨reply, first⟩, second⟩
    · rintro ⟨a, ⟨reply, first⟩, second⟩
      exact ⟨reply, (ih reply).mpr ⟨a, first, second⟩⟩

end Run

namespace Lua

/-- No step within the budget tampers with the globals, whatever the host replies. -/
def State.Careful : (budget : Nat) → State → Prop
  | 0, _ => True
  | _ + 1, .ended _ _ => True
  | budget + 1, .asking _ _ m => ∀ reply, Careful budget (m.answered reply)
  | budget + 1, s => ¬ s.Tampers ∧ Careful budget s.step

/-- A machine that has used up its budget has lost its memory. -/
def exhausted : Except Raised (List Value) × Heap :=
  (.error ⟨.ofText "not enough memory", ""⟩, { component := "" })

namespace History

variable {library : StandardLibrary} {component : String} {program : Prototype} {s : State}
  {heap after : Heap} {assigned : List (Key × Value)} {outcome last : Except Raised (List Value)}

/-- By induction on the budget: a step, or a reply of the host, leads on to a state of a history. -/
theorem of_run (history : History library component program s assigned) {budget : Nat}
    (careful : s.Careful budget) (ends : (State.run budget s).Ends (outcome, heap)) :
    (outcome, heap) = exhausted ∨
      ∃ later, History library component program (.ended outcome heap) later := by
  induction budget generalizing s assigned with
  | zero => exact .inl ends.symm
  | succ budget ih =>
    cases s with
    | ended last kept =>
      obtain ⟨rfl, rfl⟩ := Prod.mk.inj ends
      exact .inr ⟨assigned, history⟩
    | asking function arguments m =>
      obtain ⟨reply, rest⟩ := ends
      exact ih (history.reply reply) (careful reply) rest
    | script | calling | delivering | raising | abroad =>
      exact ih (history.step careful.1) careful.2 ends

/-- A machine in which a program was loaded is at the end of a history. -/
theorem of_runProgram (careful : (startState .standard component program).Careful budget)
    (ends : (runProgram component program).Ends (.ok heap)) :
    ∃ results assigned,
      History .standard component program (.ended (.ok results) heap) assigned := by
  rw [runProgram_eq_bind, Run.ends_bind] at ends
  obtain ⟨⟨outcome, kept⟩, ran, loaded⟩ := ends
  cases outcome with
  | ok results =>
    cases loaded
    rcases of_run .start careful ran with lost | ⟨assigned, reached⟩
    · cases congrArg Prod.fst lost
    · exact ⟨results, assigned, reached⟩
  | error raised =>
    obtain ⟨_, _, failed⟩ := (Run.ends_bind ..).mp loaded
    cases failed

section Calls

variable (history : History library component program (.ended outcome heap) assigned)
include history

theorem of_call {function : Value} {arguments : List Value}
    (careful : (heap.callState function arguments).Careful budget)
    (ends : (heap.call function arguments).Ends (last, after)) : (last, after) = exhausted ∨
      ∃ later, History library component program (.ended last after) later :=
  (history.call function arguments).of_run careful ends

/-- A finalizer goes on with the history, and so does its absence. -/
theorem of_finalize {ref : Nat}
    (careful : (heap.callState (heap.metafield (.table ref) "gc") [.table ref]).Careful budget)
    (ends : (heap.finalize ref).Ends after) : after = exhausted.2 ∨
      ∃ outcome later, History library component program (.ended outcome after) later := by
  rw [Heap.finalize_eq_bind] at ends
  split at ends
  · cases ends
    exact .inr ⟨outcome, assigned, history⟩
  · obtain ⟨⟨last, kept⟩, ran, same⟩ := (Run.ends_bind ..).mp ends
    cases same
    rcases history.of_call careful ran with lost | reached
    · exact .inl (congrArg Prod.snd lost)
    · exact .inr ⟨last, reached⟩

end Calls

end History

end Lua

end StationScript
