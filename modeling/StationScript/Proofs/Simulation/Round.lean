import StationScript.Proofs.Dispatcher.Handling
import StationScript.Simulation.Round

/-!
Rounds of the log come to an end. What a round adds to the log is the host's own, and a round of
the host's own messages adds nothing.
-/

set_option autoImplicit false

namespace StationScript.Simulation

variable {engine : Engine}

theorem handOver_advance (s : Simulation engine) (message : LogMessage) :
    s.dispatcher.Advance (s.handOver message).dispatcher :=
  (s.dispatcher.onLogMessage_handling _ _ _).advance

theorem foldl_handOver_advance (messages : List LogMessage) (s : Simulation engine) :
    s.dispatcher.Advance (messages.foldl handOver s).dispatcher := by
  induction messages generalizing s with
  | nil => exact .refl _
  | cons message rest ih => exact (s.handOver_advance message).trans (ih _)

theorem round_advance (s : Simulation engine) : s.dispatcher.Advance s.round.dispatcher :=
  foldl_handOver_advance s.fresh s

theorem cursor_foldl_handOver (messages : List LogMessage) (s : Simulation engine) :
    (messages.foldl handOver s).cursor = s.cursor + messages.length := by
  induction messages generalizing s with
  | nil => rfl
  | cons message rest ih =>
    rw [List.foldl_cons, ih, List.length_cons]
    simp only [handOver]
    omega

theorem cursor_round (s : Simulation engine) : s.round.cursor = s.cursor + s.fresh.length :=
  cursor_foldl_handOver s.fresh s

/-- A cursor behind which something is fresh ends up at the end of the log before the round. -/
theorem cursor_round_of_fresh {s : Simulation engine} (news : s.fresh ≠ []) :
    s.round.cursor = s.host.log.toList.length := by
  have inside : s.cursor < s.host.log.toList.length := by
    have beyond := mt List.drop_eq_nil_of_le news
    omega
  rw [cursor_round, fresh, Log.since, List.length_drop]
  omega

/-- A round leaves behind what its refreshes wrote, all of it in the host's own name. -/
theorem owns_of_mem_fresh_round {s : Simulation engine} (news : s.fresh ≠ [])
    {message : LogMessage} (member : message ∈ s.round.fresh) :
    s.round.host.owns message.text = true := by
  have advance := s.round_advance.host
  obtain ⟨added, log, owned⟩ := advance.log
  have left : s.round.fresh = added := by
    rw [fresh, Log.since, cursor_round_of_fresh news]
    exact (congrArg _ log).trans List.drop_left
  rw [left] at member
  exact (Host.owns_eq advance.logPrefix _).trans (owned message member)

theorem foldl_handOver_of_owns {messages : List LogMessage} {s : Simulation engine}
    (owned : ∀ message ∈ messages, s.host.owns message.text = true) :
    (messages.foldl handOver s).dispatcher = s.dispatcher := by
  induction messages generalizing s with
  | nil => rfl
  | cons message rest ih =>
    have head := Dispatcher.onLogMessage_of_owns (owned message List.mem_cons_self)
      (s.arrival s.cursor)
    have unchanged : (s.handOver message).dispatcher = s.dispatcher := by
      simp only [handOver, head]
    rw [List.foldl_cons, ih, unchanged]
    intro other member
    rw [host, unchanged]
    exact owned other (List.mem_cons_of_mem _ member)

/-- After a round of the host's own messages nothing is fresh. -/
theorem fresh_round_of_owns {s : Simulation engine}
    (owned : ∀ message ∈ s.fresh, s.host.owns message.text = true) : s.round.fresh = [] := by
  have unchanged : s.round.dispatcher = s.dispatcher := foldl_handOver_of_owns owned
  rw [fresh, Log.since, cursor_round, host, unchanged, fresh, Log.since]
  apply List.drop_eq_nil_of_le
  rw [List.length_drop, host]
  omega

/-- How many rounds there are still to go, at most. -/
def unsettled (s : Simulation engine) : Nat :=
  if s.fresh = [] then 0
  else if ∀ message ∈ s.fresh, s.host.owns message.text = true then 1 else 2

theorem unsettled_round_lt {s : Simulation engine} (news : s.fresh ≠ []) :
    s.round.unsettled < s.unsettled := by
  have left : ∀ message ∈ s.round.fresh, s.round.host.owns message.text = true :=
    fun _ => owns_of_mem_fresh_round news
  by_cases owned : ∀ message ∈ s.fresh, s.host.owns message.text = true
  · simp only [unsettled, fresh_round_of_owns owned, news, if_pos owned, ↓reduceIte]
    decide
  · simp only [unsettled, if_pos left, if_neg owned, news, ↓reduceIte]
    split <;> decide

end StationScript.Simulation
