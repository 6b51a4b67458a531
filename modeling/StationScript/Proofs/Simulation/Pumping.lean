import Mathlib.Logic.Function.Iterate
import StationScript.Proofs.Dispatcher.Happening
import StationScript.Simulation.Basic

/-!
One pump of the log: its rounds, and what it hands to the dispatcher.

The record of a simulation is the whole course of its dispatcher so far. The first messages of the
log were handed over, in order, each of them once; and a message that did not come from outside is
the host's own, so that it leads to no refresh.
-/

set_option autoImplicit false

namespace StationScript

/-- A message that leads to a refresh is not the host's own. -/
theorem Dispatcher.not_owns_of_refreshes {engine : Engine} {d : Dispatcher engine} {h : Handover}
    (refreshes : h.Refreshes d) : d.host.owns h.text = false := by
  unfold Handover.Refreshes at refreshes
  cases own : d.host.owns h.text with
  | false => rfl
  | true =>
    rw [onLogMessage_of_owns own] at refreshes
    cases refreshes

namespace Simulation

variable {engine : Engine}

theorem pump_of_settled {s : Simulation engine} (settled : s.fresh = []) : s.pump = s := by
  rw [pump, if_pos settled]

theorem pump_of_fresh {s : Simulation engine} (news : s.fresh ≠ []) : s.pump = s.round.pump := by
  rw [pump, if_neg news]

theorem unsettled_le_two (s : Simulation engine) : s.unsettled ≤ 2 := by
  unfold unsettled
  split
  · decide
  · split <;> decide

/-- A pump is as many rounds as it takes, each of them with something to hand over. -/
theorem pump_eq_rounds (s : Simulation engine) : ∃ n ≤ s.unsettled, s.pump = round^[n] s ∧
    ∀ k < n, (round^[k] s).fresh ≠ [] := by
  induction s using pump.induct with
  | case1 s settled =>
    exact ⟨0, Nat.zero_le _, pump_of_settled settled, fun k few => absurd few (Nat.not_lt_zero k)⟩
  | case2 s news ih =>
    obtain ⟨n, few, whole, rounds⟩ := ih
    have fewer := unsettled_round_lt news
    refine ⟨n + 1, by omega, ?_, ?_⟩
    · rw [pump_of_fresh news, whole, Function.iterate_succ_apply]
    · intro k small
      cases k with
      | zero => exact news
      | succ k =>
        rw [Function.iterate_succ_apply]
        exact rounds k (by omega)

theorem fresh_pump (s : Simulation engine) : s.pump.fresh = [] := by
  induction s using pump.induct with
  | case1 s settled => rw [pump_of_settled settled, settled]
  | case2 s news ih => rw [pump_of_fresh news, ih]

/-- Messages as they are handed over when the first of them is at this place of the log. -/
def handovers (s : Simulation engine) (messages : List LogMessage) (place : Nat) : List Handover :=
  (messages.zipIdx place).map fun (message, i) => ⟨s.arrival i, message.text, s.order i⟩

theorem handovers_append (s : Simulation engine) (front back : List LogMessage) (place : Nat) :
    s.handovers (front ++ back) place =
      s.handovers front place ++ s.handovers back (place + front.length) := by
  unfold handovers
  rw [List.zipIdx_append, List.map_append]

@[simp] theorem length_handovers (s : Simulation engine) (messages : List LogMessage)
    (place : Nat) :
    (s.handovers messages place).length = messages.length := by
  unfold handovers
  rw [List.length_map, List.length_zipIdx]

/-- The message at a place of the log is handed over at its own instant and in its own order. -/
theorem getElem?_handovers (s : Simulation engine) (messages : List LogMessage) (i : Nat) :
    (s.handovers messages 0)[i]? =
      messages[i]?.map fun message => ⟨s.arrival i, message.text, s.order i⟩ := by
  unfold handovers
  rw [List.getElem?_map, List.getElem?_zipIdx, Option.map_map, Nat.zero_add]
  rfl

theorem foldl_handOver_eq (messages : List LogMessage) (s : Simulation engine) :
    messages.foldl handOver s = { s with
      dispatcher := s.dispatcher.hearAll (s.handovers messages s.cursor)
      cursor := s.cursor + messages.length } := by
  induction messages generalizing s with
  | nil => rfl
  | cons message rest ih =>
    rw [List.foldl_cons, ih, List.length_cons]
    have cursor : (s.handOver message).cursor = s.cursor + 1 := rfl
    rw [cursor, Nat.add_assoc, Nat.add_comm 1]
    rfl

/-- A round hands over what was fresh, and does nothing else. -/
theorem round_eq (s : Simulation engine) : s.round = { s with
    dispatcher := s.dispatcher.hearAll (s.handovers s.fresh s.cursor)
    cursor := s.cursor + s.fresh.length } :=
  foldl_handOver_eq s.fresh s

theorem pump_writes (s : Simulation engine) : s.host.Writes s.pump.host := by
  induction s using pump.induct with
  | case1 s settled =>
    rw [pump_of_settled settled]
    exact .of_log_eq rfl rfl
  | case2 s news ih =>
    rw [pump_of_fresh news]
    exact s.round_advance.host.toWrites.trans ih

/-- A pump moves the cursor to the end of the log, and hands over the messages in between, one after
the other. -/
theorem pump_eq {s : Simulation engine} (inside : s.cursor ≤ s.host.log.toList.length) :
    s.pump = { s with
      dispatcher := s.dispatcher.hearAll
        (s.handovers (s.pump.host.log.toList.drop s.cursor) s.cursor)
      cursor := s.pump.host.log.toList.length } := by
  induction s using pump.induct with
  | case1 s settled =>
    have none : s.host.log.toList.drop s.cursor = [] := settled
    have last := Nat.le_antisymm inside (List.drop_eq_nil_iff.mp settled)
    rw [pump_of_settled settled, none, ← last]
    rfl
  | case2 s news ih =>
    have start := cursor_round_of_fresh news
    obtain ⟨added, log, _⟩ := s.round_advance.host.toWrites.log
    obtain ⟨more, later, _⟩ := s.round.pump_writes.log
    have first : s.round.host.log.toList = s.host.log.toList ++ added := log
    have grown : s.round.pump.host.log.toList = s.host.log.toList ++ (added ++ more) := by
      rw [later, first, List.append_assoc]
    rw [pump_of_fresh news]
    have rest := ih (by rw [start, first, List.length_append]; exact Nat.le_add_right _ _)
    have split : s.round.pump.host.log.toList.drop s.cursor =
        s.fresh ++ s.round.pump.host.log.toList.drop s.round.cursor := by
      rw [start, grown, List.drop_left, List.drop_append_of_le_length inside]
      rfl
    have place : s.cursor + s.fresh.length = s.round.cursor := (s.cursor_round).symm
    have same (messages : List LogMessage) (place : Nat) :
        s.round.handovers messages place = s.handovers messages place := by
      rw [round_eq]
      rfl
    have heard : s.round.dispatcher = s.dispatcher.hearAll (s.handovers s.fresh s.cursor) :=
      congrArg Simulation.dispatcher s.round_eq
    have kept : s.round.station = s.station ∧ s.round.steps = s.steps ∧
        s.round.arrival = s.arrival ∧ s.round.order = s.order := by
      rw [round_eq]
      exact ⟨rfl, rfl, rfl, rfl⟩
    rw [split, handovers_append, Dispatcher.hearAll_append, place, ← heard]
    refine rest.trans ?_
    rw [same, kept.1, kept.2.1, kept.2.2.1, kept.2.2.2]

/-- The whole course of the dispatcher since it was new, and the places in the log of the messages
that came from outside. -/
structure Recorded (first : Dispatcher engine) (s : Simulation engine) (announced : List Nat) :
    Prop where
  inside : s.cursor ≤ s.host.log.toList.length
  course : ∃ course, s.dispatcher = first.undergoAll course ∧
    course.filterMap Happening.handover? = s.handovers (s.host.log.toList.take s.cursor) 0
  own : ∀ i message, s.host.log.toList[i]? = some message → i ∉ announced →
    s.host.owns message.text = true

/-- The cursor stays, what is added to the log is the host's own, and no message is handed over. -/
structure Quiet (before after : Simulation engine) : Prop where
  cursor : after.cursor = before.cursor
  arrival : after.arrival = before.arrival
  order : after.order = before.order
  writes : before.host.Writes after.host
  unheard : before.dispatcher.Unheard after.dispatcher

namespace Recorded

variable {first : Dispatcher engine} {s after : Simulation engine} {announced : List Nat}

/-- What the host writes adds no message from outside. -/
theorem own_of_writes (recorded : Recorded first s announced) (writes : s.host.Writes after.host) :
    ∀ i message, after.host.log.toList[i]? = some message → i ∉ announced →
      after.host.owns message.text = true := by
  intro i message listed inward
  obtain ⟨added, log, owned⟩ := writes.log
  rw [Host.owns_eq writes.logPrefix]
  rw [log] at listed
  by_cases early : i < s.host.log.toList.length
  · rw [List.getElem?_append_left early] at listed
    exact recorded.own i message listed inward
  · rw [List.getElem?_append_right (Nat.le_of_not_lt early)] at listed
    exact owned message (List.mem_of_getElem? listed)

theorem quiet (recorded : Recorded first s announced) (quiet : Quiet s after) :
    Recorded first after announced := by
  obtain ⟨added, log, _⟩ := quiet.writes.log
  refine ⟨?_, ?_, recorded.own_of_writes quiet.writes⟩
  · rw [quiet.cursor, log, List.length_append]
    exact Nat.le_add_right_of_le recorded.inside
  · obtain ⟨course, led, handed⟩ := recorded.course
    obtain ⟨more, whole, none⟩ := quiet.unheard
    refine ⟨course ++ more, ?_, ?_⟩
    · rw [whole, led, Dispatcher.undergoAll_append]
    · rw [List.filterMap_append, none, List.append_nil, handed, quiet.cursor, log,
        List.take_append_of_le_length recorded.inside]
      unfold handovers
      rw [quiet.arrival, quiet.order]

/-- A pump hands over everything that is left in the log. -/
theorem pump (recorded : Recorded first s announced) : Recorded first s.pump announced := by
  have writes := s.pump_writes
  have whole := pump_eq recorded.inside
  obtain ⟨added, log, _⟩ := writes.log
  refine ⟨Nat.le_of_eq (congrArg Simulation.cursor whole), ?_, recorded.own_of_writes writes⟩
  · obtain ⟨course, led, handed⟩ := recorded.course
    refine ⟨course ++ (s.handovers (s.pump.host.log.toList.drop s.cursor) s.cursor).map
      fun h => .event h.event, ?_, ?_⟩
    · rw [Dispatcher.undergoAll_append, ← led, Dispatcher.undergoAll_handovers]
      exact congrArg Simulation.dispatcher whole
    · rw [List.filterMap_append, Dispatcher.filterMap_handovers, handed]
      have cursor : s.pump.cursor = s.pump.host.log.toList.length :=
        congrArg Simulation.cursor whole
      have same (messages : List LogMessage) :
          s.pump.handovers messages 0 = s.handovers messages 0 := by
        rw [whole]
        rfl
      have place : (s.host.log.toList.take s.cursor).length = s.cursor := by
        rw [List.length_take, Nat.min_eq_left recorded.inside]
      have early : s.host.log.toList.take s.cursor = s.pump.host.log.toList.take s.cursor := by
        rw [log, List.take_append_of_le_length recorded.inside]
      rw [same, cursor, List.take_length]
      calc s.handovers (s.host.log.toList.take s.cursor) 0 ++
            s.handovers (s.pump.host.log.toList.drop s.cursor) s.cursor
        _ = s.handovers (s.host.log.toList.take s.cursor ++
            s.pump.host.log.toList.drop s.cursor) 0 := by
          rw [handovers_append, place, Nat.zero_add]
        _ = s.handovers s.pump.host.log.toList 0 := by rw [early, List.take_append_drop]

/-- A message from outside is not handed over yet. -/
theorem announce (recorded : Recorded first s announced) (text : String) :
    Recorded first (s.announce text) (announced ++ [s.host.log.toList.length]) := by
  have log : (s.announce text).host.log.toList = s.host.log.toList ++ [⟨.information, text⟩] :=
    Log.toList_add s.host.log .information text
  refine ⟨?_, ?_, ?_⟩
  · rw [log, List.length_append]
    exact Nat.le_add_right_of_le recorded.inside
  · obtain ⟨course, led, handed⟩ := recorded.course
    refine ⟨course ++ [.outside ⟨s.host.plant, s.host.files, s.host.clock,
      s.host.log.add .information text⟩], ?_, ?_⟩
    · rw [Dispatcher.undergoAll_append, ← led]
      rfl
    · rw [List.filterMap_append, handed, log]
      exact (List.append_nil _).trans (congrArg (s.handovers · 0)
        (List.take_append_of_le_length recorded.inside).symm)
  · intro i message listed inward
    have parts : i ∉ announced ∧ i ≠ s.host.log.toList.length := by simpa using inward
    rw [log] at listed
    by_cases early : i < s.host.log.toList.length
    · rw [List.getElem?_append_left early] at listed
      exact recorded.own i message listed parts.1
    · have last := List.getElem?_eq_some_iff.mp listed
      obtain ⟨bound, _⟩ := last
      rw [List.length_append, List.length_singleton] at bound
      exact absurd (Nat.le_antisymm (Nat.le_of_lt_succ bound) (Nat.le_of_not_lt early)) parts.2

/-- When nothing is fresh, the whole log was handed over. -/
theorem cursor_eq (recorded : Recorded first s announced) (settled : s.fresh = []) :
    s.cursor = s.host.log.toList.length :=
  Nat.le_antisymm recorded.inside (List.drop_eq_nil_iff.mp settled)

/-- A message that leads to a refresh when it is handed over came from outside. -/
theorem announced_of_refreshes (recorded : Recorded first s announced) {course : List Happening}
    (led : s.dispatcher = first.undergoAll course)
    (handed : course.filterMap Happening.handover? =
      s.handovers (s.host.log.toList.take s.cursor) 0) {front back : List Happening} {h : Handover}
    (split : course = front ++ .event h.event :: back)
    (refreshes : h.Refreshes (first.undergoAll front)) :
    (front.filterMap Happening.handover?).length ∈ announced := by
  refine Decidable.byContradiction fun inward => ?_
  have placed : (course.filterMap Happening.handover?)[
      (front.filterMap Happening.handover?).length]? = some h := by
    have one : Happening.handover? (.event h.event) = some h := rfl
    rw [split, List.filterMap_append, List.filterMap_cons_some one,
      List.getElem?_append_right (Nat.le_refl _), Nat.sub_self]
    rfl
  rw [handed, getElem?_handovers, Option.map_eq_some_iff] at placed
  obtain ⟨message, listed, rfl⟩ := placed
  rw [List.getElem?_take] at listed
  have own := recorded.own _ message (Option.ite_none_right_eq_some.mp listed).2 inward
  have foreign := Dispatcher.not_owns_of_refreshes refreshes
  have prefixes : s.host.logPrefix = (first.undergoAll front).host.logPrefix := by
    rw [Simulation.host, led, Dispatcher.logPrefix_undergoAll, Dispatcher.logPrefix_undergoAll]
  rw [Host.owns_eq prefixes, foreign] at own
  cases own

end Recorded

end Simulation

end StationScript
