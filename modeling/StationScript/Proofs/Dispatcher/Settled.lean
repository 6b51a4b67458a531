import Mathlib.Data.Set.Card
import StationScript.Proofs.Dispatcher.History

/-!
Between two events every session is settled. A machine is held exactly by the ready sessions, and
no request to close is left over for a later run.
-/

set_option autoImplicit false

namespace StationScript

namespace Dispatcher

variable {engine : Engine}

theorem sessionState?_eq_some {d : Dispatcher engine} (sound : d.Sound) {id : DeviceId}
    {state : SessionState} :
    d.sessionState? id = some state ↔
      ∃ entry ∈ d.sessions, entry.1 = id ∧ entry.2.state = state := by
  constructor
  · intro found
    obtain ⟨session, held, rfl⟩ := Option.map_eq_some_iff.mp found
    exact ⟨(id, session), Entries.mem_of_lookup held, rfl, rfl⟩
  · rintro ⟨⟨key, session⟩, member, rfl, rfl⟩
    have held : d.session? key = some session := Entries.lookup_of_mem sound.distinct member
    rw [sessionState?, held]
    rfl

/-- The machines are counted by the ids whose session is ready. -/
theorem encard_ready {d : Dispatcher engine} (sound : d.Sound) :
    {id | d.sessionState? id = some .ready}.encard = d.liveMachines := by
  have live (entry : DeviceId × Session engine) (member : entry ∈ d.sessions) :
      entry.2.isLive = true ↔ entry.2.state = .ready :=
    (sound.reachable entry member).settled.live_iff
  have ids : {id | d.sessionState? id = some .ready} =
      ((Entries.keys (d.sessions.filter fun entry => entry.2.isLive)).toFinset : Set DeviceId) := by
    ext id
    simp only [Set.mem_ofPred_eq, sessionState?_eq_some sound, List.coe_toFinset, Entries.keys,
      List.mem_map, List.mem_filter]
    constructor
    · rintro ⟨entry, member, key, ready⟩
      exact ⟨entry, ⟨member, (live entry member).mpr ready⟩, key⟩
    · rintro ⟨entry, ⟨member, held⟩, key⟩
      exact ⟨entry, member, key, (live entry member).mp held⟩
  rw [ids, Set.encard_coe_eq_coe_finsetCard,
    List.toFinset_card_of_nodup (Entries.nodup_keys_filter sound.distinct _), liveMachines,
    List.countP_eq_length_filter, Entries.keys, List.length_map]

/-- The life cycle of sessions, at every moment between two events. A request to close is left to no
session that holds a machine; and to none at all, as long as a machine that is given up has nothing
left to run. -/
theorem sessions_settled {d : Dispatcher engine} (reachable : d.Reachable) :
    (∀ entry ∈ d.sessions, entry.2.Settled) ∧
    (engine.Silent → ∀ entry ∈ d.sessions, entry.2.closeRequested = false) ∧
    (∀ entry ∈ d.sessions, entry.2.id = entry.1) ∧ (Entries.keys d.sessions).Nodup ∧
    (∀ entry ∈ d.sessions, ∀ (host : Host) (path : String),
      (∀ run, entry.2.loadRun? host path = some run →
        none ∉ (entry.2.release host).2.lookups entry.1 run) →
        (entry.2.load host path).1.state ≠ .closed) ∧
    (∀ entry ∈ d.sessions, ∀ (host : Host) (name : String) (arguments : List Value) run,
      entry.2.invokeRun? name arguments = some run → none ∉ host.lookups entry.1 run →
        (entry.2.invoke host name arguments).1.state ≠ .closed) ∧
    {id | d.sessionState? id = some .ready}.encard = d.liveMachines := by
  have sound := reachable.sound
  have settled (entry : DeviceId × Session engine) (member : entry ∈ d.sessions) :
      entry.2.Settled := (sound.reachable entry member).settled
  refine ⟨settled, fun silent entry member => (sound.reachable entry member).unasked silent,
    sound.bound, sound.distinct, ?_, ?_, encard_ready sound⟩
  · intro entry member host path found
    refine (Session.load_cases entry.2 host path).not_closed fun run started => ?_
    rw [sound.bound entry member]
    exact found run started
  · intro entry member host name arguments run started found closed
    have before := (Session.invoke_cases entry.2 host name arguments).not_closed
      (settled entry member) ?_ closed
    · rw [Session.invokeRun?_isSome started] at before
      cases before
    · intro other same
      rw [started] at same
      cases same
      rw [sound.bound entry member]
      exact found

/-- The loaded cell counts one machine, and one id is ready. -/
theorem sessions_settled_loadedCell : loadedCell.Reachable ∧ loadedCell.liveMachines = 1 ∧
    {id | loadedCell.sessionState? id = some .ready}.encard = 1 := by
  have live : loadedCell.liveMachines = 1 := by decide +kernel
  obtain ⟨_, _, _, _, _, _, count⟩ := sessions_settled loadedCell_reachable
  rw [live] at count
  exact ⟨loadedCell_reachable, live, count⟩

end Dispatcher

end StationScript
