import Mathlib.Data.List.Basic
import StationScript.Proofs.Dispatcher.Twin
import StationScript.Proofs.Host.Alike

/-!
A broadcast, device by device. A refresh whose script adds no connection shows to no other device,
so each device comes out of a broadcast as if it alone had been refreshed, whoever has had a turn
before it.
-/

set_option autoImplicit false

namespace StationScript

open Execution (Called)

namespace Host

theorem stations_answer (host : Host) (id : DeviceId) {function : HostFunction}
    (silent : function ≠ .addIoConnection) (arguments : List Value) :
    (host.answer id function arguments).host.plant.stations = host.plant.stations :=
  (host.answer_frame (fun _ => True) id function arguments fun _ _ => trivial).stations_eq
    (host.connections_answer id silent arguments)

/-- Only new connections change a station. -/
theorem Moves.stations {device : DeviceRef} {called : HostFunction → Prop}
    (silent : ¬ called .addIoConnection) {before after : Host}
    (moves : Moves device called before after) : after.plant.stations = before.plant.stations := by
  induction moves with
  | refl => rfl
  | tail _ last ih =>
    refine Eq.trans ?_ ih
    cases last with
    | answer function arguments allowed =>
      exact stations_answer _ _ (fun same => silent (same ▸ allowed)) arguments
    | _ => rfl

theorem Attends.binds {device : DeviceRef} {host : Host} (attends : Attends device host) :
    host.Binds device := by
  have member := Entries.mem_of_lookup attends.found
  rw [← attends.live] at member
  have tracked := host.live_tracked _ member
  unfold Binds boundTo leadsTo
  rw [attends.live, attends.found, if_pos tracked]

end Host

namespace Dispatcher

variable {engine : Engine}

/-- What a broadcast writes on behalf of one device. -/
def refreshMessages (d : Dispatcher engine) (device : DeviceRef) : List LogMessage :=
  (d.refreshLogged device).host.log.toList.drop d.host.log.toList.length

theorem log_refreshLogged (d : Dispatcher engine) (device : DeviceRef) :
    (d.refreshLogged device).host.log.toList =
      d.host.log.toList ++ d.refreshMessages device := by
  obtain ⟨added, log, _⟩ := (d.refreshLogged_handling device).calm.log
  rw [refreshMessages, log, List.drop_left]

/-- The update is announced at the end. -/
theorem refreshMessages_announce (d : Dispatcher engine) (device : DeviceRef) :
    ∃ entries, d.refreshMessages device = entries ++
      [⟨.information, d.host.prefixed ("Updating component " ++ d.host.nameOf device)⟩] := by
  have calm := (d.refresh_handling device).calm
  obtain ⟨entries, log, _⟩ := calm.log
  have name : (d.refresh device).host.nameOf device = d.host.nameOf device :=
    calm.layout.name_eq device
  have announced : (d.refreshLogged device).host.log.toList =
      (d.refresh device).host.log.toList ++ [⟨.information, (d.refresh device).host.prefixed
        ("Updating component " ++ (d.refresh device).host.nameOf device)⟩] :=
    Host.log_report _ _ _
  refine ⟨entries, ?_⟩
  rw [refreshMessages, announced, log, List.append_assoc, List.drop_left, name, Host.prefixed,
    calm.logPrefix]
  rfl

/-- A refresh shows to no device with another id, unless its script adds a connection. -/
theorem refreshLogged_unseen {d : Dispatcher engine} {device second : DeviceRef}
    (attends : d.Attends device) (apart : (d.host.device device).id ≠ (d.host.device second).id)
    (silent : ¬ Called (d.refreshExecutions device) .addIoConnection) :
    d.Twin second d.host.log.toList (d.refreshLogged device).host.log.toList
      (d.refreshLogged device) := by
  have serving := d.refreshLogged_serving device
  have alike : Host.Alike device d.host (d.refreshLogged device).host :=
    Host.Moves.alike silent attends.host.binds (serving.moves attends.sound)
  have visible : second ≠ device := fun same => apart (same ▸ rfl)
  refine ⟨⟨alike.plant.layout, alike.plant.devices second visible, alike.plant.connections,
    serving.calm.files, alike.clock, alike.logPrefix, alike.times _ apart.symm, [], ?_, ?_⟩,
    serving.config, serving.sessions _ apart.symm⟩
  · rw [List.append_nil]
  · rw [List.append_nil]

section Twin

variable {device : DeviceRef} {one other : Dispatcher engine} (attends : one.Attends device)
  (also : other.Attends device)
  (twin : Twin device one.host.log.toList other.host.log.toList one other)
include attends also twin

theorem device_refreshLogged_twin : (other.refreshLogged device).host.device device =
    (one.refreshLogged device).host.device device :=
  (refreshLogged_twin attends also twin).host.own

theorem session_refreshLogged_twin :
    (other.refreshLogged device).session? (one.host.device device).id =
      (one.refreshLogged device).session? (one.host.device device).id := by
  have id : ((one.refreshLogged device).host.device device).id = (one.host.device device).id :=
    (one.refreshLogged_handling device).calm.layout.id_eq device
  rw [← id]
  exact (refreshLogged_twin attends also twin).session

theorem refreshMessages_twin : other.refreshMessages device = one.refreshMessages device := by
  obtain ⟨written, mine, yours⟩ := (refreshLogged_twin attends also twin).host.log
  unfold refreshMessages
  rw [mine, yours, List.drop_left, List.drop_left]

theorem called_refresh_twin (function : HostFunction) :
    Called (other.refreshExecutions device) function ↔
      Called (one.refreshExecutions device) function := by
  rw [Execution.called_iff, Execution.called_iff, refreshExecutions_twin attends also twin]

end Twin

/-- Different devices that are all attended to. -/
structure Roster (d : Dispatcher engine) (order : List DeviceRef) : Prop where
  attends : ∀ device ∈ order, d.Attends device
  distinct : order.Pairwise fun one other => (d.host.device one).id ≠ (d.host.device other).id

namespace Roster

variable {d : Dispatcher engine} {device second : DeviceRef} {rest : List DeviceRef}

theorem apart (roster : d.Roster (device :: rest)) (listed : second ∈ rest) :
    (d.host.device device).id ≠ (d.host.device second).id :=
  (List.pairwise_cons.mp roster.distinct).1 second listed

theorem not_listed (roster : d.Roster (device :: rest)) : device ∉ rest :=
  fun listed => roster.apart listed rfl

/-- The others have their turns after the first. -/
theorem next (roster : d.Roster (device :: rest)) : (d.refreshLogged device).Roster rest := by
  have handling := d.refreshLogged_handling device
  have id (ref : DeviceRef) : ((d.refreshLogged device).host.device ref).id =
      (d.host.device ref).id := handling.calm.layout.id_eq ref
  refine ⟨fun other listed => ?_, ?_⟩
  · exact (roster.attends other (List.mem_cons_of_mem _ listed)).handling handling
  · simp only [id]
    exact (List.pairwise_cons.mp roster.distinct).2

variable (roster : d.Roster (device :: rest))
  (silent : ¬ Called (d.refreshExecutions device) .addIoConnection)
include roster silent

theorem twin (listed : second ∈ rest) :
    d.Twin second d.host.log.toList (d.refreshLogged device).host.log.toList
      (d.refreshLogged device) :=
  refreshLogged_unseen (roster.attends device List.mem_cons_self) (roster.apart listed) silent

theorem called_next (listed : second ∈ rest) (function : HostFunction) :
    Called ((d.refreshLogged device).refreshExecutions second) function ↔
      Called (d.refreshExecutions second) function :=
  called_refresh_twin (roster.attends second (List.mem_cons_of_mem _ listed))
    (roster.next.attends second listed) (roster.twin silent listed) function

end Roster

/-- No run of a broadcast adds a connection exactly if none would in a refresh of one device
alone. -/
theorem silent_broadcast_iff {d : Dispatcher engine} {order : List DeviceRef}
    (roster : d.Roster order) :
    ¬ Called (d.broadcastExecutions order) .addIoConnection ↔
      ∀ device ∈ order, ¬ Called (d.refreshExecutions device) .addIoConnection := by
  induction order generalizing d with
  | nil => simp [broadcastExecutions, Called]
  | cons device rest ih =>
    have parts : Called (d.broadcastExecutions (device :: rest)) .addIoConnection ↔
        Called (d.refreshExecutions device) .addIoConnection ∨
          Called ((d.refreshLogged device).broadcastExecutions rest) .addIoConnection := by
      simp [broadcastExecutions, Called, or_and_right, exists_or]
    rw [parts, not_or, List.forall_mem_cons]
    refine and_congr_right fun silent => (ih roster.next).trans ?_
    refine forall₂_congr fun second listed => ?_
    rw [roster.called_next silent listed]

/-- Everything is as before, only that each listed device was refreshed on its own. -/
structure Refreshed (d : Dispatcher engine) (order : List DeviceRef) (after : Dispatcher engine) :
    Prop where
  served : ∀ device ∈ order,
    after.host.device device = (d.refreshLogged device).host.device device ∧
      after.session? (d.host.device device).id =
        (d.refreshLogged device).session? (d.host.device device).id
  devices : ∀ ref, ref ∉ order → after.host.device ref = d.host.device ref
  sessions : ∀ id, (∀ device ∈ order, id ≠ (d.host.device device).id) →
    after.session? id = d.session? id
  stations : after.host.plant.stations = d.host.plant.stations
  log : after.host.log.toList = d.host.log.toList ++ order.flatMap d.refreshMessages

/-- The first device is done with after its turn, and the others do not notice that it had one. -/
theorem Refreshed.first {d after : Dispatcher engine} {device : DeviceRef} {rest : List DeviceRef}
    (roster : d.Roster (device :: rest))
    (silent : ¬ Called (d.refreshExecutions device) .addIoConnection)
    (others : (d.refreshLogged device).Refreshed rest after) :
    d.Refreshed (device :: rest) after := by
  have serving := d.refreshLogged_serving device
  have attends := roster.attends device List.mem_cons_self
  have moves := serving.moves attends.sound
  have alike : Host.Alike device d.host (d.refreshLogged device).host :=
    Host.Moves.alike silent attends.host.binds moves
  have id (ref : DeviceRef) : ((d.refreshLogged device).host.device ref).id =
      (d.host.device ref).id := serving.calm.layout.id_eq ref
  have later (second : DeviceRef) (listed : second ∈ rest) :=
    roster.attends second (List.mem_cons_of_mem _ listed)
  refine ⟨fun second listed => ?_, fun ref absent => ?_, fun key apart => ?_, ?_, ?_⟩
  · rcases List.mem_cons.mp listed with rfl | listed
    · refine ⟨others.devices second roster.not_listed, others.sessions _ fun other listed => ?_⟩
      rw [id]
      exact roster.apart listed
    · -- a refresh after the first one is the twin of one that comes before it
      obtain ⟨state, session⟩ := others.served second listed
      have twin := roster.twin silent listed
      have next := roster.next.attends second listed
      rw [id] at session
      exact ⟨state.trans (device_refreshLogged_twin (later second listed) next twin),
        session.trans (session_refreshLogged_twin (later second listed) next twin)⟩
  · have visible : ref ≠ device := List.ne_of_not_mem_cons absent
    exact (others.devices ref (List.not_mem_of_not_mem_cons absent)).trans
      (alike.plant.devices ref visible)
  · refine (others.sessions key fun other listed => ?_).trans
      (serving.sessions key (apart device List.mem_cons_self))
    rw [id]
    exact apart other (List.mem_cons_of_mem _ listed)
  · exact others.stations.trans (Host.Moves.stations silent moves)
  · have same : rest.flatMap (d.refreshLogged device).refreshMessages =
        rest.flatMap d.refreshMessages :=
      List.flatMap_congr fun second listed => refreshMessages_twin (later second listed)
        (roster.next.attends second listed) (roster.twin silent listed)
    have log := others.log
    rw [log_refreshLogged, same, List.append_assoc] at log
    exact log

/-- A broadcast refreshes every device as it would be refreshed alone, and writes the same about
it. -/
theorem broadcast_refreshed {d : Dispatcher engine} {order : List DeviceRef}
    (roster : d.Roster order)
    (silent : ∀ device ∈ order, ¬ Called (d.refreshExecutions device) .addIoConnection) :
    d.Refreshed order (d.broadcast order) := by
  induction order generalizing d with
  | nil =>
    exact ⟨fun _ member => absurd member List.not_mem_nil, fun _ _ => rfl, fun _ _ => rfl, rfl,
      (List.append_nil _).symm⟩
  | cons device rest ih =>
    obtain ⟨first, others⟩ := List.forall_mem_cons.mp silent
    refine .first roster first (ih roster.next fun second listed => ?_)
    rw [roster.called_next first listed]
    exact others second listed

/-- Two dispatchers that no device can tell apart come out alike when their devices are refreshed,
in whatever order, and about every device the same is written. -/
theorem Refreshed.agree {one other after again : Dispatcher engine}
    {order permuted : List DeviceRef} (left : one.Refreshed order after)
    (right : other.Refreshed permuted again) (perm : permuted.Perm order)
    (roster : one.Roster order) (also : other.Roster permuted)
    (twin : ∀ device, Twin device one.host.log.toList other.host.log.toList one other)
    (sessions : ∀ id, other.session? id = one.session? id) :
    (∀ ref, again.host.device ref = after.host.device ref) ∧
      (∀ id, again.session? id = after.session? id) ∧
      permuted.flatMap other.refreshMessages = permuted.flatMap one.refreshMessages := by
  have id (ref : DeviceRef) : (other.host.device ref).id = (one.host.device ref).id :=
    congrArg Device.id (twin ref).host.own
  have attends (device : DeviceRef) (listed : device ∈ permuted) : one.Attends device :=
    roster.attends device (perm.subset listed)
  refine ⟨fun ref => ?_, fun key => ?_, List.flatMap_congr fun device listed => ?_⟩
  · by_cases listed : ref ∈ permuted
    · rw [(right.served ref listed).1, (left.served ref (perm.subset listed)).1]
      exact device_refreshLogged_twin (attends ref listed) (also.attends ref listed) (twin ref)
    · rw [right.devices ref listed, left.devices ref fun member => listed (perm.symm.subset member)]
      exact (twin ref).host.own
  · by_cases own : ∃ device ∈ permuted, key = (one.host.device device).id
    · obtain ⟨device, listed, rfl⟩ := own
      have session := (right.served device listed).2
      rw [id] at session
      rw [session, (left.served device (perm.subset listed)).2]
      exact session_refreshLogged_twin (attends device listed) (also.attends device listed)
        (twin device)
    · have apart (device : DeviceRef) (listed : device ∈ permuted) :
          key ≠ (one.host.device device).id := fun same => own ⟨device, listed, same⟩
      rw [right.sessions key fun device listed => id device ▸ apart device listed,
        left.sessions key fun device listed => apart device (perm.symm.subset listed)]
      exact sessions key
  · exact refreshMessages_twin (attends device listed) (also.attends device listed) (twin device)

end Dispatcher

end StationScript
