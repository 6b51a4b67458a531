import StationScript.Proofs.Host.Signals
import StationScript.Proofs.Simulation.Delivery
import StationScript.Proofs.Simulation.Steady

/-!
Signals over whole histories. Loads, calls of entry points, events and the operations of a
simulation change signals by calls of scripts and by propagation only, so that the stores a file
makes stay lawful.
-/

set_option autoImplicit false

namespace StationScript

namespace Host

theorem changed_robust : Robust Changed where
  aside {before after} same := .single (.elsewhere before after fun ref => by
    unfold Host.device
    rw [same])
  move {device _ before _} move := by
    cases move with
    | report severity text => exact .single (.elsewhere _ _ fun _ => rfl)
    | answer function arguments allowed => exact .single (.called before _ function arguments)
    | setStatus status =>
      exact .single (.elsewhere _ _ (before.sameSignals_setStatus device status))
    | setScriptPath path =>
      exact .single (.elsewhere _ _ (before.sameSignals_setScriptPath device path))
  trans := Relation.ReflTransGen.trans

/-- Propagation is one of the changes, and the queue of changes holds no signals. -/
theorem changed_steady : Steady Changed where
  toRobust := changed_robust
  called host id function arguments := .single (.called host id function arguments)
  propagated host station object := .single (.propagated host station object)
  taken host station := by
    refine .single (.elsewhere _ _ fun ref => ?_)
    unfold Plant.takePending
    split <;> rfl

/-- A change after which the device still has the signal. -/
def Keeping (ref : DeviceRef) (name : String) (before after : Host) : Prop :=
  before.Change after ∧ ((after.device ref).signals.get? name).isSome = true

/-- A signal that is there all the time stays of one kind. -/
theorem agrees_of_keeping {ref : DeviceRef} {name : String} {before after : Host}
    (kept : Relation.ReflTransGen (Keeping ref name) before after) {s t : Signal}
    (old : (before.device ref).signals.get? name = some s)
    (new : (after.device ref).signals.get? name = some t) :
    t.kind = s.kind ∧ t.readOnly = s.readOnly := by
  induction kept generalizing t with
  | refl =>
    rw [old] at new
    cases new
    exact ⟨rfl, rfl⟩
  | @tail middle last front change ih =>
    have present : ((middle.device ref).signals.get? name).isSome = true := by
      cases front with
      | refl =>
        rw [old]
        rfl
      | tail _ earlier => exact earlier.2
    obtain ⟨u, between⟩ := Option.isSome_iff_exists.mp present
    obtain ⟨kind, flag⟩ := ih between
    obtain ⟨sameKind, sameFlag⟩ := change.1.agrees ref name u t between new
    exact ⟨sameKind.trans kind, sameFlag.trans flag⟩

end Host

namespace Dispatcher

variable {engine : Engine}

theorem handle_changed (d : Dispatcher engine) (e : Event) :
    Along Host.Changed d (d.handle e) := d.handle_steady Host.changed_steady e

end Dispatcher

namespace Simulation

variable {engine : Engine}

/-- Whatever the history, signals came to be what they are by changes of the built station. -/
theorem History.changed {first : Dispatcher engine} {s : Simulation engine} {announced : List Nat}
    (history : History first s announced) : ∃ (file : StationFile) (ids : Nat → DeviceId)
      (built : BuiltStation) (start : Host), file.build ids = .ok built ∧
      start.plant = built.plant ∧ start.Changed s.host := by
  induction history with
  | new file ids files config arrival order built made =>
    have sound := @Dispatcher.new_sound engine (bareHost built files config) config .none
    have started := @start_along engine _ Host.changed_steady built files config arrival order
    exact ⟨file, ids, built, _, made, rfl, started.kept sound⟩
  | step first s announced before stepMs ih =>
    obtain ⟨file, ids, built, start, made, same, changed⟩ := ih
    obtain ⟨_, _, standing⟩ := before.standing
    have stepped := step_keeping Host.changed_steady s stepMs
    exact ⟨file, ids, built, start, made, same, changed.trans (stepped.host standing.sound)⟩
  | run first s announced before count stepMs ih =>
    obtain ⟨file, ids, built, start, made, same, changed⟩ := ih
    obtain ⟨_, _, standing⟩ := before.standing
    have ran := run_keeping Host.changed_steady s count stepMs
    exact ⟨file, ids, built, start, made, same, changed.trans (ran.host standing.sound)⟩
  | hostMessage first s announced before text ih =>
    obtain ⟨file, ids, built, start, made, same, changed⟩ := ih
    obtain ⟨_, _, standing⟩ := before.standing
    have delivered := hostMessage_keeping Host.changed_steady s text
    exact ⟨file, ids, built, start, made, same, changed.trans (delivered.host standing.sound)⟩

end Simulation

/-- Every store of a station from a file is lawful. -/
theorem BuiltStation.lawful {file : StationFile} {ids : Nat → DeviceId} {built : BuiltStation}
    (made : file.build ids = .ok built) {ref : DeviceRef} (present : built.plant.Has ref) :
    (built.plant.device ref).signals.Lawful := by
  obtain ⟨entry, _, signals, kinds, whole⟩ := StationFile.device_of_built made present
  rw [whole]
  refine .ofSignals fun s member => ?_
  obtain ⟨item, _, read⟩ := exists_of_mem_mapM kinds member
  unfold SignalEntry.signal? at read
  cases kind : SignalKind.parse? item.kind with
  | none =>
    rw [kind] at read
    cases read
  | some known =>
    rw [kind] at read
    cases read
    exact known.holds_coerce item.value

/-- The stores of a station from a file stay lawful whatever changes signals, a signal that is there
all the time keeps its kind and its flag, and nothing that scripts, events and simulations do
changes signals in any other way. -/
theorem signals_stay_lawful :
    (∀ (file : StationFile) (ids : Nat → DeviceId) (built : BuiltStation) (start host : Host),
      file.build ids = .ok built → start.plant = built.plant → start.Changed host →
      ∀ ref, built.plant.Has ref → (host.device ref).signals.Lawful) ∧
    (∀ (ref : DeviceRef) (name : String) (before after : Host) (s t : Signal),
      Relation.ReflTransGen (Host.Keeping ref name) before after →
      (before.device ref).signals.get? name = some s →
      (after.device ref).signals.get? name = some t →
        t.kind = s.kind ∧ t.readOnly = s.readOnly) ∧
    ∀ engine : Engine,
      (∀ (session : Session engine) (host : Host) (path : String),
        host.Changed (session.load host path).2.1) ∧
      (∀ (session : Session engine) (host : Host) (entry : String) (arguments : List Value),
        host.Changed (session.invoke host entry arguments).2.1) ∧
      (∀ d : Dispatcher engine, d.Reachable → ∀ e : Event, d.host.Changed (d.handle e).host) ∧
      ∀ (first : Dispatcher engine) (s : Simulation engine) (announced : List Nat),
        Simulation.History first s announced → ∃ (file : StationFile) (ids : Nat → DeviceId)
          (built : BuiltStation) (start : Host), file.build ids = .ok built ∧
          start.plant = built.plant ∧ start.Changed s.host := by
  refine ⟨?_, ?_, fun engine => ⟨?_, ?_, ?_, ?_⟩⟩
  · intro file ids built start host made same changed ref present
    refine Host.Changed.lawful ?_ changed
    unfold Host.device
    rw [same]
    exact BuiltStation.lawful made present
  · exact fun ref name before after s t kept old new => Host.agrees_of_keeping kept old new
  · intro session host path
    rw [session.host_load]
    exact Host.changed_steady.playAll _ _ host
  · intro session host entry arguments
    rw [session.host_invoke]
    exact Host.changed_steady.playAll _ _ host
  · exact fun d reachable e => (d.handle_changed e).kept reachable.sound
  · exact fun first s announced history => history.changed

/-- The two devices after the value of the first was carried into the second. -/
def Simulation.linkedHost : Host :=
  (bareHost linkedStation Files.none {}).modifyPlant fun p => p.propagate ⟨0⟩ "Gripper"

/-- The input of the second device is then 1, and its store is lawful. -/
theorem signals_stay_lawful_linked :
    ((Simulation.linkedHost.device ⟨1⟩).signals.value? "go").map (· == 1.0) = some true ∧
      (Simulation.linkedHost.device ⟨1⟩).signals.Lawful := by
  have carried : ((Simulation.linkedHost.device ⟨1⟩).signals.value? "go").map (· == 1.0) =
      some true := by decide +kernel
  have made : Simulation.linkedFile.build
      (fun place => if place = 0 then ⟨"feeder"⟩ else ⟨"gripper"⟩) =
        .ok Simulation.linkedStation := rfl
  have present : Simulation.linkedStation.plant.Has ⟨1⟩ := by decide +kernel
  have changed : (Simulation.bareHost Simulation.linkedStation Files.none {}).Changed
      Simulation.linkedHost := .single (.propagated _ _ _)
  obtain ⟨lawful, _⟩ := signals_stay_lawful
  have held := lawful _ _ _ _ _ made rfl changed ⟨1⟩ present
  exact ⟨carried, held⟩

end StationScript
