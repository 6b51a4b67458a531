import StationScript.Proofs.Dispatcher.Along
import StationScript.Proofs.Simulation.History

/-!
What starting a simulation and pumping its log keep. Neither makes a step.
-/

set_option autoImplicit false

namespace StationScript.Simulation

open Dispatcher (Along)

variable {engine : Engine} {kept : Host → Host → Prop}

theorem round_along (robust : Host.Robust kept) (s : Simulation engine) :
    s.dispatcher.Along kept s.round.dispatcher ∧ s.round.station = s.station := by
  unfold round
  generalize s.fresh = messages
  induction messages generalizing s with
  | nil => exact ⟨.refl robust _, rfl⟩
  | cons message rest ih =>
    obtain ⟨along, station⟩ := ih (s.handOver message)
    exact ⟨(Dispatcher.onLogMessage_along robust s.dispatcher _ _ _).trans robust along, station⟩

theorem pump_along (robust : Host.Robust kept) (s : Simulation engine) :
    s.dispatcher.Along kept s.pump.dispatcher ∧ s.pump.station = s.station := by
  induction s using pump.induct with
  | case1 s settled =>
    rw [pump_of_settled settled]
    exact ⟨.refl robust _, rfl⟩
  | case2 s news ih =>
    obtain ⟨round, station⟩ := s.round_along robust
    rw [pump_of_fresh news]
    exact ⟨round.trans robust ih.1, ih.2.trans station⟩

/-- A device without a script is left as it is. -/
theorem loadScript_of_none (s : Simulation engine) {b : BuiltDevice} (script : b.script = none) :
    s.loadScript b = s := by
  unfold loadScript
  rw [script]

/-- A script is loaded from the path that is given to its device. -/
theorem loadScript_of_some (s : Simulation engine) {b : BuiltDevice} {path : String}
    (script : b.script = some path) : s.loadScript b = { s with
      dispatcher := (s.dispatcher.modifyHost fun host => host.setScriptPath b.device path).handle
        (.scriptPathChanged b.device) } := by
  unfold loadScript
  rw [script]
  rfl

theorem loadScript_along (robust : Host.Robust kept) (s : Simulation engine) (b : BuiltDevice) :
    s.dispatcher.Along kept (s.loadScript b).dispatcher ∧ (s.loadScript b).station = s.station := by
  cases script : b.script with
  | none =>
    rw [s.loadScript_of_none script]
    exact ⟨.refl robust _, rfl⟩
  | some path =>
    rw [s.loadScript_of_some script]
    have move : s.host.Move b.device (fun _ => True) (s.host.setScriptPath b.device path) :=
      .setScriptPath s.host path
    have located : s.dispatcher.Along kept
        (s.dispatcher.modifyHost fun host => host.setScriptPath b.device path) :=
      ⟨.modifyHost _ move.calm.toAdvance, fun _ => robust.move move⟩
    have about : (Event.scriptPathChanged b.device).device? = some b.device := rfl
    have handled := Dispatcher.handle_along robust
      (s.dispatcher.modifyHost fun host => host.setScriptPath b.device path) about
    exact ⟨located.trans robust handled, rfl⟩

/-- The simulation of a station whose devices are attached; no script is loaded yet. -/
def attached (built : BuiltStation) (files : Files) (config : ScriptConfig)
    (arrival : Nat → Nat) (order : Nat → Listing) : Simulation engine where
  dispatcher := built.devices.foldl (fun d b => d.attach b.device)
    (Dispatcher.new (bareHost built files config) config)
  station := built.station
  arrival := arrival
  order := order

theorem launch_eq (built : BuiltStation) (files : Files) (config : ScriptConfig)
    (arrival : Nat → Nat) (order : Nat → Listing) :
    (launch built files config arrival order : Simulation engine) =
      built.devices.foldl loadScript (attached built files config arrival order) := rfl

theorem launch_along (robust : Host.Robust kept) (built : BuiltStation) (files : Files)
    (config : ScriptConfig) (arrival : Nat → Nat) (order : Nat → Listing) :
    (Dispatcher.new (bareHost built files config) config).Along kept
        (launch built files config arrival order : Simulation engine).dispatcher ∧
      (launch built files config arrival order : Simulation engine).station = built.station := by
  have attaching (d : Dispatcher engine) (b : BuiltDevice) : d.Along kept (d.attach b.device) := by
    have about : (Event.attached b.device).device? = some b.device := rfl
    exact Dispatcher.handle_along robust d about
  have begun : (Dispatcher.new (bareHost built files config) config).Along kept
      (attached built files config arrival order : Simulation engine).dispatcher :=
    .foldl robust attaching built.devices _
  have loaded (devices : List BuiltDevice) (s : Simulation engine) :
      s.dispatcher.Along kept (devices.foldl loadScript s).dispatcher ∧
        (devices.foldl loadScript s).station = s.station := by
    induction devices generalizing s with
    | nil => exact ⟨.refl robust _, rfl⟩
    | cons b rest ih =>
      obtain ⟨first, station⟩ := s.loadScript_along robust b
      exact ⟨first.trans robust (ih _).1, (ih _).2.trans station⟩
  obtain ⟨along, station⟩ := loaded built.devices (attached built files config arrival order)
  rw [launch_eq]
  exact ⟨begun.trans robust along, station⟩

section Steps

theorem steps_foldl {α : Type} {act : Simulation engine → α → Simulation engine}
    (kept : ∀ s a, (act s a).steps = s.steps) (items : List α) (s : Simulation engine) :
    (items.foldl act s).steps = s.steps := by
  induction items generalizing s with
  | nil => rfl
  | cons a rest ih => exact (ih _).trans (kept s a)

theorem steps_pump (s : Simulation engine) : s.pump.steps = s.steps := by
  induction s using pump.induct with
  | case1 s settled => rw [pump_of_settled settled]
  | case2 s news ih =>
    rw [pump_of_fresh news, ih, round]
    refine steps_foldl ?_ s.fresh s
    exact fun _ _ => rfl

theorem steps_launch (built : BuiltStation) (files : Files) (config : ScriptConfig)
    (arrival : Nat → Nat) (order : Nat → Listing) :
    (launch built files config arrival order : Simulation engine).steps = 0 := by
  refine steps_foldl (fun s b => ?_) built.devices _
  unfold loadScript
  split <;> rfl

end Steps

end StationScript.Simulation
