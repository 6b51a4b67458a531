import Mathlib
import StationScript.Proofs.Host.Connecting
import StationScript.Proofs.Simulation.Delivery
import StationScript.Proofs.Simulation.Steady

/-!
Connections over whole histories. A call decides about one connection; nothing else that scripts,
events and simulations do adds any, and none of it touches the names of objects. So where no two
signals were connected twice at first, they never are.
-/

set_option autoImplicit false

namespace StationScript

/-- The objects stay what they are, and what was joined once is not joined again. -/
structure Host.Wired (before after : Host) : Prop where
  layout : before.plant.SameLayout after.plant
  unrepeated : ∀ station, before.plant.Unrepeated station → after.plant.Unrepeated station

namespace Host

theorem Wired.of_connections {before after : Host}
    (layout : before.plant.SameLayout after.plant)
    (same : ∀ station, after.plant.connections station = before.plant.connections station) :
    Wired before after := by
  refine ⟨layout, fun station => ?_⟩
  unfold Plant.Unrepeated
  rw [same]
  exact id

theorem wired_steady : Steady Wired where
  aside same := .of_connections (same ▸ .refl _) fun _ => by rw [same]
  move {device _ before _} move := by
    cases move with
    | report severity text => exact .of_connections (.refl _) fun _ => rfl
    | answer function arguments allowed =>
      exact ⟨(before.answer_calm _ function arguments).layout, fun station =>
        before.unrepeated_answer _ function arguments⟩
    | setStatus status =>
      exact .of_connections (before.calm_setStatus device status).layout fun _ => rfl
    | setScriptPath path =>
      exact .of_connections (before.calm_setScriptPath device path).layout fun _ => rfl
  trans left right := ⟨left.layout.trans right.layout, fun station first =>
    right.unrepeated station (left.unrepeated station first)⟩
  called host id function arguments := ⟨(host.answer_calm id function arguments).layout,
    fun _ => host.unrepeated_answer id function arguments⟩
  propagated host station object := .of_connections (.propagate host.plant station object)
    fun other => host.plant.connections_propagate station object other
  taken host station := .of_connections (.takePending host.plant station)
    fun other => host.plant.connections_takePending station other

end Host

/-- A call for a connection of a device that is found is decided by the names of the objects and by
the connections there are, whichever way the calling device names itself; and as long as there was
no connection twice at first, no run of a script, no events and no simulation ever make one. -/
theorem connection_calls_decided :
    (∀ (host : Host) (id : DeviceId) (device : DeviceRef), (host.resolve id).2 = some device →
      ∃ station, host.plant.stationOf? device = some station ∧
        (host.plant.NamesDistinct station →
          (∀ arguments : List Value,
            (∃ position < 4, ∃ fault, Request.textAt arguments position = .error fault ∧
              host.answer id .addIoConnection arguments = ⟨host, .error fault, false⟩) ∨
            ∃ sourceObject sourceSignal targetObject targetSignal allowCycle,
              Request.textAt arguments 0 = .ok sourceObject ∧
              Request.textAt arguments 1 = .ok sourceSignal ∧
              Request.textAt arguments 2 = .ok targetObject ∧
              Request.textAt arguments 3 = .ok targetSignal ∧
              (allowCycle = false ↔ Request.argument arguments 4 = .boolean false) ∧
              host.Decided station (host.plant.newConnection device sourceObject sourceSignal
                targetObject targetSignal allowCycle)
                (host.answer id .addIoConnection arguments)) ∧
          ∀ (arguments others : List Value)
            (source otherSource sourceSignal target otherTarget targetSignal : String)
            (allowCycle : Bool),
            Request.ofArguments arguments .addIoConnection =
              .ok (.addIoConnection source sourceSignal target targetSignal allowCycle) →
            Request.ofArguments others .addIoConnection =
              .ok (.addIoConnection otherSource sourceSignal otherTarget targetSignal allowCycle) →
            host.plant.endName device source = host.plant.endName device otherSource →
            host.plant.endName device target = host.plant.endName device otherTarget →
              host.answer id .addIoConnection arguments =
                host.answer id .addIoConnection others)) ∧
    (∀ (plant : Plant) (device : DeviceRef),
      plant.endName device "" = (plant.device device).name ∧
      plant.endName device (plant.device device).name = (plant.device device).name) ∧
    (∀ (α : Type) (run : Run α) (id : DeviceId) (host : Host) (closing : Bool)
      (station : StationRef), host.plant.Unrepeated station →
        (host.play id run closing).1.plant.Unrepeated station) ∧
    ∀ engine : Engine,
      (∀ (d : Dispatcher engine) (events : List Event) (station : StationRef), d.Reachable →
        d.host.plant.Unrepeated station → (d.handleAll events).host.plant.Unrepeated station) ∧
      ∀ (file : StationFile) (ids : Nat → DeviceId) (built : BuiltStation) (files : Files)
        (config : ScriptConfig) (arrival : Nat → Nat) (order : Nat → Listing)
        (operations : List Simulation.Operation), file.build ids = .ok built →
          let plant := (Simulation.afterOperations built files config arrival order operations :
            Simulation engine).host.plant
          plant.NamesDistinct built.station ∧
            ((file.connections.map Connection.endpoints).Nodup →
              plant.Unrepeated built.station) := by
  refine ⟨fun host id device found => ?_, fun plant device => ?_, ?_, fun engine => ⟨?_, ?_⟩⟩
  · obtain ⟨station, home, mine⟩ := Host.listed_of_resolve found
    refine ⟨station, home, fun distinct => ⟨fun arguments => ?_, ?_⟩⟩
    · rcases Host.ofArguments_addIoConnection arguments with
        ⟨position, early, fault, fails, refused⟩ |
        ⟨sourceObject, sourceSignal, targetObject, targetSignal, first, second, third, fourth,
          accepted⟩
      · refine .inl ⟨position, early, fault, fails, ?_⟩
        unfold Host.answer
        rw [refused]
      · exact .inr ⟨_, _, _, _, _, first, second, third, fourth, Host.allowsCycle_eq_false _,
          Host.answer_decided found home mine distinct accepted⟩
    · intro arguments others _ _ _ _ _ _ _ accepted other source target
      exact Host.answer_of_endName found home mine distinct accepted other source target
  · exact ⟨plant.endName_empty device, plant.endName_own device⟩
  · intro _ run id host closing station before
    exact (Host.wired_steady.play id run host closing).unrepeated station before
  · intro d events station reachable before
    exact ((d.handleAll_steady Host.wired_steady events).kept reachable.sound).unrepeated station
      before
  · intro file ids built files config arrival order operations made
    have wired := @Simulation.afterOperations_kept engine _ Host.wired_steady built files config
      arrival order operations
    refine ⟨(StationFile.build_namesDistinct made).layout wired.layout, fun once => ?_⟩
    refine wired.unrepeated built.station ?_
    unfold Plant.Unrepeated
    exact (StationFile.build_connections made).symm ▸ once

namespace Simulation

/-- The two connected devices, the first of which is registered. -/
def feederHost : Host := (bareHost linkedStation Files.none {}).register ⟨0⟩

/-- Two calls for one connection. -/
def joiningTwice : Run Unit :=
  .call .addIoConnection [.ofText "", .ofText "ready", .ofText "Gripper", .ofText "stop"] fun _ =>
    .call .addIoConnection [.ofText "Feeder", .ofText "ready", .ofText "Gripper", .ofText "stop"]
      fun _ => .done ()

/-- The input of the second device may be joined to the output of the first, too, whose own script
names it either way. A script that asks twice, an event and a simulation join nothing twice. -/
theorem connection_calls_decided_linked :
    (feederHost.answer ⟨"feeder"⟩ .addIoConnection
      [.ofText "Gripper", .ofText "go", .ofText "", .ofText "ready", .boolean false]
        ).host.plant.connections ⟨0⟩ = [⟨"Feeder", "ready", "Gripper", "go", true⟩,
          ⟨"Gripper", "go", "Feeder", "ready", false⟩] ∧
    feederHost.answer ⟨"feeder"⟩ .addIoConnection
      [.ofText "", .ofText "ready", .ofText "Gripper", .ofText "go"] =
      feederHost.answer ⟨"feeder"⟩ .addIoConnection
        [.ofText "Feeder", .ofText "ready", .ofText "Gripper", .ofText "go"] ∧
    (feederHost.play ⟨"feeder"⟩ joiningTwice false).1.plant.Unrepeated ⟨0⟩ ∧
    ((Dispatcher.new feederHost {} : Dispatcher (.repeating joiningTwice)).handleAll
      [.libraryReplaced ⟨0⟩]).host.plant.Unrepeated ⟨0⟩ ∧
    (afterOperations linkedStation Files.none {} (fun _ => 0) (fun _ => .registered) [.run 3 10.0] :
      Simulation (.repeating (.done ()))).host.plant.Unrepeated ⟨0⟩ := by
  have made : linkedFile.build (fun place => if place = 0 then ⟨"feeder"⟩ else ⟨"gripper"⟩) =
      .ok linkedStation := rfl
  have found : (feederHost.resolve ⟨"feeder"⟩).2 = some ⟨0⟩ := by decide +kernel
  have built : feederHost.plant = linkedStation.plant := Host.plant_sweep _
  have once : feederHost.plant.Unrepeated ⟨0⟩ := by
    rw [built]
    decide +kernel
  obtain ⟨decided, _, played, engines⟩ := connection_calls_decided
  obtain ⟨station, home, calls⟩ := decided feederHost ⟨"feeder"⟩ ⟨0⟩ found
  obtain rfl : (⟨0⟩ : StationRef) = station := by
    rw [built] at home
    exact Option.some.inj home
  obtain ⟨exact, same⟩ := calls (built ▸ StationFile.build_namesDistinct made)
  refine ⟨?_, ?_, played _ _ _ _ _ _ once, (engines _).1 _ _ _ (.new feederHost {} .none) once, ?_⟩
  · rcases exact [.ofText "Gripper", .ofText "go", .ofText "", .ofText "ready", .boolean false] with
      ⟨position, early, fault, fails, _⟩ |
      ⟨_, _, _, _, allow, first, second, third, fourth, flag, decided⟩
    · have texts : ∀ position < 4, (Request.textAt [.ofText "Gripper", .ofText "go", .ofText "",
          .ofText "ready", .boolean false] position).isOk = true := by decide +kernel
      have text := texts position early
      rw [fails] at text
      cases text
    · cases first.symm.trans (by cbv : _ = .ok "Gripper")
      cases second.symm.trans (by cbv : _ = .ok "go")
      cases third.symm.trans (by cbv : _ = .ok "")
      cases fourth.symm.trans (by cbv : _ = .ok "ready")
      cases flag.mpr rfl
      rw [built] at decided
      have accepts : linkedStation.plant.Accepts ⟨0⟩ ⟨"Gripper", "go", "Feeder", "ready", false⟩ :=
        ⟨⟨⟨1⟩, by decide +kernel⟩, ⟨⟨0⟩, by decide +kernel⟩, by decide +kernel⟩
      have added := (decided.added (built ▸ accepts)).2
      rw [built] at added
      exact added
  · refine same _ _ "" "Feeder" "ready" "Gripper" "Gripper" "go" true (by cbv) (by cbv) ?_ rfl
    rw [built]
    decide +kernel
  · exact ((engines _).2 _ _ _ _ _ _ _ _ made).2 (by decide +kernel)

end Simulation

end StationScript
