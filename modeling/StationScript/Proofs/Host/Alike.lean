import StationScript.Proofs.Host.Connecting
import StationScript.Proofs.Host.Moves
import StationScript.Proofs.Plant.Alike

/-!
Hosts that are alike but for one device. What a script of another device is told by its host, and
what it does to it, is the same in both. What the script of the hidden device does shows in neither,
unless it adds a connection.
-/

set_option autoImplicit false

namespace StationScript.Host

/-- Nothing but one device, the files and the log tells the hosts apart. -/
structure Alike (hidden : DeviceRef) (one other : Host) : Prop where
  plant : one.plant.Alike hidden other.plant
  logPrefix : other.logPrefix = one.logPrefix
  clock : other.clock = one.clock
  live : other.liveRegistry = one.liveRegistry
  times : ∀ id, id ≠ (one.device hidden).id → other.times.last id = one.times.last id

variable {hidden : DeviceRef} {one other : Host}

namespace Alike

theorem refl (host : Host) : Alike hidden host host := ⟨.refl _, rfl, rfl, rfl, fun _ _ => rfl⟩

theorem symm (alike : Alike hidden one other) : Alike hidden other one := by
  refine ⟨alike.plant.symm, alike.logPrefix.symm, alike.clock.symm, alike.live.symm,
    fun id visible => (alike.times id ?_).symm⟩
  have same : (other.device hidden).id = (one.device hidden).id := alike.plant.layout.id_eq hidden
  rwa [← same]

theorem trans {third : Host} (left : Alike hidden one other) (right : Alike hidden other third) :
    Alike hidden one third := by
  refine ⟨left.plant.trans right.plant, right.logPrefix.trans left.logPrefix,
    right.clock.trans left.clock, right.live.trans left.live, fun id visible => ?_⟩
  have same : (other.device hidden).id = (one.device hidden).id := left.plant.layout.id_eq hidden
  exact (right.times id (same ▸ visible)).trans (left.times id visible)

/-- What shows on neither side leaves hosts alike. -/
theorem both {left right : Host} (alike : Alike hidden one other) (first : Alike hidden one left)
    (second : Alike hidden other right) : Alike hidden left right :=
  (first.symm.trans alike).trans second

/-- Calm changes do not show unless they do in the plant or the times. -/
theorem of_calm {before after : Host} (calm : Calm before after)
    (plant : before.plant.Alike hidden after.plant)
    (times : after.times = before.times) : Alike hidden before after :=
  ⟨plant, calm.logPrefix, calm.clock, calm.liveRegistry_eq, fun _ _ => by rw [times]⟩

theorem report (host : Host) (severity : Severity) (text : String) :
    Alike hidden host (host.report severity text) :=
  of_calm (host.calm_report severity text) (.refl _) rfl

theorem sweep (host : Host) : Alike hidden host host.sweep := by
  refine of_calm host.calm_sweep ?_ host.times_sweep
  rw [plant_sweep]
  exact .refl _

/-- Reports do not show, whatever they say. -/
theorem reports (alike : Alike hidden one other) (severity severity' : Severity)
    (text text' : String) :
    Alike hidden (one.report severity text) (other.report severity' text') :=
  alike.both (.report one severity text) (.report other severity' text')

/-- The same change of both plants. -/
theorem modifyPlant (alike : Alike hidden one other) {change : Plant → Plant}
    (left : one.plant.SameLayout (change one.plant))
    (right : other.plant.SameLayout (change other.plant))
    (plant : (change one.plant).Alike hidden (change other.plant)) :
    Alike hidden (one.modifyPlant change) (other.modifyPlant change) := by
  have first := one.calm_modifyPlant left
  have second := other.calm_modifyPlant right
  refine ⟨plant, alike.logPrefix, alike.clock, ?_, fun id visible => alike.times id ?_⟩
  · rw [first.liveRegistry_eq, second.liveRegistry_eq]
    exact alike.live
  · have same : (((one.modifyPlant change)).device hidden).id = (one.device hidden).id :=
      left.id_eq hidden
    rwa [← same]

theorem modifyDevice (alike : Alike hidden one other) (ref : DeviceRef) (change : Device → Device)
    (identity : ∀ d, (change d).identity = d.identity) :
    Alike hidden (one.modifyPlant fun p => p.modifyDevice ref change)
      (other.modifyPlant fun p => p.modifyDevice ref change) :=
  alike.modifyPlant (.modifyDevice _ ref change identity) (.modifyDevice _ ref change identity)
    (alike.plant.modifyDevice ref change identity)

theorem setStatus (alike : Alike hidden one other) (ref : DeviceRef) (status : String) :
    Alike hidden (one.setStatus ref status) (other.setStatus ref status) :=
  alike.modifyDevice ref _ fun _ => rfl

theorem setScriptPath (alike : Alike hidden one other) (ref : DeviceRef) (path : String) :
    Alike hidden (one.setScriptPath ref path) (other.setScriptPath ref path) :=
  alike.modifyDevice ref _ fun _ => rfl

theorem modifySignals (alike : Alike hidden one other) (ref : DeviceRef)
    (change : SignalStore → SignalStore) :
    Alike hidden (one.modifyPlant fun p => p.modifySignals ref change)
      (other.modifyPlant fun p => p.modifySignals ref change) :=
  alike.modifyDevice ref _ fun _ => rfl

theorem addConnection (alike : Alike hidden one other) (station : StationRef) (c : Connection) :
    Alike hidden (one.modifyPlant fun p => p.addConnection station c)
      (other.modifyPlant fun p => p.addConnection station c) :=
  alike.modifyPlant (.modifyStation _ station _ fun _ => rfl)
    (.modifyStation _ station _ fun _ => rfl) (alike.plant.addConnection station c)

/-- The same step recorded on both sides. -/
theorem recordTime (alike : Alike hidden one other) (id : DeviceId) (time : Float) :
    Alike hidden (one.recordTime id time) (other.recordTime id time) := by
  refine ⟨alike.plant, alike.logPrefix, alike.clock, alike.live, fun key visible => ?_⟩
  have before := alike.times key visible
  unfold Host.recordTime SimulationTimes.record SimulationTimes.last at *
  dsimp only at *
  by_cases own : key = id
  · rw [own, Entries.lookup_put_self, Entries.lookup_put_self]
  · rw [Entries.lookup_put_of_ne _ _ own, Entries.lookup_put_of_ne _ _ own, before]

/-- A step of the hidden device does not show. -/
theorem recordHidden (host : Host) (time : Float) :
    Alike hidden host (host.recordTime (host.device hidden).id time) :=
  ⟨.refl _, rfl, rfl, rfl, fun _ visible =>
    congrArg (Option.getD · neverSimulated) (Entries.lookup_put_of_ne _ time visible)⟩

end Alike

theorem ids_apart {before after : Host} (layout : before.plant.SameLayout after.plant)
    {device second : DeviceRef}
    (different : (before.device device).id ≠ (before.device second).id) :
    (after.device device).id ≠ (after.device second).id := by
  unfold Host.device at different ⊢
  rw [layout.id_eq, layout.id_eq]
  exact different

section Visible

variable {device : DeviceRef}

theorem endpoint_alike (alike : Alike hidden one other) (station : StationRef)
    (name : String) : other.endpoint station device name = one.endpoint station device name := by
  have same : other.nameOf device = one.nameOf device := alike.plant.layout.name_eq device
  unfold endpoint
  rw [same, alike.plant.layout.findObject?_eq]

theorem connect_alike (alike : Alike hidden one other) (station : StationRef)
    (sourceObject sourceSignal targetObject targetSignal : String) (allowCycle : Bool) :
    (other.connect device station sourceObject sourceSignal targetObject targetSignal
        allowCycle).2 = (one.connect device station sourceObject sourceSignal targetObject
        targetSignal allowCycle).2 ∧
      Alike hidden (one.connect device station sourceObject sourceSignal targetObject targetSignal
          allowCycle).1 (other.connect device station sourceObject sourceSignal targetObject
          targetSignal allowCycle).1 := by
  unfold connect
  rw [endpoint_alike alike, endpoint_alike alike, alike.plant.connections]
  dsimp only
  split
  · exact ⟨rfl, (alike.reports _ _ _ _).reports _ _ _ _⟩
  · exact ⟨rfl, alike.reports _ _ _ _⟩
  · exact ⟨rfl, alike.reports _ _ _ _⟩
  · split
    · exact ⟨rfl, alike.reports _ _ _ _⟩
    · split
      · exact ⟨rfl, alike.reports _ _ _ _⟩
      · exact ⟨rfl, alike.addConnection station _⟩

/-- A function does the same for a visible device in both hosts. -/
theorem perform_alike (alike : Alike hidden one other) (visible : device ≠ hidden)
    (different : (one.device device).id ≠ (one.device hidden).id) (request : Request) :
    (other.perform device request).2 = (one.perform device request).2 ∧
      Alike hidden (one.perform device request).1 (other.perform device request).1 := by
  have same : other.device device = one.device device := alike.plant.devices device visible
  cases request with
  | setStatus status => exact ⟨rfl, (alike.reports _ _ _ _).setStatus device status⟩
  | addLog message => exact ⟨rfl, alike.reports _ _ _ _⟩
  | clearSignals =>
    exact ⟨rfl, ((alike.modifySignals device _).reports _ _ _ _).setStatus device _⟩
  | addSignal name kind =>
    exact ⟨rfl, ((alike.modifySignals device _).reports _ _ _ _).setStatus device _⟩
  | getSignal name =>
    unfold perform signalValue
    dsimp only
    rw [same]
    split
    · exact ⟨rfl, alike⟩
    · exact ⟨rfl, alike.reports _ _ _ _⟩
  | setSignal name value =>
    unfold perform setSignalOf
    dsimp only
    rw [same]
    split
    · exact ⟨rfl, alike.modifySignals device _⟩
    · exact ⟨rfl, alike.reports _ _ _ _⟩
  | iif condition yes no =>
    unfold perform choose
    dsimp only
    split
    · exact ⟨rfl, alike⟩
    · exact ⟨rfl, alike⟩
    · exact ⟨rfl, alike.reports _ _ _ _⟩
  | getLastSimulationTime =>
    refine ⟨?_, alike⟩
    unfold perform simulationTime
    rw [same, alike.times _ different, alike.clock]
  | addIoConnection sourceObject sourceSignal targetObject targetSignal allowCycle =>
    unfold perform
    dsimp only
    rw [alike.plant.layout.stationOf?_eq]
    split
    · exact ⟨rfl, alike⟩
    · obtain ⟨added, after⟩ := connect_alike alike _ sourceObject sourceSignal targetObject
        targetSignal allowCycle
      exact ⟨by rw [added], after⟩

/-- A call of a visible device's script is answered in the same way. -/
theorem answer_alike (alike : Alike hidden one other) (visible : device ≠ hidden)
    (different : (one.device device).id ≠ (one.device hidden).id) (binds : one.Binds device)
    (function : HostFunction) (arguments : List Value) :
    (other.answer (one.device device).id function arguments).reply =
        (one.answer (one.device device).id function arguments).reply ∧
      (other.answer (one.device device).id function arguments).closing =
        (one.answer (one.device device).id function arguments).closing ∧
      Alike hidden (one.answer (one.device device).id function arguments).host
        (other.answer (one.device device).id function arguments).host := by
  unfold answer
  cases Request.ofArguments arguments function with
  | error fault => exact ⟨rfl, rfl, alike⟩
  | ok request =>
    have swept : Alike hidden one.sweep other.sweep := alike.both (.sweep one) (.sweep other)
    have found : one.sweep.registry.get? (one.device device).id = one.boundTo device := by
      rw [registry_sweep]
      exact binds
    have also : other.sweep.registry.get? (one.device device).id = one.boundTo device := by
      rw [registry_sweep, alike.live]
      exact binds
    unfold resolve
    dsimp only
    rw [found, also, boundTo]
    cases one.plant.tracked device with
    | false => exact ⟨rfl, rfl, swept.reports _ _ _ _⟩
    | true =>
      have apart := ids_apart one.calm_sweep.layout different
      obtain ⟨results, after⟩ := perform_alike swept visible apart request
      exact ⟨congrArg Except.ok results, rfl, after⟩

/-- So is a whole run of it, and it comes to the same. -/
theorem play_alike {α : Type} (alike : Alike hidden one other) (visible : device ≠ hidden)
    (different : (one.device device).id ≠ (one.device hidden).id) (binds : one.Binds device)
    (run : Run α) (closing : Bool) :
    (other.play (one.device device).id run closing).2 =
        (one.play (one.device device).id run closing).2 ∧
      Alike hidden (one.play (one.device device).id run closing).1
        (other.play (one.device device).id run closing).1 := by
  induction run generalizing one other closing with
  | done result => exact ⟨rfl, alike⟩
  | call function arguments resume ih =>
    obtain ⟨reply, vain, after⟩ := answer_alike alike visible different binds function arguments
    have calm := one.answer_calm (one.device device).id function arguments
    have same : ((one.answer (one.device device).id function arguments).host.device device).id =
        (one.device device).id := calm.layout.id_eq device
    have apart := ids_apart calm.layout different
    have rest := ih (one.answer (one.device device).id function arguments).reply after apart
      (binds.calm calm) (closing || (one.answer (one.device device).id function arguments).closing)
    rw [same] at rest
    unfold play
    dsimp only
    rw [reply, vain]
    exact rest

end Visible

section Hidden

/-- A move for the hidden device does not show, unless it is a call that adds a connection. -/
theorem Move.alike {called : HostFunction → Prop} (silent : ¬ called .addIoConnection)
    {before after : Host} (binds : before.Binds hidden) (move : Move hidden called before after) :
    Alike hidden before after := by
  cases move with
  | report severity text => exact .report before severity text
  | setStatus status =>
    exact .of_calm (before.calm_setStatus hidden status) (.modifyHidden _ _ fun _ => rfl) rfl
  | setScriptPath path =>
    exact .of_calm (before.calm_setScriptPath hidden path) (.modifyHidden _ _ fun _ => rfl) rfl
  | answer function arguments allowed =>
    have frame := answer_frame_of_binds binds function arguments
    refine .of_calm frame.toCalm ⟨frame.layout, fun ref visible => frame.others ref visible, ?_⟩
      frame.times
    exact before.connections_answer _ (fun same => silent (same ▸ allowed)) arguments

theorem Moves.alike {called : HostFunction → Prop} (silent : ¬ called .addIoConnection)
    {before after : Host} (binds : before.Binds hidden) (moves : Moves hidden called before after) :
    Alike hidden before after :=
  moves.keeps_bound (Alike hidden) .refl (fun _ _ _ => .trans)
    (fun _ _ binds move => move.alike silent binds) binds

end Hidden

end StationScript.Host
