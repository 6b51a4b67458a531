import StationScript.Proofs.Host.Moves
import StationScript.Proofs.Station.Signals

/-!
How signals come to change. There are two ways: a script calls one of its functions, or values are
carried along connections. Either takes every store one step at a time, and neither turns a signal
that is there into one of another kind.
-/

set_option autoImplicit false

namespace StationScript

namespace Plant

theorem signals_modifySignals (plant : Plant) (ref other : DeviceRef)
    (change : SignalStore → SignalStore) :
    ((plant.modifySignals ref change).device other).signals =
      if other = ref ∧ plant.Has other then change (plant.device other).signals
      else (plant.device other).signals := by
  unfold modifySignals
  rw [device_modifyDevice]
  split <;> rfl

/-- Carried values are written one after the other. -/
theorem signals_carry (ref : StationRef) (target : DeviceRef) (plant : Plant) (c : Connection)
    (other : DeviceRef) : SignalStore.Step (plant.device other).signals
        ((plant.carry ref target c).device other).signals ∧
      ((plant.carry ref target c).device other).signals.profile =
        (plant.device other).signals.profile := by
  unfold carry
  split
  · exact ⟨.same _, rfl⟩
  · rename_i value _
    have written : SignalStore.Step (plant.device other).signals
          ((plant.modifySignals target fun store =>
            (store.set? c.targetSignal value).1).device other).signals ∧
        ((plant.modifySignals target fun store =>
            (store.set? c.targetSignal value).1).device other).signals.profile =
          (plant.device other).signals.profile := by
      rw [signals_modifySignals]
      split
      · exact ⟨.written _ _ _, SignalStore.profile_set _ _ _⟩
      · exact ⟨.same _, rfl⟩
    dsimp only
    split <;> exact written

theorem signals_foldl_carry (ref : StationRef) (target : DeviceRef) (plant : Plant)
    (connections : List Connection) (other : DeviceRef) :
    Relation.ReflTransGen SignalStore.Step (plant.device other).signals
        ((connections.foldl (carry ref target) plant).device other).signals ∧
      ((connections.foldl (carry ref target) plant).device other).signals.profile =
        (plant.device other).signals.profile := by
  induction connections generalizing plant with
  | nil => exact ⟨.refl, rfl⟩
  | cons c rest ih =>
    obtain ⟨step, same⟩ := signals_carry ref target plant c other
    obtain ⟨steps, still⟩ := ih (plant.carry ref target c)
    exact ⟨.head step steps, still.trans same⟩

theorem signals_propagate (plant : Plant) (ref : StationRef) (object : String) (other : DeviceRef) :
    Relation.ReflTransGen SignalStore.Step (plant.device other).signals
        ((plant.propagate ref object).device other).signals ∧
      ((plant.propagate ref object).device other).signals.profile =
        (plant.device other).signals.profile := by
  unfold propagate
  split
  · exact ⟨.refl, rfl⟩
  · exact signals_foldl_carry ref _ plant _ other

end Plant

namespace Host

/-- No signal of any device differs. -/
def SameSignals (before after : Host) : Prop :=
  ∀ ref, (after.device ref).signals = (before.device ref).signals

theorem sameSignals_setStatus (host : Host) (ref : DeviceRef) (status : String) :
    SameSignals host (host.setStatus ref status) :=
  host.plant.project_modifyDevice Device.signals ref (fun d => { d with status }) fun _ => rfl

theorem sameSignals_setScriptPath (host : Host) (ref : DeviceRef) (path : String) :
    SameSignals host (host.setScriptPath ref path) :=
  host.plant.project_modifyDevice Device.signals ref (fun d => { d with scriptPath := path })
    fun _ => rfl

theorem sameSignals_connect (host : Host) (device : DeviceRef) (station : StationRef)
    (sourceObject sourceSignal targetObject targetSignal : String) (allowCycle : Bool) :
    SameSignals host (host.connect device station sourceObject sourceSignal targetObject
      targetSignal allowCycle).1 := by
  unfold connect
  dsimp only
  split
  · exact fun _ => rfl
  · exact fun _ => rfl
  · exact fun _ => rfl
  · split
    · exact fun _ => rfl
    · split <;> exact fun _ => rfl

/-- A function's body takes one step in the store of its device. -/
theorem step_modifySignals (host : Host) (device : DeviceRef) {change : SignalStore → SignalStore}
    (step : ∀ store, SignalStore.Step store (change store)) (ref : DeviceRef) :
    SignalStore.Step (host.device ref).signals
      ((host.modifyPlant fun p => p.modifySignals device change).device ref).signals := by
  unfold Host.device modifyPlant
  dsimp only
  rw [Plant.signals_modifySignals]
  split
  · exact step _
  · exact .same _

theorem step_perform (host : Host) (device : DeviceRef) (request : Request) (ref : DeviceRef) :
    SignalStore.Step (host.device ref).signals
      ((host.perform device request).1.device ref).signals := by
  have quiet {after : Host} (same : SameSignals host after) :
      SignalStore.Step (host.device ref).signals (after.device ref).signals := by
    rw [same ref]
    exact .same _
  cases request with
  | setStatus status => exact quiet (sameSignals_setStatus _ device status)
  | clearSignals =>
    unfold perform clearSignalsOf
    dsimp only
    rw [sameSignals_setStatus _ device "Cleared" ref]
    exact host.step_modifySignals device (fun store => .cleared store) ref
  | addSignal name kind =>
    unfold perform addSignalTo
    dsimp only
    rw [sameSignals_setStatus _ device "Signal Added" ref]
    exact host.step_modifySignals device
      (fun store => .added store _ (SignalKind.holds_zero _)) ref
  | setSignal name value =>
    unfold perform setSignalOf
    dsimp only
    split
    · exact host.step_modifySignals device (fun store => .written store name value) ref
    · exact quiet fun _ => rfl
  | addIoConnection sourceObject sourceSignal targetObject targetSignal allowCycle =>
    unfold perform
    dsimp only
    split
    · exact quiet fun _ => rfl
    · exact quiet (host.sameSignals_connect device _ _ _ _ _ _)
  | addLog message => exact quiet fun _ => rfl
  | getLastSimulationTime => exact quiet fun _ => rfl
  | getSignal name =>
    unfold perform signalValue
    dsimp only
    split <;> exact quiet fun _ => rfl
  | iif condition yes no =>
    unfold perform choose
    dsimp only
    split <;> exact quiet fun _ => rfl

/-- One call takes one step in every store. -/
theorem step_answer (host : Host) (id : DeviceId) (function : HostFunction)
    (arguments : List Value) (ref : DeviceRef) : SignalStore.Step (host.device ref).signals
      ((host.answer id function arguments).host.device ref).signals := by
  unfold answer
  cases Request.ofArguments arguments function with
  | error fault => exact .same _
  | ok request =>
    have swept : SameSignals host (host.resolve id).1 := fun ref => by
      unfold resolve Host.device
      dsimp only
      rw [plant_sweep]
    cases found : host.resolve id with
    | mk after device =>
      rw [found] at swept
      rw [← swept ref]
      cases device with
      | none => exact .same _
      | some device => exact after.step_perform device request ref

/-- One change of a host, as far as signals go. -/
inductive Change : Host → Host → Prop where
  /-- A script that is bound to some id calls a function. -/
  | called (host : Host) (id : DeviceId) (function : HostFunction) (arguments : List Value) :
    Change host (host.answer id function arguments).host
  /-- Values are carried into the objects of a name. -/
  | propagated (host : Host) (station : StationRef) (object : String) :
    Change host (host.modifyPlant fun p => p.propagate station object)
  /-- Something happens that touches no signal. -/
  | elsewhere (before after : Host) (same : SameSignals before after) : Change before after

/-- Any number of changes. -/
abbrev Changed : Host → Host → Prop := Relation.ReflTransGen Change

variable {before after : Host}

theorem Change.steps (change : Change before after) (ref : DeviceRef) :
    Relation.ReflTransGen SignalStore.Step (before.device ref).signals
      (after.device ref).signals := by
  cases change with
  | called id function arguments => exact .single (before.step_answer id function arguments ref)
  | propagated station object => exact (before.plant.signals_propagate station object ref).1
  | elsewhere _ same =>
    rw [same ref]

theorem Change.agrees (change : Change before after) (ref : DeviceRef) :
    SignalStore.Agrees (before.device ref).signals (after.device ref).signals := by
  cases change with
  | called id function arguments => exact .step (before.step_answer id function arguments ref)
  | propagated station object =>
    exact .of_profile (before.plant.signals_propagate station object ref).2
  | elsewhere _ same =>
    rw [same ref]
    exact .refl _

theorem Changed.lawful {ref : DeviceRef} (lawful : (before.device ref).signals.Lawful)
    (changed : Changed before after) : (after.device ref).signals.Lawful := by
  induction changed with
  | refl => exact lawful
  | tail _ last ih => exact ih.steps (last.steps ref)

end Host

end StationScript
