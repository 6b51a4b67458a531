import StationScript.Proofs.Host.Signals

/-!
The requests of a run: what its calls ask for, once their arguments are accepted and the device is
found. A signal that no request clears or sets is the same when the run ends; adding signals does
nothing to one that is there.
-/

set_option autoImplicit false

namespace StationScript

/-- The request may take the signal away or give it another value. -/
def Request.Alters (name : String) : Request → Prop
  | .clearSignals => True
  | .setSignal other _ => other = name
  | _ => False

instance (name : String) : (request : Request) → Decidable (request.Alters name)
  | .clearSignals => inferInstanceAs (Decidable True)
  | .setSignal other _ => inferInstanceAs (Decidable (other = name))
  | .setStatus _ | .addLog _ | .addSignal _ _ | .getSignal _ | .iif _ _ _
  | .getLastSimulationTime | .addIoConnection _ _ _ _ _ => inferInstanceAs (Decidable False)

/-- A signal stays where it is when another one is added. -/
theorem SignalStore.get_add {store : SignalStore} {name : String} {s : Signal}
    (found : store.get? name = some s) (signal : Signal) :
    (store.add signal).1.get? name = some s := by
  cases present : store.contains signal.name with
  | true =>
    rw [add_of_contains present]
    exact found
  | false =>
    rw [add_of_new present, get?, List.find?_append]
    rw [get?] at found
    rw [found]
    rfl

namespace Host

/-- What a call asks for and the device it asks it for; nothing if its arguments are refused or no
device is found. -/
def request? (host : Host) (id : DeviceId) (function : HostFunction) (arguments : List Value) :
    Option (DeviceRef × Request) :=
  match Request.ofArguments arguments function with
  | .error _ => none
  | .ok request => (host.resolve id).2.map fun device => (device, request)

/-- What the calls of a run ask for, in order. -/
def requests {α : Type} (id : DeviceId) : Run α → Host → List (DeviceRef × Request)
  | .done _, _ => []
  | .call function arguments resume, host =>
    let answer := host.answer id function arguments
    (host.request? id function arguments).toList ++ requests id (resume answer.reply) answer.host

variable {device : DeviceRef} {name : String} {s : Signal}

/-- A signal that is there is kept by a change that keeps the signals of each store. -/
theorem get_modifySignals {host : Host} (found : (host.device device).signals.get? name = some s)
    (target : DeviceRef) {change : SignalStore → SignalStore}
    (kept : target = device → ∀ store : SignalStore, store.get? name = some s →
      (change store).get? name = some s) :
    ((host.modifyPlant fun p => p.modifySignals target change).device device).signals.get? name =
      some s := by
  unfold modifyPlant Host.device
  dsimp only
  rw [Plant.signals_modifySignals]
  split
  · rename_i here
    exact kept here.1.symm _ found
  · exact found

theorem get_perform {host : Host} (found : (host.device device).signals.get? name = some s)
    (target : DeviceRef) {request : Request} (spared : target = device → ¬ request.Alters name) :
    ((host.perform target request).1.device device).signals.get? name = some s := by
  have quiet {after : Host} (same : SameSignals host after) :
      (after.device device).signals.get? name = some s := by
    rw [same device]
    exact found
  cases request with
  | setStatus status => exact quiet (sameSignals_setStatus _ target status)
  | clearSignals =>
    unfold perform clearSignalsOf
    dsimp only
    rw [sameSignals_setStatus _ target "Cleared" device]
    exact get_modifySignals found target fun here _ _ => absurd trivial (spared here)
  | addSignal other kind =>
    unfold perform addSignalTo
    dsimp only
    rw [sameSignals_setStatus _ target "Signal Added" device]
    exact get_modifySignals found target fun _ _ there => SignalStore.get_add there _
  | setSignal other value =>
    unfold perform setSignalOf
    dsimp only
    split
    · refine get_modifySignals found target fun here store there => ?_
      have differs : name ≠ other := fun same => spared here same.symm
      rw [store.get_set_of_ne differs value]
      exact there
    · exact found
  | addIoConnection sourceObject sourceSignal targetObject targetSignal allowCycle =>
    unfold perform
    dsimp only
    split
    · exact found
    · exact quiet (host.sameSignals_connect target _ _ _ _ _ _)
  | addLog message => exact found
  | getLastSimulationTime => exact found
  | getSignal other =>
    unfold perform signalValue
    dsimp only
    split <;> exact found
  | iif condition yes no =>
    unfold perform choose
    dsimp only
    split <;> exact found

theorem get_answer {host : Host} (found : (host.device device).signals.get? name = some s)
    (id : DeviceId) (function : HostFunction) (arguments : List Value)
    (spared : ∀ request, host.request? id function arguments = some (device, request) →
      ¬ request.Alters name) :
    ((host.answer id function arguments).host.device device).signals.get? name = some s := by
  unfold request? at spared
  unfold answer
  cases accepted : Request.ofArguments arguments function with
  | error fault => exact found
  | ok request =>
    rw [accepted] at spared
    have swept : ((host.resolve id).1.device device).signals.get? name = some s := by
      unfold resolve Host.device
      dsimp only
      rw [plant_sweep]
      exact found
    cases resolved : host.resolve id with
    | mk after target =>
      rw [resolved] at swept spared
      cases target with
      | none => exact swept
      | some target =>
        exact get_perform swept target fun here => spared request (by rw [here]; rfl)

/-- What no request of a run alters is the same after the run. -/
theorem get_play {α : Type} {host : Host} (found : (host.device device).signals.get? name = some s)
    (id : DeviceId) (run : Run α) (closing : Bool)
    (spared : ∀ request, (device, request) ∈ host.requests id run → ¬ request.Alters name) :
    ((host.play id run closing).1.device device).signals.get? name = some s := by
  induction run generalizing host closing with
  | done result => exact found
  | call function arguments resume ih =>
    have first := get_answer found id function arguments fun request asked =>
      spared request (List.mem_append_left _ (by rw [asked]; simp))
    exact ih _ first _ fun request asked => spared request (List.mem_append_right _ asked)

end Host

end StationScript
