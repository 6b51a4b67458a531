import StationScript.Proofs.Host.Moves

/-!
Hosts that agree. They are the same, and for each id they remember the same time, whatever the order
in which the times are kept. No script can tell them apart, and what it does leaves them in
agreement.
-/

set_option autoImplicit false

namespace StationScript.Host

/-- The host with other times to remember. -/
def withTimes (host : Host) (times : SimulationTimes) : Host := { host with times }

/-- Nothing but the order of the times tells the hosts apart. -/
structure Agree (one other : Host) : Prop where
  whole : other = one.withTimes other.times
  times : ∀ id, other.times.entries.lookup id = one.times.entries.lookup id

section Commuting

variable (host : Host) (times : SimulationTimes)

theorem foldl_report_withTimes (severity : Severity) (texts : List String) :
    texts.foldl (fun h text => h.report severity text) (host.withTimes times) =
      (texts.foldl (fun h text => h.report severity text) host).withTimes times :=
  List.foldl_hom (fun h : Host => h.withTimes times) fun _ _ => rfl

theorem sweep_withTimes : (host.withTimes times).sweep = host.sweep.withTimes times :=
  foldl_report_withTimes { host with registry := host.liveRegistry } times .information
    (host.stale.map fun d => evictionText (host.nameOf d))

theorem register_withTimes (device : DeviceRef) :
    (host.withTimes times).register device = (host.register device).withTimes times := by
  unfold register
  rw [sweep_withTimes]
  rfl

theorem connect_withTimes (device : DeviceRef) (station : StationRef)
    (sourceObject sourceSignal targetObject targetSignal : String) (allowCycle : Bool) :
    (host.withTimes times).connect device station sourceObject sourceSignal targetObject
        targetSignal allowCycle =
      let connected := host.connect device station sourceObject sourceSignal targetObject
        targetSignal allowCycle
      (connected.1.withTimes times, connected.2) := by
  have plant : (host.withTimes times).plant = host.plant := rfl
  have source : (host.withTimes times).endpoint station device sourceObject =
      host.endpoint station device sourceObject := rfl
  have target : (host.withTimes times).endpoint station device targetObject =
      host.endpoint station device targetObject := rfl
  unfold connect
  rw [source, target, plant]
  dsimp only
  split
  · rfl
  · rfl
  · rfl
  · split
    · rfl
    · split <;> rfl

/-- A function asks for no time but the one of its device. -/
theorem perform_withTimes {device : DeviceRef}
    (same : times.last (host.device device).id = host.times.last (host.device device).id)
    (request : Request) : (host.withTimes times).perform device request =
      ((host.perform device request).1.withTimes times, (host.perform device request).2) := by
  have devices (ref : DeviceRef) : (host.withTimes times).device ref = host.device ref := rfl
  cases request with
  | setStatus status => rfl
  | addLog message => rfl
  | clearSignals => rfl
  | addSignal name kind => rfl
  | getSignal name =>
    unfold perform signalValue
    dsimp only
    rw [devices]
    split <;> rfl
  | setSignal name value =>
    unfold perform setSignalOf
    dsimp only
    rw [devices]
    split <;> rfl
  | iif condition yes no =>
    unfold perform choose
    dsimp only
    split <;> rfl
  | getLastSimulationTime =>
    have told : (host.withTimes times).simulationTime device = host.simulationTime device := by
      unfold simulationTime
      rw [← same]
      rfl
    exact congrArg (Prod.mk (host.withTimes times)) told
  | addIoConnection sourceObject sourceSignal targetObject targetSignal allowCycle =>
    have plant : (host.withTimes times).plant = host.plant := rfl
    unfold perform
    dsimp only
    rw [plant]
    split
    · rfl
    · rw [connect_withTimes]

end Commuting

section Calls

variable (host : Host) {times : SimulationTimes} (same : ∀ id, times.last id = host.times.last id)

theorem resolve_withTimes (times : SimulationTimes) (id : DeviceId) :
    (host.withTimes times).resolve id =
      ((host.resolve id).1.withTimes times, (host.resolve id).2) := by
  unfold resolve
  rw [sweep_withTimes]
  rfl

include same

theorem answer_withTimes (id : DeviceId) (function : HostFunction) (arguments : List Value) :
    (host.withTimes times).answer id function arguments =
      { host.answer id function arguments with
        host := (host.answer id function arguments).host.withTimes times } := by
  unfold answer
  cases Request.ofArguments arguments function with
  | error fault => rfl
  | ok request =>
    have swept : (host.resolve id).1.times = host.times := host.times_sweep
    dsimp only
    rw [resolve_withTimes]
    cases found : host.resolve id with
    | mk after device =>
      rw [found] at swept
      cases device with
      | none => rfl
      | some device =>
        have told : times.last (after.device device).id =
            after.times.last (after.device device).id := by
          rw [swept]
          exact same _
        dsimp only
        rw [perform_withTimes after times told]

end Calls

section Run

variable {α : Type}

/-- The remembered times have no part in a run but that scripts are told of them. -/
theorem play_withTimes (id : DeviceId) (run : Run α) (host : Host) (closing : Bool)
    {times : SimulationTimes} (same : ∀ id, times.last id = host.times.last id) :
    (host.withTimes times).play id run closing =
      ((host.play id run closing).1.withTimes times, (host.play id run closing).2) := by
  induction run generalizing host closing with
  | done result => rfl
  | call function arguments resume ih =>
    have kept := (answer_frame (fun _ => True) host id function arguments fun _ _ => trivial).times
    unfold play
    dsimp only
    rw [answer_withTimes host same]
    apply ih
    rw [kept]
    exact same

theorem lookups_withTimes (id : DeviceId) (run : Run α) (host : Host)
    {times : SimulationTimes} (same : ∀ id, times.last id = host.times.last id) :
    (host.withTimes times).lookups id run = host.lookups id run ∧
      (host.withTimes times).calls id run = host.calls id run := by
  induction run generalizing host with
  | done result => exact ⟨rfl, rfl⟩
  | call function arguments resume ih =>
    have kept := (answer_frame (fun _ => True) host id function arguments fun _ _ => trivial).times
    obtain ⟨looked, called⟩ := ih (host.answer id function arguments).reply
      (host.answer id function arguments).host (by rw [kept]; exact same)
    have first : (host.withTimes times).lookup? id function arguments =
        host.lookup? id function arguments := by
      unfold lookup?
      rw [resolve_withTimes]
    unfold lookups calls
    dsimp only
    rw [answer_withTimes host same, first]
    exact ⟨congrArg _ looked, congrArg _ called⟩

end Run

namespace Agree

variable {one other : Host}

theorem plant (agree : Agree one other) : other.plant = one.plant := by
  rw [agree.whole]
  rfl

theorem files (agree : Agree one other) : other.files = one.files := by
  rw [agree.whole]
  rfl

theorem registry (agree : Agree one other) : other.registry = one.registry := by
  rw [agree.whole]
  rfl

theorem nameOf (agree : Agree one other) (device : DeviceRef) :
    other.nameOf device = one.nameOf device :=
  congrArg (fun plant : Plant => (plant.device device).name) agree.plant

theorem last (agree : Agree one other) (id : DeviceId) :
    other.times.last id = one.times.last id :=
  congrArg (Option.getD · neverSimulated) (agree.times id)

theorem leadsTo_eq (agree : Agree one other) (id : DeviceId) :
    other.leadsTo id = one.leadsTo id := by
  rw [agree.whole]
  rfl

/-- What has nothing to do with times keeps the agreement. -/
theorem of_eq (agree : Agree one other) {left right : Host}
    (whole : right = left.withTimes other.times) (kept : left.times = one.times) :
    Agree left right := by
  refine ⟨?_, fun id => ?_⟩
  · rw [whole]
    rfl
  · rw [whole, kept]
    exact agree.times id

/-- Both are changed in a way that has nothing to do with times. -/
theorem map (agree : Agree one other) (change : Host → Host)
    (commutes : ∀ times, change (one.withTimes times) = (change one).withTimes times)
    (kept : (change one).times = one.times) : Agree (change one) (change other) := by
  have whole : change other = change (one.withTimes other.times) := congrArg change agree.whole
  exact agree.of_eq (whole.trans (commutes _)) kept

theorem report (agree : Agree one other) (severity : Severity) (text : String) :
    Agree (one.report severity text) (other.report severity text) :=
  agree.map (fun host => host.report severity text) (fun _ => rfl) rfl

theorem modifyPlant (agree : Agree one other) (change : Plant → Plant) :
    Agree (one.modifyPlant change) (other.modifyPlant change) :=
  agree.map (fun host => host.modifyPlant change) (fun _ => rfl) rfl

theorem sweep (agree : Agree one other) : Agree one.sweep other.sweep :=
  agree.map Host.sweep one.sweep_withTimes one.times_sweep

theorem register (agree : Agree one other) (device : DeviceRef) :
    Agree (one.register device) (other.register device) :=
  agree.map (fun host => host.register device) (fun times => one.register_withTimes times device)
    one.times_sweep

/-- The same step is recorded on both sides. -/
theorem recordTime (agree : Agree one other) (id : DeviceId) (time : Float) :
    Agree (one.recordTime id time) (other.recordTime id time) := by
  refine ⟨?_, fun key => ?_⟩
  · have whole := congrArg (fun host : Host => host.recordTime id time) agree.whole
    exact whole
  · change (Entries.put other.times.entries id time).lookup key =
      (Entries.put one.times.entries id time).lookup key
    by_cases own : key = id
    · rw [own, Entries.lookup_put_self, Entries.lookup_put_self]
    · rw [Entries.lookup_put_of_ne _ _ own, Entries.lookup_put_of_ne _ _ own, agree.times]

/-- What is forgotten of an id is forgotten on both sides. -/
theorem forgetTime (agree : Agree one other) (id : DeviceId) :
    Agree (one.forgetTime id) (other.forgetTime id) := by
  refine ⟨?_, fun key => ?_⟩
  · have whole := congrArg (fun host : Host => host.forgetTime id) agree.whole
    exact whole
  · change (Entries.erase other.times.entries id).lookup key =
      (Entries.erase one.times.entries id).lookup key
    by_cases own : key = id
    · rw [own, Entries.lookup_erase_self, Entries.lookup_erase_self]
    · rw [Entries.lookup_erase_of_ne _ own, Entries.lookup_erase_of_ne _ own, agree.times]

/-- A run comes to the same on both sides. -/
theorem play {α : Type} (agree : Agree one other) (id : DeviceId) (run : Run α) (closing : Bool) :
    (other.play id run closing).2 = (one.play id run closing).2 ∧
      Agree (one.play id run closing).1 (other.play id run closing).1 := by
  have played := play_withTimes id run one closing agree.last
  rw [← agree.whole] at played
  have kept := (one.play_frame (fun _ => True) id run closing fun _ _ => trivial).times
  rw [played]
  exact ⟨rfl, agree.of_eq rfl kept⟩

/-- The calls of a run are the same, and so is what they find. -/
theorem lookups {α : Type} (agree : Agree one other) (id : DeviceId) (run : Run α) :
    other.lookups id run = one.lookups id run ∧ other.calls id run = one.calls id run := by
  have same := lookups_withTimes id run one agree.last
  rwa [← agree.whole] at same

end Agree

end StationScript.Host
