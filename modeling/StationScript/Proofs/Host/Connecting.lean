import StationScript.Proofs.Host.Calls
import StationScript.Proofs.Plant.Naming
import StationScript.Proofs.Plant.Propagation

/-!
Adding a connection.

The attempt succeeds exactly if both ends are devices of the station and their signals are not
connected already. Otherwise it leaves nothing behind but warnings.
-/

set_option autoImplicit false

namespace StationScript

namespace Plant

/-- The name of an end as it stands in a connection: an empty one stands for the calling device. -/
def endName (plant : Plant) (device : DeviceRef) (name : String) : String :=
  if name = "" then (plant.device device).name else name

theorem endName_empty (plant : Plant) (device : DeviceRef) :
    plant.endName device "" = (plant.device device).name := if_pos rfl

/-- The device's own name and the empty one stand for the same. -/
theorem endName_own (plant : Plant) (device : DeviceRef) :
    plant.endName device (plant.device device).name = (plant.device device).name := by
  unfold endName
  split <;> rfl

/-- The connection that a device asks for. -/
def newConnection (plant : Plant) (device : DeviceRef)
    (sourceObject sourceSignal targetObject targetSignal : String) (allowCycle : Bool) :
    Connection :=
  ⟨plant.endName device sourceObject, sourceSignal, plant.endName device targetObject,
    targetSignal, allowCycle⟩

/-- Both ends are devices of the station, and no connection joins the same two signals. -/
structure Accepts (plant : Plant) (station : StationRef) (c : Connection) : Prop where
  source : plant.HasDeviceNamed station c.sourceObject
  target : plant.HasDeviceNamed station c.targetObject
  new : ∀ old ∈ plant.connections station, old.endpoints ≠ c.endpoints

end Plant

namespace Host

/-- Only the boolean false refuses loops. -/
theorem allowsCycle_eq_false (value : Value) :
    Request.allowsCycle value = false ↔ value = .boolean false := by
  cases value with
  | boolean b => simp [Request.allowsCycle]
  | _ => simp [Request.allowsCycle]

/-- The first four arguments must be texts. -/
theorem ofArguments_addIoConnection (arguments : List Value) :
    (∃ position < 4, ∃ fault, Request.textAt arguments position = .error fault ∧
      Request.ofArguments arguments .addIoConnection = .error fault) ∨
    ∃ sourceObject sourceSignal targetObject targetSignal,
      Request.textAt arguments 0 = .ok sourceObject ∧
      Request.textAt arguments 1 = .ok sourceSignal ∧
      Request.textAt arguments 2 = .ok targetObject ∧
      Request.textAt arguments 3 = .ok targetSignal ∧
      Request.ofArguments arguments .addIoConnection =
        .ok (.addIoConnection sourceObject sourceSignal targetObject targetSignal
          (Request.allowsCycle (Request.argument arguments 4))) := by
  simp only [Request.ofArguments]
  cases first : Request.textAt arguments 0 with
  | error fault => exact .inl ⟨0, by decide, fault, first, rfl⟩
  | ok sourceObject =>
    cases second : Request.textAt arguments 1 with
    | error fault => exact .inl ⟨1, by decide, fault, second, rfl⟩
    | ok sourceSignal =>
      cases third : Request.textAt arguments 2 with
      | error fault => exact .inl ⟨2, by decide, fault, third, rfl⟩
      | ok targetObject =>
        cases fourth : Request.textAt arguments 3 with
        | error fault => exact .inl ⟨3, by decide, fault, fourth, rfl⟩
        | ok targetSignal =>
          exact .inr ⟨sourceObject, sourceSignal, targetObject, targetSignal, rfl, rfl, rfl, rfl,
            rfl⟩
/-- The converted arguments belong to the function that was called. -/
theorem request_of_addIoConnection {function : HostFunction} {arguments : List Value}
    {sourceObject sourceSignal targetObject targetSignal : String} {allowCycle : Bool}
    (accepted : Request.ofArguments arguments function =
      .ok (.addIoConnection sourceObject sourceSignal targetObject targetSignal allowCycle)) :
    function = .addIoConnection := by
  cases function with
  | addIoConnection => rfl
  | clearSignals | getLastSimulationTime | iif => cases accepted
  | setStatus | addLog | getSignal =>
    cases first : Request.textAt arguments 0 <;>
      simp [Request.ofArguments, first, bind, Except.bind, pure, Except.pure] at accepted
  | addSignal =>
    cases first : Request.textAt arguments 0 <;> cases second : Request.textAt arguments 1 <;>
      simp [Request.ofArguments, first, second, bind, Except.bind, pure, Except.pure] at accepted
  | setSignal =>
    cases first : Request.textAt arguments 0 <;> cases second : Request.numberAt arguments 1 <;>
      simp [Request.ofArguments, first, second, bind, Except.bind, pure, Except.pure] at accepted

section Connect

variable {host : Host} {device : DeviceRef} {station : StationRef}

/-- Both ways of naming the calling device lead to the same object, so that a look-up tells all. -/
theorem endpoint_eq (distinct : host.plant.NamesDistinct station)
    (mine : device ∈ host.plant.deviceRefs station) (name : String) :
    host.endpoint station device name =
      (host.plant.endName device name,
        host.plant.findObject? station (host.plant.endName device name)) := by
  unfold endpoint Plant.endName
  by_cases empty : name = ""
  · have own := Plant.findObject?_of_mem distinct mine
    rw [if_pos empty, if_pos empty, nameOf, Host.device, own]
  · rw [if_neg empty, if_neg empty]

/-- Everything that an attempt to connect can come to. -/
inductive Connecting (host : Host) (station : StationRef) (c : Connection) :
    Host × Bool → Prop where
  | refused (texts : List String) (given : texts ≠ []) (not : ¬ host.plant.Accepts station c) :
    Connecting host station c (texts.foldl warn host, false)
  | added (accepts : host.plant.Accepts station c) :
    Connecting host station c (host.modifyPlant fun p => p.addConnection station c, true)

/-- What is found decides: a missing object is no device of the station, and neither is a part. -/
theorem hasDeviceNamed_of_found (distinct : host.plant.NamesDistinct station) {name : String}
    {found : Option ObjectInfo} (looked : host.plant.findObject? station name = found) :
    host.plant.HasDeviceNamed station name ↔
      ∃ object, found = some object ∧ object.supportsConnections = true := by
  rw [Plant.hasDeviceNamed_iff distinct, looked]

theorem connect_cases (distinct : host.plant.NamesDistinct station)
    (mine : device ∈ host.plant.deviceRefs station)
    (sourceObject sourceSignal targetObject targetSignal : String) (allowCycle : Bool) :
    Connecting host station
      (host.plant.newConnection device sourceObject sourceSignal targetObject targetSignal
        allowCycle)
      (host.connect device station sourceObject sourceSignal targetObject targetSignal
        allowCycle) := by
  have refuse (texts : List String) (given : texts ≠ []) :=
    @Connecting.refused host station (host.plant.newConnection device sourceObject sourceSignal
      targetObject targetSignal allowCycle) texts given
  unfold Plant.newConnection at refuse ⊢
  unfold connect
  rw [endpoint_eq distinct mine, endpoint_eq distinct mine]
  generalize host.plant.endName device sourceObject = sourceName at refuse
  generalize host.plant.endName device targetObject = targetName at refuse
  cases source : host.plant.findObject? station sourceName with
  | none =>
    have missing : ¬ host.plant.HasDeviceNamed station sourceName := by
      simp [hasDeviceNamed_of_found distinct source]
    cases host.plant.findObject? station targetName with
    | none => exact refuse [_, _] (List.cons_ne_nil _ _) fun accepts => missing accepts.source
    | some object => exact refuse [_] (List.cons_ne_nil _ _) fun accepts => missing accepts.source
  | some first =>
    cases target : host.plant.findObject? station targetName with
    | none =>
      have missing : ¬ host.plant.HasDeviceNamed station targetName := by
        simp [hasDeviceNamed_of_found distinct target]
      exact refuse [_] (List.cons_ne_nil _ _) fun accepts => missing accepts.target
    | some second =>
      have sourceFits := hasDeviceNamed_of_found distinct source
      have targetFits := hasDeviceNamed_of_found distinct target
      simp only [Option.some.injEq, exists_eq_left'] at sourceFits targetFits
      dsimp only
      cases unfit : [first, second].find? fun o => !o.supportsConnections with
      | some part =>
        refine refuse [_] (List.cons_ne_nil _ _) fun accepts => ?_
        have member := List.mem_of_find?_eq_some unfit
        have lacks := List.find?_some unfit
        rcases List.mem_cons.mp member with rfl | later
        · simp [sourceFits.mp accepts.source] at lacks
        · rw [List.mem_singleton.mp later] at lacks
          simp [targetFits.mp accepts.target] at lacks
      | none =>
        have fit : first.supportsConnections = true ∧ second.supportsConnections = true := by
          simpa using unfit
        dsimp only
        split
        · rename_i taken
          obtain ⟨old, member, same⟩ := List.any_eq_true.mp taken
          exact refuse [_] (List.cons_ne_nil _ _) fun accepts =>
            accepts.new old member ((Connection.sameEndpoints_iff _ _).mp same)
        · rename_i free
          refine .added ⟨sourceFits.mpr fit.1, targetFits.mpr fit.2, ?_⟩
          intro old member same
          refine free ?_
          exact List.any_eq_true.mpr ⟨old, member, (Connection.sameEndpoints_iff _ _).mpr same⟩

/-- A device that is found stands on the list of the station it was made for. -/
theorem listed_of_resolve {id : DeviceId} (found : (host.resolve id).2 = some device) :
    ∃ station, host.plant.stationOf? device = some station ∧
      device ∈ host.plant.deviceRefs station := by
  have stored : (id, device) ∈ host.sweep.registry.entries := Entries.mem_of_lookup found
  rw [registry_sweep] at stored
  exact Plant.listed_of_tracked (List.mem_filter.mp stored).2

/-- With accepted arguments, a call of a device that is found is an attempt to connect. -/
theorem answer_connect {id : DeviceId} (found : (host.resolve id).2 = some device)
    (home : host.plant.stationOf? device = some station) {arguments : List Value}
    {sourceObject sourceSignal targetObject targetSignal : String} {allowCycle : Bool}
    (accepted : Request.ofArguments arguments .addIoConnection =
      .ok (.addIoConnection sourceObject sourceSignal targetObject targetSignal allowCycle))
    {outcome : Host × Bool} (attempt : host.sweep.connect device station sourceObject sourceSignal
      targetObject targetSignal allowCycle = outcome) :
    host.answer id .addIoConnection arguments =
      ⟨outcome.1, .ok [.boolean outcome.2], false⟩ := by
  have swept : host.resolve id = (host.sweep, some device) := Prod.ext rfl found
  have again : host.sweep.plant.stationOf? device = some station := by
    rw [plant_sweep]
    exact home
  simp only [answer, accepted, swept, perform, again, attempt]

/-- A call for a connection is decided: either the connection is accepted and stands at the end of
the list, or the plant is what it was and the log tells why. -/
structure Decided (host : Host) (station : StationRef) (c : Connection) (answer : Answer) :
    Prop where
  reply : answer.reply = .ok [.boolean true] ↔ host.plant.Accepts station c
  added : host.plant.Accepts station c →
    answer.host = host.sweep.modifyPlant (fun p => p.addConnection station c) ∧
      answer.host.plant.connections station = host.plant.connections station ++ [c]
  refused : ¬ host.plant.Accepts station c → answer.reply = .ok [.boolean false] ∧
    answer.host.plant = host.plant ∧ ∃ log texts, texts ≠ [] ∧
      answer.host = { host.sweep with log } ∧ log.toList = host.sweep.log.toList ++
        texts.map fun text => ⟨.warning, host.sweep.prefixed text⟩

theorem answer_decided {id : DeviceId} (found : (host.resolve id).2 = some device)
    (home : host.plant.stationOf? device = some station)
    (mine : device ∈ host.plant.deviceRefs station)
    (distinct : host.plant.NamesDistinct station) {arguments : List Value}
    {sourceObject sourceSignal targetObject targetSignal : String} {allowCycle : Bool}
    (accepted : Request.ofArguments arguments .addIoConnection =
      .ok (.addIoConnection sourceObject sourceSignal targetObject targetSignal allowCycle)) :
    Decided host station (host.plant.newConnection device sourceObject sourceSignal targetObject
      targetSignal allowCycle) (host.answer id .addIoConnection arguments) := by
  have same : host.sweep.plant = host.plant := host.plant_sweep
  have cases := host.sweep.connect_cases (same ▸ distinct) (same ▸ mine) sourceObject
    sourceSignal targetObject targetSignal allowCycle
  rw [same] at cases
  rw [answer_connect found home accepted rfl]
  generalize host.sweep.connect device station sourceObject sourceSignal targetObject targetSignal
    allowCycle = outcome at cases
  cases cases with
  | refused texts given not =>
    rw [same] at not
    refine ⟨by simp [not], fun accepts => absurd accepts not, fun _ => ?_⟩
    obtain ⟨log, whole, messages⟩ := host.sweep.foldl_report .warning texts
    exact ⟨rfl, (congrArg Host.plant whole).trans same, log, texts, given, whole, messages⟩
  | added accepts =>
    rw [same] at accepts
    refine ⟨by simp [accepts], fun _ => ⟨rfl, ?_⟩, fun not => absurd accepts not⟩
    refine (Plant.connections_addConnection _ station station _).trans ?_
    rw [if_pos ⟨rfl, same ▸ Plant.station_of_home home⟩, same]

/-- Two ways of naming the same ends make the same attempt. -/
theorem connect_of_endName (distinct : host.plant.NamesDistinct station)
    (mine : device ∈ host.plant.deviceRefs station) {sourceObject otherSource targetObject
      otherTarget : String}
    (source : host.plant.endName device sourceObject = host.plant.endName device otherSource)
    (target : host.plant.endName device targetObject = host.plant.endName device otherTarget)
    (sourceSignal targetSignal : String) (allowCycle : Bool) :
    host.connect device station sourceObject sourceSignal targetObject targetSignal allowCycle =
      host.connect device station otherSource sourceSignal otherTarget targetSignal
        allowCycle := by
  unfold connect
  rw [endpoint_eq distinct mine, endpoint_eq distinct mine, endpoint_eq distinct mine,
    endpoint_eq distinct mine, source, target]

theorem answer_of_endName {id : DeviceId} (found : (host.resolve id).2 = some device)
    (home : host.plant.stationOf? device = some station)
    (mine : device ∈ host.plant.deviceRefs station)
    (distinct : host.plant.NamesDistinct station) {arguments others : List Value}
    {sourceObject otherSource sourceSignal targetObject otherTarget targetSignal : String}
    {allowCycle : Bool}
    (accepted : Request.ofArguments arguments .addIoConnection =
      .ok (.addIoConnection sourceObject sourceSignal targetObject targetSignal allowCycle))
    (other : Request.ofArguments others .addIoConnection =
      .ok (.addIoConnection otherSource sourceSignal otherTarget targetSignal allowCycle))
    (source : host.plant.endName device sourceObject = host.plant.endName device otherSource)
    (target : host.plant.endName device targetObject = host.plant.endName device otherTarget) :
    host.answer id .addIoConnection arguments = host.answer id .addIoConnection others := by
  have same : host.sweep.plant = host.plant := host.plant_sweep
  rw [answer_connect found home accepted rfl, answer_connect found home other rfl,
    connect_of_endName (same ▸ distinct) (same ▸ mine) (same ▸ source) (same ▸ target)]

end Connect

section Unrepeated

/-- Only one function adds connections. -/
theorem connections_perform (host : Host) (device : DeviceRef) {request : Request}
    (silent : ∀ sourceObject sourceSignal targetObject targetSignal allowCycle, request ≠
      .addIoConnection sourceObject sourceSignal targetObject targetSignal allowCycle)
    (station : StationRef) : (host.perform device request).1.plant.connections station =
      host.plant.connections station := by
  cases request with
  | addIoConnection sourceObject sourceSignal targetObject targetSignal allowCycle =>
    exact absurd rfl (silent _ _ _ _ _)
  | getSignal name =>
    unfold perform signalValue
    dsimp only
    split <;> rfl
  | setSignal name value =>
    unfold perform setSignalOf
    dsimp only
    split <;> rfl
  | iif condition yes no =>
    unfold perform choose
    dsimp only
    split <;> rfl
  | _ => rfl

theorem connections_answer (host : Host) (id : DeviceId) {function : HostFunction}
    (silent : function ≠ .addIoConnection) (arguments : List Value) (station : StationRef) :
    (host.answer id function arguments).host.plant.connections station =
      host.plant.connections station := by
  unfold answer
  cases accepted : Request.ofArguments arguments function with
  | error fault => rfl
  | ok request =>
    have swept : (host.resolve id).1.plant = host.plant := host.plant_sweep
    cases found : host.resolve id with
    | mk after device =>
      rw [found] at swept
      cases device with
      | none =>
        rw [← swept]
        rfl
      | some device =>
        rw [← swept]
        refine connections_perform after device ?_ station
        rintro _ _ _ _ _ rfl
        exact silent (request_of_addIoConnection accepted)

/-- What is joined already is not joined again, whoever asks for it. -/
theorem unrepeated_connect (host : Host) (device : DeviceRef) (station : StationRef)
    (sourceObject sourceSignal targetObject targetSignal : String) (allowCycle : Bool)
    {other : StationRef} (before : host.plant.Unrepeated other) :
    (host.connect device station sourceObject sourceSignal targetObject targetSignal
      allowCycle).1.plant.Unrepeated other := by
  unfold connect
  dsimp only
  split
  · exact before
  · exact before
  · exact before
  · split
    · exact before
    · split
      · exact before
      · rename_i free
        refine Plant.unrepeated_addConnection (fun old listed same => free ?_) before
        exact List.any_eq_true.mpr ⟨old, listed, (Connection.sameEndpoints_iff _ _).mpr same⟩

theorem unrepeated_perform (host : Host) (device : DeviceRef) (request : Request)
    {station : StationRef} (before : host.plant.Unrepeated station) :
    (host.perform device request).1.plant.Unrepeated station := by
  cases request with
  | addIoConnection sourceObject sourceSignal targetObject targetSignal allowCycle =>
    unfold perform
    dsimp only
    split
    · exact before
    · exact host.unrepeated_connect device _ _ _ _ _ _ before
  | _ =>
    unfold Plant.Unrepeated
    rw [host.connections_perform device (by simp) station]
    exact before

theorem unrepeated_answer (host : Host) (id : DeviceId) (function : HostFunction)
    (arguments : List Value) {station : StationRef} (before : host.plant.Unrepeated station) :
    (host.answer id function arguments).host.plant.Unrepeated station := by
  unfold answer
  cases Request.ofArguments arguments function with
  | error fault => exact before
  | ok request =>
    have swept : (host.resolve id).1.plant.Unrepeated station := by
      unfold resolve
      dsimp only
      rw [plant_sweep]
      exact before
    cases found : host.resolve id with
    | mk after device =>
      rw [found] at swept
      cases device with
      | none => exact swept
      | some device => exact after.unrepeated_perform device request swept

end Unrepeated

end Host

end StationScript
