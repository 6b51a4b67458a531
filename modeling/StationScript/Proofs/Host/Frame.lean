import StationScript.Host.Bridge
import StationScript.Proofs.Plant.Layout

/-!
What the host may change, in four degrees.

A host `Writes` if it adds to the log, and only messages of its own. An `Advance` keeps the layout
besides; every event is one. It is `Calm` if nothing is registered. A `Frame` is what the calls of a
script may do: signals and labels of certain devices, and new connections in their stations.
-/

set_option autoImplicit false

namespace StationScript.Host

/-- Whatever was added to the log is the host's own. -/
structure Writes (before after : Host) : Prop where
  logPrefix : after.logPrefix = before.logPrefix
  log : ∃ added, after.log.toList = before.log.toList ++ added ∧
    ∀ message ∈ added, before.owns message.text = true

structure Advance (before after : Host) : Prop extends Writes before after where
  files : after.files = before.files
  clock : after.clock = before.clock
  layout : before.plant.SameLayout after.plant

/-- Devices leave the registry by eviction only. -/
structure Calm (before after : Host) : Prop extends Advance before after where
  registry : after.registry = before.registry ∨ after.registry = before.liveRegistry

/-- Only signals and labels of the owners change, and only their stations get connections. -/
structure Frame (owner : DeviceRef → Prop) (before after : Host) : Prop extends
    Calm before after where
  times : after.times = before.times
  paths : ∀ ref, (after.device ref).scriptPath = (before.device ref).scriptPath
  others : ∀ ref, ¬ owner ref → after.device ref = before.device ref
  count : after.plant.stations.size = before.plant.stations.size
  stations : ∀ s old, before.plant.station? s = some old → ∃ added,
    after.plant.station? s = some { old with connections := old.connections ++ added } ∧
      (added ≠ [] → ∃ ref, owner ref ∧ before.plant.stationOf? ref = some s)

theorem owns_prefixed (host : Host) (text : String) : host.owns (host.prefixed text) = true := by
  unfold owns prefixed
  rw [List.isPrefixOf_iff_prefix, String.append_assoc, String.toList_append]
  exact List.prefix_append _ _

theorem owns_eq {before after : Host} (same : after.logPrefix = before.logPrefix) (text : String) :
    after.owns text = before.owns text := by
  unfold owns
  rw [same]

theorem prefixed_eq {before after : Host} (same : after.logPrefix = before.logPrefix)
    (text : String) : after.prefixed text = before.prefixed text := by
  unfold prefixed
  rw [same]

theorem log_report (host : Host) (severity : Severity) (text : String) :
    (host.report severity text).log.toList =
      host.log.toList ++ [⟨severity, host.prefixed text⟩] :=
  Log.toList_add host.log severity (host.prefixed text)

/-- Reports in a row touch nothing but the log. -/
theorem foldl_report (host : Host) (severity : Severity) (texts : List String) :
    ∃ log, texts.foldl (fun h text => h.report severity text) host = { host with log } ∧
      log.toList = host.log.toList ++ texts.map fun text => ⟨severity, host.prefixed text⟩ := by
  induction texts generalizing host with
  | nil => exact ⟨host.log, rfl, by simp⟩
  | cons text rest ih =>
    obtain ⟨log, whole, messages⟩ := ih (host.report severity text)
    refine ⟨log, whole, ?_⟩
    rw [messages, log_report]
    simp [report, prefixed]

namespace Writes

theorem of_log_eq {before after : Host} (logPrefix : after.logPrefix = before.logPrefix)
    (log : after.log = before.log) : Writes before after :=
  ⟨logPrefix, [], by simp [log]⟩

theorem trans {first second third : Host} (left : Writes first second)
    (right : Writes second third) : Writes first third := by
  refine ⟨right.logPrefix.trans left.logPrefix, ?_⟩
  obtain ⟨front, frontLog, frontOwned⟩ := left.log
  obtain ⟨back, backLog, backOwned⟩ := right.log
  refine ⟨front ++ back, by rw [backLog, frontLog, List.append_assoc], ?_⟩
  intro message member
  rcases List.mem_append.mp member with early | late
  · exact frontOwned message early
  · rw [← owns_eq left.logPrefix]
    exact backOwned message late

end Writes

namespace Advance

theorem refl (host : Host) : Advance host host :=
  ⟨.of_log_eq rfl rfl, rfl, rfl, .refl _⟩

theorem trans {first second third : Host} (left : Advance first second)
    (right : Advance second third) : Advance first third :=
  ⟨left.toWrites.trans right.toWrites, right.files.trans left.files,
    right.clock.trans left.clock, left.layout.trans right.layout⟩

end Advance

/-- Only live devices are left after a sweep, so a second one finds nothing. -/
theorem liveRegistry_idem {before after : Host} (layout : before.plant.SameLayout after.plant)
    (registry : after.registry = before.liveRegistry) :
    after.liveRegistry = before.liveRegistry := by
  unfold liveRegistry
  simp only [layout.tracked_eq, registry, liveRegistry, List.filter_filter, Bool.and_self]

theorem liveRegistry_eq {before after : Host} (layout : before.plant.SameLayout after.plant)
    (registry : after.registry = before.registry) : after.liveRegistry = before.liveRegistry := by
  unfold liveRegistry
  simp only [layout.tracked_eq, registry]

namespace Calm

theorem refl (host : Host) : Calm host host := ⟨.refl host, Or.inl rfl⟩

/-- What a look-up sees does not depend on when the sweep happens. -/
theorem liveRegistry_eq {before after : Host} (calm : Calm before after) :
    after.liveRegistry = before.liveRegistry := by
  rcases calm.registry with same | swept
  · exact Host.liveRegistry_eq calm.layout same
  · exact liveRegistry_idem calm.layout swept

theorem trans {first second third : Host} (left : Calm first second) (right : Calm second third) :
    Calm first third := by
  refine ⟨left.toAdvance.trans right.toAdvance, ?_⟩
  rcases right.registry with same | swept
  · rw [same]
    exact left.registry
  · rw [swept, left.liveRegistry_eq]
    exact Or.inr rfl

end Calm

theorem calm_report (host : Host) (severity : Severity) (text : String) :
    Calm host (host.report severity text) :=
  ⟨⟨⟨rfl, _, host.log_report severity text, by simp [owns_prefixed]⟩, rfl, rfl, .refl _⟩,
    Or.inl rfl⟩

theorem calm_foldl_report (host : Host) (severity : Severity) (texts : List String) :
    Calm host (texts.foldl (fun h text => h.report severity text) host) := by
  induction texts generalizing host with
  | nil => exact .refl host
  | cons text rest ih => exact (host.calm_report severity text).trans (ih _)

/-- A sweep evicts and says so, and does nothing else. -/
theorem sweep_eq (host : Host) :
    ∃ log, host.sweep = { host with registry := host.liveRegistry, log } ∧
    log.toList = host.log.toList ++ host.stale.map fun d =>
      ⟨.information, host.prefixed (evictionText (host.nameOf d))⟩ := by
  obtain ⟨log, whole, messages⟩ :=
    foldl_report { host with registry := host.liveRegistry } .information
      (host.stale.map fun d => evictionText (host.nameOf d))
  refine ⟨log, whole, ?_⟩
  rw [messages, List.map_map]
  rfl

@[simp] theorem plant_sweep (host : Host) : host.sweep.plant = host.plant := by
  obtain ⟨log, whole, _⟩ := host.sweep_eq
  rw [whole]

@[simp] theorem registry_sweep (host : Host) : host.sweep.registry = host.liveRegistry := by
  obtain ⟨log, whole, _⟩ := host.sweep_eq
  rw [whole]

@[simp] theorem times_sweep (host : Host) : host.sweep.times = host.times := by
  obtain ⟨log, whole, _⟩ := host.sweep_eq
  rw [whole]

theorem log_sweep (host : Host) : host.sweep.log.toList = host.log.toList ++
    host.stale.map fun d => ⟨.information, host.prefixed (evictionText (host.nameOf d))⟩ := by
  obtain ⟨log, whole, messages⟩ := host.sweep_eq
  rw [whole]
  exact messages

theorem calm_sweep (host : Host) : Calm host host.sweep := by
  obtain ⟨log, whole, messages⟩ := host.sweep_eq
  rw [whole]
  exact ⟨⟨⟨rfl, _, messages, by simp [owns_prefixed]⟩, rfl, rfl, .refl _⟩, Or.inr rfl⟩

theorem calm_modifyPlant (host : Host) {change : Plant → Plant}
    (layout : host.plant.SameLayout (change host.plant)) : Calm host (host.modifyPlant change) :=
  ⟨⟨.of_log_eq rfl rfl, rfl, rfl, layout⟩, Or.inl rfl⟩

theorem calm_setStatus (host : Host) (ref : DeviceRef) (status : String) :
    Calm host (host.setStatus ref status) :=
  host.calm_modifyPlant (.modifyDevice host.plant ref _ fun _ => rfl)

theorem calm_setScriptPath (host : Host) (ref : DeviceRef) (path : String) :
    Calm host (host.setScriptPath ref path) :=
  host.calm_modifyPlant (.modifyDevice host.plant ref _ fun _ => rfl)

theorem advance_register (host : Host) (ref : DeviceRef) : Advance host (host.register ref) :=
  host.calm_sweep.toAdvance.trans ⟨.of_log_eq rfl rfl, rfl, rfl, .refl _⟩

namespace Frame

variable {owner : DeviceRef → Prop}

theorem mono {before after : Host} {wider : DeviceRef → Prop} (frame : Frame owner before after)
    (within : ∀ ref, owner ref → wider ref) : Frame wider before after := by
  refine ⟨frame.toCalm, frame.times, frame.paths, fun ref other => ?_, frame.count, ?_⟩
  · exact frame.others ref fun own => other (within ref own)
  · intro s old present
    obtain ⟨added, found, owned⟩ := frame.stations s old present
    refine ⟨added, found, fun some => ?_⟩
    obtain ⟨ref, own, home⟩ := owned some
    exact ⟨ref, within ref own, home⟩

/-- Whatever keeps the plant and the times touches no owner. -/
theorem of_calm {before after : Host} (calm : Calm before after)
    (plant : after.plant = before.plant) (times : after.times = before.times) :
    Frame owner before after := by
  have devices (ref : DeviceRef) : after.device ref = before.device ref := by
    unfold device
    rw [plant]
  refine ⟨calm, times, fun ref => congrArg Device.scriptPath (devices ref),
    fun ref _ => devices ref, by rw [plant],
    fun s old present => ⟨[], ?_, fun some => absurd rfl some⟩⟩
  rw [plant, present, List.append_nil]

theorem refl (host : Host) : Frame owner host host := of_calm (.refl host) rfl rfl

theorem report (host : Host) (severity : Severity) (text : String) :
    Frame owner host (host.report severity text) :=
  of_calm (host.calm_report severity text) rfl rfl

theorem sweep (host : Host) : Frame owner host host.sweep :=
  of_calm host.calm_sweep host.plant_sweep host.times_sweep

theorem modifyDevice (host : Host) {ref : DeviceRef} (owned : owner ref)
    (change : Device → Device) (identity : ∀ d, (change d).identity = d.identity)
    (path : ∀ d, (change d).scriptPath = d.scriptPath) :
    Frame owner host (host.modifyPlant fun p => p.modifyDevice ref change) where
  logPrefix := rfl
  files := rfl
  clock := rfl
  log := ⟨[], by simp [modifyPlant]⟩
  layout := .modifyDevice host.plant ref change identity
  registry := Or.inl rfl
  times := rfl
  paths := host.plant.project_modifyDevice Device.scriptPath ref change path
  others other foreign := by
    refine host.plant.device_modifyDevice_of_ne ?_ change
    rintro rfl
    exact foreign owned
  count := rfl
  stations s old present := ⟨[], by simpa [modifyPlant] using present, fun some => absurd rfl some⟩

theorem setStatus (host : Host) {ref : DeviceRef} (owned : owner ref) (status : String) :
    Frame owner host (host.setStatus ref status) :=
  modifyDevice host owned _ (fun _ => rfl) fun _ => rfl

theorem modifySignals (host : Host) {ref : DeviceRef} (owned : owner ref)
    (change : SignalStore → SignalStore) :
    Frame owner host (host.modifyPlant fun p => p.modifySignals ref change) :=
  modifyDevice host owned _ (fun _ => rfl) fun _ => rfl

theorem addConnection (host : Host) {ref : DeviceRef} {s : StationRef} (owned : owner ref)
    (home : host.plant.stationOf? ref = some s) (connection : Connection) :
    Frame owner host (host.modifyPlant fun p => p.addConnection s connection) where
  logPrefix := rfl
  files := rfl
  clock := rfl
  log := ⟨[], by simp [modifyPlant]⟩
  layout := .modifyStation host.plant s _ fun _ => rfl
  registry := Or.inl rfl
  times := rfl
  paths _ := rfl
  others _ _ := rfl
  count := by simp [modifyPlant, Plant.addConnection, Plant.modifyStation]
  stations other old present := by
    simp only [modifyPlant, Plant.addConnection, Plant.station?_modifyStation, present]
    by_cases same : other = s
    · subst same
      exact ⟨[connection], by simp, fun _ => ⟨ref, owned, home⟩⟩
    · exact ⟨[], by simp [same], fun some => absurd rfl some⟩

theorem trans {first second third : Host} (left : Frame owner first second)
    (right : Frame owner second third) : Frame owner first third where
  toCalm := left.toCalm.trans right.toCalm
  times := right.times.trans left.times
  paths ref := (right.paths ref).trans (left.paths ref)
  others ref foreign := (right.others ref foreign).trans (left.others ref foreign)
  count := right.count.trans left.count
  stations s old present := by
    obtain ⟨front, middle, frontOwned⟩ := left.stations s old present
    obtain ⟨back, last, backOwned⟩ := right.stations s _ middle
    refine ⟨front ++ back, by rw [last, List.append_assoc], fun some => ?_⟩
    by_cases early : front = []
    · have late : back ≠ [] := fun none => some (by rw [early, none]; rfl)
      obtain ⟨ref, owned, home⟩ := backOwned late
      exact ⟨ref, owned, (left.layout.stationOf?_eq ref) ▸ home⟩
    · exact frontOwned early

/-- Where no connection is new, the stations are the same. -/
theorem stations_eq {before after : Host} (frame : Frame owner before after)
    (connections : ∀ s, after.plant.connections s = before.plant.connections s) :
    after.plant.stations = before.plant.stations := by
  refine Plant.stations_ext frame.count fun s => ?_
  cases present : before.plant.station? s with
  | none =>
    have listing := frame.layout.listing s
    rw [present] at listing
    exact Option.map_eq_none_iff.mp listing
  | some old =>
    obtain ⟨added, found, _⟩ := frame.stations s old present
    have same := connections s
    unfold Plant.connections at same
    rw [present, found] at same
    rw [found, List.append_right_eq_self.mp same, List.append_nil]

end Frame

end StationScript.Host
