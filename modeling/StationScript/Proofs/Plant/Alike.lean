import StationScript.Proofs.Plant.Propagation

/-!
Plants that are alike but for one device: the same layout, the same connections, and every other
device the same. The queues of changes are left out, because they are empty whenever two such plants
are compared.
-/

set_option autoImplicit false

namespace StationScript.Plant

/-- Nothing but one device, and what waits in queues, tells the plants apart. -/
structure Alike (hidden : DeviceRef) (one other : Plant) : Prop where
  layout : one.SameLayout other
  devices : ∀ ref, ref ≠ hidden → other.device ref = one.device ref
  connections : ∀ station, other.connections station = one.connections station

namespace Alike

variable {hidden : DeviceRef} {one other : Plant}

theorem refl (plant : Plant) : Alike hidden plant plant :=
  ⟨.refl plant, fun _ _ => rfl, fun _ => rfl⟩

theorem symm (alike : Alike hidden one other) : Alike hidden other one :=
  ⟨alike.layout.symm, fun ref visible => (alike.devices ref visible).symm,
    fun station => (alike.connections station).symm⟩

theorem trans {third : Plant} (left : Alike hidden one other) (right : Alike hidden other third) :
    Alike hidden one third :=
  ⟨left.layout.trans right.layout,
    fun ref visible => (right.devices ref visible).trans (left.devices ref visible),
    fun station => (right.connections station).trans (left.connections station)⟩

/-- What is done to the hidden device does not show. -/
theorem modifyHidden (plant : Plant) (change : Device → Device)
    (identity : ∀ d, (change d).identity = d.identity) :
    Alike hidden plant (plant.modifyDevice hidden change) :=
  ⟨.modifyDevice plant hidden change identity,
    fun _ visible => plant.device_modifyDevice_of_ne visible change, fun _ => rfl⟩

theorem modifyDevice (alike : Alike hidden one other) (ref : DeviceRef) (change : Device → Device)
    (identity : ∀ d, (change d).identity = d.identity) :
    Alike hidden (one.modifyDevice ref change) (other.modifyDevice ref change) := by
  have left := SameLayout.modifyDevice one ref change identity
  have right := SameLayout.modifyDevice other ref change identity
  refine ⟨(left.symm.trans alike.layout).trans right, fun second visible => ?_, alike.connections⟩
  rw [device_modifyDevice, device_modifyDevice, alike.devices second visible]
  by_cases here : second = ref ∧ one.Has second
  · rw [if_pos here, if_pos ⟨here.1, (alike.layout.has_iff second).mpr here.2⟩]
  · rw [if_neg here, if_neg fun also => here ⟨also.1, (alike.layout.has_iff second).mp also.2⟩]

theorem addConnection (alike : Alike hidden one other) (ref : StationRef) (c : Connection) :
    Alike hidden (one.addConnection ref c) (other.addConnection ref c) := by
  have left : SameLayout one (one.addConnection ref c) := .modifyStation one ref _ fun _ => rfl
  have right : SameLayout other (other.addConnection ref c) :=
    .modifyStation other ref _ fun _ => rfl
  refine ⟨(left.symm.trans alike.layout).trans right, alike.devices, fun station => ?_⟩
  rw [connections_addConnection, connections_addConnection, alike.connections,
    alike.layout.station_isSome_eq]

/-- What becomes of a queue does not show. -/
theorem enqueue (plant : Plant) (ref : StationRef) (queue : List SignalChange → List SignalChange) :
    Alike hidden plant
      (plant.modifyStation ref fun s => { s with pending := queue s.pending }) := by
  refine ⟨.modifyStation plant ref _ fun _ => rfl, fun _ _ => rfl, fun station => ?_⟩
  refine connections_modifyStation plant ref ?_ station
  exact fun _ => rfl

theorem both {left right : Plant} (alike : Alike hidden one other) (first : Alike hidden one left)
    (second : Alike hidden other right) : Alike hidden left right :=
  (first.symm.trans alike).trans second

end Alike

section Propagate

variable {hidden : DeviceRef} {one other : Plant} {ref : StationRef}

/-- Queues that are equal stay so when the same change is put into them. -/
theorem pending_enqueue (layout : one.SameLayout other)
    (queue : other.pending ref = one.pending ref) (change : SignalChange) :
    (other.modifyStation ref fun s => { s with pending := s.pending ++ [change] }).pending ref =
      (one.modifyStation ref fun s => { s with pending := s.pending ++ [change] }).pending ref := by
  rw [pending_modifyStation, pending_modifyStation, if_pos rfl, if_pos rfl]
  unfold pending at queue
  rcases layout.station?_cases ref with ⟨old, new⟩ | ⟨_, _, old, new, _⟩
  · rw [old, new]
  · rw [old, new] at queue ⊢
    exact congrArg (· ++ [change]) queue

/-- A source that is not the hidden device has the same value. -/
theorem sourceValue?_alike (alike : Alike hidden one other) {c : Connection}
    (source : one.deviceByName? ref c.sourceObject ≠ some hidden) :
    other.sourceValue? ref c = one.sourceValue? ref c := by
  unfold sourceValue?
  rw [alike.layout.deviceByName?_eq]
  cases found : one.deviceByName? ref c.sourceObject with
  | none => rfl
  | some device =>
    have visible : device ≠ hidden := fun same => source (same ▸ found)
    dsimp only
    rw [alike.devices device visible]

/-- Values that do not come from the hidden device are carried in the same way, and the same changes
are queued. -/
theorem carry_alike (alike : Alike hidden one other) (queue : other.pending ref = one.pending ref)
    {target : DeviceRef} (visible : target ≠ hidden) {c : Connection}
    (source : one.deviceByName? ref c.sourceObject ≠ some hidden) :
    Alike hidden (one.carry ref target c) (other.carry ref target c) ∧
      (other.carry ref target c).pending ref = (one.carry ref target c).pending ref := by
  unfold carry
  rw [sourceValue?_alike alike source]
  cases one.sourceValue? ref c with
  | none => exact ⟨alike, queue⟩
  | some value =>
    dsimp only
    rw [alike.devices target visible]
    have written : Alike hidden
        (one.modifySignals target fun store => (store.set? c.targetSignal value).1)
        (other.modifySignals target fun store => (store.set? c.targetSignal value).1) :=
      alike.modifyDevice target _ fun _ => rfl
    split
    · refine ⟨written.both (.enqueue _ ref (· ++ [⟨target, c.targetSignal⟩]))
        (.enqueue _ ref (· ++ [⟨target, c.targetSignal⟩])), ?_⟩
      exact pending_enqueue written.layout queue _
    · exact ⟨written, queue⟩

theorem foldl_carry_alike (alike : Alike hidden one other)
    (queue : other.pending ref = one.pending ref) {target : DeviceRef} (visible : target ≠ hidden)
    {connections : List Connection}
    (sources : ∀ c ∈ connections, one.deviceByName? ref c.sourceObject ≠ some hidden) :
    Alike hidden (connections.foldl (carry ref target) one)
        (connections.foldl (carry ref target) other) ∧
      (connections.foldl (carry ref target) other).pending ref =
        (connections.foldl (carry ref target) one).pending ref := by
  induction connections generalizing one other with
  | nil => exact ⟨alike, queue⟩
  | cons c rest ih =>
    obtain ⟨next, still⟩ := carry_alike alike queue visible (sources c List.mem_cons_self)
    refine ih next still fun later member => ?_
    rw [(SameLayout.carry ref target one c).deviceByName?_eq]
    exact sources later (List.mem_cons_of_mem _ member)

/-- Propagation into a visible device is the same where nothing comes from the hidden one. -/
theorem propagate_alike (alike : Alike hidden one other)
    (queue : other.pending ref = one.pending ref) {object : String}
    (visible : one.deviceByName? ref object ≠ some hidden)
    (sources : ∀ c ∈ one.connections ref, one.deviceByName? ref c.sourceObject ≠ some hidden) :
    Alike hidden (one.propagate ref object) (other.propagate ref object) ∧
      (other.propagate ref object).pending ref = (one.propagate ref object).pending ref := by
  unfold propagate
  rw [alike.layout.deviceByName?_eq, alike.connections]
  cases found : one.deviceByName? ref object with
  | none => exact ⟨alike, queue⟩
  | some target =>
    refine foldl_carry_alike alike queue (fun same => visible (same ▸ found)) fun c member => ?_
    exact sources c (List.mem_filter.mp member).1

/-- Propagation into the hidden device does not show. -/
theorem propagate_hidden (plant : Plant) {object : String}
    (found : plant.deviceByName? ref object = some hidden) :
    Alike hidden plant (plant.propagate ref object) := by
  refine ⟨.propagate plant ref object, fun second visible => ?_,
    plant.connections_propagate ref object⟩
  refine device_propagate_of_ne fun same => visible ?_
  exact Option.some.inj (same.symm.trans found)

end Propagate

end StationScript.Plant
