import StationScript.Proofs.Plant.Layout

/-!
Propagation and the queue of changes.

Carrying values into one device writes signals of that device alone. It adds to the queue of the
station, in the order of the connections and at most once for each; everything else that happens to
a plant lets queues alone and only adds connections.
-/

set_option autoImplicit false

namespace StationScript.Plant

/-- The changes that wait in a station; a dropped station has none. -/
def pending (plant : Plant) (ref : StationRef) : List SignalChange :=
  match plant.station? ref with
  | some s => s.pending
  | none => []

/-- No queue changes, and connections come only at the end. -/
structure Grown (before after : Plant) : Prop where
  pending : ∀ ref, after.pending ref = before.pending ref
  connections : ∀ ref, before.connections ref <+: after.connections ref

namespace Grown

theorem refl (plant : Plant) : Grown plant plant := ⟨fun _ => rfl, fun _ => List.prefix_rfl⟩

theorem trans {first second third : Plant} (left : Grown first second)
    (right : Grown second third) : Grown first third :=
  ⟨fun ref => (right.pending ref).trans (left.pending ref),
    fun ref => (left.connections ref).trans (right.connections ref)⟩

/-- What happens to a device happens outside all stations. -/
theorem modifyDevice (plant : Plant) (ref : DeviceRef) (change : Device → Device) :
    Grown plant (plant.modifyDevice ref change) :=
  ⟨fun _ => rfl, fun _ => List.prefix_rfl⟩

end Grown

theorem pending_modifyStation (plant : Plant) (ref : StationRef) (change : Station → Station)
    (other : StationRef) : (plant.modifyStation ref change).pending other =
      if other = ref then ((plant.station? other).map fun s => (change s).pending).getD []
      else plant.pending other := by
  unfold pending
  rw [station?_modifyStation]
  by_cases same : other = ref
  · rw [if_pos same, if_pos same]
    cases plant.station? other <;> rfl
  · rw [if_neg same, if_neg same]

/-- A change that lets the connections of a station alone lets all connections alone. -/
theorem connections_modifyStation (plant : Plant) (ref : StationRef) {change : Station → Station}
    (kept : ∀ s, (change s).connections = s.connections) (other : StationRef) :
    (plant.modifyStation ref change).connections other = plant.connections other := by
  unfold connections
  rw [station?_modifyStation]
  by_cases same : other = ref
  · rw [if_pos same]
    cases plant.station? other with
    | none => rfl
    | some s => exact kept s
  · rw [if_neg same]

theorem connections_takePending (plant : Plant) (ref other : StationRef) :
    (plant.takePending ref).1.connections other = plant.connections other := by
  unfold takePending
  split
  · rfl
  · refine (connections_modifyStation plant ref ?_ other).trans rfl
    exact fun _ => rfl

theorem connections_addConnection (plant : Plant) (ref other : StationRef) (c : Connection) :
    (plant.addConnection ref c).connections other =
      if other = ref ∧ (plant.station? ref).isSome = true then plant.connections other ++ [c]
      else plant.connections other := by
  unfold addConnection connections
  rw [station?_modifyStation]
  by_cases same : other = ref
  · subst same
    cases present : plant.station? other <;> simp
  · simp [same]

/-- No two connections of the station join the same two signals. -/
def Unrepeated (plant : Plant) (ref : StationRef) : Prop :=
  ((plant.connections ref).map Connection.endpoints).Nodup

instance (plant : Plant) (ref : StationRef) : Decidable (plant.Unrepeated ref) :=
  inferInstanceAs (Decidable (List.Nodup _))

theorem unrepeated_addConnection {plant : Plant} {ref : StationRef} {c : Connection}
    (new : ∀ old ∈ plant.connections ref, old.endpoints ≠ c.endpoints) {other : StationRef}
    (before : plant.Unrepeated other) : (plant.addConnection ref c).Unrepeated other := by
  unfold Unrepeated
  rw [connections_addConnection]
  split
  · rename_i here
    rw [List.map_append]
    refine List.nodup_append.mpr ⟨before, by simp, ?_⟩
    intro old listed last member same
    obtain ⟨connection, present, rfl⟩ := List.mem_map.mp listed
    rw [List.mem_singleton.mp member] at same
    exact new connection (here.1 ▸ present) same
  · exact before

section Carry

variable (ref : StationRef) (target : DeviceRef)

theorem connections_carry (plant : Plant) (c : Connection) (other : StationRef) :
    (plant.carry ref target c).connections other = plant.connections other := by
  unfold carry
  split
  · rfl
  · dsimp only
    split
    · refine (connections_modifyStation _ ref ?_ other).trans rfl
      exact fun _ => rfl
    · rfl

/-- Carrying one value queues one change of the target, or nothing. -/
theorem pending_carry {plant : Plant} (present : (plant.station? ref).isSome = true)
    (c : Connection) : (plant.carry ref target c).pending ref = plant.pending ref ∨
      (plant.carry ref target c).pending ref = plant.pending ref ++ [⟨target, c.targetSignal⟩] := by
  obtain ⟨station, found⟩ := Option.isSome_iff_exists.mp present
  unfold carry
  split
  · exact Or.inl rfl
  · dsimp only
    split
    · refine Or.inr ?_
      rw [pending_modifyStation, if_pos rfl, pending]
      simp only [modifySignals, station?_modifyDevice, found]
      rfl
    · exact Or.inl rfl

theorem device_carry_of_ne (plant : Plant) (c : Connection) {other : DeviceRef}
    (differs : other ≠ target) : (plant.carry ref target c).device other = plant.device other := by
  unfold carry
  split
  · rfl
  · rename_i value _
    have written : (plant.modifySignals target fun store =>
        (store.set? c.targetSignal value).1).device other = plant.device other :=
      plant.device_modifyDevice_of_ne differs _
    dsimp only
    split
    · exact written
    · exact written

theorem station_carry {plant : Plant} (present : (plant.station? ref).isSome = true)
    (c : Connection) : ((plant.carry ref target c).station? ref).isSome = true := by
  rcases (SameLayout.carry ref target plant c).station?_cases ref with ⟨none, _⟩ | ⟨_, _, _, new, _⟩
  · rw [none] at present
    cases present
  · rw [new]
    rfl

/-- What carrying one value keeps is kept by carrying many. -/
theorem foldl_carry_keeps {α : Type} (view : Plant → α)
    (kept : ∀ plant c, view (carry ref target plant c) = view plant) (plant : Plant)
    (connections : List Connection) :
    view (connections.foldl (carry ref target) plant) = view plant := by
  induction connections generalizing plant with
  | nil => rfl
  | cons c rest ih => exact (ih _).trans (kept plant c)

theorem foldl_carry_pending {plant : Plant} (present : (plant.station? ref).isSome = true)
    (connections : List Connection) : ∃ carried : List Connection, carried.Sublist connections ∧
      (connections.foldl (carry ref target) plant).pending ref =
        plant.pending ref ++ carried.map fun c => ⟨target, c.targetSignal⟩ := by
  induction connections generalizing plant with
  | nil => exact ⟨[], .slnil, by simp⟩
  | cons c rest ih =>
    obtain ⟨carried, within, queue⟩ := ih (station_carry ref target present c)
    rw [List.foldl_cons, queue]
    rcases pending_carry ref target present c with silent | queued
    · exact ⟨carried, within.cons c, by rw [silent]⟩
    · exact ⟨c :: carried, within.cons_cons c, by rw [queued]; simp⟩

end Carry

theorem connections_propagate (plant : Plant) (ref : StationRef) (object : String)
    (other : StationRef) :
    (plant.propagate ref object).connections other = plant.connections other := by
  unfold propagate
  split
  · rfl
  · rename_i target _
    exact foldl_carry_keeps ref target (fun p => p.connections other)
      (fun p c => connections_carry ref target p c other) plant _

/-- Propagation into a device queues changes of this device, for some of the connections into it. -/
theorem pending_propagate {plant : Plant} {ref : StationRef} {object : String}
    {target : DeviceRef} (found : plant.deviceByName? ref object = some target) :
    ∃ carried : List Connection,
      carried.Sublist ((plant.connections ref).filter fun c => c.targetObject = object) ∧
        (plant.propagate ref object).pending ref =
          plant.pending ref ++ carried.map fun c => ⟨target, c.targetSignal⟩ := by
  unfold propagate
  rw [found]
  exact foldl_carry_pending ref target (station_of_deviceByName? found) _

theorem device_propagate_of_ne {plant : Plant} {ref : StationRef} {object : String}
    {other : DeviceRef} (differs : plant.deviceByName? ref object ≠ some other) :
    (plant.propagate ref object).device other = plant.device other := by
  unfold propagate
  split
  · rfl
  · rename_i target found
    have apart : other ≠ target := fun same => differs (same ▸ found)
    exact foldl_carry_keeps ref target (fun p => p.device other)
      (fun p c => device_carry_of_ne ref target p c apart) plant _

/-- What does not depend on the signals of a device is kept by propagation. -/
theorem project_propagate {α : Type} (project : Device → α)
    (kept : ∀ (d : Device) (signals : SignalStore), project { d with signals } = project d)
    (plant : Plant) (ref : StationRef) (object : String) (other : DeviceRef) :
    project ((plant.propagate ref object).device other) = project (plant.device other) := by
  unfold propagate
  split
  · rfl
  · rename_i target _
    refine foldl_carry_keeps ref target (fun p => project (p.device other)) (fun p c => ?_) plant _
    unfold carry
    split
    · rfl
    · rename_i value _
      have written := p.project_modifyDevice project target
        (fun d => { d with signals := (d.signals.set? c.targetSignal value).1 })
        (fun d => kept d _) other
      dsimp only
      split
      · exact written
      · exact written

end StationScript.Plant
