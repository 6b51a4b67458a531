import StationScript.Proofs.Dispatcher.Along
import StationScript.Proofs.Plant.Propagation

/-!
Only propagation queues changes. Whatever else handling an event does, scripts included, it leaves
every queue alone and adds connections behind those that are there.
-/

set_option autoImplicit false

namespace StationScript.Host

theorem Frame.grown {owner : DeviceRef → Prop} {before after : Host}
    (frame : Frame owner before after) : before.plant.Grown after.plant := by
  constructor
  · intro ref
    unfold Plant.pending
    rcases frame.layout.station?_cases ref with ⟨none, new⟩ | ⟨old, _, present, _⟩
    · rw [none, new]
    · obtain ⟨added, found, _⟩ := frame.stations ref old present
      rw [present, found]
  · intro ref
    unfold Plant.connections
    rcases frame.layout.station?_cases ref with ⟨none, new⟩ | ⟨old, _, present, _⟩
    · simp only [none, new, List.prefix_rfl]
    · obtain ⟨added, found, _⟩ := frame.stations ref old present
      rw [present, found]
      exact List.prefix_append _ _

def Grown (before after : Host) : Prop := before.plant.Grown after.plant

theorem grown_robust : Robust Grown where
  aside same := by
    unfold Grown
    rw [same]
    exact .refl _
  move {device _ before _} move := by
    cases move with
    | report severity text => exact .refl _
    | answer function arguments allowed =>
      exact (before.answer_frame (fun _ => True) _ function arguments fun _ _ => trivial).grown
    | setStatus status => exact .modifyDevice _ device _
    | setScriptPath path => exact .modifyDevice _ device _
  trans := Plant.Grown.trans

end StationScript.Host
