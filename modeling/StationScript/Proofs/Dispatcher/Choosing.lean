import StationScript.Proofs.Dispatcher.Stopped

/-!
Choosing a script. The control signal leads to the same load as a change of the stored path does;
the two ways differ in whether the device is registered before or after its path is stored, and
registering does not look at paths.
-/

set_option autoImplicit false

namespace StationScript

namespace Plant

/-- Storing the path that is stored already changes nothing. -/
theorem setScriptPath_stored (plant : Plant) (ref : DeviceRef) :
    plant.setScriptPath ref (plant.device ref).scriptPath = plant := by
  have devices : (plant.devices.modify ref.index fun d =>
      { d with scriptPath := (plant.device ref).scriptPath }) = plant.devices := by
    refine Array.ext (by simp) fun i inside within => ?_
    rw [Array.getElem_modify]
    split
    · rename_i same
      subst same
      simp [Plant.device, Array.getD, within]
    · rfl
  exact congrArg (fun devices => { plant with devices }) devices

end Plant

namespace Host

/-- A sweep does the same before and after a change of the plant that keeps the layout. -/
theorem sweep_modifyPlant (host : Host) {change : Plant → Plant}
    (layout : host.plant.SameLayout (change host.plant)) :
    (host.modifyPlant change).sweep = host.sweep.modifyPlant change := by
  have reports (texts : List String) (host : Host) :
      texts.foldl info (host.modifyPlant change) = (texts.foldl info host).modifyPlant change :=
    List.foldl_hom (fun host : Host => host.modifyPlant change) fun _ _ => rfl
  have live : (host.modifyPlant change).liveRegistry = host.liveRegistry :=
    liveRegistry_eq layout rfl
  have stale : (host.modifyPlant change).stale = host.stale := by
    unfold stale modifyPlant
    simp only [layout.tracked_eq]
  have name (ref : DeviceRef) : (host.modifyPlant change).nameOf ref = host.nameOf ref :=
    layout.name_eq ref
  unfold sweep
  simp only [live, stale, name]
  exact reports _ { host with registry := host.liveRegistry }

/-- So does a registration. -/
theorem register_modifyPlant (host : Host) {change : Plant → Plant}
    (layout : host.plant.SameLayout (change host.plant)) (device : DeviceRef) :
    (host.modifyPlant change).register device = (host.register device).modifyPlant change := by
  have id : ((host.sweep.modifyPlant change).device device).id = (host.sweep.device device).id := by
    rw [← host.plant_sweep] at layout
    exact layout.id_eq device
  unfold register
  dsimp only
  rw [sweep_modifyPlant host layout, id]
  rfl

end Host

namespace Dispatcher

variable {engine : Engine}

/-- The user's answer to the question for a script. -/
def answer? (d : Dispatcher engine) (device : DeviceRef) : Option String :=
  d.chooser.script d.asked (d.host.nameOf device) (d.host.device device).scriptPath

/-- The user's answer to the question whether to load the stored script again. -/
def confirms (d : Dispatcher engine) (device : DeviceRef) : Bool :=
  d.chooser.reopen (.script (d.host.nameOf device) (d.host.device device).scriptPath :: d.asked)
    (d.host.nameOf device)

/-- The dispatcher with another path stored for the device. -/
def storePath (d : Dispatcher engine) (device : DeviceRef) (path : String) : Dispatcher engine :=
  d.modifyHost fun host => host.setScriptPath device path

section Asked

variable (d : Dispatcher engine) (device : DeviceRef) (asked : List Question)

theorem warnAcyclic_asked : ({ d with asked } : Dispatcher engine).warnAcyclic device =
    { d.warnAcyclic device with asked } := by
  unfold warnAcyclic
  dsimp only
  split
  · rfl
  · split <;> rfl

/-- A load has nothing to do with the questions that were asked. -/
theorem reload_asked : ({ d with asked } : Dispatcher engine).reload device =
    { d.reload device with asked } :=
  (d.loaded device).warnAcyclic_asked device asked

end Asked

theorem register_storePath (d : Dispatcher engine) (device : DeviceRef) (path : String) :
    (d.storePath device path).register device = (d.register device).storePath device path :=
  congrArg (fun host => { d with host })
    (d.host.register_modifyPlant (d.host.calm_setScriptPath device path).layout device)

theorem storePath_stored (d : Dispatcher engine) (device : DeviceRef) :
    d.storePath device (d.host.device device).scriptPath = d :=
  congrArg (fun plant => { d with host := { d.host with plant } })
    (d.host.plant.setScriptPath_stored device)

/-- What a choice comes to, by the answers that it is made of. -/
theorem choice_eq (d : Dispatcher engine) (device : DeviceRef) :
    let asking := .script (d.host.nameOf device) (d.host.device device).scriptPath :: d.asked
    d.choice device = match d.answer? device with
      | none => (asking, .unchanged)
      | some path =>
        if path = (d.host.device device).scriptPath then
          (.reopen (d.host.nameOf device) :: asking,
            if d.confirms device then .reopen else .unchanged)
        else (asking, .path path) := rfl

/-- The change of a set control signal is a choice of the registered device. -/
theorem handle_of_set {d : Dispatcher engine} {device : DeviceRef} {s : Signal}
    (found : (d.host.device device).signals.get? controlSignal = some s)
    (set : (s.value == 1.0) = true) :
    d.handle (.signalChanged device controlSignal) = (d.register device).chooseScript device ∧
      d.executions (.signalChanged device controlSignal) =
        (d.register device).chooseScriptExecutions device := by
  change d.onSignalChanged device controlSignal = _ ∧
    d.signalChangedExecutions device controlSignal = _
  unfold onSignalChanged signalChangedExecutions
  dsimp only
  rw [device_register, found]
  dsimp only
  rw [if_pos rfl, if_pos rfl, if_pos set, if_pos set]
  exact ⟨rfl, rfl⟩

theorem chooseScript_of_reopen {d : Dispatcher engine} {device : DeviceRef}
    (chosen : (d.choice device).2 = .reopen) :
    d.chooseScript device = { d.reload device with asked := (d.choice device).1 } := by
  rw [← reload_asked]
  unfold choice at chosen
  unfold chooseScript
  dsimp only
  rw [chosen]
  rfl

theorem chooseScript_of_path {d : Dispatcher engine} {device : DeviceRef} {path : String}
    (chosen : (d.choice device).2 = .path path) : d.chooseScript device =
      { (d.storePath device path).reload device with asked := (d.choice device).1 } := by
  rw [← reload_asked]
  unfold choice at chosen
  unfold chooseScript
  dsimp only
  rw [chosen]
  rfl

theorem asked_chooseScript (d : Dispatcher engine) (device : DeviceRef) :
    (d.chooseScript device).asked = (d.choice device).1 := by
  cases chosen : (d.choice device).2 with
  | unchanged => rw [(chooseScript_of_unchanged chosen).1]
  | reopen => rw [chooseScript_of_reopen chosen]
  | path path => rw [chooseScript_of_path chosen]

/-- To choose a script is to change the stored path. If the user names a path that is not stored
yet, or the stored one and confirms it, then the change of the set control signal ends like the
change of the path would have ended if the path had been stored before. If the user names none, or
does not confirm, nothing happens but the registration. The confirmation is asked for exactly if the
stored path is named. -/
theorem choosing_changes_path (d : Dispatcher engine) (device : DeviceRef) (s : Signal)
    (found : (d.host.device device).signals.get? controlSignal = some s)
    (set : (s.value == 1.0) = true) :
    (∀ path, d.answer? device = some path →
      (path ≠ (d.host.device device).scriptPath ∨ d.confirms device = true) →
      ∃ asked, d.handle (.signalChanged device controlSignal) =
        { (d.storePath device path).handle (.scriptPathChanged device) with asked }) ∧
    (d.answer? device = none ∨ (d.answer? device = some (d.host.device device).scriptPath ∧
        d.confirms device = false) →
      d.executions (.signalChanged device controlSignal) = [] ∧
      ∃ asked, d.handle (.signalChanged device controlSignal) =
        { d.register device with asked }) ∧
    ∃ put, (d.handle (.signalChanged device controlSignal)).asked = put ++ d.asked ∧
      ∀ name, .reopen name ∈ put ↔
        name = d.host.nameOf device ∧
          d.answer? device = some (d.host.device device).scriptPath := by
  obtain ⟨handled, executions⟩ := handle_of_set found set
  have same := d.choice_register device
  have choice := d.choice_eq device
  rw [handled, executions]
  refine ⟨fun path answered taken => ?named, ?cancelled, ?questions⟩
  case named =>
    rw [answered] at choice
    by_cases stored : path = (d.host.device device).scriptPath
    · have confirmed := taken.resolve_left (not_not_intro stored)
      have chosen : ((d.register device).choice device).2 = .reopen := by
        rw [same, choice]
        simp only [stored, if_true, confirmed]
      rw [chooseScript_of_reopen chosen, stored, storePath_stored]
      exact ⟨_, rfl⟩
    · have chosen : ((d.register device).choice device).2 = .path path := by
        rw [same, choice]
        simp only [stored, if_false]
      rw [chooseScript_of_path chosen, ← register_storePath]
      exact ⟨_, rfl⟩
  case cancelled =>
    intro cancelled
    have chosen : ((d.register device).choice device).2 = .unchanged := by
      rw [same, choice]
      rcases cancelled with none | ⟨stored, refused⟩
      · simp only [none]
      · simp only [stored, if_true, refused, Bool.false_eq_true, if_false]
    obtain ⟨after, never⟩ := chooseScript_of_unchanged chosen
    exact ⟨never, _, after⟩
  case questions =>
    rw [asked_chooseScript, same, choice]
    cases d.answer? device with
    | none => exact ⟨[_], rfl, by simp⟩
    | some path =>
      dsimp only
      split
      · rename_i stored
        exact ⟨[_, _], rfl, by simp [stored]⟩
      · rename_i other
        exact ⟨[_], rfl, by simp [other]⟩

/-- The cell whose user is asked for a script and gives this answer, and does not confirm. -/
def askingCell (answer : Option String) :
    Dispatcher (.repeating (.call .clearSignals [] fun _ => .done ())) :=
  { new (Host.cell.modifyPlant fun p => p.modifySignals ⟨0⟩ fun store =>
      (store.set? controlSignal 1.0).1) {} with
    chooser := ⟨fun _ _ _ => answer, fun _ _ => false⟩ }

/-- Another file is loaded as if its path had been stored; the stored one is not loaded, as this is
not confirmed. -/
theorem choosing_changes_path_askingCell :
    (∃ asked, (askingCell (some "press.lua")).handle (.signalChanged ⟨0⟩ controlSignal) =
      { ((askingCell (some "press.lua")).storePath ⟨0⟩ "press.lua").handle
          (.scriptPathChanged ⟨0⟩) with asked }) ∧
    ((askingCell (some "press.lua")).handle
      (.signalChanged ⟨0⟩ controlSignal)).sessionState? ⟨"gripper"⟩ = some .ready ∧
    (askingCell (some "gripper.lua")).executions (.signalChanged ⟨0⟩ controlSignal) = [] ∧
    ∃ put, ((askingCell (some "gripper.lua")).handle (.signalChanged ⟨0⟩ controlSignal)).asked =
      put ++ [] ∧ .reopen "Gripper" ∈ put := by
  have held : (((askingCell none).host.device ⟨0⟩).signals.get? controlSignal).map
      (fun s => s.value == 1.0) = some true := by decide +kernel
  obtain ⟨s, found, set⟩ := Option.map_eq_some_iff.mp held
  obtain ⟨named, _, _⟩ := choosing_changes_path (askingCell (some "press.lua")) ⟨0⟩ s found set
  obtain ⟨_, cancelled, put, asked, questions⟩ :=
    choosing_changes_path (askingCell (some "gripper.lua")) ⟨0⟩ s found set
  refine ⟨named "press.lua" rfl (.inl (by decide)), by decide +kernel, ?_, put, asked, ?_⟩
  · exact (cancelled (.inr ⟨rfl, rfl⟩)).1
  · exact (questions "Gripper").mpr ⟨rfl, rfl⟩

end Dispatcher

end StationScript
