import StationScript.Proofs.Dispatcher.Choosing
import StationScript.Proofs.Dispatcher.Silence

/-!
Events for an id without a session. Either the event calls for the script of the id: then the script
is loaded from the stored path into a new session, and every run of the id comes from there. Or it
does not: then the id still has no session when it is over, and none of its scripts has run.
-/

set_option autoImplicit false

namespace StationScript.Dispatcher

variable {engine : Engine}

/-- The event calls for the script of the id: it loads the script, or calls an entry point of it. -/
def CallsFor (d : Dispatcher engine) (id : DeviceId) : Event → Prop
  | .attached _ | .tornDown _ => False
  | .scriptPathChanged device | .stepped device _ | .libraryReplaced device =>
    (d.host.device device).id = id
  | .signalChanged device signal => (d.host.device device).id = id ∧
      ((d.opensChooser device signal = true ∧ (d.choice device).2 ≠ .unchanged) ∨
        (signal ≠ controlSignal ∧ ∃ s, (d.host.device device).signals.get? signal = some s ∧
          s.kind.isInput = true))
  | .logged now text order => (d.onLogMessage now text order).2 = true ∧
      ∃ device ∈ (d.host.liveDevices order).2, (d.host.device device).id = id

section Uncalled

variable {d : Dispatcher engine} {id : DeviceId} {order : Listing}

/-- A broadcast to other devices spares the id. -/
theorem broadcast_spares_of_absent {d : Dispatcher engine} (sound : d.Sound)
    (devices : List DeviceRef) (others : ∀ device ∈ devices, (d.host.device device).id ≠ id)
    (binds : ∀ device ∈ devices, d.host.Binds device) :
    Spares id (d.broadcastExecutions devices) d (d.broadcast devices) := by
  induction devices generalizing d with
  | nil => exact .refl d
  | cons device rest ih =>
    have handling := d.refreshLogged_handling device
    have first : Spares id (d.refreshExecutions device) d (d.refreshLogged device) :=
      .of_serving (d.refreshLogged_serving device) sound (binds device List.mem_cons_self)
        (others device List.mem_cons_self)
    apply first.trans
    apply ih (handling.sound sound)
    · intro other listed own
      exact others other (List.mem_cons_of_mem _ listed)
        ((handling.calm.layout.id_eq other).symm.trans own)
    · exact fun other listed => (binds other (List.mem_cons_of_mem _ listed)).calm handling.calm

/-- No two devices that are refreshed together have one id. -/
theorem ids_apart_of_listed (keyed : d.host.Keyed) {device : DeviceRef}
    {earlier later : List DeviceRef}
    (listed : (d.host.liveDevices order).2 = earlier ++ device :: later) :
    ∀ other ∈ earlier ++ later, (d.host.device other).id ≠ (d.host.device device).id := by
  have swept := keyed.calm d.host.calm_sweep
  have plant (ref : DeviceRef) : d.host.sweep.device ref = d.host.device ref := d.device_swept ref
  have ids : ((d.host.liveDevices order).2.map fun ref => (d.host.device ref).id).Nodup := by
    have distinct := swept.distinct
    rw [← swept.ids_eq] at distinct
    simp only [plant] at distinct
    exact ((order.perm d.host.sweep.registry.devices).map _).nodup_iff.mpr distinct
  rw [listed, (List.perm_middle.map _).nodup_iff, List.map_cons, List.nodup_cons] at ids
  intro other member own
  exact ids.1 (List.mem_map.mpr ⟨other, member, own⟩)

theorem opensChooser_iff {d : Dispatcher engine} {device : DeviceRef} {signal : String} :
    d.opensChooser device signal = true ↔ signal = controlSignal ∧ ∃ s,
      (d.host.device device).signals.get? signal = some s ∧ (s.value == 1.0) = true := by
  unfold opensChooser
  rw [Bool.and_eq_true, decide_eq_true_iff]
  cases (d.host.device device).signals.get? signal with
  | none => simp
  | some s => simp

/-- A change of a signal that is no reason to call the script is a question to the user at most. -/
theorem signalChanged_spares_of_uncalled {device : DeviceRef} {signal : String}
    (own : (d.host.device device).id = id)
    (uncalled : ¬ d.CallsFor id (.signalChanged device signal)) :
    Spares id (d.executions (.signalChanged device signal)) d
      (d.handle (.signalChanged device signal)) := by
  by_cases opens : d.opensChooser device signal = true
  · have cancelled : (d.choice device).2 = .unchanged :=
      Classical.byContradiction fun chosen => uncalled ⟨own, .inl ⟨opens, chosen⟩⟩
    obtain ⟨rfl, s, found, set⟩ := opensChooser_iff.mp opens
    obtain ⟨handled, runs⟩ := handle_of_set found set
    rw [← choice_register] at cancelled
    obtain ⟨whole, none⟩ := chooseScript_of_unchanged cancelled
    rw [handled, runs, whole, none]
    exact .of_quiet rfl fun ref => d.device_register device ref
  · have ignored (s : Signal) (found : (d.host.device device).signals.get? signal = some s) :
        if signal = controlSignal then (s.value == 1.0) = false else s.kind.isInput = false := by
      by_cases control : signal = controlSignal
      · rw [if_pos control, ← Bool.not_eq_true]
        exact fun set => opens (opensChooser_iff.mpr ⟨control, s, found, set⟩)
      · rw [if_neg control, ← Bool.not_eq_true]
        exact fun input => uncalled ⟨own, .inr ⟨control, s, found, input⟩⟩
    obtain ⟨whole, none⟩ := onSignalChanged_of_ignored ignored
    rw [whole, none]
    exact d.register_spares device

/-- A refresh of other devices spares the id, and so does a message that leads to none. -/
theorem logged_spares_of_uncalled (sound : d.Sound) (keyed : d.host.Keyed) {now : Nat}
    {text : String} (uncalled : ¬ d.CallsFor id (.logged now text order)) :
    Spares id (d.executions (.logged now text order)) d (d.handle (.logged now text order)) := by
  cases granted : (d.onLogMessage now text order).2 with
  | false =>
    have same : d.handle (.logged now text order) = d := onLogMessage_of_refused granted
    rw [same, loggedExecutions_of_refused granted]
    exact .refl d
  | true =>
    have whole : d.handle (.logged now text order) =
        { d.swept.broadcast (d.host.liveDevices order).2 with lastRefresh := some now } :=
      onLogMessage_of_granted granted
    have swept := d.swept_handling
    have refreshed : Spares id (d.swept.broadcastExecutions (d.host.liveDevices order).2) d.swept
        (d.swept.broadcast (d.host.liveDevices order).2) := by
      apply broadcast_spares_of_absent (swept.sound sound)
      · intro device listed own
        apply uncalled
        exact ⟨granted, device, listed, (swept.calm.layout.id_eq device).symm.trans own⟩
      · exact fun device listed =>
          (sweep_binds keyed device (Host.mem_liveDevices_sweep.mp listed)).2
    have spared := d.swept_spares.trans refreshed
    rw [whole, loggedExecutions_of_granted granted]
    exact ⟨spared.session, spared.devices, spared.others⟩

/-- To tear down an id without a session gives up no machine. -/
theorem teardown_spares_of_new (new : d.session? id = none) :
    Spares id (d.tornDownExecutions id) d (d.teardown id) := by
  have erased : (Entries.erase d.sessions id).lookup id = none := Entries.lookup_erase_self _ _
  unfold tornDownExecutions teardown releaseMachine
  rw [new]
  exact .of_quiet (erased.trans new.symm) fun _ => rfl

/-- An event that does not call for the script of an id without a session spares the id, once what
comes before the registration of its device is done. -/
theorem handle_spares_of_uncalled (sound : d.Sound) (keyed : d.host.Keyed)
    (new : d.session? id = none) {e : Event} (uncalled : ¬ d.CallsFor id e) :
    Spares id (d.executions e) (d.prepare e) (d.handle e) := by
  cases e with
  | attached device => exact d.register_spares device
  | scriptPathChanged device => exact handle_spares_of_other sound rfl uncalled
  | stepped device time => exact handle_spares_of_other sound rfl uncalled
  | libraryReplaced device => exact handle_spares_of_other sound rfl uncalled
  | tornDown gone =>
    by_cases same : gone = id
    · rw [same]
      exact teardown_spares_of_new new
    · exact teardown_spares sound keyed same
  | signalChanged device signal =>
    by_cases own : (d.host.device device).id = id
    · exact signalChanged_spares_of_uncalled own uncalled
    · exact handle_spares_of_other sound rfl own
  | logged now text order => exact logged_spares_of_uncalled sound keyed uncalled

end Uncalled

/-- The path that a choice of a script leaves stored for the device. -/
def chosenPath (d : Dispatcher engine) (device : DeviceRef) : String :=
  match (d.choice device).2 with
  | .path path => path
  | .unchanged | .reopen => (d.host.device device).scriptPath

/-- The dispatcher once the user was asked for a script and the choice is stored. -/
def withChoice (d : Dispatcher engine) (device : DeviceRef) : Dispatcher engine :=
  ({ d with asked := (d.choice device).1 } : Dispatcher engine).storePath device
    (d.chosenPath device)

/-- The path that is stored for the device when the event comes to load its script. -/
def pathFor (d : Dispatcher engine) (device : DeviceRef) : Event → String
  | .signalChanged _ signal =>
    if d.opensChooser device signal then d.chosenPath device else (d.host.device device).scriptPath
  | _ => (d.host.device device).scriptPath

/-- What follows a load within an event: nothing, or one call of an entry point. -/
inductive Follows (device : DeviceRef) (loaded : Dispatcher engine) :
    Dispatcher engine → List (Execution engine) → Prop where
  | nothing : Follows device loaded loaded []
  | call (entry : String) (arguments : List Value) :
    Follows device loaded (loaded.dispatch device entry arguments)
      (loaded.dispatchExecutions device entry arguments)

/-- An event loads the script of a device with the id, which had no session so far. At the `start`
of the load the host has only come so far as events come; the path is the one that is stored. All
runs of the id are the one of this load and what follows it, and the session that is left is the one
they leave. -/
structure FreshLoad (d : Dispatcher engine) (id : DeviceId) (e : Event) (device : DeviceRef)
    (start after : Dispatcher engine) (front calls back : List (Execution engine)) : Prop where
  own : (d.host.device device).id = id
  advance : d.host.Advance start.host
  new : start.session? id = none
  path : (start.host.device device).scriptPath = d.pathFor device e
  loads : (start.reload device).session? id =
    some ((Session.new id).load start.host (d.pathFor device e)).1
  follows : Follows device (start.reload device) after calls
  runs : d.executions e = front ++ (start.reloadExecutions device ++ calls) ++ back
  others : ∀ x ∈ front ++ back, x.id ≠ id
  left : (d.handle e).session? id = after.session? id

/-- The event loads the script of the id into a new session. -/
def LoadsAfresh (d : Dispatcher engine) (id : DeviceId) (e : Event) : Prop :=
  ∃ device start after front calls back, d.FreshLoad id e device start after front calls back

section Called

variable {d : Dispatcher engine} {id : DeviceId} {device : DeviceRef}

theorem loads_of_new {start : Dispatcher engine} (own : (start.host.device device).id = id)
    (new : start.session? id = none) : (start.reload device).session? id =
      some ((Session.new id).load start.host (start.host.device device).scriptPath).1 := by
  have session : start.sessionFor id = .new id := by
    unfold sessionFor
    rw [new]
    rfl
  rw [session?_reload, if_pos own.symm, session]

theorem ensure_of_new (new : d.session? (d.host.device device).id = none) :
    d.ensure device = d.reload device ∧ d.ensureExecutions device = d.reloadExecutions device := by
  unfold ensure ensureExecutions
  rw [new]
  exact ⟨rfl, rfl⟩

/-- An event whose whole course is a load and what follows it. -/
theorem loadsAfresh_of_start {e : Event} {start after : Dispatcher engine}
    {calls : List (Execution engine)} (own : (d.host.device device).id = id)
    (advance : d.host.Advance start.host) (new : start.session? id = none)
    (path : (start.host.device device).scriptPath = d.pathFor device e)
    (follows : Follows device (start.reload device) after calls)
    (runs : d.executions e = start.reloadExecutions device ++ calls)
    (handled : d.handle e = after) : d.LoadsAfresh id e := by
  have id : (start.host.device device).id = id := (advance.layout.id_eq device).trans own
  refine ⟨device, start, after, [], calls, [], own, advance, new, path, ?_, follows, ?_, ?_, ?_⟩
  · rw [← path]
    exact loads_of_new id new
  · rw [runs, List.nil_append, List.append_nil]
  · exact fun _ member => absurd member List.not_mem_nil
  · rw [handled]

/-- A choice of a script is stored and then loaded; to load the stored one again is the same, as it
is stored already. -/
theorem chooseScript_of_chosen (chosen : (d.choice device).2 ≠ .unchanged) :
    d.chooseScript device = (d.withChoice device).reload device ∧
      d.chooseScriptExecutions device = (d.withChoice device).reloadExecutions device := by
  have stored :=
    ({ d with asked := (d.choice device).1 } : Dispatcher engine).storePath_stored device
  cases taken : (d.choice device).2 with
  | unchanged => exact absurd taken chosen
  | reopen =>
    have whole : d.withChoice device = { d with asked := (d.choice device).1 } := by
      unfold withChoice chosenPath
      rw [taken]
      exact stored
    rw [whole]
    unfold choice at taken
    unfold chooseScript chooseScriptExecutions
    dsimp only
    rw [taken]
    exact ⟨rfl, rfl⟩
  | path path =>
    have whole : d.withChoice device =
        ({ d with asked := (d.choice device).1 } : Dispatcher engine).storePath device path := by
      unfold withChoice chosenPath
      rw [taken]
    rw [whole]
    unfold choice at taken
    unfold chooseScript chooseScriptExecutions
    dsimp only
    rw [taken]
    exact ⟨rfl, rfl⟩

theorem scriptPath_withChoice (present : d.host.plant.Has device) :
    ((d.withChoice device).host.device device).scriptPath = d.chosenPath device := by
  have stored : (d.host.plant.setScriptPath device (d.chosenPath device)).device device =
      { d.host.plant.device device with scriptPath := d.chosenPath device } :=
    (d.host.plant.device_modifyDevice device device _).trans (if_pos ⟨rfl, present⟩)
  exact congrArg Device.scriptPath stored

/-- The user's choice is stored, and then loaded. -/
theorem loadsAfresh_of_chosen (present : d.host.plant.Has device)
    (own : (d.host.device device).id = id) (new : d.session? id = none) {signal : String}
    (opens : d.opensChooser device signal = true) (chosen : (d.choice device).2 ≠ .unchanged) :
    d.LoadsAfresh id (.signalChanged device signal) := by
  obtain ⟨rfl, s, found, set⟩ := opensChooser_iff.mp opens
  obtain ⟨handled, runs⟩ := handle_of_set found set
  have registered := d.host.advance_register device
  have moved := (d.register device).host.calm_setScriptPath device
    ((d.register device).chosenPath device)
  have advance : d.host.Advance ((d.register device).withChoice device).host :=
    registered.trans moved.toAdvance
  have there : (d.register device).host.plant.Has device :=
    (registered.layout.has_iff device).mpr present
  have path : d.pathFor device (.signalChanged device controlSignal) =
      (d.register device).chosenPath device := by
    unfold pathFor chosenPath
    dsimp only
    rw [if_pos opens, choice_register, device_register]
  rw [← choice_register] at chosen
  obtain ⟨whole, started⟩ := chooseScript_of_chosen chosen
  rw [whole] at handled
  rw [started] at runs
  refine loadsAfresh_of_start own advance new ?_ .nothing ?_ handled
  · rw [path]
    exact scriptPath_withChoice there
  · rw [runs, List.append_nil]

/-- What comes before the registration of the device leaves its stored path alone. -/
theorem scriptPath_prepare (d : Dispatcher engine) (e : Event) (device : DeviceRef) :
    (((d.prepare e).register device).host.device device).scriptPath =
      (d.host.device device).scriptPath := by
  obtain ⟨times, prepared⟩ := d.prepare_eq e
  obtain ⟨signals, carried⟩ := d.device_propagated e device
  rw [device_register, prepared]
  have path := congrArg Device.scriptPath carried
  exact path

/-- The device of an event is registered, its script is loaded, and an entry point may be called. -/
theorem loadsAfresh_of_registered {e : Event} (own : (d.host.device device).id = id)
    (new : d.session? id = none)
    (path : d.pathFor device e = (d.host.device device).scriptPath)
    {after : Dispatcher engine} {calls : List (Execution engine)}
    (follows : Follows device (((d.prepare e).register device).reload device) after calls)
    (runs : d.executions e = ((d.prepare e).register device).reloadExecutions device ++ calls)
    (handled : d.handle e = after) : d.LoadsAfresh id e := by
  have advance : d.host.Advance ((d.prepare e).register device).host :=
    (d.prepare_handling e).calm.toAdvance.trans ((d.prepare e).host.advance_register device)
  have held : ((d.prepare e).register device).session? id = none :=
    (d.session?_prepare e id).trans new
  apply loadsAfresh_of_start own advance held _ follows runs handled
  rw [path]
  exact d.scriptPath_prepare e device

theorem broadcast_append (d : Dispatcher engine) (front back : List DeviceRef) :
    d.broadcast (front ++ back) = (d.broadcast front).broadcast back :=
  List.foldl_append

theorem broadcastExecutions_append (d : Dispatcher engine) (front back : List DeviceRef) :
    d.broadcastExecutions (front ++ back) =
      d.broadcastExecutions front ++ (d.broadcast front).broadcastExecutions back := by
  induction front generalizing d with
  | nil => rfl
  | cons device rest ih =>
    simp only [List.cons_append, broadcastExecutions, ih, List.append_assoc]
    rfl

/-- A granted refresh, told by the turn of one device and what comes before and after it. -/
theorem refresh_of_split {now : Nat} {text : String} {order : Listing}
    (granted : (d.onLogMessage now text order).2 = true) {earlier later : List DeviceRef}
    (split : (d.host.liveDevices order).2 = earlier ++ device :: later) :
    d.handle (.logged now text order) =
      { ((d.swept.broadcast earlier).refreshLogged device).broadcast later with
        lastRefresh := some now } ∧
    d.executions (.logged now text order) = d.swept.broadcastExecutions earlier ++
      (d.swept.broadcast earlier).refreshExecutions device ++
      ((d.swept.broadcast earlier).refreshLogged device).broadcastExecutions later := by
  constructor
  · have whole : d.handle (.logged now text order) =
        { d.swept.broadcast (d.host.liveDevices order).2 with lastRefresh := some now } :=
      onLogMessage_of_granted granted
    rw [whole, split, broadcast_append]
    rfl
  · rw [loggedExecutions_of_granted granted, split, broadcastExecutions_append, List.append_assoc]
    rfl

/-- When all devices are refreshed, those that come before and after the device spare its id. -/
theorem broadcast_spares_around (sound : d.Sound)
    {earlier later : List DeviceRef} (binds : ∀ ref ∈ earlier ++ device :: later, d.host.Binds ref)
    (apart : ∀ ref ∈ earlier ++ later, (d.host.device ref).id ≠ id) :
    Spares id (d.broadcastExecutions earlier) d (d.broadcast earlier) ∧
      Spares id (((d.broadcast earlier).refreshLogged device).broadcastExecutions later)
        ((d.broadcast earlier).refreshLogged device)
        (((d.broadcast earlier).refreshLogged device).broadcast later) := by
  have turned := (d.broadcast_handling earlier).trans
    ((d.broadcast earlier).refreshLogged_handling device)
  constructor
  · apply broadcast_spares_of_absent sound
    · exact fun ref member => apart ref (List.mem_append_left _ member)
    · exact fun ref member => binds ref (List.mem_append_left _ member)
  · apply broadcast_spares_of_absent (turned.sound sound)
    · intro ref member same
      have kept : (((d.broadcast earlier).refreshLogged device).host.device ref).id =
          (d.host.device ref).id := turned.calm.layout.id_eq ref
      exact apart ref (List.mem_append_right _ member) (kept.symm.trans same)
    · intro ref member
      exact (binds ref (List.mem_append_right _ (List.mem_cons_of_mem _ member))).calm turned.calm

/-- In a refresh of all devices the turn of the device comes once, and the others leave its id
alone. -/
theorem loadsAfresh_of_refreshed (sound : d.Sound) (keyed : d.host.Keyed)
    (new : d.session? id = none) {now : Nat} {text : String} {order : Listing}
    (granted : (d.onLogMessage now text order).2 = true)
    (listed : device ∈ (d.host.liveDevices order).2)
    (own : (d.host.device device).id = id) : d.LoadsAfresh id (.logged now text order) := by
  obtain ⟨earlier, later, split⟩ := List.append_of_mem listed
  have apart : ∀ ref ∈ earlier ++ later, (d.swept.host.device ref).id ≠ id := by
    intro ref member
    rw [device_swept, ← own]
    exact ids_apart_of_listed keyed split ref member
  have binds : ∀ ref ∈ earlier ++ device :: later, d.swept.host.Binds ref := by
    intro ref member
    rw [← split] at member
    exact (sweep_binds keyed ref (Host.mem_liveDevices_sweep.mp member)).2
  have swept := d.swept_handling
  obtain ⟨before, after⟩ := broadcast_spares_around (swept.sound sound) binds apart
  -- the turn of the device begins as it was, and without a session
  generalize turn : d.swept.broadcast earlier = start at before after
  have reached : Handling d start := turn ▸ swept.trans (d.swept.broadcast_handling earlier)
  have turned := reached.trans (start.refreshLogged_handling device)
  have found : start.host.device device = d.host.device device :=
    (before.devices device ((d.device_swept device).symm ▸ own)).trans (d.device_swept device)
  have held : start.session? id = none := before.session.trans new
  have same : (start.host.device device).id = id := found.symm ▸ own
  obtain ⟨ensured, loading⟩ := ensure_of_new (same ▸ held)
  have path : (start.host.device device).scriptPath = (d.host.device device).scriptPath :=
    congrArg Device.scriptPath found
  obtain ⟨handled, started⟩ := refresh_of_split granted split
  rw [turn] at handled started
  refine ⟨device, start, _, d.swept.broadcastExecutions earlier, _,
    (start.refreshLogged device).broadcastExecutions later, own, reached.calm.toAdvance, held, path,
    ?loads, .call signalChangedEntry [.ofText "", .ofFloat 0.0], ?runs, ?others, ?left⟩
  case loads =>
    have loads := loads_of_new same held
    rw [path] at loads
    exact loads
  case runs =>
    rw [started]
    unfold refreshExecutions
    rw [loading, ensured]
  case others =>
    intro x member
    rcases List.mem_append.mp member with early | late
    · exact before.others x early
    · exact after.others x late
  case left =>
    rw [handled, ← ensured]
    exact after.session

/-- A change of an input is told to the script. -/
theorem handle_of_input {signal : String} (control : signal ≠ controlSignal) {s : Signal}
    (found : (d.host.device device).signals.get? signal = some s) (input : s.kind.isInput = true) :
    d.handle (.signalChanged device signal) =
      ((d.register device).ensure device).dispatch device signalChangedEntry
        [.ofText signal, .ofFloat s.value] ∧
    d.executions (.signalChanged device signal) =
      (d.register device).ensureExecutions device ++
        ((d.register device).ensure device).dispatchExecutions device signalChangedEntry
          [.ofText signal, .ofFloat s.value] := by
  change d.onSignalChanged device signal = _ ∧ d.signalChangedExecutions device signal = _
  unfold onSignalChanged signalChangedExecutions
  dsimp only
  rw [device_register, found]
  dsimp only
  rw [if_neg control, if_neg control, input]
  exact ⟨rfl, rfl⟩

/-- An event that calls for the script of an id without a session loads it afresh. -/
theorem loadsAfresh_of_called (sound : d.Sound) (keyed : d.host.Keyed)
    (new : d.session? id = none) {e : Event} (called : d.CallsFor id e)
    (known : ∀ device, e.device? = some device → d.host.plant.Has device) :
    d.LoadsAfresh id e := by
  have ensured {device : DeviceRef} (own : (d.host.device device).id = id) :
      ((d.prepare e).register device).ensure device =
        ((d.prepare e).register device).reload device ∧
      ((d.prepare e).register device).ensureExecutions device =
        ((d.prepare e).register device).reloadExecutions device := by
    apply ensure_of_new
    have kept : (((d.prepare e).register device).host.device device).id = id := by
      rw [device_register]
      exact ((d.prepare_handling e).calm.layout.id_eq device).trans own
    rw [kept]
    exact (d.session?_prepare e id).trans new
  cases e with
  | attached device => exact called.elim
  | tornDown gone => exact called.elim
  | scriptPathChanged device =>
    exact loadsAfresh_of_registered called new rfl .nothing (List.append_nil _).symm rfl
  | stepped device time =>
    obtain ⟨loaded, runs⟩ := ensured called
    apply loadsAfresh_of_registered called new rfl (.call simulationStepEntry [])
    · rw [← loaded, ← runs]
      rfl
    · rw [← loaded]
      rfl
  | libraryReplaced device =>
    obtain ⟨loaded, runs⟩ := ensured called
    apply loadsAfresh_of_registered called new rfl
      (.call signalChangedEntry [.ofText "", .ofFloat 0.0])
    · rw [← loaded, ← runs]
      rfl
    · rw [← loaded]
      rfl
  | signalChanged device signal =>
    obtain ⟨own, ⟨opens, chosen⟩ | ⟨control, s, found, input⟩⟩ := called
    · exact loadsAfresh_of_chosen (known device rfl) own new opens chosen
    · obtain ⟨loaded, runs⟩ := ensured own
      have closed : d.opensChooser device signal = false := by
        unfold opensChooser
        rw [decide_eq_false control, Bool.false_and]
      have path : d.pathFor device (.signalChanged device signal) =
          (d.host.device device).scriptPath := by
        unfold pathFor
        dsimp only
        rw [closed]
        rfl
      obtain ⟨handled, started⟩ := handle_of_input control found input
      apply loadsAfresh_of_registered own new path
        (.call signalChangedEntry [.ofText signal, .ofFloat s.value])
      · rw [← loaded, ← runs]
        exact started
      · rw [← loaded]
        exact handled
  | logged now text order =>
    obtain ⟨granted, device, listed, own⟩ := called
    exact loadsAfresh_of_refreshed sound keyed new granted listed own

/-- The id has no session. The first event that calls for its script loads the script afresh; any
other event leaves the id without a session, and runs no script of it. -/
structure Unloaded (d : Dispatcher engine) (id : DeviceId) : Prop where
  session : d.session? id = none
  called : ∀ e, (∀ device, e.device? = some device → d.host.plant.Has device) → d.CallsFor id e →
    d.LoadsAfresh id e
  uncalled : ∀ e, ¬ d.CallsFor id e → (d.handle e).session? id = none ∧
    ∀ x ∈ d.executions e, x.id ≠ id

theorem unloaded_of_new (reachable : d.Reachable) (new : d.session? id = none) :
    d.Unloaded id := by
  refine ⟨new, ?called, ?uncalled⟩
  case called =>
    intro e known called
    exact loadsAfresh_of_called reachable.sound reachable.keyed new called known
  case uncalled =>
    intro e uncalled
    have spared := handle_spares_of_uncalled reachable.sound reachable.keyed new uncalled
    exact ⟨spared.session.trans ((d.session?_prepare e id).trans new), spared.others⟩

/-- Once the script is loaded, the id has a session. -/
theorem LoadsAfresh.held {e : Event} (afresh : d.LoadsAfresh id e) :
    (d.handle e).session? id ≠ none := by
  obtain ⟨device, start, after, front, calls, back, load⟩ := afresh
  have loaded := load.loads
  rw [load.left]
  cases load.follows with
  | nothing =>
    rw [loaded]
    exact Option.some_ne_none _
  | call entry arguments =>
    have same : ((start.reload device).host.device device).id = id :=
      ((start.reload_handling device).calm.layout.id_eq device).trans
        ((load.advance.layout.id_eq device).trans load.own)
    rw [session?_dispatch (same.symm ▸ loaded), if_pos same.symm]
    exact Option.some_ne_none _

end Called

end StationScript.Dispatcher
