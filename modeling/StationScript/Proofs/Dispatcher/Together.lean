import StationScript.Proofs.Dispatcher.Alike

/-!
Two dispatchers side by side, each with its own files, that attend to the same station and are alike
but for one device. They stay so through every event of another device and through every broadcast;
an event of the hidden device does not show, provided that its script adds no connection.
-/

set_option autoImplicit false

namespace StationScript

/-- The scripts of all devices but one are the same. -/
def BuiltStation.Shares (built : BuiltStation) (hidden : DeviceRef) (left right : Files) : Prop :=
  ∀ b ∈ built.devices, b.device ≠ hidden → ∀ path, b.script = some path →
    right.readText path = left.readText path

/-- All devices but one stand in the same order. -/
def SameOthers (hidden : DeviceRef) (one other : List DeviceRef) : Prop :=
  other.filter (fun ref => ref ≠ hidden) = one.filter fun ref => ref ≠ hidden

instance (hidden : DeviceRef) (one other : List DeviceRef) :
    Decidable (SameOthers hidden one other) :=
  inferInstanceAs (Decidable (_ = _))

/-- The visible devices have their turns in the same order. -/
inductive Woven (hidden : DeviceRef) : List DeviceRef → List DeviceRef → Prop where
  | nil : Woven hidden [] []
  | left {front back : List DeviceRef} (rest : Woven hidden front back) :
    Woven hidden (hidden :: front) back
  | right {front back : List DeviceRef} (rest : Woven hidden front back) :
    Woven hidden front (hidden :: back)
  | both {device : DeviceRef} (visible : device ≠ hidden) {front back : List DeviceRef}
    (rest : Woven hidden front back) : Woven hidden (device :: front) (device :: back)

theorem Woven.of_sameOthers {hidden : DeviceRef} {one other : List DeviceRef}
    (same : SameOthers hidden one other) : Woven hidden one other := by
  unfold SameOthers at same
  induction one generalizing other with
  | nil =>
    induction other with
    | nil => exact .nil
    | cons second back ih =>
      have all : second = hidden ∧ ∀ ref ∈ back, ref = hidden := by simpa using same
      rw [all.1]
      exact .right (ih (by simpa using all.2))
  | cons first front ih =>
    by_cases unseen : first = hidden
    · rw [unseen]
      exact .left (ih (by simpa [unseen] using same))
    · induction other with
      | nil => simp [unseen] at same
      | cons second back again =>
        by_cases also : second = hidden
        · rw [also]
          exact .right (again (by simpa [also] using same))
        · simp only [ne_eq, unseen, also, not_false_eq_true, decide_true, List.filter_cons_of_pos,
            List.cons.injEq] at same
          obtain ⟨rfl, rest⟩ := same
          exact .both unseen (ih (by simpa using rest))

/-- No run for the device adds a connection. -/
def Execution.Silent {engine : Engine} (hidden : DeviceRef) (runs : List (Execution engine)) :
    Prop :=
  ∀ x ∈ runs, x.device? = some hidden → HostFunction.addIoConnection ∉ x.calls

namespace Execution

variable {engine : Engine} {hidden : DeviceRef} {front back : List (Execution engine)}

theorem Silent.left (silent : Silent hidden (front ++ back)) : Silent hidden front :=
  fun x member => silent x (List.mem_append_left _ member)

theorem Silent.right (silent : Silent hidden (front ++ back)) : Silent hidden back :=
  fun x member => silent x (List.mem_append_right _ member)

end Execution

namespace Dispatcher

variable {engine : Engine}

structure Together (built : BuiltStation) (hidden : DeviceRef) (left right : Files)
    (one other : Dispatcher engine) : Prop where
  alike : Alike hidden one other
  one : one.Attended built left
  other : other.Attended built right

variable {built : BuiltStation} {hidden device : DeviceRef} {left right : Files}
  {one other : Dispatcher engine}

namespace Together

/-- Serving a device on both sides. -/
theorem serving (together : Together built hidden left right one other)
    {first second : Dispatcher engine} {runs more : List (Execution engine)}
    (alike : Alike hidden first second) (served : Serving device runs one first)
    (also : Serving device more other second) : Together built hidden left right first second :=
  ⟨alike, together.one.serving served, together.other.serving also⟩

theorem register (keyed : built.Keyed) (together : Together built hidden left right one other)
    (listed : device ∈ built.refs) :
    Together built hidden left right (one.register device) (other.register device) :=
  ⟨together.alike.register device, together.one.register keyed listed,
    together.other.register keyed listed⟩

/-- Without a chooser a question changes nothing. -/
theorem chooseScript (together : Together built hidden left right one other) (device : DeviceRef) :
    Together built hidden left right (one.chooseScript device) (other.chooseScript device) := by
  refine together.serving ?_ (one.chooseScript_serving device) (other.chooseScript_serving device)
  have asked (d : Dispatcher engine) (none : d.chooser = .none) :
      ∃ questions, d.chooseScript device = { d with asked := questions } := by
    unfold Dispatcher.chooseScript
    rw [none]
    exact ⟨_, rfl⟩
  obtain ⟨mine, first⟩ := asked one together.one.chooser
  obtain ⟨yours, second⟩ := asked other together.other.chooser
  rw [first, second]
  exact ⟨together.alike.host, together.alike.config, together.alike.lastRefresh,
    together.alike.sessions⟩

section Visible

variable (keyed : built.Keyed) (shared : built.Shares hidden left right)
  (together : Together built hidden left right one other) (present : hidden ∈ built.refs)
  (listed : device ∈ built.refs) (visible : device ≠ hidden)

include keyed together present listed visible

include shared in
theorem loaded_alike : Alike hidden (one.loaded device) (other.loaded device) := by
  have same := together.alike.device_eq visible
  have different := together.one.apart keyed listed present visible
  have own := (together.one.sound.sessionFor (one.host.device device).id).1
  have session : other.sessionFor (one.host.device device).id =
      one.sessionFor (one.host.device device).id := by
    unfold sessionFor
    rw [together.alike.sessions _ different]
  have read : (one.host.device device).scriptPath = "" ∨
      other.host.files.readText (one.host.device device).scriptPath =
        one.host.files.readText (one.host.device device).scriptPath := by
    obtain ⟨b, member, rfl⟩ := List.mem_map.mp listed
    rcases together.one.paths b member with empty | given
    · exact Or.inl empty
    · rw [together.one.files, together.other.files]
      exact Or.inr (shared b member visible _ given)
  obtain ⟨after, result, ⟨hosts, _⟩, _⟩ := Session.load_congr _
    (Host.playsAlike_alike hidden visible _)
    ⟨together.alike.host, different, together.one.binds device listed, own⟩ _ read
  have layout := (one.loaded_handling device).calm.layout
  unfold loaded at layout ⊢
  dsimp only at layout ⊢
  rw [same, session, after, result]
  exact together.alike.put (afterLoad_alike hosts device _ _) layout _ rfl

include shared in
theorem reload : Together built hidden left right (one.reload device) (other.reload device) := by
  refine together.serving ?_ (one.reload_serving device) (other.reload_serving device)
  exact (loaded_alike keyed shared together present listed visible).both
    (warnAcyclic_alike _ device) (warnAcyclic_alike _ device)

theorem session?_eq : other.session? (other.host.device device).id =
    one.session? (one.host.device device).id := by
  rw [together.alike.device_eq visible]
  exact together.alike.sessions _ (together.one.apart keyed listed present visible)

include shared in
theorem ensure : Together built hidden left right (one.ensure device) (other.ensure device) := by
  have session := session?_eq keyed together present listed visible
  have reloaded := reload keyed shared together present listed visible
  unfold Dispatcher.ensure
  rw [session]
  split
  · exact together
  · exact reloaded

theorem dispatch (entry : String) (arguments : List Value) :
    Together built hidden left right (one.dispatch device entry arguments)
      (other.dispatch device entry arguments) := by
  refine together.serving ?_ (one.dispatch_serving device entry arguments)
    (other.dispatch_serving device entry arguments)
  have session := session?_eq keyed together present listed visible
  have same := together.alike.device_eq visible
  have layout := (one.dispatch_handling device entry arguments).calm.layout
  unfold Dispatcher.dispatch at layout ⊢
  dsimp only at layout ⊢
  rw [session]
  cases held : one.session? (one.host.device device).id with
  | none => exact together.alike
  | some s =>
    rw [held] at layout
    dsimp only at layout ⊢
    obtain ⟨after, result, ⟨hosts, _⟩, _⟩ := Session.invoke_congr _
      (Host.playsAlike_alike hidden visible _)
      ⟨together.alike.host, together.one.apart keyed listed present visible,
        together.one.binds device listed, (together.one.sound.of_session? held).1⟩ entry arguments
    rw [same, result]
    exact together.alike.put (afterInvoke_alike hosts device entry _) layout _ after

include shared in
theorem refreshLogged :
    Together built hidden left right (one.refreshLogged device) (other.refreshLogged device) := by
  have ensured := ensure keyed shared together present listed visible
  have called := ensured.dispatch keyed present listed visible signalChangedEntry
    [.ofText "", .ofFloat 0.0]
  refine together.serving ?_ (one.refreshLogged_serving device) (other.refreshLogged_serving device)
  exact called.alike.modifyHost (called.alike.host.reports _ _ _ _)
    (Host.calm_report _ .information _).layout

include shared in
theorem onSignalChanged (signal : String) :
    Together built hidden left right (one.onSignalChanged device signal)
      (other.onSignalChanged device signal) := by
  have registered := together.register keyed listed
  have same := registered.alike.device_eq visible
  unfold Dispatcher.onSignalChanged
  dsimp only
  rw [same]
  split
  · exact registered
  · split
    · split
      · exact registered.chooseScript device
      · exact registered
    · split
      · exact (registered.ensure keyed shared present listed visible).dispatch keyed present listed
          visible _ _
      · exact registered

include shared in
/-- An event of a visible device, when its values were carried in the same way. -/
theorem handle {e : Event} (about : e.device? = some device)
    (prepared : Together built hidden left right (one.prepare e) (other.prepare e)) :
    Together built hidden left right (one.handle e) (other.handle e) := by
  cases e <;> cases about
  case attached => exact together.register keyed listed
  case scriptPathChanged =>
    exact (together.register keyed listed).reload keyed shared present listed visible
  case signalChanged signal =>
    exact together.onSignalChanged keyed shared present listed visible signal
  case stepped time =>
    exact ((prepared.register keyed listed).ensure keyed shared present listed visible).dispatch
      keyed present listed visible _ _
  case libraryReplaced =>
    exact ((together.register keyed listed).ensure keyed shared present listed visible).dispatch
      keyed present listed visible _ _

end Visible

end Together

section Hidden

variable {files : Files} {d : Dispatcher engine}

theorem Attended.prepare (attended : Attended built files d) (e : Event) :
    Attended built files (d.prepare e) := by
  cases e with
  | stepped device time =>
    refine attended.handling (d.beginStep_handling device time) rfl fun b _ => Or.inl ?_
    unfold Dispatcher.prepare beginStep
    dsimp only [modifyHost]
    split
    · rfl
    · exact Plant.project_propagate Device.scriptPath (fun _ _ => rfl) _ _ _ b.device
  | _ => exact attended

theorem Attended.sweep (attended : Attended built files d) :
    Attended built files { d with host := d.host.sweep } := by
  refine attended.handling ⟨d.host.calm_sweep, rfl, fun sound => sound.of_sessions_eq rfl⟩ rfl
    fun b _ => Or.inl ?_
  unfold Host.device
  dsimp only
  rw [Host.plant_sweep]

/-- A step of a listed device begins with the connections into it, and with its time. -/
theorem Attended.prepare_stepped (keyed : built.Keyed) (attended : Attended built files d)
    (listed : device ∈ built.refs) (time : Float) :
    d.prepare (.stepped device time) = d.modifyHost fun host =>
      (host.modifyPlant fun p =>
        p.propagate built.station (built.plant.device device).name).recordTime
        (built.plant.device device).id time := by
  have home := (attended.home keyed listed).1
  have name := attended.layout.name_eq device
  have carried : d.host.plant.SameLayout
      (d.host.plant.propagate built.station (built.plant.device device).name) := .propagate _ _ _
  have id := (attended.layout.trans carried).id_eq device
  unfold Dispatcher.prepare beginStep
  dsimp only [modifyHost]
  rw [home]
  dsimp only [Host.modifyPlant, Host.device]
  rw [name, id]

/-- The connections into the hidden device, and the time of its step, do not show. -/
theorem prepare_hidden (keyed : built.Keyed) (attended : Attended built files d)
    (present : hidden ∈ built.refs) (e : Event) (about : e.device? = some hidden) :
    Alike hidden d (d.prepare e) := by
  cases e with
  | stepped device time =>
    cases about
    have name := (attended.home keyed present).2
    have carried : d.host.Alike hidden (d.host.modifyPlant fun p =>
        p.propagate built.station (built.plant.device hidden).name) :=
      .of_calm (d.host.calm_modifyPlant (.propagate _ _ _)) (Plant.propagate_hidden _ name) rfl
    have id : (built.plant.device hidden).id = ((d.host.modifyPlant fun p =>
        p.propagate built.station (built.plant.device hidden).name).device hidden).id :=
      ((attended.layout.trans (.propagate _ _ _)).id_eq hidden).symm
    rw [attended.prepare_stepped keyed present, id]
    exact ⟨carried.trans (.recordHidden _ time), rfl, rfl, fun _ _ => rfl⟩
  | _ => exact .refl d

theorem Serving.silent {runs : List (Execution engine)} {after : Dispatcher engine}
    (attended : Attended built files d) (present : hidden ∈ built.refs)
    (serving : Serving hidden runs d after) (silent : Execution.Silent hidden runs) :
    ¬ Execution.Called runs .addIoConnection := by
  rintro ⟨x, member, call⟩
  have framed := serving.framed attended.sound (attended.binds hidden present) x member
  exact silent x member framed.about call

/-- Serving the hidden device does not show. -/
theorem Serving.alike {runs : List (Execution engine)} {after : Dispatcher engine}
    (attended : Attended built files d) (present : hidden ∈ built.refs)
    (serving : Serving hidden runs d after) (silent : Execution.Silent hidden runs) :
    Alike hidden d after :=
  ⟨Host.Moves.alike (serving.silent attended present silent) (attended.binds hidden present)
      (serving.moves attended.sound),
    serving.config, serving.lastRefresh, serving.sessions⟩

/-- What happened does not show, and the station is attended to as before. -/
structure Unseen (built : BuiltStation) (hidden : DeviceRef) (files : Files)
    (before after : Dispatcher engine) : Prop where
  alike : Alike hidden before after
  attended : Attended built files after

theorem Unseen.trans {first second third : Dispatcher engine}
    (left : Unseen built hidden files first second)
    (right : Unseen built hidden files second third) :
    Unseen built hidden files first third :=
  ⟨left.alike.trans right.alike, right.attended⟩

/-- An event of the hidden device does not show. -/
theorem handle_hidden (keyed : built.Keyed) (attended : Attended built files d)
    (present : hidden ∈ built.refs) {e : Event} (about : e.device? = some hidden)
    (silent : Execution.Silent hidden (d.executions e)) :
    Unseen built hidden files d (d.handle e) := by
  have prepared := attended.prepare e
  have begun := prepare_hidden keyed attended present e about
  have registered := prepared.register keyed present
  have known : Alike hidden (d.prepare e) ((d.prepare e).register hidden) := by
    have host := Host.Alike.register_hidden prepared.keyed (prepared.binds hidden present)
    exact ⟨host, rfl, rfl, fun _ _ => rfl⟩
  have serving := d.handle_serving about
  exact ⟨(begun.trans known).trans (serving.alike registered present silent),
    registered.serving serving⟩

end Hidden

namespace Together

theorem unseen (together : Together built hidden left right one other)
    {first second : Dispatcher engine} (mine : Unseen built hidden left one first)
    (yours : Unseen built hidden right other second) :
    Together built hidden left right first second :=
  ⟨together.alike.both mine.alike yours.alike, mine.attended, yours.attended⟩

/-- The step of a visible device begins in the same way on both sides, and the same changes are
queued, where no connection comes from the hidden device. -/
theorem prepare (keyed : built.Keyed) (together : Together built hidden left right one other)
    (listed : device ∈ built.refs) (visible : device ≠ hidden) (time : Float)
    (queue : other.host.plant.pending built.station = one.host.plant.pending built.station)
    (sources : ∀ c ∈ one.host.plant.connections built.station,
      c.sourceObject ≠ (built.plant.device hidden).name) :
    Together built hidden left right (one.prepare (.stepped device time))
        (other.prepare (.stepped device time)) ∧
      (other.prepare (.stepped device time)).host.plant.pending built.station =
        (one.prepare (.stepped device time)).host.plant.pending built.station := by
  have name := (together.one.home keyed listed).2
  have target : one.host.plant.deviceByName? built.station (built.plant.device device).name ≠
      some hidden := by
    rw [name]
    exact fun same => visible (Option.some.inj same)
  have elsewhere : ∀ c ∈ one.host.plant.connections built.station,
      one.host.plant.deviceByName? built.station c.sourceObject ≠ some hidden := by
    intro c member found
    have same := Plant.name_of_deviceByName? found
    rw [together.one.layout.name_eq] at same
    exact sources c member same.symm
  obtain ⟨carried, queued⟩ :=
    Plant.propagate_alike together.alike.host.plant queue target elsewhere
  have hosts : Host.Alike hidden
      (one.host.modifyPlant fun p => p.propagate built.station (built.plant.device device).name)
      (other.host.modifyPlant fun p =>
        p.propagate built.station (built.plant.device device).name) :=
    together.alike.host.modifyPlant (.propagate _ _ _) (.propagate _ _ _) carried
  refine ⟨⟨?_, together.one.prepare _, together.other.prepare _⟩, ?_⟩
  · rw [together.one.prepare_stepped keyed listed, together.other.prepare_stepped keyed listed]
    exact together.alike.modifyHost (hosts.recordTime _ time) (.propagate _ _ _)
  · rw [together.one.prepare_stepped keyed listed, together.other.prepare_stepped keyed listed]
    exact queued

section Broadcast

variable (keyed : built.Keyed) (shared : built.Shares hidden left right)
  (together : Together built hidden left right one other) (present : hidden ∈ built.refs)

include keyed shared present

include together in
/-- A broadcast refreshes the visible devices in the same way on both sides, wherever the hidden one
has its turn. -/
theorem broadcast {devices again : List DeviceRef} (woven : Woven hidden devices again)
    (within : ∀ ref ∈ devices, ref ∈ built.refs)
    (silent : Execution.Silent hidden (one.broadcastExecutions devices))
    (also : Execution.Silent hidden (other.broadcastExecutions again)) :
    Together built hidden left right (one.broadcast devices) (other.broadcast again) := by
  induction woven generalizing one other with
  | nil => exact together
  | left rest ih =>
    have mine := one.refreshLogged_serving hidden
    have next : Together built hidden left right (one.refreshLogged hidden) other :=
      together.unseen ⟨mine.alike together.one present silent.left, together.one.serving mine⟩
        ⟨.refl other, together.other⟩
    exact ih next (fun ref member => within ref (List.mem_cons_of_mem _ member)) silent.right also
  | right rest ih =>
    have yours := other.refreshLogged_serving hidden
    have next : Together built hidden left right one (other.refreshLogged hidden) :=
      together.unseen ⟨.refl one, together.one⟩
        ⟨yours.alike together.other present also.left, together.other.serving yours⟩
    exact ih next within silent also.right
  | both visible rest ih =>
    have next := together.refreshLogged keyed shared present (within _ List.mem_cons_self) visible
    exact ih next (fun ref member => within ref (List.mem_cons_of_mem _ member)) silent.right
      also.right

include together in
/-- A message leads to the same refreshes on both sides, if it comes at the same instant and the
visible devices have their turns in the same order. -/
theorem onLogMessage (now : Nat) (text : String) {order again : Listing}
    (orders : SameOthers hidden (one.host.liveDevices order).2 (other.host.liveDevices again).2)
    (silent : Execution.Silent hidden (one.loggedExecutions now text order))
    (also : Execution.Silent hidden (other.loggedExecutions now text again)) :
    Together built hidden left right (one.onLogMessage now text order).1
      (other.onLogMessage now text again).1 := by
  have asks : other.asksForRefresh text = one.asksForRefresh text := by
    unfold asksForRefresh
    rw [Host.owns_eq together.alike.host.logPrefix, together.alike.config]
  have window : other.withinWindow now = one.withinWindow now := by
    unfold withinWindow
    rw [together.alike.lastRefresh, together.alike.config]
  unfold loggedExecutions at silent also
  unfold Dispatcher.onLogMessage
  rw [asks, window] at also ⊢
  split
  · exact together
  · rename_i open_
    rw [if_neg open_] at silent also
    unfold Host.liveDevices at silent also orders ⊢
    dsimp only at silent also orders ⊢
    have devices : other.host.sweep.registry.devices = one.host.sweep.registry.devices := by
      rw [Host.registry_sweep, Host.registry_sweep, together.alike.host.live]
    have swept : Together built hidden left right { one with host := one.host.sweep }
        { other with host := other.host.sweep } := by
      have hosts := together.alike.host.both (.sweep one.host) (.sweep other.host)
      exact ⟨together.alike.modifyHost hosts one.host.calm_sweep.layout,
        Attended.sweep together.one, Attended.sweep together.other⟩
    rw [devices] at also orders ⊢
    have refreshed := swept.broadcast keyed shared present (.of_sameOthers orders) ?_ silent also
    · exact ⟨⟨refreshed.alike.host, refreshed.alike.config, rfl, refreshed.alike.sessions⟩,
        refreshed.one.handling ⟨.refl _, rfl, fun sound => sound.of_sessions_eq rfl⟩ rfl
          fun _ _ => Or.inl rfl,
        refreshed.other.handling ⟨.refl _, rfl, fun sound => sound.of_sessions_eq rfl⟩ rfl
          fun _ _ => Or.inl rfl⟩
    · intro ref member
      obtain ⟨entry, stored, rfl⟩ := List.mem_map.mp ((order.perm _).subset member)
      exact (Attended.sweep together.one).registered entry stored

end Broadcast

end Together

end Dispatcher

end StationScript
