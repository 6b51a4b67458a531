import StationScript.Proofs.Dispatcher.Serving
import StationScript.Proofs.Host.Requests
import StationScript.Proofs.Text.Utf8

/-!
What the signal handler of a script receives. The value is read when the change is reported, before
the script is loaded if it was not loaded yet. So it is the value that the signal has when the
handler is called, unless the script's own top level has just cleared or set this signal.
-/

set_option autoImplicit false

namespace StationScript

/-- What the calls of a run ask for, and the devices they ask it for. -/
def Execution.requests {engine : Engine} (x : Execution engine) : List (DeviceRef × Request) :=
  x.before.host.requests x.id x.run

namespace Dispatcher

variable {engine : Engine}

/-- To load a script is to call none of its functions. -/
theorem occasion_of_reloadExecutions {d : Dispatcher engine} {device : DeviceRef}
    {x : Execution engine} (member : x ∈ d.reloadExecutions device) (name : String)
    (arguments : List Value) : x.occasion ≠ .entry name arguments := by
  obtain ⟨front, stint, back, split, rfl⟩ := Execution.mem_ofStints.mp member
  have listed : stint ∈ (d.sessionFor (d.host.device device).id).loadStints d.host
      (d.host.device device).scriptPath := by
    rw [split]
    exact List.mem_append_right _ List.mem_cons_self
  exact Session.occasion_of_loadStints listed name arguments

theorem occasion_of_ensureExecutions {d : Dispatcher engine} {device : DeviceRef}
    {x : Execution engine} (member : x ∈ d.ensureExecutions device) (name : String)
    (arguments : List Value) : x.occasion ≠ .entry name arguments := by
  unfold ensureExecutions at member
  split at member
  · cases member
  · exact occasion_of_reloadExecutions member name arguments

theorem occasion_of_chooseScriptExecutions {d : Dispatcher engine} {device : DeviceRef}
    {x : Execution engine} (member : x ∈ d.chooseScriptExecutions device) (name : String)
    (arguments : List Value) : x.occasion ≠ .entry name arguments := by
  unfold chooseScriptExecutions at member
  dsimp only at member
  split at member
  · cases member
  · exact occasion_of_reloadExecutions member name arguments
  · exact occasion_of_reloadExecutions member name arguments

/-- The call of a function is the first run of its dispatch: the machine of the device's session is
invoked. -/
theorem entry_of_dispatchExecutions {d : Dispatcher engine} {device : DeviceRef} {entry : String}
    {arguments : List Value} {x : Execution engine}
    (member : x ∈ d.dispatchExecutions device entry arguments) {name : String} {given : List Value}
    (call : x.occasion = .entry name given) :
    name = entry ∧ given = arguments ∧ x.device? = some device ∧ x.before = d ∧
      ∃ session machine, d.session? (d.host.device device).id = some session ∧
        session.machine = some machine ∧
        x.run = (engine.invoke machine name given).effects := by
  unfold dispatchExecutions at member
  split at member
  · cases member
  · rename_i session held
    obtain ⟨front, stint, back, split, rfl⟩ := Execution.mem_ofStints.mp member
    obtain ⟨rfl, rfl, rfl, machine, own, run⟩ := Session.entry_of_invokeStints split call
    exact ⟨rfl, rfl, rfl, rfl, session, machine, held, own, run⟩

/-- A dispatch that calls nothing changes nothing. -/
theorem dispatch_of_idle {d : Dispatcher engine} (sound : d.Sound) {device : DeviceRef}
    {entry : String} {arguments : List Value}
    (idle : ∀ x ∈ d.dispatchExecutions device entry arguments,
      x.occasion ≠ .entry entry arguments) : d.dispatch device entry arguments = d := by
  unfold dispatchExecutions at idle
  unfold dispatch
  dsimp only
  cases held : d.session? (d.host.device device).id with
  | none => rfl
  | some session =>
    rw [held] at idle
    have none : session.invokeRun? entry arguments = none := by
      cases started : session.invokeRun? entry arguments with
      | none => rfl
      | some run =>
        have first : ∃ rest, session.invokeStints d.host entry arguments =
            ⟨.entry entry arguments, run.effects⟩ :: rest := by
          unfold Session.invokeStints
          rw [started]
          exact ⟨_, rfl⟩
        obtain ⟨rest, split⟩ := first
        exact absurd rfl (idle _ (Execution.mem_ofStints.mpr ⟨[], _, rest, split, rfl⟩))
    have invoking := session.invoke_cases d.host entry arguments
    dsimp only
    generalize session.invoke d.host entry arguments = after at invoking ⊢
    cases invoking with
    | idle =>
      have same := Entries.put_of_lookup sound.distinct held
      exact congrArg (fun sessions => { d with sessions }) same
    | closed run started =>
      rw [none] at started
      cases started
    | finished run started =>
      rw [none] at started
      cases started

theorem sameSignals_afterLoad (host : Host) (device : DeviceRef) (state : SessionState)
    (result : Except ScriptError Unit) : host.SameSignals (afterLoad host device state result) := by
  unfold afterLoad
  split
  · split
    · exact host.sameSignals_setStatus device loadedStatus
    · exact fun _ => rfl
  · dsimp only
    split
    · intro ref
      rw [Host.sameSignals_setStatus, Host.sameSignals_setScriptPath]
      rfl
    · exact fun _ => rfl

/-- A signal is there after some stints, unless one of them takes it away. -/
theorem get_played {d after : Dispatcher engine} {device? : Option DeviceRef} {id : DeviceId}
    {stints : List Stint} {device : DeviceRef} {name : String} {s : Signal}
    (found : (d.host.device device).signals.get? name = some s)
    (spared : ∀ x ∈ Execution.ofStints device? after id d stints,
      ∀ asked ∈ x.requests, asked.1 = device → ¬ asked.2.Alters name) :
    ((d.played id stints).host.device device).signals.get? name = some s := by
  induction stints generalizing d with
  | nil => exact found
  | cons stint rest ih =>
    have first := Host.get_play found id stint.run false fun request asked =>
      spared _ List.mem_cons_self (device, request) asked rfl
    exact ih (d := d.played id [stint]) first fun x later => spared x (List.mem_cons_of_mem _ later)

/-- A signal is there after its device is ensured a session, unless the script took it away. -/
theorem get_ensure {d : Dispatcher engine} {device : DeviceRef} {name : String} {s : Signal}
    (found : (d.host.device device).signals.get? name = some s)
    (spared : ∀ x ∈ d.ensureExecutions device,
      ∀ asked ∈ x.requests, asked.1 = device → ¬ asked.2.Alters name) :
    ((d.ensure device).host.device device).signals.get? name = some s := by
  unfold ensureExecutions at spared
  unfold ensure
  split
  · exact found
  · rename_i fresh
    rw [if_neg fresh] at spared
    have warned : ((d.reload device).host.device device).signals =
        ((d.loaded device).host.device device).signals := by
      obtain ⟨log, _, whole, _⟩ := (d.loaded device).warnAcyclic_log device
      rw [reload_eq, whole]
      rfl
    have host := (d.sessionFor (d.host.device device).id).host_load d.host
      (d.host.device device).scriptPath
    have loaded : ((d.loaded device).host.device device).signals =
        ((d.played (d.sessionFor (d.host.device device).id).id
          ((d.sessionFor (d.host.device device).id).loadStints d.host
            (d.host.device device).scriptPath)).host.device device).signals := by
      unfold played
      rw [← host]
      exact sameSignals_afterLoad _ device _ _ device
    rw [warned, loaded]
    exact get_played found spared

/-- A script that asks for a signal of its device gets the value that is stored. -/
theorem reply_getSignal {host : Host} {device : DeviceRef} (binds : host.Binds device)
    (live : host.plant.tracked device = true) {name : String} {s : Signal}
    (found : (host.device device).signals.get? name = some s) :
    (host.answer (host.device device).id .getSignal [.ofText name]).reply =
      .ok [.ofFloat s.value, .nil] := by
  have accepted : Request.ofArguments [.ofText name] .getSignal = .ok (.getSignal name) := by
    have decoded : Utf8.decode name.toByteArray = .ok name := Utf8.decode_toUTF8 name
    have text : Request.textAt [.ofText name] 0 = .ok name := by
      unfold Request.textAt
      simp [Request.argument, Value.ofText, Value.toBytes?, decoded]
    unfold Request.ofArguments
    rw [text]
    rfl
  have resolved : host.resolve (host.device device).id = (host.sweep, some device) := by
    unfold Host.Binds Host.boundTo at binds
    rw [if_pos live] at binds
    rw [host.resolve_eq, binds]
  have stored : (host.sweep.device device).signals.value? name = some s.value := by
    unfold Host.device SignalStore.value?
    rw [Host.plant_sweep]
    exact congrArg _ found
  unfold Host.answer
  rw [accepted, resolved]
  dsimp only [Host.perform, Host.signalValue]
  rw [stored]

/-- The calls of the signal handler are those of a dispatch that ends the event. -/
theorem entry_of_signalChanged {d : Dispatcher engine} {device : DeviceRef} {signal : String}
    {x : Execution engine} (member : x ∈ d.executions (.signalChanged device signal))
    {name : String} {arguments : List Value} (call : x.occasion = .entry name arguments) :
    ∃ s, (d.host.device device).signals.get? signal = some s ∧ s.kind.isInput = true ∧
      arguments = [.ofText signal, .ofFloat s.value] ∧ name = signalChangedEntry ∧
      x ∈ ((d.register device).ensure device).dispatchExecutions device name arguments ∧
      d.onSignalChanged device signal =
        ((d.register device).ensure device).dispatch device name arguments := by
  have registered : (d.register device).host.device device = d.host.device device :=
    congrArg (fun plant => plant.device device) d.host.plant_sweep
  change x ∈ d.signalChangedExecutions device signal at member
  unfold signalChangedExecutions at member
  unfold onSignalChanged
  dsimp only at member ⊢
  rw [registered] at member ⊢
  cases found : (d.host.device device).signals.get? signal with
  | none =>
    rw [found] at member
    cases member
  | some s =>
    rw [found] at member
    dsimp only at member ⊢
    by_cases control : signal = controlSignal
    · rw [if_pos control] at member
      split at member
      · exact absurd call (occasion_of_chooseScriptExecutions member name arguments)
      · cases member
    · rw [if_neg control] at member ⊢
      cases input : s.kind.isInput with
      | false =>
        rw [input] at member
        cases member
      | true =>
        rw [input, if_pos rfl] at member
        rw [if_pos rfl]
        rcases List.mem_append.mp member with loading | calling
        · exact absurd call (occasion_of_ensureExecutions loading name arguments)
        · obtain ⟨rfl, rfl, _⟩ := entry_of_dispatchExecutions calling call
          exact ⟨s, rfl, input, rfl, rfl, calling, rfl⟩

/-- Without such a call the event ends before it: with the registration, with a session that is
there, or with what the chooser says. -/
theorem onSignalChanged_of_uncalled {d : Dispatcher engine} (sound : d.Sound) {device : DeviceRef}
    {signal : String} (uncalled : ∀ x ∈ d.executions (.signalChanged device signal),
      ∀ name arguments, x.occasion ≠ .entry name arguments) :
    d.onSignalChanged device signal = d.register device ∨
      d.onSignalChanged device signal = (d.register device).ensure device ∨
      d.onSignalChanged device signal = (d.register device).chooseScript device := by
  change ∀ x ∈ d.signalChangedExecutions device signal, _ at uncalled
  unfold signalChangedExecutions at uncalled
  unfold onSignalChanged
  dsimp only at uncalled ⊢
  cases found : ((d.register device).host.device device).signals.get? signal with
  | none => exact Or.inl rfl
  | some s =>
    rw [found] at uncalled
    dsimp only at uncalled ⊢
    by_cases control : signal = controlSignal
    · rw [if_pos control]
      cases s.value == 1.0 with
      | true => exact Or.inr (Or.inr rfl)
      | false => exact Or.inl rfl
    · rw [if_neg control] at uncalled ⊢
      cases input : s.kind.isInput with
      | false => exact Or.inl rfl
      | true =>
        rw [input, if_pos rfl] at uncalled
        refine Or.inr (Or.inl (dispatch_of_idle ?_ fun x member => ?_))
        · exact (ensure_handling _ device).sound ((register_advance d device).sound sound)
        · exact uncalled x (List.mem_append_right _ member) _ _

/-- When a change of a signal makes the dispatcher call a function of the script, it is the signal
handler, and it gets the value that the signal, an input, has when the change is reported. This
value is stored with the signal when the handler is called, and a live device's script gets it from
there, unless the script is loaded for this event and clears the signals or sets this one. Without a
call no function of the script runs. -/
theorem handler_receives_stored_value {d : Dispatcher engine} (reachable : d.Reachable)
    (device : DeviceRef) (signal : String) :
    (∀ x ∈ d.executions (.signalChanged device signal), ∀ name arguments,
      x.occasion = .entry name arguments →
      name = signalChangedEntry ∧ x.device? = some device ∧
      d.onSignalChanged device signal = x.before.dispatch device name arguments ∧
      (∃ session machine, x.before.session? (d.host.device device).id = some session ∧
        session.machine = some machine ∧
        x.run = (engine.invoke machine name arguments).effects) ∧
      ∃ s, (d.host.device device).signals.get? signal = some s ∧ s.kind.isInput = true ∧
        arguments = [.ofText signal, .ofFloat s.value] ∧
        ((∀ load ∈ (d.register device).ensureExecutions device,
            ∀ asked ∈ load.requests, asked.1 = device → ¬ asked.2.Alters signal) →
          (x.before.host.device device).signals.get? signal = some s ∧
          (d.host.plant.tracked device = true →
            (x.before.host.answer (d.host.device device).id .getSignal [.ofText signal]).reply =
              .ok [.ofFloat s.value, .nil]))) ∧
    ((∀ x ∈ d.executions (.signalChanged device signal), ∀ name arguments,
        x.occasion ≠ .entry name arguments) →
      d.onSignalChanged device signal = d.register device ∨
        d.onSignalChanged device signal = (d.register device).ensure device ∨
        d.onSignalChanged device signal = (d.register device).chooseScript device) := by
  refine ⟨fun x member name arguments call => ?_, onSignalChanged_of_uncalled reachable.sound⟩
  obtain ⟨s, found, input, received, entry, calling, ends⟩ := entry_of_signalChanged member call
  obtain ⟨_, _, about, before, session, machine, held, own, run⟩ :=
    entry_of_dispatchExecutions calling call
  have handling := (d.register device).ensure_handling device
  have layout := (d.host.advance_register device).layout.trans handling.calm.layout
  have same : (((d.register device).ensure device).host.device device).id =
      (d.host.device device).id := layout.id_eq device
  rw [same] at held
  rw [before]
  refine ⟨entry, about, ends, ⟨session, machine, held, own, run⟩, s, found, input, received,
    fun spared => ?_⟩
  have there : ((d.register device).host.device device).signals.get? signal = some s := by
    rw [← found]
    exact congrArg (fun plant => (plant.device device).signals.get? signal) d.host.plant_sweep
  have kept := get_ensure there spared
  refine ⟨kept, fun live => ?_⟩
  have binds := (d.host.register_binds device).calm handling.calm
  have reply := reply_getSignal binds (layout.tracked_eq device ▸ live) kept
  rw [same] at reply
  exact reply

/-- The cell whose device has an input that is set. Its script was not loaded yet; whenever one of
its functions runs, and its top level, it calls one function. -/
def sensingCell (function : HostFunction) (arguments : List Value) :
    Dispatcher (.repeating (.call function arguments fun _ => .done ())) :=
  { new (Host.cell.modifyPlant fun p => p.modifySignals ⟨0⟩ fun store =>
      (store.add { name := "go", kind := .digitalInput, value := 1.0 }).1) {} with
    chooser := .none }

theorem sensingCell_reachable (function : HostFunction) (arguments : List Value) :
    (sensingCell function arguments).Reachable := .new _ {} .none

/-- If the signal handler is called, the reported value is 1, whatever the script calls. -/
theorem sensingCell_call (function : HostFunction) (arguments : List Value)
    (called : ((sensingCell function arguments).executions (.signalChanged ⟨0⟩ "go")).any
      (fun x => x.occasion.isEntry) = true) :
    ∃ x ∈ (sensingCell function arguments).executions (.signalChanged ⟨0⟩ "go"),
      x.occasion = .entry signalChangedEntry [.ofText "go", .ofFloat 1.0] ∧
      x.before = ((sensingCell function arguments).register ⟨0⟩).ensure ⟨0⟩ := by
  obtain ⟨x, member, entry⟩ := List.any_eq_true.mp called
  cases call : x.occasion with
  | entry name given =>
    obtain ⟨s, found, _, received, rfl, calling, _⟩ := entry_of_signalChanged member call
    obtain ⟨_, _, _, before, _⟩ := entry_of_dispatchExecutions calling call
    have stored : ((sensingCell function arguments).host.device ⟨0⟩).signals.get? "go" =
        some { name := "go", kind := .digitalInput, value := 1.0 } := rfl
    cases stored.symm.trans found
    exact ⟨x, member, by rw [call, received], before⟩
  | program =>
    rw [call] at entry
    cases entry
  | release =>
    rw [call] at entry
    cases entry

/-- The top level adds another signal, so that the value is still there for the handler. -/
theorem handler_receives_stored_value_sensingCell :
    let d := sensingCell .addSignal [.ofText "ready", .ofText "DigitalOutput"]
    d.Reachable ∧ d.sessionState? ⟨"gripper"⟩ = none ∧
      ∃ x ∈ d.executions (.signalChanged ⟨0⟩ "go"),
        x.occasion = .entry signalChangedEntry [.ofText "go", .ofFloat 1.0] ∧
        d.onSignalChanged ⟨0⟩ "go" =
          x.before.dispatch ⟨0⟩ signalChangedEntry [.ofText "go", .ofFloat 1.0] ∧
        (x.before.host.device ⟨0⟩).signals.value? "go" = some 1.0 ∧
        (x.before.host.answer ⟨"gripper"⟩ .getSignal [.ofText "go"]).reply =
          .ok [.ofFloat 1.0, .nil] := by
  intro d
  have reachable : d.Reachable := sensingCell_reachable _ _
  obtain ⟨x, member, call, _⟩ := sensingCell_call .addSignal
    [.ofText "ready", .ofText "DigitalOutput"] (by decide +kernel)
  obtain ⟨calls, _⟩ := handler_receives_stored_value reachable ⟨0⟩ "go"
  obtain ⟨_, _, ends, _, s, found, _, _, kept⟩ := calls x member _ _ call
  have stored : (d.host.device ⟨0⟩).signals.get? "go" =
      some { name := "go", kind := .digitalInput, value := 1.0 } := rfl
  cases stored.symm.trans found
  obtain ⟨there, reply⟩ := kept (by decide +kernel)
  refine ⟨reachable, by decide +kernel, x, member, call, ends, ?_, reply (by decide +kernel)⟩
  exact congrArg (Option.map Signal.value) there

/-- The top level sets the signal back. -/
def resettingCell := sensingCell .setSignal [.ofText "go", .integer 0]

/-- The top level clears all signals. -/
def clearingCell := sensingCell .clearSignals []

/-- In both cases the handler is still called with the value that was reported. -/
theorem handler_receives_overwritten_value :
    (resettingCell.Reachable ∧ ∃ x ∈ resettingCell.executions (.signalChanged ⟨0⟩ "go"),
      x.occasion = .entry signalChangedEntry [.ofText "go", .ofFloat 1.0] ∧
      resettingCell.onSignalChanged ⟨0⟩ "go" =
        x.before.dispatch ⟨0⟩ signalChangedEntry [.ofText "go", .ofFloat 1.0] ∧
      (x.before.host.device ⟨0⟩).signals.value? "go" = some 0.0) ∧
    clearingCell.Reachable ∧ ∃ x ∈ clearingCell.executions (.signalChanged ⟨0⟩ "go"),
      x.occasion = .entry signalChangedEntry [.ofText "go", .ofFloat 1.0] ∧
      clearingCell.onSignalChanged ⟨0⟩ "go" =
        x.before.dispatch ⟨0⟩ signalChangedEntry [.ofText "go", .ofFloat 1.0] ∧
      (x.before.host.device ⟨0⟩).signals.value? "go" = none := by
  constructor
  · obtain ⟨x, member, call, before⟩ := sensingCell_call .setSignal
        [.ofText "go", .integer 0] (by decide +kernel)
    obtain ⟨_, _, _, _, _, _, ends⟩ := entry_of_signalChanged member call
    refine ⟨sensingCell_reachable _ _, x, member, call, ?_, ?_⟩
    · rw [before]
      exact ends
    · rw [before]
      decide +kernel
  · obtain ⟨x, member, call, before⟩ := sensingCell_call .clearSignals
        [] (by decide +kernel)
    obtain ⟨_, _, _, _, _, _, ends⟩ := entry_of_signalChanged member call
    refine ⟨sensingCell_reachable _ _, x, member, call, ?_, ?_⟩
    · rw [before]
      exact ends
    · rw [before]
      decide +kernel

end Dispatcher

end StationScript
