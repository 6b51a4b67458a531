import StationScript.Proofs.Dispatcher.Handling
import StationScript.Proofs.Host.Keyed

/-!
Histories of a dispatcher: events in any order, and between them whatever the world outside does to
stations, signals, files, clock and log.

Two invariants hold throughout. Every session is bound to the id it is stored under, and every
registered device is stored under its own id.
-/

set_option autoImplicit false

namespace StationScript

inductive Event where
  | attached (device : DeviceRef)
  | scriptPathChanged (device : DeviceRef)
  | signalChanged (device : DeviceRef) (signal : String)
  | stepped (device : DeviceRef) (time : Float)
  | libraryReplaced (device : DeviceRef)
  /-- A message appears in the log. If it asks for a refresh, the devices have their turns in this
  order. -/
  | logged (now : Nat) (text : String) (order : Listing)
  | tornDown (id : DeviceId)

/-- The device that an event is about. -/
def Event.device? : Event → Option DeviceRef
  | attached device | scriptPathChanged device | signalChanged device _ | stepped device _
  | libraryReplaced device => some device
  | logged _ _ _ | tornDown _ => none

namespace Dispatcher

variable {engine : Engine}

def handle (d : Dispatcher engine) : Event → Dispatcher engine
  | .attached device => d.attach device
  | .scriptPathChanged device => d.onScriptPathChanged device
  | .signalChanged device signal => d.onSignalChanged device signal
  | .stepped device time => d.onSimulationStep device time
  | .libraryReplaced device => d.onLibraryReplaced device
  | .logged now text order => (d.onLogMessage now text order).1
  | .tornDown id => d.teardown id

/-- Events in a row. -/
def handleAll (d : Dispatcher engine) (events : List Event) : Dispatcher engine :=
  events.foldl handle d

/-- The dispatchers that histories lead to. -/
inductive Reachable : Dispatcher engine → Prop where
  | new (host : Host) (config : ScriptConfig) (chooser : Chooser) :
    Reachable { Dispatcher.new host config with chooser }
  | outside (d : Dispatcher engine) (before : Reachable d) (host : Host)
    (change : d.host.Outside host) : Reachable { d with host }
  | event (d : Dispatcher engine) (before : Reachable d) (e : Event)
    (known : ∀ device, e.device? = some device → d.host.plant.Has device) :
    Reachable (d.handle e)

theorem new_sound (host : Host) (config : ScriptConfig) (chooser : Chooser) :
    ({ new host config with chooser } : Dispatcher engine).Sound :=
  ⟨List.nodup_nil, fun _ member => absurd member List.not_mem_nil,
    fun _ member => absurd member List.not_mem_nil⟩

/-- What comes before the device of an event is registered. -/
def prepare (d : Dispatcher engine) : Event → Dispatcher engine
  | .stepped device time => d.beginStep device time
  | _ => d

theorem prepare_handling (d : Dispatcher engine) (e : Event) : Handling d (d.prepare e) := by
  cases e with
  | stepped device time => exact d.beginStep_handling device time
  | _ => exact .refl d

/-- Once its device is registered, the rest of an event is handling. -/
theorem handle_handling (d : Dispatcher engine) {e : Event} {device : DeviceRef}
    (about : e.device? = some device) :
    Handling ((d.prepare e).register device) (d.handle e) := by
  cases e <;> cases about
  case attached => exact .refl _
  case scriptPathChanged => exact reload_handling _ device
  case signalChanged signal => exact d.onSignalChanged_handling device signal
  case stepped => exact (ensure_handling _ device).trans (dispatch_handling _ device _ _)
  case libraryReplaced => exact refresh_handling _ device

theorem handle_advance (d : Dispatcher engine) (e : Event) : Advance d (d.handle e) := by
  cases about : e.device? with
  | some device =>
    exact ((d.prepare_handling e).advance.trans (register_advance _ device)).trans
      (d.handle_handling about).advance
  | none =>
    cases e with
    | logged now text order => exact (d.onLogMessage_handling now text order).advance
    | tornDown id => exact d.teardown_advance id
    | _ => cases about

theorem handle_keyed {d : Dispatcher engine} (keyed : d.host.Keyed) (e : Event)
    (known : ∀ device, e.device? = some device → d.host.plant.Has device) :
    (d.handle e).host.Keyed := by
  cases about : e.device? with
  | some device =>
    have prepared := d.prepare_handling e
    have present := (prepared.calm.layout.has_iff device).mpr (known device about)
    exact ((keyed.calm prepared.calm).register present).calm (d.handle_handling about).calm
  | none =>
    cases e with
    | logged now text order => exact keyed.calm (d.onLogMessage_handling now text order).calm
    | tornDown id =>
      exact (keyed.calm (d.releaseMachine_handling id).calm).of_filter (.refl _) _ rfl
    | _ => cases about

theorem Reachable.sound {d : Dispatcher engine} (reachable : d.Reachable) : d.Sound := by
  induction reachable with
  | new host config chooser => exact new_sound host config chooser
  | outside d before host change sound => exact sound.of_sessions_eq rfl
  | event d before e known sound => exact (d.handle_advance e).sound sound

theorem Reachable.keyed {d : Dispatcher engine} (reachable : d.Reachable) : d.host.Keyed := by
  induction reachable with
  | new host config chooser =>
    exact ⟨List.nodup_nil, fun _ member => absurd member List.not_mem_nil⟩
  | outside d before host change keyed => exact keyed.outside change
  | event d before e known keyed => exact handle_keyed keyed e known

end Dispatcher

/-- The engine of a single program: its top level and each of its functions make the same calls, and
nothing is left to run in the end. -/
def Engine.repeating (calls : Run Unit) : Engine where
  Machine := Unit
  load _ _ := .ok (calls.bind fun _ => .done (.ok ()))
  invoke _ _ _ := calls.bind fun _ => .done ((), .completed)
  release _ := .done ()

/-- The engine of a program that does nothing but leave something to run in the end. -/
def Engine.parting (calls : Run Unit) : Engine :=
  { Engine.repeating (.done ()) with release := fun _ => calls }

namespace Dispatcher

/-- Nothing happened yet in the cell; its script clears the signals, whenever it runs. -/
def cell : Dispatcher (.repeating (.call .clearSignals [] fun _ => .done ())) :=
  { new Host.cell {} with chooser := .none }

/-- The script of the cell was loaded. -/
def loadedCell : Dispatcher (.repeating (.call .clearSignals [] fun _ => .done ())) :=
  cell.handle (.scriptPathChanged ⟨0⟩)

theorem loadedCell_reachable : loadedCell.Reachable := by
  refine .event cell (.new Host.cell {} .none) (.scriptPathChanged ⟨0⟩) ?_
  intro device about
  cases about
  decide

/-- The script of the cell was loaded; it clears the signals when its machine is given up. -/
def partingCell : Dispatcher (.parting (.call .clearSignals [] fun _ => .done ())) :=
  ({ new Host.cell {} with chooser := .none } : Dispatcher _).handle (.scriptPathChanged ⟨0⟩)

end Dispatcher

end StationScript
