import StationScript.Lua.Machine
import StationScript.Proofs.Host.Registry
import StationScript.Proofs.Text.Utf8

/-!
Calls that fail. Arguments are checked from the first to the last before anything else happens, and
the first that is not accepted becomes an error in the script. A call that is accepted and finds no
device evicts, says so, and asks for the script to be closed; the script gets a neutral result.
-/

set_option autoImplicit false

namespace StationScript

/-- What a function asks of an argument. -/
inductive Parameter where
  | text
  | number
  | any

/-- Numbers pass for text, and text that holds a numeral passes for a number. -/
def Parameter.Accepts : Parameter → Value → Prop
  | .any, _ | .text, .integer _ | .text, .number _ | .number, .integer _ | .number, .number _ =>
    True
  | .text, .string bytes => ∃ text, Utf8.decode bytes = .ok text
  | .number, .string bytes => ∃ number, Value.numeral? bytes = some number
  | .text, _ | .number, _ => False

namespace HostFunction

def parameters : HostFunction → List Parameter
  | setStatus | addLog | getSignal => [.text]
  | clearSignals | getLastSimulationTime => []
  | addSignal => [.text, .text]
  | setSignal => [.text, .number]
  | iif => [.any, .any, .any]
  | addIoConnection => [.text, .text, .text, .text, .any]

/-- Every parameter accepts its argument; a missing one is nil, and surplus ones do not matter. -/
def Converts (f : HostFunction) (arguments : List Value) : Prop :=
  ∀ (index : Nat) (parameter : Parameter), f.parameters[index]? = some parameter →
    parameter.Accepts (Request.argument arguments index)

/-- The argument at a position, counted from one, is the first that is not accepted. -/
def RefusesAt (f : HostFunction) (arguments : List Value) (position : Nat) : Prop :=
  ∃ (index : Nat) (parameter : Parameter), position = index + 1 ∧
    f.parameters[index]? = some parameter ∧
    ¬ parameter.Accepts (Request.argument arguments index) ∧
    ∀ (earlier : Nat) (other : Parameter), earlier < index → f.parameters[earlier]? = some other →
      other.Accepts (Request.argument arguments earlier)

end HostFunction

namespace Request

/-- The parameters accept their arguments, which begin at a position, and a request comes of it, or
the first that does not is the error. -/
def Checked (arguments : List Value) :
    (start : Nat) → List Parameter → Except ArgumentFault Request → Prop
  | _, [], result => ∃ request, result = .ok request
  | start, parameter :: rest, result =>
    (parameter.Accepts (argument arguments start) ∧ Checked arguments (start + 1) rest result) ∨
    (¬ parameter.Accepts (argument arguments start) ∧
      ∃ cause, result = .error ⟨start + 1, cause⟩)

variable {arguments : List Value} {start : Nat} {rest : List Parameter}

theorem Checked.text {next : String → Except ArgumentFault Request}
    (others : ∀ text, Checked arguments (start + 1) rest (next text)) :
    Checked arguments start (.text :: rest) (textAt arguments start >>= next) := by
  unfold Checked textAt
  dsimp only
  generalize argument arguments start = value
  cases value with
  | integer n =>
    refine .inl ⟨trivial, ?_⟩
    unfold Value.toBytes?
    dsimp only
    rw [Utf8.decode_toUTF8]
    exact others _
  | number x =>
    refine .inl ⟨trivial, ?_⟩
    unfold Value.toBytes?
    dsimp only
    rw [Utf8.decode_toUTF8]
    exact others _
  | string bytes =>
    unfold Value.toBytes?
    dsimp only
    cases read : Utf8.decode bytes with
    | ok text => exact .inl ⟨⟨text, read⟩, others text⟩
    | error fault =>
      refine .inr ⟨?_, .malformedText fault, rfl⟩
      rintro ⟨text, other⟩
      rw [read] at other
      cases other
  | nil | boolean _ | table _ | function _ | thread _ | failure _ | userdata _ =>
    exact .inr ⟨id, _, rfl⟩

theorem Checked.number {next : Float → Except ArgumentFault Request}
    (others : ∀ number, Checked arguments (start + 1) rest (next number)) :
    Checked arguments start (.number :: rest) (numberAt arguments start >>= next) := by
  unfold Checked numberAt
  dsimp only
  generalize argument arguments start = value
  cases value with
  | integer _ | number _ => exact .inl ⟨trivial, others _⟩
  | string bytes =>
    unfold Value.toNumber?
    dsimp only
    cases read : Value.numeral? bytes with
    | some number => exact .inl ⟨⟨number, read⟩, others _⟩
    | none =>
      refine .inr ⟨?_, _, rfl⟩
      rintro ⟨number, other⟩
      rw [read] at other
      cases other
  | nil | boolean _ | table _ | function _ | thread _ | failure _ | userdata _ =>
    exact .inr ⟨id, _, rfl⟩

theorem Checked.any {result : Except ArgumentFault Request}
    (others : Checked arguments (start + 1) rest result) :
    Checked arguments start (.any :: rest) result :=
  .inl ⟨trivial, others⟩

theorem checked_ofArguments (arguments : List Value) (f : HostFunction) :
    Checked arguments 0 f.parameters (ofArguments arguments f) := by
  cases f with
  | setStatus | addLog | getSignal => exact .text fun text => ⟨_, rfl⟩
  | clearSignals | getLastSimulationTime => exact ⟨_, rfl⟩
  | addSignal => exact .text fun name => .text fun kind => ⟨_, rfl⟩
  | setSignal => exact .text fun name => .number fun value => ⟨_, rfl⟩
  | iif => exact .any (.any (.any ⟨_, rfl⟩))
  | addIoConnection =>
    exact .text fun sourceObject => .text fun sourceSignal => .text fun targetObject =>
      .text fun targetSignal => .any ⟨_, rfl⟩

theorem Checked.cases {parameters : List Parameter} {result : Except ArgumentFault Request}
    (checked : Checked arguments start parameters result) :
    ((∀ (index : Nat) (parameter : Parameter), parameters[index]? = some parameter →
        parameter.Accepts (argument arguments (start + index))) ∧
      ∃ request, result = .ok request) ∨
    ∃ (index : Nat) (parameter : Parameter) (cause : ConversionFault),
      parameters[index]? = some parameter ∧
      ¬ parameter.Accepts (argument arguments (start + index)) ∧
      (∀ (earlier : Nat) (other : Parameter), earlier < index → parameters[earlier]? = some other →
        other.Accepts (argument arguments (start + earlier))) ∧
      result = .error ⟨start + index + 1, cause⟩ := by
  induction parameters generalizing start with
  | nil => exact .inl ⟨fun index parameter absent => by simp at absent, checked⟩
  | cons first rest ih =>
    have shift (index : Nat) : start + 1 + index = start + (index + 1) := by omega
    rcases checked with ⟨accepted, later⟩ | ⟨refused, cause, error⟩
    · rcases ih later with ⟨others, request⟩ |
        ⟨index, parameter, cause, here, refused, before, error⟩
      · refine .inl ⟨fun index parameter here => ?_, request⟩
        cases index with
        | zero => exact Option.some.inj here ▸ accepted
        | succ index => exact shift index ▸ others index parameter here
      · refine .inr ⟨index + 1, parameter, cause, here, shift index ▸ refused, ?_,
          shift index ▸ error⟩
        intro earlier other within there
        cases earlier with
        | zero => exact Option.some.inj there ▸ accepted
        | succ earlier =>
          exact shift earlier ▸ before earlier other (Nat.lt_of_succ_lt_succ within) there
    · exact .inr ⟨0, first, cause, rfl, refused,
        fun _ _ within => absurd within (Nat.not_lt_zero _),
        error⟩

/-- A request comes of arguments that convert. -/
theorem ofArguments_of_converts {f : HostFunction} (converts : f.Converts arguments) :
    ∃ request, ofArguments arguments f = .ok request := by
  rcases (checked_ofArguments arguments f).cases with ⟨_, request⟩ |
    ⟨index, parameter, _, here, refused, _⟩
  · exact request
  · rw [Nat.zero_add] at refused
    exact absurd (converts index parameter here) refused

/-- The error names the first argument that does not convert. -/
theorem ofArguments_of_not_converts {f : HostFunction} (refused : ¬ f.Converts arguments) :
    ∃ fault, f.RefusesAt arguments fault.position ∧ ofArguments arguments f = .error fault := by
  rcases (checked_ofArguments arguments f).cases with ⟨accepted, _⟩ |
    ⟨index, parameter, cause, here, refused, before, error⟩
  · simp only [Nat.zero_add] at accepted
    exact absurd accepted refused
  · simp only [Nat.zero_add] at refused before error
    exact ⟨_, ⟨index, parameter, rfl, here, refused, before⟩, error⟩

end Request

namespace Lua

theorem Heap.renewAll_of_plain (heap : Heap) {values : List Value}
    (plain : ∀ value ∈ values, ∀ ref, value ≠ .failure ref) :
    heap.renewAll values = (heap, values) := by
  induction values with
  | nil => rfl
  | cons value rest ih =>
    have same : heap.renew value = (heap, value) := by
      cases value with
      | failure ref => exact absurd rfl (plain _ List.mem_cons_self ref)
      | nil | boolean _ | integer _ | number _ | string _ | table _ | function _ | thread _
      | userdata _ => rfl
    unfold renewAll
    rw [same]
    dsimp only
    rw [ih fun v member => plain v (List.mem_cons_of_mem _ member)]

namespace Machine

variable (m : Machine) (native : NativeCall)

/-- An error of the host is raised where the function was called, and its text begins with the
message. -/
theorem answered_error (fault : ArgumentFault) : ∃ text,
    (fault.message.toList).IsPrefix text.toList ∧
    (m.push (.native native)).answered (.error fault) =
      .raising (.failure m.heap.failures.size)
        ((m.onHeap fun heap => (heap.addFailure text).1).push (.native native)) := by
  refine ⟨fault.message ++ "\n" ++ Frame.trace m.heap (.native native :: m.frames) ++ "\n", ?_, rfl⟩
  rw [String.append_assoc, String.append_assoc, String.toList_append]
  exact List.prefix_append _ _

/-- Results are delivered to where the function was called. -/
theorem answered_ok {results : List Value}
    (plain : ∀ value ∈ results, ∀ ref, value ≠ .failure ref) :
    (m.push (.native native)).answered (.ok results) = .delivering results m := by
  have renewed : (m.push (.native native)).answered (.ok results) =
      settle { m with heap := (m.heap.renewAll results).1 } native
        (.ok (m.heap.renewAll results).2) := rfl
  rw [renewed, m.heap.renewAll_of_plain plain]
  rfl

end Machine

end Lua

namespace Host

/-- The entries of the registry whose device is no longer tracked. -/
def staleEntries (host : Host) : List (DeviceId × DeviceRef) :=
  host.registry.entries.filter fun entry => !host.plant.tracked entry.2

/-- No tracked device is registered under the id. -/
def Unresolved (host : Host) (id : DeviceId) : Prop :=
  ∀ device, (id, device) ∈ host.registry.entries → host.plant.tracked device = false

theorem resolve_eq_none_iff (host : Host) (id : DeviceId) :
    (host.resolve id).2 = none ↔ host.Unresolved id := by
  have looked : (host.resolve id).2 = host.liveRegistry.entries.lookup id := by
    rw [← host.registry_sweep]
    rfl
  rw [looked, ← Option.not_isSome_iff_eq_none, Entries.lookup_isSome_iff]
  unfold Entries.keys liveRegistry Unresolved
  simp

theorem staleEntries_devices (host : Host) : host.staleEntries.map Prod.snd = host.stale := by
  unfold staleEntries stale Registry.devices
  rw [List.filter_map]
  rfl

/-- A bridge call that fails changes nothing beyond what it says. If the arguments do not convert,
the host stays as it is whatever the registry holds, and the reply is an error, which the script
raises. If they convert and no device is found, devices that are no longer tracked are evicted with
a message each, one error is logged, the script is to be closed, and it gets its neutral result. Any
other call returns, and does not ask for the script to be closed. -/
theorem failed_call_atomic (host : Host) (id : DeviceId) (f : HostFunction)
    (arguments : List Value) :
    (¬ f.Converts arguments → ∃ fault : ArgumentFault, f.RefusesAt arguments fault.position ∧
      host.answer id f arguments = ⟨host, .error fault, false⟩ ∧
      ∀ (m : Lua.Machine) (native : Lua.NativeCall), ∃ text,
        (fault.message.toList).IsPrefix text.toList ∧
        (m.push (.native native)).answered (.error fault) =
          .raising (.failure m.heap.failures.size)
            ((m.onHeap fun heap => (heap.addFailure text).1).push (.native native))) ∧
    (f.Converts arguments → host.Unresolved id → ∃ log results,
      host.answer id f arguments =
        ⟨{ host with
          registry := ⟨host.registry.entries.filter fun entry => host.plant.tracked entry.2⟩, log },
          .ok results, true⟩ ∧
      log.toList = host.log.toList ++
        host.staleEntries.map (fun entry => ⟨.information,
          host.prefixed (evictionText (host.nameOf entry.2))⟩) ++
        [⟨.error, host.prefixed
          ("Lua script " ++ f.action ++ " of unknown component. Closing it.")⟩] ∧
      (results = match f with
        | .setStatus | .addLog | .clearSignals | .addSignal | .setSignal => []
        | .getSignal => [.nil, .nil]
        | .iif => [.nil]
        | .getLastSimulationTime => [.ofFloat (-1.0), .ofFloat 0.0, .integer 0]
        | .addIoConnection => [.boolean false]) ∧
      ∀ (m : Lua.Machine) (native : Lua.NativeCall),
        (m.push (.native native)).answered (.ok results) = .delivering results m) ∧
    (f.Converts arguments → ¬ host.Unresolved id → ∃ after results,
      host.answer id f arguments = ⟨after, .ok results, false⟩) := by
  refine ⟨fun refused => ?refused, fun converts unresolved => ?unresolved,
    fun converts resolved => ?resolved⟩
  case refused =>
    obtain ⟨fault, first, error⟩ := Request.ofArguments_of_not_converts refused
    refine ⟨fault, first, ?_, fun m native => m.answered_error native fault⟩
    unfold answer
    rw [error]
  case unresolved =>
    obtain ⟨request, accepted⟩ := Request.ofArguments_of_converts converts
    have none := (host.resolve_eq_none_iff id).mpr unresolved
    obtain ⟨log, swept, messages⟩ := host.sweep_eq
    have whole : host.answer id f arguments =
        ⟨host.sweep.error ("Lua script " ++ f.action ++ " of unknown component. Closing it."),
          .ok f.neutral, true⟩ := by
      have resolved : host.resolve id = (host.sweep, Option.none) := Prod.ext rfl none
      unfold answer
      rw [accepted]
      dsimp only
      rw [resolved]
    rw [swept] at whole
    refine ⟨_, f.neutral, whole, ?_, by cases f <;> rfl, fun m native => ?_⟩
    · rw [Log.toList_add, messages, ← host.staleEntries_devices, List.map_map]
      rfl
    · refine m.answered_ok native ?_
      cases f <;> simp [HostFunction.neutral, Value.ofFloat]
  case resolved =>
    obtain ⟨request, accepted⟩ := Request.ofArguments_of_converts converts
    have found : (host.resolve id).2 ≠ none := fun none =>
      resolved ((host.resolve_eq_none_iff id).mp none)
    obtain ⟨device, found⟩ := Option.ne_none_iff_exists'.mp found
    have resolved : host.resolve id = (host.sweep, some device) := Prod.ext rfl found
    refine ⟨(host.sweep.perform device request).1, (host.sweep.perform device request).2, ?_⟩
    unfold answer
    rw [accepted]
    dsimp only
    rw [resolved]

/-- The station of the cell has lost its name. A table is no number, so a first call is refused and
the device stays registered. A second one evicts it, and its script is to be closed. -/
theorem failed_call_atomic_namelessCell :
    (∃ fault, namelessCell.answer ⟨"gripper"⟩ .setSignal [.ofText "Speed", .table 0] =
      ⟨namelessCell, .error fault, false⟩ ∧ fault.position = 2) ∧
    namelessCell.registry.entries = [(⟨"gripper"⟩, ⟨0⟩)] ∧
    ∃ after, namelessCell.answer ⟨"gripper"⟩ .getSignal [.ofText "Speed"] =
        ⟨after, .ok [.nil, .nil], true⟩ ∧ after.registry.entries = [] ∧
      after.log.toList = [⟨.information, "LuaScript: Remove old component Gripper from cache. " ++
          "Scripts only work with a named station."⟩,
        ⟨.error, "LuaScript: Lua script get signal value of unknown component. Closing it."⟩] := by
  have text : Parameter.text.Accepts (.ofText "Speed") := ⟨"Speed", Utf8.decode_toUTF8 _⟩
  have refused : ¬ HostFunction.setSignal.Converts [.ofText "Speed", .table 0] := fun converts =>
    converts 1 .number rfl
  have converts : HostFunction.getSignal.Converts [.ofText "Speed"] := by
    intro index parameter here
    cases index with
    | zero => exact Option.some.inj here ▸ text
    | succ index => cases here
  have unresolved : namelessCell.Unresolved ⟨"gripper"⟩ := by
    intro device member
    cases List.mem_singleton.mp member
    decide +kernel
  have evicted : namelessCell.liveRegistry.entries = [] := by decide +kernel
  obtain ⟨failed, _, _⟩ := failed_call_atomic namelessCell ⟨"gripper"⟩ .setSignal
    [.ofText "Speed", .table 0]
  obtain ⟨_, vain, _⟩ := failed_call_atomic namelessCell ⟨"gripper"⟩ .getSignal [.ofText "Speed"]
  obtain ⟨fault, ⟨index, parameter, position, here, not, _⟩, same, _⟩ := failed refused
  obtain ⟨log, results, whole, messages, rfl, _⟩ := vain converts unresolved
  refine ⟨⟨fault, same, ?_⟩, by decide +kernel, _, whole, evicted,
    messages.trans (by decide +kernel)⟩
  match index with
  | 0 => exact absurd (Option.some.inj here ▸ text) not
  | 1 => exact position
  | index + 2 => cases here

end Host

end StationScript
