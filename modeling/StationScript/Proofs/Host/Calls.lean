import StationScript.Proofs.Host.Frame

/-!
The calls of a script, one by one and in a run.

A call whose arguments are accepted looks for the device its script is bound to. What the calls of
a run find decides what the run can change, and whether its script is to be closed.
-/

set_option autoImplicit false

namespace StationScript.Host

theorem connect_frame {owner : DeviceRef → Prop} (host : Host) {device : DeviceRef}
    (owned : owner device) {station : StationRef}
    (home : host.plant.stationOf? device = some station)
    (sourceObject sourceSignal targetObject targetSignal : String) (allowCycle : Bool) :
    Frame owner host (host.connect device station sourceObject sourceSignal targetObject
      targetSignal allowCycle).1 := by
  unfold connect
  dsimp only
  split
  · exact (Frame.report host _ _).trans (Frame.report _ _ _)
  · exact .report host _ _
  · exact .report host _ _
  · split
    · exact .report host _ _
    · split
      · exact .report host _ _
      · exact .addConnection host owned home _

/-- The body of a function stays with its device. -/
theorem perform_frame {owner : DeviceRef → Prop} (host : Host) {device : DeviceRef}
    (owned : owner device) (request : Request) :
    Frame owner host (host.perform device request).1 := by
  cases request with
  | setStatus status =>
    exact (Frame.report host _ _).trans (.setStatus _ owned status)
  | addLog message => exact .report host _ _
  | clearSignals =>
    exact ((Frame.modifySignals host owned _).trans (.report _ _ _)).trans (.setStatus _ owned _)
  | addSignal name kind =>
    exact ((Frame.modifySignals host owned _).trans (.report _ _ _)).trans (.setStatus _ owned _)
  | getSignal name =>
    unfold perform signalValue
    dsimp only
    split
    · exact .refl host
    · exact .report host _ _
  | setSignal name value =>
    unfold perform setSignalOf
    dsimp only
    split
    · exact .modifySignals host owned _
    · exact .report host _ _
  | iif condition yes no =>
    unfold perform choose
    dsimp only
    split
    · exact .refl host
    · exact .refl host
    · exact .report host _ _
  | getLastSimulationTime => exact .refl host
  | addIoConnection sourceObject sourceSignal targetObject targetSignal allowCycle =>
    unfold perform
    dsimp only
    split
    · exact .refl host
    · rename_i station home
      exact connect_frame host owned home _ _ _ _ _

/-- What a call finds when it looks for its device; one with refused arguments does not look. -/
def lookup? (host : Host) (id : DeviceId) (function : HostFunction) (arguments : List Value) :
    Option (Option DeviceRef) :=
  match Request.ofArguments arguments function with
  | .error _ => none
  | .ok _ => some (host.resolve id).2

/-- What the calls of a run find, in order. -/
def lookups {α : Type} (id : DeviceId) : Run α → Host → List (Option DeviceRef)
  | .done _, _ => []
  | .call function arguments resume, host =>
    let answer := host.answer id function arguments
    (host.lookup? id function arguments).toList ++ lookups id (resume answer.reply) answer.host

/-- A call asks for its script to be closed exactly if it looks in vain. -/
theorem answer_closing_iff (host : Host) (id : DeviceId) (function : HostFunction)
    (arguments : List Value) :
    (host.answer id function arguments).closing = true ↔
      host.lookup? id function arguments = some none := by
  unfold answer lookup?
  cases Request.ofArguments arguments function with
  | error fault => simp
  | ok request =>
    cases found : host.resolve id with
    | mk swept device =>
      cases device <;> simp

/-- A call changes what its function may change of the device it finds. -/
theorem answer_frame (owner : DeviceRef → Prop) (host : Host) (id : DeviceId)
    (function : HostFunction) (arguments : List Value)
    (owned : ∀ device, host.lookup? id function arguments = some (some device) → owner device) :
    Frame owner host (host.answer id function arguments).host := by
  unfold lookup? at owned
  unfold answer
  cases accepted : Request.ofArguments arguments function with
  | error fault => exact .refl host
  | ok request =>
    rw [accepted] at owned
    have swept : Frame owner host (host.resolve id).1 := .sweep host
    cases found : host.resolve id with
    | mk after device =>
      rw [found] at swept owned
      cases device with
      | none => exact swept.trans (.report after _ _)
      | some device =>
        have mine : owner device := owned device rfl
        exact swept.trans (after.perform_frame mine request)

section Run

variable {α β : Type}

/-- The flag collects the look-ups in vain. -/
theorem play_closing_iff (id : DeviceId) (run : Run α) (host : Host) (closing : Bool) :
    (host.play id run closing).2.1 = true ↔ closing = true ∨ none ∈ host.lookups id run := by
  induction run generalizing host closing with
  | done result => simp [play, lookups]
  | call function arguments resume ih =>
    unfold play lookups
    dsimp only
    rw [ih, Bool.or_eq_true, answer_closing_iff, List.mem_append, or_assoc]
    have vain : none ∈ (host.lookup? id function arguments).toList ↔
        host.lookup? id function arguments = some none := by
      cases host.lookup? id function arguments with
      | none => simp
      | some device => simp [eq_comm]
    rw [vain]

theorem play_frame (owner : DeviceRef → Prop) (id : DeviceId) (run : Run α) (host : Host)
    (closing : Bool) (owned : ∀ device, some device ∈ host.lookups id run → owner device) :
    Frame owner host (host.play id run closing).1 := by
  induction run generalizing host closing with
  | done result => exact .refl host
  | call function arguments resume ih =>
    unfold play
    dsimp only
    refine (answer_frame owner host id function arguments ?_).trans (ih _ _ _ ?_)
    · intro device found
      exact owned device (List.mem_append_left _ (by rw [found]; simp))
    · intro device found
      exact owned device (List.mem_append_right _ found)

/-- Whatever a script calls, its run is calm. -/
theorem play_calm (id : DeviceId) (run : Run α) (host : Host) (closing : Bool) :
    Calm host (host.play id run closing).1 :=
  (play_frame (fun _ => True) id run host closing fun _ _ => trivial).toCalm

/-- A request to close from before a run changes nothing about the run. -/
theorem play_start (id : DeviceId) (run : Run α) (host : Host) (closing : Bool) :
    (host.play id run closing).1 = (host.play id run false).1 ∧
      (host.play id run closing).2.2 = (host.play id run false).2.2 := by
  induction run generalizing host closing with
  | done result => exact ⟨rfl, rfl⟩
  | call function arguments resume ih =>
    unfold play
    dsimp only
    obtain ⟨sameHost, sameResult⟩ := ih _ _ (closing || _)
    obtain ⟨freshHost, freshResult⟩ := ih _ _ (false || _)
    exact ⟨sameHost.trans freshHost.symm, sameResult.trans freshResult.symm⟩

end Run

end StationScript.Host
