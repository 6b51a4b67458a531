import StationScript.Station.Kind

/-!
Signals and the ordered store a device keeps them in.

Names are distinct because `add` refuses a name that is present; a value that is written goes
through the coercion of the signal's kind.
-/

set_option autoImplicit false

namespace StationScript

/-- The signal every device has; setting it to 1 asks for a script to load. -/
def controlSignal : String := "LoadFile"

structure Signal where
  name : String
  kind : SignalKind
  value : Float := 0.0
  readOnly : Bool := false
  deriving Repr, Inhabited

/-- Signals in the order in which they were added. -/
structure SignalStore where
  signals : List Signal := []
  deriving Repr, Inhabited

namespace SignalStore

def empty : SignalStore := {}

def names (store : SignalStore) : List String := store.signals.map Signal.name

def contains (store : SignalStore) (name : String) : Bool :=
  store.signals.any fun s => s.name = name

def get? (store : SignalStore) (name : String) : Option Signal :=
  store.signals.find? fun s => s.name = name

def value? (store : SignalStore) (name : String) : Option Float :=
  (store.get? name).map Signal.value

def size (store : SignalStore) : Nat := store.signals.length

def isEmpty (store : SignalStore) : Bool := store.signals.isEmpty

/-- Appends a signal with a new name; the flag says whether it was new. -/
def add (store : SignalStore) (signal : Signal) : SignalStore × Bool :=
  if store.contains signal.name then (store, false)
  else (⟨store.signals ++ [signal]⟩, true)

/-- Keeps the signals that satisfy the test. -/
def retain (store : SignalStore) (keep : Signal → Bool) : SignalStore :=
  ⟨store.signals.filter keep⟩

/-- Gives the first signal of that name another value. -/
def write (name : String) (value : Float) : List Signal → List Signal
  | [] => []
  | s :: rest => if s.name = name then { s with value } :: rest else s :: write name value rest

/-- Writes a coerced value and returns it; an absent name changes nothing. -/
def set? (store : SignalStore) (name : String) (value : Float) : SignalStore × Option Float :=
  match store.get? name with
  | none => (store, none)
  | some s =>
    let value := s.kind.coerce value
    (⟨write name value store.signals⟩, some value)

/-- The store of a new device: the control signal alone. -/
def initial : SignalStore := ⟨[{ name := controlSignal, kind := .digitalInput }]⟩

@[simp] theorem contains_empty (name : String) : empty.contains name = false := rfl

theorem add_of_contains {store : SignalStore} {signal : Signal}
    (present : store.contains signal.name = true) : store.add signal = (store, false) := by
  simp [add, present]

theorem add_of_new {store : SignalStore} {signal : Signal}
    (absent : store.contains signal.name = false) :
    store.add signal = (⟨store.signals ++ [signal]⟩, true) := by
  simp [add, absent]

@[simp] theorem names_write (name : String) (value : Float) (signals : List Signal) :
    (write name value signals).map Signal.name = signals.map Signal.name := by
  induction signals with
  | nil => rfl
  | cons s rest ih =>
    by_cases h : s.name = name
    · simp [write, h]
    · simp [write, h, ih]

end SignalStore

end StationScript
