/-!
I/O connections: directed links from a signal of one object to a signal of another, by name.
-/

set_option autoImplicit false

namespace StationScript

/-- Carries the source signal's value to the target signal. `allowCycle` says whether the link may
take part in a loop. -/
structure Connection where
  sourceObject : String
  sourceSignal : String
  targetObject : String
  targetSignal : String
  allowCycle : Bool := true
  deriving Repr, DecidableEq, Inhabited

namespace Connection

/-- Both links join the same two signals; the cycle flag does not count. -/
def sameEndpoints (a b : Connection) : Bool :=
  a.sourceObject = b.sourceObject && a.sourceSignal = b.sourceSignal &&
    a.targetObject = b.targetObject && a.targetSignal = b.targetSignal

/-- The two signals that the link joins. -/
def endpoints (c : Connection) : (String × String) × String × String :=
  ((c.sourceObject, c.sourceSignal), c.targetObject, c.targetSignal)

/-- The object is one of the two ends. -/
def touches (c : Connection) (object : String) : Bool :=
  c.sourceObject = object || c.targetObject = object

@[simp] theorem sameEndpoints_self (c : Connection) : c.sameEndpoints c = true := by
  simp [sameEndpoints]

theorem sameEndpoints_iff (a b : Connection) :
    a.sameEndpoints b = true ↔ a.endpoints = b.endpoints := by
  simp [sameEndpoints, endpoints, and_assoc]

end Connection

end StationScript
