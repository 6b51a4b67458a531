/-!
The simulation clock: a time and a run state, both set from outside.
-/

set_option autoImplicit false

namespace StationScript

inductive RunState where
  | stopped
  | running
  | paused
  deriving Repr, DecidableEq, Inhabited

/-- The number scripts see. -/
def RunState.code : RunState → Nat
  | .stopped => 0
  | .running => 1
  | .paused => 2

structure Clock where
  time : Float := 0.0
  state : RunState := .stopped
  deriving Repr, Inhabited

end StationScript
