import StationScript.Station.Plant

/-!
Choosing a script by the user.

A chooser answers questions; its answers may depend on the questions put to it before. Choosing the
path that is already stored needs a confirmation.
-/

set_option autoImplicit false

namespace StationScript

inductive Question where
  /-- Which script, given the stored path? -/
  | script (device : String) (current : String)
  /-- Load the stored script again? -/
  | reopen (device : String)
  deriving Repr, DecidableEq

/-- Answers by the questions asked so far, the newest first, and the question itself. -/
structure Chooser where
  script : List Question → (device current : String) → Option String
  reopen : List Question → (device : String) → Bool

/-- Never selects anything. -/
def Chooser.none : Chooser := ⟨fun _ _ _ => Option.none, fun _ _ => true⟩

/-- What to do with a chooser's answer. -/
inductive Selection where
  | unchanged
  | reopen
  | path (new : String)
  deriving Repr, DecidableEq

/-- Asks for a script of the device; the questions put are added to those before. -/
def Chooser.select (chooser : Chooser) (asked : List Question) (device current : String) :
    List Question × Selection :=
  let asking := Question.script device current :: asked
  match chooser.script asked device current with
  | Option.none => (asking, .unchanged)
  | some path =>
    if path = current then
      (.reopen device :: asking, if chooser.reopen asking device then .reopen else .unchanged)
    else (asking, .path path)

end StationScript
