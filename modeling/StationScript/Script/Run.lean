import StationScript.Script.Value
import StationScript.Text.Utf8

/-!
What a script does, as seen from the host.

A `Run` either ends with a result or calls a host function and goes on with the reply. An `Engine`
turns source text into runs. Everything the host guarantees is stated about runs, and so holds for
every engine and every script.
-/

set_option autoImplicit false

namespace StationScript

/-- Why a value is not accepted as an argument. -/
inductive ConversionFault where
  | notText (found : String)
  | notNumber (found : String)
  | malformedText (fault : Utf8.Fault)
  deriving Repr, DecidableEq

def ConversionFault.message : ConversionFault → String
  | .notText found =>
    "error converting Lua " ++ found ++ " to String (expected string or number)"
  | .notNumber found =>
    "error converting Lua " ++ found ++ " to f64 (expected number or string coercible to number)"
  | .malformedText fault => "error converting Lua string to String (" ++ fault.message ++ ")"

/-- A refused argument and its position, counted from one. -/
structure ArgumentFault where
  position : Nat
  cause : ConversionFault
  deriving Repr, DecidableEq

def ArgumentFault.message (fault : ArgumentFault) : String :=
  s!"bad argument #{fault.position}: " ++ fault.cause.message

/-- The host's reply to a call: the results, or an error that the call raises in the script. -/
abbrev Reply := Except ArgumentFault (List Value)

/-- A finite dialogue of a script with its host. -/
inductive Run (α : Type) where
  | done (result : α)
  | call (function : HostFunction) (arguments : List Value) (resume : Reply → Run α)

namespace Run

variable {α β γ : Type}

def bind : Run α → (α → Run β) → Run β
  | .done a, next => next a
  | .call function arguments resume, next =>
    .call function arguments fun reply => (resume reply).bind next

instance : Monad Run where
  pure := .done
  bind := bind

/-- Calls a host function and returns its reply. -/
def ask (function : HostFunction) (arguments : List Value) : Run Reply :=
  .call function arguments .done

@[simp] theorem done_bind (a : α) (next : α → Run β) : (Run.done a).bind next = next a := rfl

@[simp] theorem call_bind (function : HostFunction) (arguments : List Value)
    (resume : Reply → Run α) (next : α → Run β) :
    (Run.call function arguments resume).bind next =
      .call function arguments fun reply => (resume reply).bind next := rfl

@[simp] theorem bind_done (run : Run α) : run.bind .done = run := by
  induction run with
  | done a => rfl
  | call function arguments resume ih => simp [ih]

theorem bind_assoc (run : Run α) (next : α → Run β) (last : β → Run γ) :
    (run.bind next).bind last = run.bind fun a => (next a).bind last := by
  induction run with
  | done a => rfl
  | call function arguments resume ih => simp [ih]

end Run

/-- How the call of a global function ended. -/
inductive Invocation where
  /-- No function of that name. -/
  | missing
  /-- Nothing, or nil, was returned. -/
  | completed
  | returned (description : String)
  | raised (message : String)
  deriving Repr, DecidableEq

/-- Turns source text into runs. `load` refuses text that is no program; its run ends with a machine
in which the functions the program defined can be invoked, or with the error it raised. A machine
survives an invocation that raises. `release` is what a machine still runs when it is given up: the
finalizers that the program has left. -/
structure Engine where
  Machine : Type
  load : (component : String) → (source : String) → Except String (Run (Except String Machine))
  invoke : Machine → (entry : String) → List Value → Run (Machine × Invocation)
  release : Machine → Run Unit

end StationScript
