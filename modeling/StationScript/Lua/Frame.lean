import StationScript.Lua.Format
import StationScript.Lua.Heap
import StationScript.Lua.Naming

/-!
The active calls of a script and how messages tell about them.

A frame is a call that waits for the results of another one, so it says what it will do with them.
What a message calls the function of a frame is up to the instruction that its caller has reached.
-/

set_option autoImplicit false

namespace StationScript.Lua

/-- A call of a function of the program. -/
structure Activation where
  closure : Nat
  prototype : Prototype
  cells : Array Nat
  /-- The slot of the function itself; its registers are the slots behind. -/
  slot : Nat
  /-- The slot into which the caller had put the function, before its surplus arguments were set
  aside. -/
  origin : Nat
  /-- The call took the place of another one. -/
  tail : Bool := false
  /-- How many calls by native code are under way. -/
  nesting : Nat
  deriving Inhabited

namespace Activation

/-- The slot of the first register. -/
def base (a : Activation) : Nat := a.slot + 1

/-- The slot behind the last register. -/
def limit (a : Activation) : Nat := a.slot + 1 + a.prototype.registers

/-- How many surplus arguments were set aside, and where. -/
def surplus (a : Activation) : Nat × Nat :=
  let first := a.origin + 1 + a.prototype.parameters
  (a.slot - first, first)

end Activation

/-- What a function of the program does with the results of a call. -/
inductive Delivery where
  /-- Puts as many as wanted, or all of them, into the slots from one on. -/
  | slots (first : Nat) (wanted : Option Nat)
  /-- The first one decides a test. -/
  | test (expected : Bool)
  /-- Joins the first one with the operands before it. -/
  | join (count : Nat)
  /-- Returns them. -/
  | answer
  /-- Ignores them and runs the same instruction again. -/
  | again
  /-- Ignores them and goes on returning other results. -/
  | leave (results : List Value)
  deriving Inhabited

/-- What a native function does with the results of a call. -/
inductive Continuation where
  /-- It calls nothing. -/
  | none
  /-- Returns them behind the value true, and an error behind the value false. -/
  | protect
  /-- Goes on with an error that it has caught. -/
  | unwind (value : Value)
  /-- Returns the first one. -/
  | first
  /-- Returns the first one, which has to be text. -/
  | text
  /-- Prints the first one, which has to be text, and goes on with other values. -/
  | print (rest : List Value)
  /-- Formats the first one, which has to be text, and goes on behind the directive; what has been
  written so far is held in reverse. -/
  | format (directive : Directive) (written rest : List Char) (position : Nat)

/-- A call of a native function. -/
structure NativeCall where
  function : Callable
  arguments : List Value
  slot : Nat
  nesting : Nat
  next : Continuation := .none

inductive Frame where
  /-- A function of the program, and the position of the instruction that it has reached. -/
  | script (activation : Activation) (position : Nat) (delivery : Delivery)
  | native (call : NativeCall)
  /-- Code of the host that has no name. -/
  | host

namespace Frame

def nesting : Frame → Nat
  | script a _ _ => a.nesting
  | native call => call.nesting
  | host => 1

/-- The function a frame runs. The program itself has no captured variable but the globals. -/
def callable? : Frame → Option Callable
  | script a _ _ => some (.closure a.closure)
  | native call => some call.function
  | host => none

def isTail : Frame → Bool
  | script a _ _ => a.tail
  | native _ | host => false

/-- The place a frame has reached, if it runs a function of the program. -/
def place? : Frame → Option String
  | script a position _ =>
    some (chunkName ++ ":" ++ toString (a.prototype.lineAt position) ++ ":")
  | native _ | host => none

/-- What the caller calls a function. -/
def siteAfter? (callers : List Frame) : Option Site :=
  match callers with
  | script a position _ :: _ => a.prototype.calleeSite? position
  | _ => none

/-- What the innermost function is called by its caller; a call that took the place of its caller
has no name. -/
def site? : List Frame → Option Site
  | [] => none
  | frame :: callers => if frame.isTail then none else siteAfter? callers

/-- Global names come before the caller's. -/
def description (heap : Heap) (frame : Frame) (callers : List Frame) : String :=
  match frame.callable?.bind heap.globalName? with
  | some name => "function " ++ inQuotes name
  | none =>
    match site? (frame :: callers), frame with
    | some site, _ => site.text
    | none, .script a _ _ =>
      let line := a.prototype.line
      if line = 0 then "main chunk" else "function <" ++ chunkName ++ ":" ++ toString line ++ ">"
    | none, _ => "?"

def traceLine (heap : Heap) (frame : Frame) (callers : List Frame) : String :=
  "\n\t" ++ frame.place?.getD "[C]:" ++ " in " ++ frame.description heap callers ++
    (if frame.isTail then "\n\t(...tail calls...)" else "")

/-- The lines of the innermost frames. -/
def traceLines (heap : Heap) : (count : Nat) → List Frame → String
  | 0, _ | _, [] => ""
  | count + 1, frame :: callers => frame.traceLine heap callers ++ traceLines heap count callers

/-- The active calls, the innermost first; of a long list the middle is left out. -/
def trace (heap : Heap) (frames : List Frame) : String :=
  let count := frames.length
  "stack traceback:" ++
    if 22 < count then
      traceLines heap 10 frames ++ "\n\t...\t(skipping " ++ toString (count - 22) ++ " levels)" ++
        traceLines heap 11 (frames.drop (count - 11))
    else traceLines heap count frames

/-- The place that the frame at a level has reached, in front of a message. -/
def placed (frames : List Frame) (level : Nat) (message : String) : String :=
  match (frames[level]?).bind place? with
  | some place => place ++ " " ++ message
  | none => message

end Frame

end StationScript.Lua
