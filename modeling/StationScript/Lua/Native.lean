import StationScript.Lua.Frame

/-!
The setting in which native functions work.

A native function has arguments, works on the heap, and ends by returning, by raising a value, or by
calling another function, whose results it then goes on with. An argument that does not fit is
refused with its position, the function's name as the caller knows it, and the reason.
-/

set_option autoImplicit false

namespace StationScript.Lua

open Numeral (Number)

/-- How a native function ends if it does not return. -/
inductive Departure where
  | raise (value : Value)
  | call (function : Value) (arguments : List Value) (next : Continuation)

/-- A native call and the calls around it. -/
structure Setting where
  call : NativeCall
  callers : List Frame

abbrev Native := ReaderT Setting (ExceptT Departure (StateM Heap))

namespace Native

/-- All active calls, the native one first. -/
def frames : Native (List Frame) := do
  let setting ← read
  return .native setting.call :: setting.callers

def arguments : Native (List Value) := return (← read).call.arguments

def raise {α : Type} (value : Value) : Native α := throw (.raise value)

/-- Raises a message at the place of the caller. -/
def refuse {α : Type} (message : String) : Native α := do
  raise (.ofText (Frame.placed (← frames) 1 message))

/-- Raises an error of the host, which records the active calls. -/
def fail {α : Type} (cause : String) : Native α := do
  let text := cause ++ "\n" ++ Frame.trace (← get) (← frames) ++ "\n"
  let ref ← modifyGet fun heap =>
    let (heap, ref) := heap.addFailure text
    (ref, heap)
  raise (.failure ref)

/-- Refuses an argument. In a method call the object itself is not counted. -/
def refuseArgument {α : Type} (position : Nat) (reason : String) : Native α := do
  let setting ← read
  match Frame.siteAfter? setting.callers with
  | some ⟨.method, name⟩ =>
    if position = 1 then refuse ("calling " ++ inQuotes name ++ " on bad self (" ++ reason ++ ")")
    else
      refuse (s!"bad argument #{position - 1} to " ++ inQuotes name ++ " (" ++ reason ++ ")")
  | some ⟨_, name⟩ =>
    refuse (s!"bad argument #{position} to " ++ inQuotes name ++ " (" ++ reason ++ ")")
  | none =>
    let name := ((← get).globalName? setting.call.function).getD "?"
    refuse (s!"bad argument #{position} to " ++ inQuotes name ++ " (" ++ reason ++ ")")

/-- The argument at a position counted from one. -/
def argument? (position : Nat) : Native (Option Value) := return (← arguments)[position - 1]?

/-- The argument at a position; a missing one is nil. -/
def argument (position : Nat) : Native Value := return (← argument? position).getD .nil

def refuseType {α : Type} (position : Nat) (expected : String) : Native α := do
  let heap ← get
  let found := match ← argument? position with
    | some value => heap.typeName value
    | none => "no value"
  refuseArgument position (expected ++ " expected, got " ++ found)

/-- Any value, but not none. -/
def anyArgument (position : Nat) : Native Value := do
  match ← argument? position with
  | some value => return value
  | none => refuseArgument position "value expected"

def tableArgument (position : Nat) : Native Nat := do
  match ← argument? position with
  | some (.table ref) => return ref
  | _ => refuseType position "table"

/-- A string, or a number by its text. -/
def bytesArgument (position : Nat) : Native ByteArray := do
  match (← argument? position).bind Value.toBytes? with
  | some bytes => return bytes
  | none => refuseType position "string"

/-- A number, or a string that holds a numeral. -/
def numberArgument (position : Nat) : Native Number := do
  match (← argument? position).bind Value.toNumber? with
  | some number => return number
  | none => refuseType position "number"

def integerArgument (position : Nat) : Native Int64 := do
  match asInteger? (← numberArgument position) with
  | some n => return n
  | none => refuseArgument position NumberFault.notInteger.message

def optionalInteger (position : Nat) (absent : Int64) : Native Int64 := do
  match ← argument position with
  | .nil => return absent
  | _ => integerArgument position

/-- The outcome of the work, and what it did to the heap. -/
def perform {α : Type} (work : Native α) (setting : Setting) (heap : Heap) :
    Except Departure α × Heap :=
  (work setting).run heap

end Native

end StationScript.Lua
