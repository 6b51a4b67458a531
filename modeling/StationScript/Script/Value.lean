import StationScript.Script.Numeral
import StationScript.Script.Operator

/-!
Values of the scripting language as they pass between a script and its host.

Tables, closures, threads, caught failures and objects of the library are references into the memory
of the machine that made them. Strings are byte sequences.
-/

set_option autoImplicit false

namespace StationScript

/-- Whether two byte sequences agree in their first bytes. -/
def agreeUpTo (a b : ByteArray) : (count : Nat) → count ≤ a.size → count ≤ b.size → Bool
  | 0, _, _ => true
  | n + 1, inA, inB => a[n] == b[n] && agreeUpTo a b n (Nat.le_of_lt inA) (Nat.le_of_lt inB)

theorem agreeUpTo_iff (a b : ByteArray) (count : Nat) (inA : count ≤ a.size)
    (inB : count ≤ b.size) :
    agreeUpTo a b count inA inB = true ↔
      ∀ i (h : i < count),
        a.get i (Nat.lt_of_lt_of_le h inA) = b.get i (Nat.lt_of_lt_of_le h inB) := by
  induction count with
  | zero => exact ⟨fun _ i h => absurd h (Nat.not_lt_zero i), fun _ => rfl⟩
  | succ n ih =>
    rw [agreeUpTo, Bool.and_eq_true, beq_iff_eq, ih]
    constructor
    · rintro ⟨last, before⟩ i h
      rcases Nat.lt_succ_iff_lt_or_eq.mp h with h | h
      · exact before i h
      · subst h
        exact last
    · exact fun all => ⟨all n (Nat.lt_succ_self n), fun i h => all i (Nat.lt_succ_of_lt h)⟩

/-- Byte sequences are compared byte by byte. -/
instance decidableEqBytes : DecidableEq ByteArray := fun a b =>
  if sameSize : a.size = b.size then
    decidable_of_iff (agreeUpTo a b a.size (Nat.le_refl _) (Nat.le_of_eq sameSize) = true) <| by
      rw [agreeUpTo_iff]
      constructor
      · intro agree
        apply ByteArray.ext
        exact Array.ext sameSize fun i h _ => agree i h
      · rintro rfl _ _
        rfl
  else isFalse fun same => sameSize (congrArg ByteArray.size same)

/-- The functions the host installs into every script. -/
inductive HostFunction where
  | setStatus
  | addLog
  | clearSignals
  | addSignal
  | getSignal
  | setSignal
  | iif
  | getLastSimulationTime
  | addIoConnection
  deriving Repr, DecidableEq, Hashable, Inhabited

namespace HostFunction

/-- In the order in which they are installed. -/
def all : List HostFunction :=
  [setStatus, addLog, clearSignals, addSignal, getSignal, setSignal, iif, getLastSimulationTime,
    addIoConnection]

/-- The global name. -/
def name : HostFunction → String
  | setStatus => "set_status"
  | addLog => "add_log"
  | clearSignals => "clear_signals"
  | addSignal => "add_signal"
  | getSignal => "get_signal"
  | setSignal => "set_signal"
  | iif => "iif"
  | getLastSimulationTime => "get_last_simulation_time"
  | addIoConnection => "add_io_connection"

/-- Completes the sentence "Lua script ... of unknown component". -/
def action : HostFunction → String
  | setStatus => "set status"
  | addLog => "add log"
  | clearSignals => "clear all signals"
  | addSignal => "adding signal"
  | getSignal => "get signal value"
  | setSignal => "set signal value"
  | iif => "call iif"
  | getLastSimulationTime => "call get_last_simulation_time"
  | addIoConnection => "call add_io_connection"

end HostFunction

/-- The library functions of the language whose work is told here. -/
inductive LibraryFunction where
  | assert
  | error
  | getmetatable
  | mathAbs
  | mathType
  | pcall
  | print
  | rawequal
  | rawget
  | rawlen
  | rawset
  | select
  | setmetatable
  | stringFormat
  | stringRep
  /-- An arithmetic operator with a string among its operands. -/
  | stringArithmetic (op : Arithmetic)
  /-- The negative of a string. -/
  | stringNegate
  | coroutineCreate
  | tostring
  | type
  deriving Repr, DecidableEq, Hashable, Inhabited

/-- Everything that can be called. The two component functions answer for the global that holds
the device's id: one reads it, the other refuses assignments to it. -/
inductive Callable where
  | closure (ref : Nat)
  | library (f : LibraryFunction)
  /-- A library function of which only the name is known. -/
  | foreign (name : String)
  | host (f : HostFunction)
  | readComponent
  | writeComponent
  deriving Repr, DecidableEq, Hashable, Inhabited

inductive Value where
  | nil
  | boolean (b : Bool)
  | integer (n : Int64)
  | number (x : Double)
  | string (bytes : ByteArray)
  | table (ref : Nat)
  | function (f : Callable)
  | thread (ref : Nat)
  | failure (ref : Nat)
  /-- An object of the library, such as an open file. -/
  | userdata (ref : Nat)
  deriving Inhabited

namespace Value

def ofText (text : String) : Value := .string text.toUTF8

def ofFloat (x : Float) : Value := .number (.ofFloat x)

def ofNumber : Numeral.Number → Value
  | .integer n => .integer n
  | .real x => .number x

/-- The type a script sees; a caught failure is opaque to it. -/
def typeName : Value → String
  | nil => "nil"
  | boolean _ => "boolean"
  | integer _ | number _ => "number"
  | string _ => "string"
  | table _ => "table"
  | function _ => "function"
  | thread _ => "thread"
  | failure _ | userdata _ => "userdata"

/-- The type the host names in its messages. -/
def hostTypeName : Value → String
  | nil => "nil"
  | boolean _ => "boolean"
  | integer _ => "integer"
  | number _ => "number"
  | string _ => "string"
  | table _ => "table"
  | function _ => "function"
  | thread _ => "thread"
  | failure _ => "error"
  | userdata _ => "userdata"

def isNil : Value → Bool
  | nil => true
  | _ => false

/-- Everything but nil and false counts as true. -/
def truthy : Value → Bool
  | nil | boolean false => false
  | _ => true

/-- Each byte as the character of the same number. -/
def asciiChars (bytes : ByteArray) : List Char := bytes.toList.map fun b => Char.ofNat b.toNat

/-- The number a numeral in a string stands for. -/
def numeral? (bytes : ByteArray) : Option Numeral.Number := Numeral.read? (asciiChars bytes)

/-- Numbers, and strings that hold a numeral. -/
def toNumber? : Value → Option Numeral.Number
  | integer n => some (.integer n)
  | number x => some (.real x)
  | string bytes => numeral? bytes
  | _ => none

/-- Strings, and numbers by their text. -/
def toBytes? : Value → Option ByteArray
  | string bytes => some bytes
  | integer n => some (Numeral.integerText n).toUTF8
  | number x => some (Numeral.realText x).toUTF8
  | _ => none

/-- The number a value is, without looking into strings. -/
def number? : Value → Option Numeral.Number
  | .integer n => some (.integer n)
  | .number x => some (.real x)
  | _ => none

/-- Equality without metatables: numbers by value, strings by content, the rest by identity. -/
def rawEqual (a b : Value) : Bool :=
  match a, b with
  | .nil, .nil => true
  | .boolean x, .boolean y => x = y
  | .integer x, .integer y => x = y
  | .string x, .string y => x = y
  | .table x, .table y => x = y
  | .function f, .function g => f = g
  | .thread x, .thread y => x = y
  | .failure x, .failure y => x = y
  | .userdata x, .userdata y => x = y
  | a, b =>
    match number? a, number? b with
    | some x, some y => compareNumbers x y = some .eq
    | _, _ => false

/-- The order of byte strings: by the first byte that differs, a beginning before the whole. -/
def compareBytes : List UInt8 → List UInt8 → Ordering
  | [], [] => .eq
  | [], _ => .lt
  | _, [] => .gt
  | x :: xs, y :: ys => (compare x y).then (compareBytes xs ys)

end Value

end StationScript
