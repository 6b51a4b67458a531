import StationScript.Script.Value

/-!
Keys of tables.

A key is a value in normal form: a number with an integer value is that integer, and neither nil
nor an undefined number is a key.
-/

set_option autoImplicit false

namespace StationScript.Lua

inductive Key where
  | boolean (b : Bool)
  | integer (n : Int64)
  /-- A number without an integer value, by its bits. -/
  | number (bits : UInt64)
  | string (bytes : ByteArray)
  | table (ref : Nat)
  | function (f : Callable)
  | thread (ref : Nat)
  | failure (ref : Nat)
  | userdata (ref : Nat)
  deriving DecidableEq, Hashable

/-- Why a value is no key. -/
inductive KeyFault where
  | nil
  | undefinedNumber
  deriving Repr, DecidableEq

def KeyFault.message : KeyFault → String
  | nil => "table index is nil"
  | undefinedNumber => "table index is NaN"

namespace Key

def ofValue : Value → Except KeyFault Key
  | .nil => .error .nil
  | .boolean b => .ok (.boolean b)
  | .integer n => .ok (.integer n)
  | .number x =>
    match x.toInt64? with
    | some n => .ok (.integer n)
    | none => if x.isNaN then .error .undefinedNumber else .ok (.number x.value.toBits)
  | .string bytes => .ok (.string bytes)
  | .table ref => .ok (.table ref)
  | .function f => .ok (.function f)
  | .thread ref => .ok (.thread ref)
  | .failure ref => .ok (.failure ref)
  | .userdata ref => .ok (.userdata ref)

/-- The key of a text. -/
def ofText (text : String) : Key := .string text.toUTF8

/-- The key of a position in a list. -/
def ofIndex (n : Nat) : Key := .integer (Int64.ofNat n)

/-- The position in a list, counted from one. -/
def index? : Key → Option Nat
  | .integer n => if 0 < n then some n.toNatClampNeg else none
  | _ => none

end Key

end StationScript.Lua
