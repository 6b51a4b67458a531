import Std.Data.HashMap
import StationScript.Lua.Layout

/-!
Tables of a script.

No entry holds nil, so assigning nil removes a key, and a key that is absent reads as nil: a key
reads as the value assigned to it last, and an assignment leaves every other key alone. The layout
follows the assignments and only answers which border is the length.
-/

set_option autoImplicit false

namespace StationScript.Lua

structure Table where
  /-- Keys with values other than nil. -/
  entries : Std.HashMap Key Value := {}
  layout : Layout := {}
  /-- The table that says how to treat absent keys and operators. -/
  metatable : Option Nat := none
  deriving Inhabited

namespace Table

/-- An empty table with room for a number of positions and a number of other keys. -/
def sized (positions keys : Nat) : Table := { layout := .sized positions keys }

def get (table : Table) (key : Key) : Value := (table.entries[key]?).getD .nil

def contains (table : Table) (key : Key) : Bool := table.entries.contains key

/-- Assigns to a key. -/
def set (table : Table) (key : Key) (value : Value) : Table :=
  match table with
  | { entries, layout, metatable } =>
    let layout := layout.touch key
    match value with
    | .nil =>
      let layout := if entries.contains key then layout.abandon key else layout
      { entries := entries.erase key, layout, metatable }
    | value =>
      let layout :=
        if entries.contains key then layout else layout.occupy (entries.contains ·) key
      { entries := entries.insert key value, layout, metatable }

def getText (table : Table) (name : String) : Value := table.get (.ofText name)

def setText (table : Table) (name : String) (value : Value) : Table :=
  table.set (.ofText name) value

/-- Assigns values to the positions behind the first `count`, which get slots. -/
def fill (table : Table) (count : Nat) (values : List Value) : Table :=
  let last := count + values.length
  let table :=
    if table.layout.capacity < last then
      let layout := table.layout.resize table.contains last table.layout.nodes.size
      { table with layout }
    else table
  (values.foldl (fun (table, n) value => (table.set (.ofIndex n) value, n + 1))
    (table, count + 1)).1

/-- A border, and the table with the hint for the next search. -/
def length (table : Table) : Nat × Table :=
  let (n, hint) := table.layout.border fun n => table.contains (.ofIndex n)
  (n, { table with layout := { table.layout with hint } })

/-- Notes that a key was looked up. -/
def touch (table : Table) (key : Key) : Table :=
  { table with layout := table.layout.touch key }

/-- A look-up of the key changes the hint. -/
def isMoved (table : Table) (key : Key) : Bool :=
  table.layout.hint < table.layout.capacity &&
    (key.index?.any fun n => table.layout.hint < n && n ≤ table.layout.capacity)

@[simp] theorem get_empty (key : Key) : ({} : Table).get key = .nil := by simp [get]

/-- A key reads as the value assigned to it last. -/
theorem get_set_self (table : Table) (key : Key) (value : Value) :
    (table.set key value).get key = value := by
  cases value <;> simp [set, get]

/-- An assignment leaves every other key alone. -/
theorem get_set_of_ne (table : Table) {key other : Key} (value : Value)
    (different : other ≠ key) : (table.set key value).get other = table.get other := by
  have apart : ¬ key = other := fun same => different same.symm
  cases value <;> simp [set, get, Std.HashMap.getElem?_insert, Std.HashMap.getElem?_erase, apart]

/-- Looking a key up changes no value. -/
@[simp] theorem get_touch (table : Table) (key other : Key) :
    (table.touch key).get other = table.get other := rfl

/-- Asking for the length changes no value. -/
@[simp] theorem get_length (table : Table) (key : Key) :
    table.length.2.get key = table.get key := rfl

end Table

end StationScript.Lua
