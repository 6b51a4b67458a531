import StationScript.Script.Numeral

/-!
TOML documents as trees.

A table remembers how it came about, because that decides whether later lines may add to it.
-/

set_option autoImplicit false

namespace StationScript.Toml

/-- How a table came about. -/
inductive TableOrigin where
  /-- By a header of its own, or as the document itself. -/
  | header
  /-- By the header of a table inside it. -/
  | implied
  /-- By a dotted key. -/
  | dotted
  /-- In braces; nothing can be added to it. -/
  | inline
  deriving Repr, DecidableEq

inductive Node where
  | string (text : String)
  | integer (n : Int)
  | real (x : Float)
  | boolean (b : Bool)
  /-- A date, a time or both; which one is of no interest here. -/
  | moment
  | array (items : List Node)
  | table (origin : TableOrigin) (entries : List (String × Node))
  /-- Tables that were added one by one under a header in double brackets. -/
  | tables (items : List (List (String × Node)))
  deriving Inhabited

/-- Keys with their values, in the order in which they were added. -/
abbrev Entries := List (String × Node)

/-- Gives a key that is present another value. -/
def Entries.replace (key : String) (node : Node) : Entries → Entries
  | [] => []
  | (k, n) :: rest => if k = key then (k, node) :: rest else (k, n) :: Entries.replace key node rest

def Entries.erase (key : String) (entries : Entries) : Entries :=
  entries.filter fun entry => entry.1 ≠ key

end StationScript.Toml
