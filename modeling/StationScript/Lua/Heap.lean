import StationScript.Lua.Instruction
import StationScript.Lua.Table
import StationScript.Text.Utf8

/-!
The memory of a script: its tables, captured variables, functions and caught failures.

Whatever a script shares between two places is held here once and named by its position. The global
variables are the entries of one table, whose metatable answers for the device's id. A table whose
metatable has a finalizer when it is set is marked: the finalizer runs when the memory is given up.
-/

set_option autoImplicit false

namespace StationScript.Lua

/-- A variable that a function has captured. It is a register of the function it belongs to for as
long as that one runs. -/
inductive Cell where
  | register (slot : Nat)
  | detached (value : Value)
  deriving Inhabited

/-- A function together with the cells of the variables it has captured. -/
structure Closure where
  prototype : Prototype
  cells : Array Nat
  deriving Inhabited

structure Heap where
  /-- The id of the device, as scripts read it. -/
  component : String
  tables : Array Table := #[]
  cells : Array Cell := #[]
  closures : Array Closure := #[]
  /-- The texts of errors that host functions raised. -/
  failures : Array String := #[]
  threads : Nat := 0
  /-- The metatables of the library's objects. -/
  objects : Array (Option Nat) := #[]
  /-- The tables to be finalized, the one marked last first. -/
  marked : List Nat := []
  /-- The memory is being given up. -/
  closing : Bool := false
  deriving Inhabited

/-- So many metatables may refer to one another. -/
def hopLimit : Nat := 2000

/-- What reading a field comes to. -/
inductive Reading where
  | found (value : Value)
  /-- A function answers for a key that an object lacks. -/
  | asks (handler object : Value)
  /-- The object has no fields; it may be the one that was asked, or stand in for it. -/
  | refused (object : Value) (isFirst : Bool)
  | endless

/-- What assigning to a field comes to. -/
inductive Assigning where
  | stored
  | asks (handler object : Value)
  | refused (object : Value) (isFirst : Bool)
  | badKey (fault : KeyFault)
  | endless

namespace Heap

/-- The table of global variables. -/
def globalsRef : Nat := 0

/-- The metatable of the global variables. -/
def guardRef : Nat := 1

/-- The table that answers for fields of strings. -/
def stringsRef : Nat := 2

/-- The metatable of strings. -/
def stringGuardRef : Nat := 3

def mathRef : Nat := 4

def coroutineRef : Nat := 5

def tableLibraryRef : Nat := 6

def inputOutputRef : Nat := 7

def systemRef : Nat := 8

def utf8Ref : Nat := 9

def packageRef : Nat := 10

/-- The libraries that have a table of their own, by their global names. -/
def libraries : List (String × Nat) :=
  [("string", stringsRef), ("math", mathRef), ("coroutine", coroutineRef),
    ("table", tableLibraryRef), ("io", inputOutputRef), ("os", systemRef), ("utf8", utf8Ref),
    ("package", packageRef)]

def table (heap : Heap) (ref : Nat) : Table := heap.tables.getD ref {}

def modifyTable (heap : Heap) (ref : Nat) (change : Table → Table) : Heap :=
  { heap with tables := heap.tables.modify ref change }

def addTable (heap : Heap) (table : Table) : Heap × Nat :=
  let ref := heap.tables.size
  ({ heap with tables := heap.tables.push table }, ref)

def closure (heap : Heap) (ref : Nat) : Closure := heap.closures.getD ref default

def addClosure (heap : Heap) (closure : Closure) : Heap × Nat :=
  let ref := heap.closures.size
  ({ heap with closures := heap.closures.push closure }, ref)

def cell (heap : Heap) (position : Nat) : Cell := heap.cells.getD position default

def setCell (heap : Heap) (position : Nat) (cell : Cell) : Heap :=
  { heap with cells := heap.cells.set! position cell }

def addCell (heap : Heap) (cell : Cell) : Heap × Nat :=
  let position := heap.cells.size
  ({ heap with cells := heap.cells.push cell }, position)

def failureText (heap : Heap) (ref : Nat) : String := heap.failures.getD ref ""

def addFailure (heap : Heap) (text : String) : Heap × Nat :=
  let ref := heap.failures.size
  ({ heap with failures := heap.failures.push text }, ref)

def addThread (heap : Heap) : Heap × Nat :=
  let ref := heap.threads
  ({ heap with threads := ref + 1 }, ref)

/-- A failure that passes through the host comes back as another object with the same text. -/
def renew (heap : Heap) : Value → Heap × Value
  | .failure ref =>
    let (heap, copy) := heap.addFailure (heap.failureText ref)
    (heap, .failure copy)
  | value => (heap, value)

def renewAll (heap : Heap) : List Value → Heap × List Value
  | [] => (heap, [])
  | value :: rest =>
    let (heap, value) := heap.renew value
    let (heap, rest) := heap.renewAll rest
    (heap, value :: rest)

def globals (heap : Heap) : Table := heap.table globalsRef

/-- The table that says how to treat a value; tables, strings and objects of the library have
one. -/
def metatable? (heap : Heap) : Value → Option Nat
  | .table ref => (heap.table ref).metatable
  | .string _ => some stringGuardRef
  | .userdata ref => heap.objects.getD ref none
  | _ => none

/-- What the metatable of a value holds under a name behind two underscores. -/
def metafield (heap : Heap) (value : Value) (name : String) : Value :=
  match heap.metatable? value with
  | some ref => (heap.table ref).get (.ofText ("__" ++ name))
  | none => .nil

/-- How a value treats an event, if its metatable says so. -/
def handler (heap : Heap) (value : Value) (event : Event) : Value := heap.metafield value event.name

/-- The handler of the first operand that has one. -/
def operandHandler (heap : Heap) (event : Event) (x y : Value) : Value :=
  match heap.handler x event with
  | .nil => heap.handler y event
  | handler => handler

/-- The type of a value in messages; a metatable may name it. -/
def typeName (heap : Heap) (value : Value) : String :=
  match value with
  | .table _ | .userdata _ =>
    match heap.metafield value "name" with
    | .string bytes => Utf8.decodeLossy bytes
    | _ => value.typeName
  | value => value.typeName

/-- Marks a table that has a finalizer. A table is marked once, and none when the memory is being
given up. -/
def mark (heap : Heap) (ref : Nat) : Heap :=
  if heap.closing || (heap.metafield (.table ref) "gc").isNil || heap.marked.contains ref then heap
  else { heap with marked := ref :: heap.marked }

/-- The value of a key, without regard to metatables. -/
def getRaw (heap : Heap) (ref : Nat) (key : Value) : Value :=
  match Key.ofValue key with
  | .ok key => (heap.table ref).get key
  | .error _ => .nil

/-- Notes that a key of a table was looked up. -/
def touch (heap : Heap) (ref : Nat) (key : Key) : Heap :=
  if (heap.table ref).isMoved key then heap.modifyTable ref fun table => table.touch key else heap

def setRaw (heap : Heap) (ref : Nat) (key : Key) (value : Value) : Heap :=
  heap.modifyTable ref fun table => table.set key value

/-- The value of a key in an object that is a table. -/
def stored (heap : Heap) (object key : Value) : Value :=
  match object with
  | .table ref => heap.getRaw ref key
  | _ => .nil

/-- Reads a field, by way of metatables where the key is absent. -/
def read (heap : Heap) (key : Value) : (hops : Nat) → (isFirst : Bool) → Value → Reading
  | 0, _, object =>
    match heap.stored object key with
    | .nil => .endless
    | value => .found value
  | hops + 1, isFirst, object =>
    match heap.stored object key with
    | .nil =>
      match heap.handler object .index, object with
      | .nil, .table _ => .found .nil
      | .nil, object => .refused object isFirst
      | .function f, object => .asks (.function f) object
      | next, _ => heap.read key hops false next
    | value => .found value

/-- Notes which tables are looked into when a position is read. -/
def noteReading (key : Value) : (hops : Nat) → Value → Heap → Heap
  | hops + 1, .table ref, heap =>
    match Key.ofValue key with
    | .ok (.integer n) =>
      let heap := heap.touch ref (.integer n)
      match (heap.table ref).get (.integer n), heap.handler (.table ref) .index with
      | .nil, .table next => noteReading key hops (.table next) heap
      | _, _ => heap
    | _ => heap
  | _, _, heap => heap

/-- Assigns to a field of a table itself. -/
def store (heap : Heap) (ref : Nat) (key value : Value) : Heap × Assigning :=
  match Key.ofValue key with
  | .ok key => (heap.setRaw ref key value, .stored)
  | .error fault => (heap, .badKey fault)

/-- Assigns to a field. A metatable is asked only about keys that are absent. -/
def assign (heap : Heap) (key value : Value) :
    (hops : Nat) → (isFirst : Bool) → Value → Heap × Assigning
  | 0, _, object =>
    match heap.stored object key, object with
    | .nil, _ => (heap, .endless)
    | _, .table ref => heap.store ref key value
    | _, _ => (heap, .endless)
  | hops + 1, isFirst, object =>
    let handler := if (heap.stored object key).isNil then heap.handler object .newindex else .nil
    match handler, object with
    | .nil, .table ref => heap.store ref key value
    | .nil, object => (heap, .refused object isFirst)
    | .function f, object => (heap, .asks (.function f) object)
    | next, _ => heap.assign key value hops false next

/-- The name under which a table holds a function. -/
def nameIn (table : Table) (f : Callable) : Option String :=
  table.entries.toList.findSome? fun
    | (.string bytes, .function g) => if f = g then some (Utf8.decodeLossy bytes) else none
    | _ => none

/-- The global name of a function; a library function is named with its library. -/
def globalName? (heap : Heap) (f : Callable) : Option String :=
  match nameIn heap.globals f with
  | some name => some name
  | none =>
    libraries.findSome? fun (library, ref) =>
      (nameIn (heap.table ref) f).map fun name => library ++ "." ++ name

end Heap

end StationScript.Lua
