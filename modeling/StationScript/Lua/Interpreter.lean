import StationScript.Lua.Grammar
import StationScript.Lua.Step

/-!
Lua as an engine for the host.

A fresh machine knows the library, the host functions, and the device's id. The id is no entry of
the globals: their metatable answers for it, so that an assignment to it can be refused. When a
machine is given up, the finalizers of the tables that were marked run as the last part of the
script.
-/

set_option autoImplicit false

namespace StationScript.Lua

/-- Assigns texts to values in a table. -/
def tableOf (fields : List (String × Value)) : Table :=
  fields.foldl (fun table (name, value) => table.setText name value) {}

def libraryValue (f : LibraryFunction) : Value := .function (.library f)

def libraryFields (fields : List (String × LibraryFunction)) : List (String × Value) :=
  fields.map fun (name, f) => (name, libraryValue f)

/-- The functions of a library that are known by their names only; `path` stands before them. -/
def foreignFields (path : String) (names : List String) : List (String × Value) :=
  names.map fun name => (name, .function (.foreign (path ++ name)))

/-- What the language brings along: its globals, none of which has the name that is reserved for the
device's id, and the tables that have their places behind those of the globals and their guard. -/
structure StandardLibrary where
  globals : List (String × Value)
  tables : Array Table
  unreserved : ∀ field ∈ globals, field.1 ≠ Library.componentName

namespace StandardLibrary

def basicFields : List (String × Value) :=
  libraryFields [("assert", .assert), ("error", .error), ("getmetatable", .getmetatable),
    ("pcall", .pcall), ("print", .print), ("rawequal", .rawequal), ("rawget", .rawget),
    ("rawlen", .rawlen), ("rawset", .rawset), ("select", .select),
    ("setmetatable", .setmetatable), ("tostring", .tostring), ("type", .type)] ++
  foreignFields "" ["collectgarbage", "dofile", "ipairs", "load", "loadfile", "next", "pairs",
    "require", "tonumber", "warn", "xpcall"]

def stringFields : List (String × Value) :=
  libraryFields [("format", .stringFormat), ("rep", .stringRep)] ++
  foreignFields "string." ["byte", "char", "dump", "find", "gmatch", "gsub", "len", "lower",
    "match", "pack", "packsize", "reverse", "sub", "unpack", "upper"]

/-- The operators for which strings stand for numbers. -/
def stringHandlers : List (String × Value) :=
  [Arithmetic.add, .sub, .mul, .div, .floorDiv, .mod, .pow].map fun op =>
    ("__" ++ (Event.arithmetic op).name, libraryValue (.stringArithmetic op))

def mathFields : List (String × Value) :=
  libraryFields [("abs", .mathAbs), ("type", .mathType)] ++
  [("huge", .ofFloat (Binary64.infinity false)), ("maxinteger", .integer Int64.maxValue),
    ("mininteger", .integer Int64.minValue), ("pi", .ofFloat 3.141592653589793)] ++
  foreignFields "math." ["acos", "asin", "atan", "ceil", "cos", "deg", "exp", "floor", "fmod",
    "log", "max", "min", "modf", "rad", "random", "randomseed", "sin", "sqrt", "tan", "tointeger",
    "ult"]

def coroutineFields : List (String × Value) :=
  libraryFields [("create", .coroutineCreate)] ++
  foreignFields "coroutine." ["close", "isyieldable", "resume", "running", "status", "wrap",
    "yield"]

def tableFields : List (String × Value) :=
  foreignFields "table." ["concat", "insert", "move", "pack", "remove", "sort", "unpack"]

/-- The three files that are open from the start are the first objects. -/
def inputOutputFields : List (String × Value) :=
  foreignFields "io." ["close", "flush", "input", "lines", "open", "output", "popen", "read",
    "tmpfile", "type", "write"] ++
  [("stdin", .userdata 0), ("stdout", .userdata 1), ("stderr", .userdata 2)]

def systemFields : List (String × Value) :=
  foreignFields "os." ["clock", "date", "difftime", "execute", "exit", "getenv", "remove", "rename",
    "setlocale", "time", "tmpname"]

def utf8Fields : List (String × Value) :=
  ("charpattern", .string ⟨#[91, 0, 45, 127, 194, 45, 253, 93, 91, 128, 45, 191, 93, 42]⟩) ::
  foreignFields "utf8." ["char", "codepoint", "codes", "len", "offset"]

/-- The tables that the package library keeps. -/
def loadedRef : Nat := 11

def preloadRef : Nat := 12

def searchersRef : Nat := 13

/-- Where modules are searched is up to the surroundings, and left out. -/
def packageFields : List (String × Value) :=
  [("config", .ofText "/\n;\n?\n!\n-\n"), ("loaded", .table loadedRef),
    ("preload", .table preloadRef), ("searchers", .table searchersRef)] ++
  foreignFields "package." ["loadlib", "searchpath"]

def standardGlobals : List (String × Value) :=
  ("_G", .table Heap.globalsRef) :: ("_VERSION", .ofText "Lua 5.4") ::
  Heap.libraries.map (fun (name, ref) => (name, .table ref)) ++ basicFields

theorem standardGlobals_unreserved :
    ∀ field ∈ standardGlobals, field.1 ≠ Library.componentName := by
  decide +kernel

/-- The library as scripts find it. -/
def standard : StandardLibrary where
  globals := standardGlobals
  tables :=
    #[tableOf stringFields,
      tableOf (("__index", .table Heap.stringsRef) :: ("__unm", libraryValue .stringNegate) ::
        stringHandlers),
      tableOf mathFields, tableOf coroutineFields, tableOf tableFields, tableOf inputOutputFields,
      tableOf systemFields, tableOf utf8Fields, tableOf packageFields,
      tableOf (("_G", .table Heap.globalsRef) ::
        Heap.libraries.map fun (name, ref) => (name, .table ref)),
      {}, {}]
  unreserved := standardGlobals_unreserved

end StandardLibrary

/-- The globals of a fresh machine: those of the library, and the functions of the host. -/
def globalFields (library : StandardLibrary) : List (String × Value) :=
  library.globals ++ HostFunction.all.map fun f => (f.name, .function (.host f))

def Heap.initial (library : StandardLibrary) (component : String) : Heap where
  component
  tables :=
    #[{ tableOf (globalFields library) with metatable := some guardRef },
      tableOf [("__index", .function .readComponent), ("__newindex", .function .writeComponent)]] ++
    library.tables

/-- More steps than a script that ends can take. -/
def budget : Nat := 1000000000000000

/-- The slot into which the host puts a function that it calls. -/
def entrySlot : Nat := 2

/-- Calls a function for the host. -/
def Heap.call (heap : Heap) (function : Value) (arguments : List Value) :
    Run (Except Raised (List Value) × Heap) :=
  let count := arguments.length
  let m : Machine := { heap }
  let m := (m.reserve (entrySlot + 1 + count)).setSlots entrySlot (function :: arguments)
  State.run budget (.calling entrySlot count 1 m)

/-- Reads a global for the host. -/
def Heap.readGlobal (heap : Heap) (name : String) : Run (Except Raised (List Value) × Heap) :=
  let m : Machine := { heap }
  let key := Value.ofText name
  match heap.read key hopLimit true (.table Heap.globalsRef) with
  | .found value => .done (.ok [value], heap)
  | .asks handler object =>
    State.run budget (m.callWith .host entrySlot handler [object, key])
  | .refused object _ =>
    State.run budget
      ((m.push .host).fault ("attempt to index a " ++ heap.typeName object ++ " value"))
  | .endless =>
    State.run budget ((m.push .host).fault "'__index' chain too long; possible loop")

/-- An error as the host reports it: its value by its text, and the active calls. A failed host
call carries its own report. -/
def Raised.message (heap : Heap) (raised : Raised) : String :=
  match raised.value with
  | .failure ref => heap.failureText ref
  | value =>
    let shown := (Value.asciiChars (Library.plainText heap value)).takeWhile (· ≠ '\x00')
    "runtime error: " ++ shownChars shown ++ "\n" ++ raised.trace

/-- A returned value as the host reports it; nil is no result. -/
def describe? : Value → Option String
  | .nil => none
  | .string bytes => some (Utf8.decodeLossy bytes)
  | .integer n => some (Numeral.integerText n)
  | .number x => some (Decimal.positional x.value)
  | .boolean b => some (if b then "true" else "false")
  | other => some other.hostTypeName

/-- Calls the finalizer of a table, if it still has one. Nobody hears of an error. -/
def Heap.finalize (heap : Heap) (ref : Nat) : Run Heap :=
  match heap.metafield (.table ref) "gc" with
  | .nil => .done heap
  | handler => do return (← heap.call handler [.table ref]).2

def Heap.finalizeAll (heap : Heap) : List Nat → Run Unit
  | [] => .done ()
  | ref :: rest => do (← heap.finalize ref).finalizeAll rest

/-- Gives a memory up. The finalizers of the marked tables run, and no more table is marked. -/
def Heap.release (heap : Heap) : Run Unit :=
  Heap.finalizeAll { heap with marked := [], closing := true } heap.marked

/-- Runs a program in a fresh machine. If it fails, the machine is given up. -/
def runProgram (component : String) (program : Prototype) : Run (Except String Heap) := do
  let (heap, cell) :=
    (Heap.initial .standard component).addCell (.detached (.table Heap.globalsRef))
  let (heap, ref) := heap.addClosure ⟨program, #[cell]⟩
  match ← heap.call (.function (.closure ref)) [] with
  | (.ok _, heap) => return .ok heap
  | (.error raised, heap) =>
    heap.release
    return .error (raised.message heap)

def load (component source : String) : Except String (Run (Except String Heap)) :=
  match Prototype.ofSource source with
  | .error fault => .error fault.message
  | .ok program => .ok (runProgram component program)

/-- Calls a value that is a function and describes what it returns. -/
def invokeValue (heap : Heap) (value : Value) (arguments : List Value) :
    Run (Heap × Invocation) :=
  match value with
  | .function f => do
    match ← heap.call (.function f) arguments with
    | (.ok results, heap) =>
      match describe? (results.headD .nil) with
      | some description => return (heap, .returned description)
      | none => return (heap, .completed)
    | (.error raised, heap) => return (heap, .raised (raised.message heap))
  | _ => return (heap, .missing)

/-- Looks up a global function and calls it. -/
def invoke (heap : Heap) (entry : String) (arguments : List Value) : Run (Heap × Invocation) := do
  match ← heap.readGlobal entry with
  | (.ok values, heap) => invokeValue heap (values.headD .nil) arguments
  | (.error raised, heap) => return (heap, .raised (raised.message heap))

/-- The engine that runs Lua scripts. -/
def engine : Engine where
  Machine := Heap
  load := load
  invoke := invoke
  release := Heap.release

end StationScript.Lua
