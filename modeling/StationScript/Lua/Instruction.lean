import StationScript.Script.Value

/-!
Instructions of the register machine that runs scripts.

Each call of a function has a window of registers; `a` is nearly always the register that receives
the result. An arithmetic instruction is followed by a `fallback`, which runs when the operands are
not both numbers, and a test is followed by a `jump`, which runs when its outcome is `expected`.
-/

set_option autoImplicit false

namespace StationScript.Lua

/-- What a metatable can say how to do. -/
inductive Event where
  | index
  | newindex
  | call
  | close
  | length
  | equal
  | less
  | lessEqual
  | concat
  | negate
  | complement
  | arithmetic (op : Arithmetic)
  | bitwise (op : Bitwise)
  deriving Repr, DecidableEq, Inhabited

/-- The name of an event in messages; a metatable holds it behind two underscores. -/
def Event.name : Event → String
  | index => "index"
  | newindex => "newindex"
  | call => "call"
  | close => "close"
  | length => "len"
  | equal => "eq"
  | less => "lt"
  | lessEqual => "le"
  | concat => "concat"
  | negate => "unm"
  | complement => "bnot"
  | arithmetic .add => "add"
  | arithmetic .sub => "sub"
  | arithmetic .mul => "mul"
  | arithmetic .div => "div"
  | arithmetic .floorDiv => "idiv"
  | arithmetic .mod => "mod"
  | arithmetic .pow => "pow"
  | bitwise .both => "band"
  | bitwise .either => "bor"
  | bitwise .differ => "bxor"
  | bitwise .shiftLeft => "shl"
  | bitwise .shiftRight => "shr"

/-- Where an operand comes from. -/
inductive Source where
  | register (r : Nat)
  | constant (k : Nat)
  deriving Repr, DecidableEq, Inhabited

/-- The order that a test asks about. -/
inductive Order where
  | less
  | lessEqual
  deriving Repr, DecidableEq, Inhabited

def Order.event : Order → Event
  | less => .less
  | lessEqual => .lessEqual

inductive Instruction where
  | move (a b : Nat)
  | loadInteger (a : Nat) (n : Int)
  | loadReal (a : Nat) (n : Int)
  | loadConstant (a k : Nat)
  | loadFalse (a : Nat)
  /-- Loads false and skips the next instruction. -/
  | loadFalseSkip (a : Nat)
  | loadTrue (a : Nat)
  | loadNil (a count : Nat)
  | getUpvalue (a up : Nat)
  | setUpvalue (up b : Nat)
  | getUpvalueField (a up k : Nat)
  | getIndexed (a table key : Nat)
  | getInteger (a table n : Nat)
  | getField (a table k : Nat)
  | setUpvalueField (up k : Nat) (value : Source)
  | setIndexed (table key : Nat) (value : Source)
  | setInteger (table n : Nat) (value : Source)
  | setField (table k : Nat) (value : Source)
  /-- A table with room for positions and other keys. -/
  | newTable (a positions keys : Nat)
  /-- Puts a method into `a` and its object behind it. -/
  | method (a object : Nat) (key : Source)
  | addImmediate (a b : Nat) (n : Int)
  | shiftRightImmediate (a b : Nat) (n : Int)
  /-- Shifts the number `n` by a register. -/
  | shiftLeftImmediate (a b : Nat) (n : Int)
  | arithmeticConstant (op : Arithmetic) (a b k : Nat)
  | bitwiseConstant (op : Bitwise) (a b k : Nat)
  | arithmetic (op : Arithmetic) (a b c : Nat)
  | bitwise (op : Bitwise) (a b c : Nat)
  | fallback (a b : Nat) (event : Event)
  /-- A fallback whose second operand is a number; `flipped` means that it is the first one. -/
  | fallbackImmediate (a : Nat) (n : Int) (event : Event) (flipped : Bool)
  | fallbackConstant (a k : Nat) (event : Event) (flipped : Bool)
  | negate (a b : Nat)
  | complement (a b : Nat)
  | invert (a b : Nat)
  | length (a b : Nat)
  /-- Joins `count` registers from `a` on. -/
  | concat (a count : Nat)
  /-- Closes the variables from `a` on: for the functions that have captured them, and by their own
  methods where they have to be closed. -/
  | close (a : Nat)
  /-- From here on the variable in `a` has to be closed when its scope is left. -/
  | toBeClosed (a : Nat)
  | jump (target : Nat)
  | equal (a b : Nat) (expected : Bool)
  | order (op : Order) (a b : Nat) (expected : Bool)
  | equalConstant (a k : Nat) (expected : Bool)
  | equalImmediate (a : Nat) (n : Int) (expected : Bool)
  /-- Compares with a number, which is the first operand when `flipped`. -/
  | orderImmediate (op : Order) (flipped : Bool) (a : Nat) (n : Int) (real : Bool)
      (expected : Bool)
  | test (a : Nat) (expected : Bool)
  /-- Copies `b` if it is as expected. -/
  | testSet (a b : Nat) (expected : Bool)
  /-- Calls the function in `a` with the registers behind it; without a count, up to the top. -/
  | call (a : Nat) (arguments results : Option Nat)
  | tailCall (a : Nat) (arguments : Option Nat)
  | answer (a : Nat) (count : Option Nat)
  | forLoop (a start : Nat)
  | forPrepare (a finish : Nat)
  | iteratorPrepare (a target : Nat)
  | iteratorCall (a count : Nat)
  | iteratorLoop (a start : Nat)
  /-- Assigns the registers behind `a` to the positions behind the first `offset`. -/
  | setList (a : Nat) (count : Option Nat) (offset : Nat)
  | closure (a f : Nat)
  | varargs (a : Nat) (count : Option Nat)
  /-- Sets surplus arguments aside. -/
  | prepareVarargs
  deriving Repr, Inhabited

namespace Instruction

/-- The instruction does not run when the one before it settled the matter. -/
def isFallback : Instruction → Bool
  | fallback .. | fallbackImmediate .. | fallbackConstant .. => true
  | _ => false

/-- The instruction is followed by a jump. -/
def isTest : Instruction → Bool
  | equal .. | order .. | equalConstant .. | equalImmediate .. | orderImmediate .. | test ..
  | testSet .. => true
  | _ => false

/-- The register that the instruction is known for setting. -/
def target? : Instruction → Option Nat
  | move a _ | loadInteger a _ | loadReal a _ | loadConstant a _ | loadFalse a | loadFalseSkip a
  | loadTrue a | loadNil a _ | getUpvalue a _ | getUpvalueField a _ _ | getIndexed a _ _
  | getInteger a _ _ | getField a _ _ | newTable a _ _ | method a _ _ | addImmediate a _ _
  | shiftRightImmediate a _ _ | shiftLeftImmediate a _ _ | arithmeticConstant _ a _ _
  | bitwiseConstant _ a _ _ | arithmetic _ a _ _ | bitwise _ a _ _ | negate a _ | complement a _
  | invert a _ | length a _ | concat a _ | testSet a _ _ | call a _ _ | tailCall a _ | forLoop a _
  | forPrepare a _ | iteratorLoop a _ | closure a _ | varargs a _ => some a
  | setUpvalue .. | setUpvalueField .. | setIndexed .. | setInteger .. | setField .. | fallback ..
  | fallbackImmediate .. | fallbackConstant .. | close .. | toBeClosed .. | jump .. | equal ..
  | order .. | equalConstant .. | equalImmediate .. | orderImmediate .. | test .. | answer ..
  | iteratorPrepare .. | iteratorCall .. | setList .. | prepareVarargs => none

/-- Puts the result of the instruction into another register. -/
def withTarget (i : Instruction) (r : Nat) : Instruction :=
  match i with
  | getUpvalue _ up => getUpvalue r up
  | getUpvalueField _ up k => getUpvalueField r up k
  | getIndexed _ t k => getIndexed r t k
  | getInteger _ t n => getInteger r t n
  | getField _ t k => getField r t k
  | addImmediate _ b n => addImmediate r b n
  | shiftRightImmediate _ b n => shiftRightImmediate r b n
  | shiftLeftImmediate _ b n => shiftLeftImmediate r b n
  | arithmeticConstant op _ b k => arithmeticConstant op r b k
  | bitwiseConstant op _ b k => bitwiseConstant op r b k
  | arithmetic op _ b c => arithmetic op r b c
  | bitwise op _ b c => bitwise op r b c
  | negate _ b => negate r b
  | complement _ b => complement r b
  | invert _ b => invert r b
  | length _ b => length r b
  | closure _ f => closure r f
  | varargs _ count => varargs r count
  | i => i

end Instruction

/-- A variable of an enclosing function: one of that function's registers, or a variable that it
has captured itself. -/
structure Capture where
  name : String
  fromRegister : Bool
  position : Nat
  readOnly : Bool := false
  deriving Repr, Inhabited

/-- The instructions between which a local variable exists. -/
structure LocalRange where
  name : String
  start : Nat
  stop : Nat
  deriving Repr, Inhabited

/-- A compiled function. -/
structure Prototype where
  code : Array Instruction
  /-- The line of each instruction. -/
  lines : Array Nat
  constants : Array Value
  functions : Array Prototype
  captures : Array Capture
  locals : Array LocalRange
  parameters : Nat
  variadic : Bool
  /-- The size of the register window. -/
  registers : Nat
  /-- The line on which the function begins; a whole program begins on line zero. -/
  line : Nat
  deriving Inhabited

end StationScript.Lua
