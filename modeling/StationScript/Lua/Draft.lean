import StationScript.Lua.Instruction

/-!
Functions under construction.

An `Assembler` works on a draft of the innermost function and may find that the function breaks a
limit. It emits instructions, hands out registers and collects constants. A jump that does not know
its target yet is kept in a list until `patch` tells it.
-/

set_option autoImplicit false

namespace StationScript.Lua

/-- Why a function cannot be built. -/
inductive DraftFault where
  | tooManyRegisters
  | tooMany (what : String) (limit line : Nat)
  | strayBreak (line : Nat)
  | undefinedLabel (name : String) (line : Nat)
  | repeatedLabel (name : String) (line : Nat)
  | jumpIntoScope (name : String) (line : Nat) (variableName : String)
  | constantTarget (name : String)
  | unknownAttribute (name : String)
  | severalToClose
  deriving Repr, DecidableEq

namespace DraftFault

def message : DraftFault → String
  | tooManyRegisters => "function or expression needs too many registers"
  | tooMany what limit line =>
    "too many " ++ what ++ " (limit is " ++ toString limit ++ ") in " ++
      (if line = 0 then "main function" else "function at line " ++ toString line)
  | strayBreak line => "break outside a loop at line " ++ toString line
  | undefinedLabel name line =>
    "no visible label '" ++ name ++ "' for <goto> at line " ++ toString line
  | repeatedLabel name line => "label '" ++ name ++ "' already defined on line " ++ toString line
  | jumpIntoScope name line variableName =>
    "<goto " ++ name ++ "> at line " ++ toString line ++ " jumps into the scope of local '" ++
      variableName ++ "'"
  | constantTarget name => "attempt to assign to const variable '" ++ name ++ "'"
  | unknownAttribute name => "unknown attribute '" ++ name ++ "'"
  | severalToClose => "multiple to-be-closed variables in local list"

/-- The fault shows at the current element, which the message names. -/
def isLocated : DraftFault → Bool
  | tooManyRegisters | tooMany .. => true
  | _ => false

end DraftFault

/-- What a local name stands for. -/
inductive LocalKind where
  /-- A register, and the entry among the ranges of locals. -/
  | register (r range : Nat)
  /-- A constant that takes no register. -/
  | constant (value : Value)
  deriving Inhabited

structure LocalVariable where
  name : String
  kind : LocalKind
  readOnly : Bool := false
  deriving Inhabited

/-- The jumps of a `goto` or `break` whose label is not known yet. -/
structure PendingGoto where
  /-- Nothing for `break`. -/
  label : Option String
  line : Nat
  jumps : List Nat
  /-- How many local variables are in scope. -/
  depth : Nat
  /-- Captured variables are left. -/
  closes : Bool := false
  deriving Inhabited

structure Label where
  name : String
  line : Nat
  target : Nat
  depth : Nat
  deriving Inhabited

/-- A block: how many variables, labels and pending jumps there were outside. -/
structure Block where
  depth : Nat
  labels : Nat
  gotos : Nat
  isLoop : Bool
  /-- A variable of the block is captured by an inner function. -/
  captured : Bool := false
  /-- Variables of the block have to be closed whenever it is left. -/
  closing : Bool := false
  deriving Inhabited

structure Draft where
  code : Array Instruction := #[]
  lines : Array Nat := #[]
  constants : Array Value := #[]
  functions : Array Prototype := #[]
  captures : Array Capture := #[]
  ranges : Array LocalRange := #[]
  parameters : Nat := 0
  variadic : Bool := false
  registers : Nat := 2
  line : Nat := 0
  /-- Local variables in scope. -/
  locals : Array LocalVariable := #[]
  /-- Names of local variables that are declared but not in scope yet. -/
  declared : Array (String × Bool) := #[]
  free : Nat := 0
  blocks : List Block := []
  labels : Array Label := #[]
  gotos : Array PendingGoto := #[]
  /-- Some jump leads here, so instructions before it and behind it are not to be merged. -/
  lastTarget : Nat := 0
  deriving Inhabited

/-- The functions under construction, the innermost first, and the line that instructions belong
to. -/
structure Assembly where
  place : Nat := 1
  draft : Draft := {}
  outer : List Draft := []
  deriving Inhabited

abbrev Assembler := StateT Assembly (Except DraftFault)

namespace Assembler

def draft : Assembler Draft := return (← get).draft

def modifyDraft (change : Draft → Draft) : Assembler Unit :=
  modify fun a => { a with draft := change a.draft }

/-- The position of the next instruction. -/
def here : Assembler Nat := return (← draft).code.size

def emit (i : Instruction) : Assembler Nat := do
  let a ← get
  set { a with draft := { a.draft with
    code := a.draft.code.push i, lines := a.draft.lines.push a.place } }
  return a.draft.code.size

/-- Attributes the last instruction to another line. -/
def fixLine (line : Nat) : Assembler Unit :=
  modifyDraft fun d => { d with lines := d.lines.set! (d.lines.size - 1) line }

def instruction (position : Nat) : Assembler Instruction :=
  return (← draft).code.getD position default

def replace (position : Nat) (i : Instruction) : Assembler Unit :=
  modifyDraft fun d => { d with code := d.code.set! position i }

def removeLast : Assembler Unit :=
  modifyDraft fun d => { d with code := d.code.pop, lines := d.lines.pop }

/-- The next position, which becomes the target of a jump. -/
def label : Assembler Nat := do
  let position ← here
  modifyDraft fun d => { d with lastTarget := position }
  return position

/-- The last instruction, unless a jump leads behind it. -/
def previous? : Assembler (Option Instruction) := do
  let d ← draft
  return if d.lastTarget < d.code.size then d.code.back? else none

/-- The size of the largest register window. -/
def registerLimit : Nat := 255

/-- The number of registers that the variables in scope take: one behind that of the last one that
has any. -/
def registersOf (locals : Array LocalVariable) : Nat → Nat
  | 0 => 0
  | n + 1 =>
    match (locals.getD n default).kind with
    | .register r _ => r + 1
    | .constant _ => registersOf locals n

def variableRegisters : Assembler Nat := do
  let d ← draft
  return registersOf d.locals d.locals.size

def checkRegisters (count : Nat) : Assembler Unit := do
  let d ← draft
  let needed := d.free + count
  if d.registers < needed then
    if registerLimit ≤ needed then throw .tooManyRegisters
    modifyDraft fun d => { d with registers := needed }

def reserve (count : Nat) : Assembler Unit := do
  checkRegisters count
  modifyDraft fun d => { d with free := d.free + count }

def setFree (r : Nat) : Assembler Unit := modifyDraft fun d => { d with free := r }

/-- Frees the topmost register unless a variable lives in it. -/
def release (r : Nat) : Assembler Unit := do
  if (← variableRegisters) ≤ r then modifyDraft fun d => { d with free := d.free - 1 }

/-- Frees two registers, the higher one first. -/
def releaseBoth (r s : Option Nat) : Assembler Unit := do
  match r, s with
  | some r, some s =>
    release (max r s)
    release (min r s)
  | some r, none | none, some r => release r
  | none, none => return ()

def sameConstant : Value → Value → Bool
  | .nil, .nil => true
  | .boolean a, .boolean b => a = b
  | .integer a, .integer b => a = b
  | .number a, .number b => a.value.toBits = b.value.toBits
  | .string a, .string b => a = b
  | _, _ => false

/-- The place of a constant, which is kept once. -/
def constant (value : Value) : Assembler Nat := do
  let d ← draft
  match d.constants.findIdx? (sameConstant value) with
  | some k => return k
  | none =>
    modifyDraft fun d => { d with constants := d.constants.push value }
    return d.constants.size

/-- The largest place of a constant that an operand can name. -/
def constantOperandLimit : Nat := 255

/-- Emits a jump whose target is not known yet. -/
def jump : Assembler Nat := emit (.jump 0)

def setJump (position target : Nat) : Assembler Unit := do
  match ← instruction position with
  | .forLoop a _ => replace position (.forLoop a target)
  | .forPrepare a _ => replace position (.forPrepare a target)
  | .iteratorPrepare a _ => replace position (.iteratorPrepare a target)
  | .iteratorLoop a _ => replace position (.iteratorLoop a target)
  | _ => replace position (.jump target)

/-- The position of the instruction that decides about a jump. -/
def controller (position : Nat) : Assembler Nat := do
  if position = 0 then return position
  return if (← instruction (position - 1)).isTest then position - 1 else position

/-- Lets a jump that carries a value put it into a register, or into none; says whether it carries
one. -/
def carryTo (position : Nat) (r : Option Nat) : Assembler Bool := do
  let control ← controller position
  match ← instruction control with
  | .testSet _ b expected =>
    match r with
    | some r =>
      if r ≠ b then replace control (.testSet r b expected) else replace control (.test b expected)
    | none => replace control (.test b expected)
    return true
  | _ => return false

/-- The values that jumps carry are not needed. -/
def dropValues (jumps : List Nat) : Assembler Unit := do
  for j in jumps do
    let _ ← carryTo j none

/-- Some of the jumps carries no value. -/
def needsValue (jumps : List Nat) : Assembler Bool :=
  jumps.anyM fun j => do
    match ← instruction (← controller j) with
    | .testSet .. => return false
    | _ => return true

/-- Jumps that carry a value put it into the register and lead to one target, the others to
another. -/
def patchValues (jumps : List Nat) (r : Option Nat) (carrying plain : Nat) : Assembler Unit := do
  for j in jumps do
    if ← carryTo j r then setJump j carrying else setJump j plain

def patch (jumps : List Nat) (target : Nat) : Assembler Unit := patchValues jumps none target target

def patchHere (jumps : List Nat) : Assembler Unit := do patch jumps (← label)

/-- Emits a test and the jump that depends on it. -/
def testJump (i : Instruction) : Assembler Nat := do
  let _ ← emit i
  jump

/-- Sets registers to nil; neighbours of registers that were just set so are joined with them. -/
def loadNils (first count : Nat) : Assembler Unit := do
  let last := first + count - 1
  match ← previous? with
  | some (.loadNil a n) =>
    let b := a + n - 1
    if (a ≤ first && first ≤ b + 1) || (first ≤ a && a ≤ last + 1) then
      let low := min a first
      replace ((← here) - 1) (.loadNil low (max b last - low + 1))
    else
      let _ ← emit (.loadNil first count)
  | _ =>
    let _ ← emit (.loadNil first count)

def answer (first : Nat) (count : Option Nat) : Assembler Unit := do
  let _ ← emit (.answer first count)

/-- The end of a chain of jumps. -/
def jumpEnd (code : Array Instruction) : Nat → Nat → Nat
  | 0, position => position
  | fuel + 1, position =>
    match code[position]? with
    | some (.jump target) => jumpEnd code fuel target
    | _ => position

/-- The finished function. Jumps to jumps lead on to where those lead. -/
def finish (d : Draft) : Prototype where
  code := d.code.map fun
    | .jump target => .jump (jumpEnd d.code 99 target)
    | i => i
  lines := d.lines
  constants := d.constants
  functions := d.functions
  captures := d.captures
  locals := d.ranges
  parameters := d.parameters
  variadic := d.variadic
  registers := d.registers
  line := d.line

end Assembler

end StationScript.Lua
