import StationScript.Lua.Scope
import StationScript.Lua.Token

/-!
The grammar of Lua: lexical elements read as a function of the register machine.

Code is emitted while the elements are read, and an instruction belongs to the line of the element
that was read last. Expressions and statements are the constructs that occur inside others:
`readPhrase` ties them together, and since only so many may be open at once, its depth is bounded.
-/

set_option autoImplicit false

namespace StationScript.Lua.Grammar

open Assembler (BinaryOp UnaryOp Comparison)

/-- Where reading stands. -/
structure Cursor where
  current : Lexeme
  ahead : List Lexeme
  fault : Option CompileFault
  /-- The line reached in the source. -/
  line : Nat
  /-- An element behind the current one has been looked at. -/
  peeked : Bool := false
  /-- How many constructs are open. -/
  level : Nat := 0
  /-- More than the number of elements. -/
  bound : Nat
  assembly : Assembly := {}

abbrev Reader := StateT Cursor (Except CompileFault)

/-- So many constructs may not be open at once. -/
def levelLimit : Nat := 200

def currentToken : Reader Token := return (← get).current.token

def line : Reader Nat := return (← get).line

/-- The element behind the current one. Looking at it moves on to its line. -/
def peek : Reader Token := do
  let c ← get
  match c.ahead, c.fault with
  | next :: _, _ =>
    set { c with line := next.line, peeked := true }
    return next.token
  | [], some fault => throw fault
  | [], none => return .finish

/-- Goes on to the next element; a lexical fault comes up when it is reached. -/
def advance : Reader Unit := do
  let c ← get
  let assembly := { c.assembly with place := c.line }
  match c.ahead, c.fault with
  | next :: ahead, _ =>
    let line := if c.peeked then c.line else next.line
    set { c with current := next, ahead, line, peeked := false, assembly }
  | [], some fault => throw fault
  | [], none => set { c with assembly }

/-- A complaint at the line reached. -/
def complain {α : Type} (text : String) : Reader α := do
  throw (.malformed (← get).line text)

/-- Refuses the current element. -/
def refuse {α : Type} (text : String) : Reader α := do
  complain (nearText text (← get).current.shown?)

/-- Does a piece of building. -/
def build {α : Type} (work : Assembler α) : Reader α := do
  let c ← get
  match work.run c.assembly with
  | .ok (a, assembly) =>
    set { c with assembly }
    return a
  | .error fault => if fault.isLocated then refuse fault.message else complain fault.message

def isAt (text : String) : Reader Bool := do
  match ← currentToken with
  | .fixed t => return t = text
  | _ => return false

/-- Takes the element if it is next. -/
def accept (text : String) : Reader Bool := do
  if ← isAt text then
    advance
    return true
  else return false

def expect (text : String) : Reader Unit := do
  if !(← accept text) then refuse (inQuotes text ++ " expected")

/-- Takes the element that closes what was opened on a line. -/
def expectClosing (closing opening : String) (opened : Nat) : Reader Unit := do
  if !(← accept closing) then
    if (← line) = opened then refuse (inQuotes closing ++ " expected")
    else refuse (inQuotes closing ++ " expected (to close " ++ inQuotes opening ++ " at line " ++
      toString opened ++ ")")

def takeName : Reader String := do
  match ← currentToken with
  | .name text =>
    advance
    return text
  | _ => refuse "<name> expected"

/-- Opens one more construct. -/
def openLevel : Reader Unit := do
  let c ← get
  if levelLimit ≤ c.level + 1 then throw .tooDeep
  set { c with level := c.level + 1 }

/-- Reads inside one more open construct. -/
def nested {α : Type} (inner : Reader α) : Reader α := do
  let level := (← get).level
  openLevel
  let a ← inner
  modify fun c => { c with level }
  return a

/-- Repeats a step until it says that it is done. -/
def repeatReading {σ : Type} (step : σ → Reader (σ × Bool)) : Nat → σ → Reader σ
  | 0, s => return s
  | fuel + 1, s => do
    let (s, done) ← step s
    if done then return s else repeatReading step fuel s

/-- Constructs that occur inside others. -/
inductive Phrase : Type → Type where
  /-- An expression whose operators bind more tightly than `limit` on their left. -/
  | expression (limit : Nat) : Phrase Expression
  | statement : Phrase Unit

/-- Reads the phrases inside a production. -/
abbrev Inner := ∀ {α : Type}, Phrase α → Reader α

/-- Priority of unary operators. -/
def unaryPriority : Nat := 12

/-- A binary operator with its priority to the left and to the right. -/
def binaryOp? : Token → Option (BinaryOp × Nat × Nat)
  | .fixed text =>
    match text with
    | "+" => some (.arithmetic .add, 10, 10)
    | "-" => some (.arithmetic .sub, 10, 10)
    | "*" => some (.arithmetic .mul, 11, 11)
    | "/" => some (.arithmetic .div, 11, 11)
    | "//" => some (.arithmetic .floorDiv, 11, 11)
    | "%" => some (.arithmetic .mod, 11, 11)
    | "^" => some (.arithmetic .pow, 14, 13)
    | ".." => some (.concat, 9, 8)
    | "<<" => some (.bitwise .shiftLeft, 7, 7)
    | ">>" => some (.bitwise .shiftRight, 7, 7)
    | "&" => some (.bitwise .both, 6, 6)
    | "~" => some (.bitwise .differ, 5, 5)
    | "|" => some (.bitwise .either, 4, 4)
    | "==" => some (.comparison .equal, 3, 3)
    | "~=" => some (.comparison .unequal, 3, 3)
    | "<" => some (.comparison .less, 3, 3)
    | "<=" => some (.comparison .lessEqual, 3, 3)
    | ">" => some (.comparison .greater, 3, 3)
    | ">=" => some (.comparison .greaterEqual, 3, 3)
    | "and" => some (.conjunction, 2, 2)
    | "or" => some (.disjunction, 1, 1)
    | _ => none
  | _ => none

def unaryOp? : Token → Option UnaryOp
  | .fixed text =>
    match text with
    | "not" => some .negation
    | "-" => some .negate
    | "~" => some .complement
    | "#" => some .length
    | _ => none
  | _ => none

/-- The name of the variable that holds the globals. -/
def globalsName : String := "_ENV"

def stringExpression (text : String) : Expression := { operand := .string text.toUTF8 }

/-- The name of a field, as a key. -/
def fieldName : Reader Expression := return stringExpression (← takeName)

/-- What a name stands for. -/
def nameExpression (name : String) : Reader Expression := build do
  match ← Assembler.findVariable name with
  | some operand => return { operand }
  | none =>
    let globals := (← Assembler.findVariable globalsName).getD .nothing
    let globals ← Assembler.toRegisterOrUpvalue { operand := globals }
    return { operand := ← Assembler.element globals (stringExpression name) }

/-- A selected field; the cursor stands at the point. -/
def fieldSelection (e : Expression) : Reader Expression := do
  let e ← build (Assembler.toRegisterOrUpvalue e)
  advance
  let key ← fieldName
  return { operand := ← build (Assembler.element e key) }

/-- The elements that end a block; `until` ends only some. -/
def atBlockEnd (withUntil : Bool) : Reader Bool := do
  match ← currentToken with
  | .finish | .fixed "else" | .fixed "elseif" | .fixed "end" => return true
  | .fixed "until" => return withUntil
  | _ => return false

section Productions

variable (inner : Inner)

/-- A list of expressions: all but the last are put into the next registers. Returns their number
and the last one. -/
def expressions : Reader (Nat × Expression) := do
  let first ← inner (.expression 0)
  repeatReading
    (fun (count, e) => do
      if ← accept "," then
        let _ ← build (Assembler.toNext e)
        return ((count + 1, ← inner (.expression 0)), false)
      else return ((count, e), true))
    (← get).bound (1, first)

/-- An index in brackets. -/
def bracketed : Reader Expression := do
  advance
  let e ← inner (.expression 0)
  let e ← build (Assembler.toValue e)
  expect "]"
  return e

/-- The items of a table that have been read. -/
structure Items where
  /-- The last positional item, until it is put into a register. -/
  last : Option Expression := none
  keyed : Nat := 0
  /-- Positional items that are in the table. -/
  stored : Nat := 0
  /-- Positional items that are not. -/
  pending : Nat := 0

/-- So many positional items are stored at once. -/
def itemsPerStore : Nat := 50

/-- Puts the last positional item into a register. -/
def settleItem (r : Nat) (items : Items) : Assembler Items := do
  match items.last with
  | none => return items
  | some e =>
    let _ ← Assembler.toNext e
    let items := { items with last := none }
    if items.pending = itemsPerStore then
      storeItems items
      return { items with stored := items.stored + items.pending, pending := 0 }
    else return items
where
  storeItems (items : Items) : Assembler Unit := do
    let _ ← Assembler.emit (.setList r (some items.pending) items.stored)
    Assembler.setFree (r + 1)

/-- Stores the items that are pending at the end and returns how many positional ones there are;
those of a last item with several values are not counted. -/
def finishItems (r : Nat) (items : Items) : Assembler Nat := do
  if items.pending = 0 then return items.stored
  match items.last with
  | some e =>
    if e.operand.isMulti then
      Assembler.wantResults e none
      let _ ← Assembler.emit (.setList r none items.stored)
      Assembler.setFree (r + 1)
      return items.stored + items.pending - 1
    else
      let _ ← Assembler.toNext e
  | none => pure ()
  let _ ← Assembler.emit (.setList r (some items.pending) items.stored)
  Assembler.setFree (r + 1)
  return items.stored + items.pending

def keyedItem (r : Nat) (items : Items) : Reader Items := do
  let free := (← get).assembly.draft.free
  let key ← if ← isAt "[" then bracketed inner else fieldName
  expect "="
  let target ← build (Assembler.element { operand := .register r } key)
  let value ← inner (.expression 0)
  build do
    Assembler.store target value
    Assembler.setFree free
  return { items with keyed := items.keyed + 1 }

def positionalItem (items : Items) : Reader Items := do
  let e ← inner (.expression 0)
  return { items with last := some e, pending := items.pending + 1 }

def item (r : Nat) (items : Items) : Reader Items := do
  match ← currentToken with
  | .name _ =>
    match ← peek with
    | .fixed "=" => keyedItem inner r items
    | _ => positionalItem inner items
  | .fixed "[" => keyedItem inner r items
  | _ => positionalItem inner items

def table : Reader Expression := do
  let opened ← line
  let (position, r) ← build do
    let position ← Assembler.emit (.newTable 0 0 0)
    let r := (← Assembler.draft).free
    Assembler.reserve 1
    return (position, r)
  expect "\x7b"
  let items ← repeatReading
    (fun items => do
      if ← isAt "\x7d" then return (items, true)
      let items ← build (settleItem r items)
      let items ← item inner r items
      let more ← (do if ← accept "," then return true else accept ";")
      return (items, !more))
    (← get).bound ({} : Items)
  expectClosing "\x7d" "\x7b" opened
  build do
    let positions ← finishItems r items
    Assembler.replace position (.newTable r positions items.keyed)
  return { operand := .register r }

/-- The arguments of the function in a register, and its call. -/
def call (base : Nat) : Reader Expression := do
  let opened ← line
  let last : Option Expression ←
    match ← currentToken with
    | .string bytes =>
      advance
      pure (some { operand := .string bytes })
    | .fixed "\x7b" => some <$> table inner
    | .fixed "(" =>
      advance
      if ← accept ")" then pure none
      else
        let (_, e) ← expressions inner
        if e.operand.isMulti then build (Assembler.wantResults e none)
        expectClosing ")" "(" opened
        pure (some e)
    | _ => refuse "function arguments expected"
  build do
    let arguments ←
      match last with
      | some e =>
        if e.operand.isMulti then pure none
        else
          let _ ← Assembler.toNext e
          pure (some ((← Assembler.draft).free - (base + 1)))
      | none => pure (some ((← Assembler.draft).free - (base + 1)))
    let position ← Assembler.emit (.call base arguments (some 1))
    Assembler.fixLine opened
    Assembler.setFree (base + 1)
    return { operand := .call position }

def primary : Reader Expression := do
  let opened ← line
  match ← currentToken with
  | .name text =>
    advance
    nameExpression text
  | .fixed "(" =>
    advance
    let e ← inner (.expression 0)
    expectClosing ")" "(" opened
    build (Assembler.discharge e)
  | _ => refuse "unexpected symbol"

/-- One selection or call behind an expression, if there is one. -/
def suffix (e : Expression) : Reader (Expression × Bool) := do
  match ← currentToken with
  | .fixed "." => return (← fieldSelection e, false)
  | .fixed "[" =>
    let e ← build (Assembler.toRegisterOrUpvalue e)
    let key ← bracketed inner
    return ({ operand := ← build (Assembler.element e key) }, false)
  | .fixed ":" =>
    advance
    let name ← takeName
    let e ← build (Assembler.selectMethod e name.toUTF8)
    return (← call inner (e.register?.getD 0), false)
  | .fixed "(" | .fixed "\x7b" | .string _ =>
    let base ← build (Assembler.toNext e)
    return (← call inner base, false)
  | _ => return (e, true)

def suffixed : Reader Expression := do
  let e ← primary inner
  repeatReading (suffix inner) (← get).bound e

/-- Statements up to the end of a block; `return` is the last one. -/
def block : Reader Unit := do
  repeatReading
    (fun _ => do
      if ← atBlockEnd true then return ((), true)
      let isLast ← isAt "return"
      inner .statement
      return ((), isLast))
    (← get).bound ()

/-- A block with variables of its own. -/
def scopedBlock : Reader Unit := do
  build (Assembler.enterBlock false)
  block inner
  let _ ← build Assembler.leaveBlock

/-- The parameters up to the closing parenthesis; says whether an ellipsis ends them. -/
def parameters : Reader Bool := do
  if ← isAt ")" then return false
  repeatReading
    (fun _ => do
      match ← currentToken with
      | .name text =>
        advance
        build (Assembler.declare text false)
        return (false, !(← accept ","))
      | .fixed "..." =>
        advance
        return (true, true)
      | _ => refuse "<name> or '...' expected")
    (← get).bound false

/-- Starts a function that begins on a line. -/
def openFunction (here : Nat) : Reader Unit := build do
  modify fun a => { a with draft := { line := here }, outer := a.draft :: a.outer }
  Assembler.enterBlock false

/-- Ends the innermost function. -/
def closeFunction : Assembler Prototype := do
  Assembler.answer (← Assembler.variableRegisters) (some 0)
  let _ ← Assembler.leaveBlock
  return Assembler.finish (← Assembler.draft)

/-- Parameters and body of a function that begins on line `here`. Its value goes to the next
register. -/
def functionBody (here : Nat) (isMethod : Bool) : Reader Expression := do
  openFunction here
  expect "("
  if isMethod then
    build do
      Assembler.declare "self" false
      Assembler.enterScope 1
  let variadic ← parameters
  build do
    Assembler.enterScope (← Assembler.draft).declared.size
    let count := (← Assembler.draft).locals.size
    Assembler.modifyDraft fun d => { d with parameters := count, variadic }
    if variadic then
      let _ ← Assembler.emit .prepareVarargs
    Assembler.reserve count
  expect ")"
  block inner
  expectClosing "end" "function" here
  build do
    let f ← closeFunction
    let a ← get
    match a.outer with
    | d :: outer =>
      set { a with draft := { d with functions := d.functions.push f }, outer }
      let position ← Assembler.emit (.closure 0 d.functions.size)
      return { operand := .register (← Assembler.toNext { operand := .result position }) }
    | [] => return { operand := .nil }

/-- Takes the current element as a whole expression. -/
def literal (operand : Operand) : Reader Expression := do
  advance
  return { operand }

def simple : Reader Expression := do
  match ← currentToken with
  | .numeral (.integer n) => literal (.integer n)
  | .numeral (.real x) => literal (.real x)
  | .string bytes => literal (.string bytes)
  | .fixed "nil" => literal .nil
  | .fixed "true" => literal (.boolean true)
  | .fixed "false" => literal (.boolean false)
  | .fixed "..." =>
    if !(← get).assembly.draft.variadic then refuse "cannot use '...' outside a vararg function"
    let position ← build (Assembler.emit (.varargs 0 (some 0)))
    literal (.varargs position)
  | .fixed "\x7b" => table inner
  | .fixed "function" =>
    advance
    functionBody inner (← line) false
  | _ => suffixed inner

/-- One operator behind an expression, and its other operand. -/
def operation (limit : Nat) (left : Expression) : Reader (Expression × Bool) := do
  match binaryOp? (← currentToken) with
  | some (op, priority, rest) =>
    if limit < priority then
      let here ← line
      advance
      let left ← build (Assembler.leftOperand op left)
      let right ← inner (.expression rest)
      return (← build (Assembler.binary op left right here), false)
    else return (left, true)
  | none => return (left, true)

def expression (limit : Nat) : Reader Expression := nested do
  let e ←
    match unaryOp? (← currentToken) with
    | some op =>
      let here ← line
      advance
      let operand ← inner (.expression unaryPriority)
      build (Assembler.unary op operand here)
    | none => simple inner
  repeatReading (operation inner limit) (← get).bound e

/-- An expression whose value goes to the next register. -/
def nextExpression : Reader Unit := do
  let e ← inner (.expression 0)
  let _ ← build (Assembler.toNext e)

/-- A condition; the jumps are taken when it is false. -/
def condition : Reader (List Nat) := do
  let e ← inner (.expression 0)
  let e :=
    match e.operand with
    | .nil => { e with operand := .boolean false }
    | _ => e
  return (← build (Assembler.goIfTrue e)).whenFalse

/-- Brings the number of values in line with the number of variables. -/
def adjustValues (wanted : Nat) (values : Nat) (last : Option Expression) : Assembler Unit := do
  match last.filter fun e => e.operand.isMulti with
  | some e => Assembler.wantResults e (some (wanted + 1 - values))
  | none =>
    match last with
    | some e =>
      let _ ← Assembler.toNext e
    | none => pure ()
    if values < wanted then
      Assembler.loadNils (← Assembler.draft).free (wanted - values)
  if values < wanted then Assembler.reserve (wanted - values)
  else
    let free := (← Assembler.draft).free
    Assembler.setFree (free - (values - wanted))

/-- Takes a `break` that is the whole branch of a conditional as the jump of its condition; says
whether the branch goes on behind it. -/
def breakBranch (e : Expression) : Reader (List Nat × Bool) := do
  let here ← line
  let e ← build (Assembler.goIfFalse e)
  advance
  build do
    Assembler.enterBlock false
    Assembler.awaitLabel none here e.whenTrue
  let _ ← repeatReading (fun _ => do return ((), !(← accept ";"))) (← get).bound ()
  if ← atBlockEnd false then
    let _ ← build Assembler.leaveBlock
    return ([], false)
  else return ([← build Assembler.jump], true)

/-- A condition and its branch; returns the jumps to the end of the conditional. -/
def branch (escapes : List Nat) : Reader (List Nat) := do
  advance
  let e ← inner (.expression 0)
  expect "then"
  let (skips, goesOn) ←
    if ← isAt "break" then breakBranch e
    else
      let e ← build (Assembler.goIfTrue e)
      build (Assembler.enterBlock false)
      pure (e.whenFalse, true)
  if !goesOn then return escapes
  block inner
  let _ ← build Assembler.leaveBlock
  let escapes ←
    if (← isAt "else") || (← isAt "elseif") then pure (escapes ++ [← build Assembler.jump])
    else pure escapes
  build (Assembler.patchHere skips)
  return escapes

def conditional : Reader Unit := do
  let opened ← line
  let escapes ← branch inner []
  let escapes ← repeatReading
    (fun escapes => do
      if ← isAt "elseif" then return (← branch inner escapes, false)
      else return (escapes, true))
    (← get).bound escapes
  if ← accept "else" then scopedBlock inner
  expectClosing "end" "if" opened
  build (Assembler.patchHere escapes)

def whileLoop : Reader Unit := do
  let opened ← line
  advance
  let start ← build Assembler.label
  let exits ← condition inner
  build (Assembler.enterBlock true)
  expect "do"
  scopedBlock inner
  build do
    let back ← Assembler.jump
    Assembler.patch [back] start
  expectClosing "end" "while" opened
  build do
    let _ ← Assembler.leaveBlock
    Assembler.patchHere exits

def repeatLoop : Reader Unit := do
  let opened ← line
  let start ← build do
    let start ← Assembler.label
    Assembler.enterBlock true
    Assembler.enterBlock false
    return start
  advance
  block inner
  expectClosing "until" "repeat" opened
  let exits ← condition inner
  build do
    let scope ← Assembler.leaveBlock
    let exits ←
      if scope.captured then
        let leave ← Assembler.jump
        Assembler.patchHere exits
        let _ ← Assembler.emit (.close (← Assembler.registersAt scope.depth))
        let again ← Assembler.jump
        Assembler.patchHere [leave]
        pure [again]
      else pure exits
    Assembler.patch exits start
    let _ ← Assembler.leaveBlock

/-- The body of a loop over the registers from `base` on. -/
def loopBody (base here count : Nat) (isGeneric : Bool) : Reader Unit := do
  expect "do"
  let prepare ← build do
    let prepare ← Assembler.emit (if isGeneric then .iteratorPrepare base 0 else .forPrepare base 0)
    Assembler.enterBlock false
    Assembler.enterScope count
    Assembler.reserve count
    return prepare
  scopedBlock inner
  build do
    let _ ← Assembler.leaveBlock
    let turn ← Assembler.label
    if isGeneric then
      let _ ← Assembler.emit (.iteratorCall base count)
      Assembler.fixLine here
      Assembler.setJump prepare turn
    else Assembler.setJump prepare (turn + 1)
    let _ ← Assembler.emit
      (if isGeneric then .iteratorLoop base (prepare + 1) else .forLoop base (prepare + 1))
    Assembler.fixLine here

/-- The name of the variables in which a loop keeps its state. -/
def stateName : String := "(for state)"

def numericLoop (opened : Nat) (counter : String) : Reader Unit := do
  let base := (← get).assembly.draft.free
  build do
    Assembler.declare stateName false
    Assembler.declare stateName false
    Assembler.declare stateName false
    Assembler.declare counter false
  expect "="
  nextExpression inner
  expect ","
  nextExpression inner
  if ← accept "," then nextExpression inner
  else
    build do
      Assembler.loadInteger (← Assembler.draft).free 1
      Assembler.reserve 1
  build (Assembler.enterScope 3)
  loopBody inner base opened 1 false

def genericLoop (counter : String) : Reader Unit := do
  let base := (← get).assembly.draft.free
  build do
    Assembler.declare stateName false
    Assembler.declare stateName false
    Assembler.declare stateName false
    Assembler.declare stateName false
    Assembler.declare counter false
  let count ← repeatReading
    (fun count => do
      if ← accept "," then
        let name ← takeName
        build (Assembler.declare name false)
        return (count + 1, false)
      else return (count, true))
    (← get).bound 1
  expect "in"
  let here ← line
  let (values, last) ← expressions inner
  build do
    adjustValues 4 values (some last)
    Assembler.enterScope 4
    Assembler.markClosing
    Assembler.checkRegisters 3
  loopBody inner base here count true

def forLoop : Reader Unit := do
  let opened ← line
  build (Assembler.enterBlock true)
  advance
  let counter ← takeName
  match ← currentToken with
  | .fixed "=" => numericLoop inner opened counter
  | .fixed "," | .fixed "in" => genericLoop inner counter
  | _ => refuse "'=' or 'in' expected"
  expectClosing "end" "for" opened
  let _ ← build Assembler.leaveBlock

/-- Refuses to assign to a constant. -/
def checkWritable (target : Operand) : Assembler Unit :=
  match target with
  | .namedConstant name _ | .localVariable _ name true | .upvalue _ name true =>
    throw (.constantTarget name)
  | _ => return ()

def functionStatement : Reader Unit := do
  let here ← line
  advance
  let first ← takeName
  let e ← nameExpression first
  let e ← repeatReading
    (fun e => do
      if ← isAt "." then return (← fieldSelection e, false) else return (e, true))
    (← get).bound e
  let isMethod ← isAt ":"
  let target ← if isMethod then fieldSelection e else pure e
  build (checkWritable target.operand)
  let f ← functionBody inner here isMethod
  build do
    Assembler.store target.operand f
    Assembler.fixLine here

def localFunction : Reader Unit := do
  let name ← takeName
  build do
    Assembler.declare name false
    Assembler.enterScope 1
  let _ ← functionBody inner (← line) false
  build Assembler.restartLast

/-- What is said of a local variable in angle brackets. -/
inductive Mark where
  | constant
  | toBeClosed
  deriving DecidableEq

/-- The mark behind the name, if there is one. -/
def mark? : Reader (Option Mark) := do
  if ← accept "<" then
    let name ← takeName
    expect ">"
    if name = "const" then return some .constant
    if name = "close" then return some .toBeClosed
    build (throw (.unknownAttribute name))
  else return none

/-- Declares one more local variable. A variable with a mark is read-only. -/
def declaration : Reader (Option Mark) := do
  let name ← takeName
  build (Assembler.declare name false)
  let mark ← mark?
  if mark.isSome then
    build (Assembler.modifyDraft fun d =>
      { d with declared := d.declared.modify (d.declared.size - 1) fun v => (v.1, true) })
  return mark

/-- Local variables that are declared together. -/
structure Declarations where
  count : Nat := 0
  /-- The place of the one that has to be closed. -/
  closing : Option Nat := none
  /-- The mark of the last one. -/
  last : Option Mark := none

/-- Declares one more. At most one of them has to be closed. -/
def Declarations.next (ds : Declarations) : Reader Declarations := do
  let last ← declaration
  let count := ds.count + 1
  match last with
  | some .toBeClosed =>
    if ds.closing.isSome then build (throw .severalToClose)
    return { count, closing := some ds.count, last }
  | _ => return { ds with count, last }

def localVariables : Reader Unit := do
  let outside := (← get).assembly.draft.locals.size
  let first ← Declarations.next {}
  let ds ← repeatReading
    (fun (ds : Declarations) => do
      if ← accept "," then return (← ds.next, false) else return (ds, true))
    (← get).bound first
  let count := ds.count
  let (values, last) ←
    if ← accept "=" then
      let (values, e) ← expressions inner
      pure (values, some e)
    else pure (0, none)
  build do
    let isConstant := ds.last = some .constant && values = count
    match if isConstant then last.bind Expression.literal? else none with
    | some value =>
      Assembler.enterScope (count - 1)
      Assembler.enterConstant value
    | none =>
      adjustValues count values last
      Assembler.enterScope count
    match ds.closing with
    | some place =>
      Assembler.markClosing
      let _ ← Assembler.emit (.toBeClosed (← Assembler.registersAt (outside + place)))
    | none => return

/-- An earlier target of an assignment whose table or key is a variable that the assignment changes
works with a copy of it in register `copy`. -/
def protect (changed : Operand) (copy : Nat) (target : Operand) : Option Operand :=
  match target, changed with
  | .upvalueField up k, .upvalue other _ _ => if up = other then some (.field copy k) else none
  | .field t k, .localVariable r _ _ => if t = r then some (.field copy k) else none
  | .integerField t n, .localVariable r _ _ => if t = r then some (.integerField copy n) else none
  | .indexed t k, .localVariable r _ _ =>
    if t = r ∨ k = r then
      some (.indexed (if t = r then copy else t) (if k = r then copy else k))
    else none
  | _, _ => none

/-- Copies a variable that is to be assigned to if an earlier target uses it. -/
def protectTargets (targets : List Operand) (changed : Operand) : Assembler (List Operand) := do
  let copy := (← Assembler.draft).free
  if targets.any fun t => (protect changed copy t).isSome then
    match changed with
    | .localVariable r _ _ =>
      let _ ← Assembler.emit (.move copy r)
    | .upvalue up _ _ =>
      let _ ← Assembler.emit (.getUpvalue copy up)
    | _ => pure ()
    Assembler.reserve 1
    return targets.map fun t => (protect changed copy t).getD t
  else return targets

/-- Checks that the last target can be assigned to and reads one more. The targets are listed from
the last to the first. -/
def moreTargets (targets : List Operand) : Reader (List Operand × Bool) := do
  let last := targets.headD .nothing
  if !last.isTarget then refuse "syntax error"
  build (checkWritable last)
  if ← accept "," then
    let e ← suffixed inner
    let targets ←
      match e.operand with
      | .localVariable .. | .upvalue .. => build (protectTargets targets e.operand)
      | _ => pure targets
    openLevel
    return (e.operand :: targets, false)
  else return (targets, true)

/-- Assigns values that are in the topmost registers, the last one first. -/
def storeFromTop (targets : List Operand) : Assembler Unit := do
  for target in targets do
    Assembler.store target { operand := .register ((← Assembler.draft).free - 1) }

def assignment (first : Operand) : Reader Unit := do
  let level := (← get).level
  let targets ← repeatReading (moreTargets inner) (← get).bound [first]
  expect "="
  let (values, last) ← expressions inner
  build do
    if values = targets.length then
      let e ← Assembler.wantOne last
      Assembler.store (targets.headD .nothing) e
      storeFromTop targets.tail
    else
      adjustValues targets.length values (some last)
      storeFromTop targets
  modify fun c => { c with level }

def expressionStatement : Reader Unit := do
  let e ← suffixed inner
  if (← isAt "=") || (← isAt ",") then assignment inner e.operand
  else
    match e.operand with
    | .call _ => build (Assembler.wantResults e (some 0))
    | _ => refuse "syntax error"

def answerStatement : Reader Unit := do
  advance
  let first ← build Assembler.variableRegisters
  if (← atBlockEnd true) || (← isAt ";") then build (Assembler.answer first (some 0))
  else
    let (values, last) ← expressions inner
    build do
      if last.operand.isMulti then
        Assembler.wantResults last none
        let closing := ((← Assembler.draft).blocks.head?.map Block.closing).getD false
        match last.operand with
        | .call position =>
          if values = 1 && !closing then
            match ← Assembler.instruction position with
            | .call a arguments _ => Assembler.replace position (.tailCall a arguments)
            | _ => pure ()
        | _ => pure ()
        Assembler.answer first none
      else if values = 1 then Assembler.answer (← Assembler.toAnywhere last) (some 1)
      else
        let _ ← Assembler.toNext last
        Assembler.answer first (some values)
  let _ ← accept ";"

def breakStatement : Reader Unit := do
  let here ← line
  advance
  build do
    let j ← Assembler.jump
    Assembler.awaitLabel none here [j]

def gotoStatement : Reader Unit := do
  advance
  let here ← line
  let name ← takeName
  build do
    let d ← Assembler.draft
    match d.labels.find? fun l => l.name = name with
    | some l =>
      let level ← Assembler.registersAt l.depth
      if level < (← Assembler.variableRegisters) then
        let _ ← Assembler.emit (.close level)
      let back ← Assembler.jump
      Assembler.patch [back] l.target
    | none =>
      let j ← Assembler.jump
      Assembler.awaitLabel (some name) here [j]

def labelStatement : Reader Unit := do
  let here ← line
  advance
  let name ← takeName
  expect "::"
  let _ ← repeatReading
    (fun _ => do
      if (← isAt ";") || (← isAt "::") then
        inner .statement
        return ((), false)
      else return ((), true))
    (← get).bound ()
  let isLast ← atBlockEnd false
  build do
    match (← Assembler.draft).labels.find? fun l => l.name = name with
    | some l => throw (.repeatedLabel name l.line)
    | none =>
      let _ ← Assembler.placeLabel (some name) here isLast

def statement : Reader Unit := do
  nested do
    match ← currentToken with
    | .fixed ";" => advance
    | .fixed "if" => conditional inner
    | .fixed "while" => whileLoop inner
    | .fixed "do" =>
      let opened ← line
      advance
      scopedBlock inner
      expectClosing "end" "do" opened
    | .fixed "for" => forLoop inner
    | .fixed "repeat" => repeatLoop inner
    | .fixed "function" => functionStatement inner
    | .fixed "local" =>
      advance
      if ← accept "function" then localFunction inner else localVariables inner
    | .fixed "::" => labelStatement inner
    | .fixed "return" => answerStatement inner
    | .fixed "break" => breakStatement
    | .fixed "goto" => gotoStatement
    | _ => expressionStatement inner
    build (do Assembler.setFree (← Assembler.variableRegisters))

def production {α : Type} : Phrase α → Reader α
  | .expression limit => expression inner limit
  | .statement => statement inner

end Productions

/-- Reads a phrase with at most so many phrases open inside one another. -/
def readPhrase : Nat → Inner
  | 0, _, _ => throw .tooDeep
  | fuel + 1, _, phrase => production (readPhrase fuel) phrase

def program : Reader Prototype := do
  build do
    Assembler.enterBlock false
    Assembler.modifyDraft fun d =>
      { d with
        variadic := true
        captures := #[{ name := globalsName, fromRegister := true, position := 0 }] }
    let _ ← Assembler.emit .prepareVarargs
  block (readPhrase levelLimit)
  match ← currentToken with
  | .finish => build closeFunction
  | _ => refuse "<eof> expected"

end Grammar

/-- Compiles a program. -/
def Prototype.ofSource (source : String) : Except CompileFault Prototype :=
  let lexemes := lexemes (bytesOfText source)
  match lexemes.list, lexemes.fault with
  | [], some fault => .error fault
  | [], none => .ok default
  | first :: ahead, fault =>
    let cursor : Grammar.Cursor :=
      { current := first, ahead, fault, line := first.line, bound := ahead.length + 2 }
    Grammar.program.run' cursor

end StationScript.Lua
