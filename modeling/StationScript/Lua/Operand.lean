import StationScript.Lua.Draft
import StationScript.Script.Operator

/-!
Expressions while a function is built.

Code for an expression is emitted as late as possible: until then an `Operand` tells where its value
can be found. An expression may also be left by jumps, those that are taken when it is true and
those that are taken when it is false.
-/

set_option autoImplicit false

namespace StationScript.Lua

open Numeral (Number)

inductive Operand where
  | nothing
  | nil
  | boolean (b : Bool)
  | integer (n : Int64)
  | real (x : Double)
  | string (bytes : ByteArray)
  /-- A constant that has its place. -/
  | constant (k : Nat)
  | register (r : Nat)
  /-- The register of a local variable. -/
  | localVariable (r : Nat) (name : String) (readOnly : Bool)
  | upvalue (up : Nat) (name : String) (readOnly : Bool)
  /-- A local name for a constant. -/
  | namedConstant (name : String) (value : Value)
  | indexed (table key : Nat)
  | upvalueField (up k : Nat)
  | integerField (table n : Nat)
  | field (table k : Nat)
  /-- The outcome of a test, by the position of its jump. -/
  | jump (position : Nat)
  /-- The result of an instruction, which can go to any register. -/
  | result (position : Nat)
  | call (position : Nat)
  | varargs (position : Nat)
  deriving Inhabited

/-- Several values can come of it. -/
def Operand.isMulti : Operand → Bool
  | .call _ | .varargs _ => true
  | _ => false

/-- It can stand on the left of an assignment. -/
def Operand.isTarget : Operand → Bool
  | .localVariable .. | .upvalue .. | .namedConstant .. | .indexed .. | .upvalueField ..
  | .integerField .. | .field .. => true
  | _ => false

structure Expression where
  operand : Operand
  /-- Jumps that are taken when the expression is true. -/
  whenTrue : List Nat := []
  /-- Jumps that are taken when the expression is false. -/
  whenFalse : List Nat := []
  deriving Inhabited

namespace Expression

def hasJumps (e : Expression) : Bool := !e.whenTrue.isEmpty || !e.whenFalse.isEmpty

def register? (e : Expression) : Option Nat :=
  match e.operand with
  | .register r => some r
  | _ => none

def ofConstant : Value → Expression
  | .boolean b => { operand := .boolean b }
  | .integer n => { operand := .integer n }
  | .number x => { operand := .real x }
  | .string bytes => { operand := .string bytes }
  | _ => { operand := .nil }

/-- The number that the expression is written as. -/
def numeral? (e : Expression) : Option Number :=
  if e.hasJumps then none
  else
    match e.operand with
    | .integer n => some (.integer n)
    | .real x => some (.real x)
    | _ => none

/-- The value that the expression is written as. -/
def literal? (e : Expression) : Option Value :=
  if e.hasJumps then none
  else
    match e.operand with
    | .nil => some .nil
    | .boolean b => some (.boolean b)
    | .integer n => some (.integer n)
    | .real x => some (.number x)
    | .string bytes => some (.string bytes)
    | .namedConstant _ value => some value
    | _ => none

/-- A whole number that an instruction holds in place: eight bits with a sign. -/
def fitsImmediate (n : Int) : Bool := -127 ≤ n && n ≤ 128

/-- The number of the expression if an instruction can hold it, and whether it is written as a
double. -/
def immediate? (e : Expression) : Option (Int × Bool) :=
  match e.numeral? with
  | some (.integer n) => if fitsImmediate n.toInt then some (n.toInt, false) else none
  | some (.real x) =>
    match x.toInt64? with
    | some n => if fitsImmediate n.toInt then some (n.toInt, true) else none
    | none => none
  | none => none

/-- The integer of the expression if an instruction can hold it. -/
def smallInteger? (e : Expression) : Option Int :=
  match e.immediate? with
  | some (n, false) => some n
  | _ => none

/-- The largest position that an instruction holds in place. -/
def positionLimit : Int := 255

/-- A key that is written as a small position. -/
def smallPosition? (e : Expression) : Option Nat :=
  match e.numeral? with
  | some (.integer n) =>
    if 0 ≤ n.toInt && n.toInt ≤ positionLimit then some n.toInt.toNat else none
  | _ => none

end Expression

namespace Assembler

/-- The range of numbers that a load instruction holds in place. -/
def fitsLoad (n : Int) : Bool := -65535 ≤ n && n ≤ 65536

/-- Moves the value of an expression, if it has to be fetched, to a register that is still open. -/
def discharge (e : Expression) : Assembler Expression := do
  match e.operand with
  | .namedConstant _ value => return { e with operand := (Expression.ofConstant value).operand }
  | .localVariable r _ _ => return { e with operand := .register r }
  | .upvalue up _ _ => return { e with operand := .result (← emit (.getUpvalue 0 up)) }
  | .upvalueField up k => return { e with operand := .result (← emit (.getUpvalueField 0 up k)) }
  | .integerField t n =>
    release t
    return { e with operand := .result (← emit (.getInteger 0 t n)) }
  | .field t k =>
    release t
    return { e with operand := .result (← emit (.getField 0 t k)) }
  | .indexed t k =>
    releaseBoth (some t) (some k)
    return { e with operand := .result (← emit (.getIndexed 0 t k)) }
  | .call position =>
    match ← instruction position with
    | .call a _ _ => return { e with operand := .register a }
    | _ => return e
  | .varargs position =>
    match ← instruction position with
    | .varargs a _ =>
      replace position (.varargs a (some 1))
      return { e with operand := .result position }
    | _ => return e
  | _ => return e

def loadConstant (r : Nat) (value : Value) : Assembler Unit := do
  let _ ← emit (.loadConstant r (← constant value))

def loadInteger (r : Nat) (n : Int64) : Assembler Unit := do
  if fitsLoad n.toInt then
    let _ ← emit (.loadInteger r n.toInt)
  else loadConstant r (.integer n)

def loadReal (r : Nat) (x : Double) : Assembler Unit := do
  match x.toInt64? with
  | some n =>
    if fitsLoad n.toInt then
      let _ ← emit (.loadReal r n.toInt)
    else loadConstant r (.number x)
  | none => loadConstant r (.number x)

/-- Puts the value into a register; the outcome of a test stays a jump. -/
def dischargeTo (e : Expression) (r : Nat) : Assembler Expression := do
  let e ← discharge e
  let into (load : Assembler Unit) : Assembler Expression := do
    load
    return { e with operand := .register r }
  match e.operand with
  | .nil => into (loadNils r 1)
  | .boolean b => into (do let _ ← emit (if b then .loadTrue r else .loadFalse r))
  | .string bytes => into (loadConstant r (.string bytes))
  | .constant k => into (do let _ ← emit (.loadConstant r k))
  | .real x => into (loadReal r x)
  | .integer n => into (loadInteger r n)
  | .result position =>
    into (do replace position ((← instruction position).withTarget r))
  | .register s =>
    into (do
      if r ≠ s then
        let _ ← emit (.move r s))
  | _ => return e

/-- Puts the value into some register. -/
def dischargeAnywhere (e : Expression) : Assembler Expression := do
  match e.operand with
  | .register _ => return e
  | _ =>
    reserve 1
    dischargeTo e ((← draft).free - 1)

def releaseExpression (e : Expression) : Assembler Unit := do
  match e.register? with
  | some r => release r
  | none => return ()

/-- Puts the value into a register, by whichever way the expression is left. -/
def putInto (e : Expression) (r : Nat) : Assembler Unit := do
  let e ← dischargeTo e r
  let (whenTrue, tested) :=
    match e.operand with
    | .jump position => (e.whenTrue ++ [position], true)
    | _ => (e.whenTrue, false)
  if !whenTrue.isEmpty || !e.whenFalse.isEmpty then
    let mut falseAt := 0
    let mut trueAt := 0
    if (← needsValue whenTrue) || (← needsValue e.whenFalse) then
      let around ← if tested then pure [] else (do return [← jump])
      let _ ← label
      falseAt ← emit (.loadFalseSkip r)
      let _ ← label
      trueAt ← emit (.loadTrue r)
      patchHere around
    let behind ← label
    patchValues e.whenFalse (some r) behind falseAt
    patchValues whenTrue (some r) behind trueAt

/-- Puts the value into the next register. -/
def toNext (e : Expression) : Assembler Nat := do
  let e ← discharge e
  releaseExpression e
  reserve 1
  let r := (← draft).free - 1
  putInto e r
  return r

/-- Puts the value into some register; a variable's value stays where it is. -/
def toAnywhere (e : Expression) : Assembler Nat := do
  let e ← discharge e
  match e.operand with
  | .register r =>
    if !e.hasJumps then return r
    else if (← variableRegisters) ≤ r then
      putInto e r
      return r
    else toNext e
  | _ => toNext e

/-- The expression with its value in some register. -/
def settled (e : Expression) : Assembler Expression := do
  return { operand := .register (← toAnywhere e) }

/-- A captured variable may stay where it is, everything else goes to a register. -/
def toRegisterOrUpvalue (e : Expression) : Assembler Expression := do
  match e.operand with
  | .upvalue .. => if e.hasJumps then settled e else return e
  | _ => settled e

/-- The value, without jumps. -/
def toValue (e : Expression) : Assembler Expression := do
  match e.operand, e.hasJumps with
  | .jump _, _ | _, true => settled e
  | _, false => discharge e

/-- The place of the constant that the expression is, if an operand can name it. -/
def toConstant? (e : Expression) : Assembler (Option Nat) := do
  if e.hasJumps then return none
  let place ←
    match e.operand with
    | .boolean b => some <$> constant (.boolean b)
    | .nil => some <$> constant .nil
    | .integer n => some <$> constant (.integer n)
    | .real x => some <$> constant (.number x)
    | .string bytes => some <$> constant (.string bytes)
    | .constant k => pure (some k)
    | _ => pure none
  return place.filter fun k => k ≤ constantOperandLimit

/-- A constant or a register, and the expression as it is then. -/
def toSource (e : Expression) : Assembler (Source × Expression) := do
  match ← toConstant? e with
  | some k => return (.constant k, { e with operand := .constant k })
  | none =>
    let r ← toAnywhere e
    return (.register r, { operand := .register r })

/-- Assigns the value of an expression to a target. -/
def store (target : Operand) (e : Expression) : Assembler Unit := do
  let assign (make : Source → Instruction) : Assembler Unit := do
    let (source, e) ← toSource e
    let _ ← emit (make source)
    releaseExpression e
  match target with
  | .localVariable r _ _ =>
    releaseExpression e
    putInto e r
  | .upvalue up _ _ =>
    let r ← toAnywhere e
    let _ ← emit (.setUpvalue up r)
    release r
  | .upvalueField up k => assign (.setUpvalueField up k)
  | .integerField t n => assign (.setInteger t n)
  | .field t k => assign (.setField t k)
  | .indexed t k => assign (.setIndexed t k)
  | _ => return ()

/-- Strings up to this length can be named by an instruction. -/
def nameLimit : Nat := 40

/-- A constant string that an instruction can name as a key. -/
def isName (e : Expression) : Assembler Bool := do
  match e.operand with
  | .constant k =>
    if e.hasJumps || constantOperandLimit < k then return false
    match (← draft).constants.getD k .nil with
    | .string bytes => return bytes.size ≤ nameLimit
    | _ => return false
  | _ => return false

/-- The element of a table under a key. -/
def element (table key : Expression) : Assembler Operand := do
  let key ←
    match key.operand with
    | .string bytes => do pure { key with operand := .constant (← constant (.string bytes)) }
    | _ => pure key
  let named ← isName key
  match table.operand, key.operand, named with
  | .upvalue up _ _, .constant k, true => return .upvalueField up k
  | _, _, _ =>
    let t ←
      match table.operand with
      | .upvalue .. => toAnywhere table
      | .localVariable r _ _ | .register r => pure r
      | _ => pure 0
    match key.operand, named, key.smallPosition? with
    | .constant k, true, _ => return .field t k
    | _, _, some n => return .integerField t n
    | _, _, none => return .indexed t (← toAnywhere key)

/-- Prepares the call of a method: its function and its object go to the next two registers. -/
def selectMethod (object : Expression) (name : ByteArray) : Assembler Expression := do
  let r ← toAnywhere object
  release r
  let base := (← draft).free
  reserve 2
  let (source, key) ← toSource { operand := .string name }
  let _ ← emit (.method base r source)
  releaseExpression key
  return { operand := .register base }

/-- Asks for a number of values, or all. -/
def wantResults (e : Expression) (count : Option Nat) : Assembler Unit := do
  match e.operand with
  | .call position =>
    match ← instruction position with
    | .call a arguments _ => replace position (.call a arguments count)
    | _ => return ()
  | .varargs position =>
    replace position (.varargs (← draft).free count)
    reserve 1
  | _ => return ()

/-- A call or an ellipsis gives one value. -/
def wantOne (e : Expression) : Assembler Expression := do
  match e.operand with
  | .call _ | .varargs _ => discharge e
  | _ => return e

/-- Reverses the test that decides about a jump. -/
def reverseTest (position : Nat) : Assembler Unit := do
  let control ← controller position
  match ← instruction control with
  | .equal a b expected => replace control (.equal a b !expected)
  | .order op a b expected => replace control (.order op a b !expected)
  | .equalConstant a k expected => replace control (.equalConstant a k !expected)
  | .equalImmediate a n expected => replace control (.equalImmediate a n !expected)
  | .orderImmediate op flipped a n real expected =>
    replace control (.orderImmediate op flipped a n real !expected)
  | _ => return ()

/-- No value is put there. -/
def noRegister : Nat := 255

/-- Jumps when the expression is as given. -/
def jumpWhen (e : Expression) (outcome : Bool) : Assembler Nat := do
  let inverted ←
    match e.operand with
    | .result position =>
      match ← instruction position with
      | .invert _ b => pure (some b)
      | _ => pure none
    | _ => pure none
  match inverted with
  | some b =>
    removeLast
    testJump (.test b !outcome)
  | none =>
    let e ← dischargeAnywhere e
    releaseExpression e
    testJump (.testSet noRegister (e.register?.getD 0) outcome)

/-- Goes on behind the expression when it is true, and jumps when it is false. -/
def goIfTrue (e : Expression) : Assembler Expression := do
  let e ← discharge e
  let jumps ←
    match e.operand with
    | .jump position =>
      reverseTest position
      pure [position]
    | .constant _ | .real _ | .integer _ | .string _ | .boolean true => pure []
    | _ => do pure [← jumpWhen e false]
  patchHere e.whenTrue
  return { e with whenTrue := [], whenFalse := e.whenFalse ++ jumps }

/-- Goes on behind the expression when it is false, and jumps when it is true. -/
def goIfFalse (e : Expression) : Assembler Expression := do
  let e ← discharge e
  let jumps ←
    match e.operand with
    | .jump position => pure [position]
    | .nil | .boolean false => pure []
    | _ => do pure [← jumpWhen e true]
  patchHere e.whenFalse
  return { e with whenFalse := [], whenTrue := e.whenTrue ++ jumps }

inductive UnaryOp where
  | negate
  | complement
  | length
  | negation
  deriving Repr, DecidableEq

inductive Comparison where
  | equal
  | unequal
  | less
  | lessEqual
  | greater
  | greaterEqual
  deriving Repr, DecidableEq

inductive BinaryOp where
  | arithmetic (op : Arithmetic)
  | bitwise (op : Bitwise)
  | comparison (op : Comparison)
  | concat
  | conjunction
  | disjunction
  deriving Repr, DecidableEq

/-- A number that may stand for the operation that gives it. Undefined values and zeros of doubles
are left to run time, for the sake of the sign of zero. -/
def foldable? : Except NumberFault Number → Option Expression
  | .ok (.integer n) => some { operand := .integer n }
  | .ok (.real x) =>
    if x.isNaN || x.value == 0.0 then none else some { operand := .real x }
  | .error _ => none

def isZero (n : Number) : Bool :=
  match n with
  | .integer n => n = 0
  | .real x => x.value == 0.0

/-- The result of an operation on two numerals, unless it has to be left to run time. -/
def fold? (op : BinaryOp) (left right : Expression) : Option Expression := do
  let m ← left.numeral?
  let n ← right.numeral?
  match op with
  | .arithmetic op =>
    match op, isZero n with
    | .div, true | .floorDiv, true | .mod, true => none
    | op, _ => foldable? (op.apply m n)
  | .bitwise op => foldable? (op.apply m n)
  | _ => none

def foldUnary? (op : UnaryOp) (e : Expression) : Option Expression := do
  let n ← e.numeral?
  match op with
  | .negate => foldable? (.ok (StationScript.negate n))
  | .complement => foldable? (Bitwise.differ.apply n (.integer (-1)))
  | _ => none

def unaryResult (e : Expression) (line : Nat) (make : Nat → Instruction) :
    Assembler Expression := do
  let r ← toAnywhere e
  release r
  let position ← emit (make r)
  fixLine line
  return { operand := .result position }

/-- The opposite of an expression. -/
def invert (e : Expression) : Assembler Expression := do
  let operand ←
    match e.operand with
    | .nil | .boolean false => pure (.boolean true)
    | .constant _ | .real _ | .integer _ | .string _ | .boolean true => pure (.boolean false)
    | .jump position =>
      reverseTest position
      pure e.operand
    | _ => do
      let e ← dischargeAnywhere e
      releaseExpression e
      pure (.result (← emit (.invert 0 (e.register?.getD 0))))
  dropValues e.whenTrue
  dropValues e.whenFalse
  return { operand, whenTrue := e.whenFalse, whenFalse := e.whenTrue }

def unary (op : UnaryOp) (e : Expression) (line : Nat) : Assembler Expression := do
  let e ← discharge e
  match foldUnary? op e with
  | some folded => return folded
  | none =>
    match op with
    | .negate => unaryResult e line (.negate 0)
    | .complement => unaryResult e line (.complement 0)
    | .length => unaryResult e line (.length 0)
    | .negation => invert e

/-- What is done with the left operand before the right one is read. -/
def leftOperand (op : BinaryOp) (e : Expression) : Assembler Expression := do
  let e ← discharge e
  match op with
  | .conjunction => goIfTrue e
  | .disjunction => goIfFalse e
  | .concat => return { operand := .register (← toNext e) }
  | .arithmetic _ | .bitwise _ => if e.numeral?.isSome then return e else settled e
  | .comparison .equal | .comparison .unequal =>
    if e.numeral?.isSome then return e else return (← toSource e).2
  | .comparison _ => if e.immediate?.isSome then return e else settled e

/-- Emits an operation and its fallback, both of the operator's line. `make` is given the register
of the first operand. -/
def operation (left : Expression) (right : Option Nat) (line : Nat)
    (make fallback : Nat → Instruction) : Assembler Expression := do
  let r ← toAnywhere left
  let position ← emit (make r)
  releaseBoth (some r) right
  fixLine line
  let _ ← emit (fallback r)
  fixLine line
  return { operand := .result position }

/-- An operation on two registers. -/
def registerOperation (event : Event) (left right : Expression) (line : Nat)
    (make : Nat → Nat → Instruction) : Assembler Expression := do
  let s ← toAnywhere right
  operation left (some s) line (fun r => make r s) (fun r => .fallback r s event)

/-- The operands, with a numeral at the right; the flag says whether they were exchanged. -/
def numeralRight (left right : Expression) (exchange : Bool) : Expression × Expression × Bool :=
  if exchange then (right, left, true) else (left, right, false)

def arithmeticOperation (op : Arithmetic) (left right : Expression) (flipped : Bool) (line : Nat) :
    Assembler Expression := do
  let place ← if right.numeral?.isSome then toConstant? right else pure none
  match place with
  | some k =>
    operation left none line (.arithmeticConstant op 0 · k)
      (.fallbackConstant · k (.arithmetic op) flipped)
  | none =>
    let (left, right) := if flipped then (right, left) else (left, right)
    registerOperation (.arithmetic op) left right line (.arithmetic op 0)

/-- An operation whose right operand is a small integer, as the addition or shift of its
negative. -/
def negatedImmediate? (left right : Expression) (event : Event) (line : Nat)
    (make : Nat → Int → Instruction) : Assembler (Option Expression) := do
  match right.smallInteger? with
  | some n =>
    if Expression.fitsImmediate (-n) then
      some <$> operation left none line (make · (-n)) (.fallbackImmediate · n event false)
    else return none
  | none => return none

def bitwiseOperation (op : Bitwise) (left right : Expression) (line : Nat) :
    Assembler Expression := do
  let isInteger (e : Expression) : Bool :=
    match e.operand with
    | .integer _ => !e.hasJumps
    | _ => false
  let (left, right, flipped) := numeralRight left right (isInteger left)
  let place ← if isInteger right then toConstant? right else pure none
  match place with
  | some k =>
    operation left none line (.bitwiseConstant op 0 · k)
      (.fallbackConstant · k (.bitwise op) flipped)
  | none =>
    let (left, right) := if flipped then (right, left) else (left, right)
    registerOperation (.bitwise op) left right line (.bitwise op 0)

def concatenation (left right : Expression) (line : Nat) : Assembler Expression := do
  let r ← toNext right
  let first := left.register?.getD 0
  match ← previous? with
  | some (.concat _ count) =>
    release r
    replace ((← here) - 1) (.concat first (count + 1))
  | _ =>
    let _ ← emit (.concat first 2)
    release r
    fixLine line
  return left

def orderTest (op : Order) (left right : Expression) : Assembler Expression := do
  let test (r : Nat) (other : Option Nat) (i : Instruction) : Assembler Expression := do
    releaseBoth (some r) other
    return { operand := .jump (← testJump i) }
  match right.immediate?, left.immediate? with
  | some (n, real), _ =>
    let r ← toAnywhere left
    test r none (.orderImmediate op false r n real true)
  | none, some (n, real) =>
    let s ← toAnywhere right
    test s none (.orderImmediate op true s n real true)
  | none, none =>
    let r ← toAnywhere left
    let s ← toAnywhere right
    test r (some s) (.order op r s true)

def equalTest (left right : Expression) (expected : Bool) : Assembler Expression := do
  let (left, right) := if left.register?.isNone then (right, left) else (left, right)
  let r ← toAnywhere left
  let test (other : Option Nat) (i : Instruction) : Assembler Expression := do
    releaseBoth (some r) other
    return { operand := .jump (← testJump i) }
  match right.immediate? with
  | some (n, _) => test none (.equalImmediate r n expected)
  | none =>
    match ← toSource right with
    | (.constant k, _) => test none (.equalConstant r k expected)
    | (.register s, _) => test (some s) (.equal r s expected)

/-- The operation itself, when both operands have been read. -/
def binary (op : BinaryOp) (left right : Expression) (line : Nat) : Assembler Expression := do
  let right ← discharge right
  match fold? op left right with
  | some folded => return folded
  | none =>
    match op with
    | .conjunction => return { right with whenFalse := right.whenFalse ++ left.whenFalse }
    | .disjunction => return { right with whenTrue := right.whenTrue ++ left.whenTrue }
    | .concat => concatenation left right line
    | .arithmetic .add =>
      let (left, right, flipped) := numeralRight left right left.numeral?.isSome
      match right.smallInteger? with
      | some n =>
        operation left none line (.addImmediate 0 · n)
          (.fallbackImmediate · n (.arithmetic .add) flipped)
      | none => arithmeticOperation .add left right flipped line
    | .arithmetic .mul =>
      let (left, right, flipped) := numeralRight left right left.numeral?.isSome
      arithmeticOperation .mul left right flipped line
    | .arithmetic .sub =>
      match ← negatedImmediate? left right (.arithmetic .sub) line (.addImmediate 0) with
      | some e => return e
      | none => arithmeticOperation .sub left right false line
    | .arithmetic op => arithmeticOperation op left right false line
    | .bitwise .shiftLeft =>
      match left.smallInteger? with
      | some n =>
        operation right none line (.shiftLeftImmediate 0 · n)
          (.fallbackImmediate · n (.bitwise .shiftLeft) true)
      | none =>
        match ← negatedImmediate? left right (.bitwise .shiftLeft) line
          (.shiftRightImmediate 0) with
        | some e => return e
        | none => registerOperation (.bitwise .shiftLeft) left right line (.bitwise .shiftLeft 0)
    | .bitwise .shiftRight =>
      match right.smallInteger? with
      | some n =>
        operation left none line (.shiftRightImmediate 0 · n)
          (.fallbackImmediate · n (.bitwise .shiftRight) false)
      | none => registerOperation (.bitwise .shiftRight) left right line (.bitwise .shiftRight 0)
    | .bitwise op => bitwiseOperation op left right line
    | .comparison .equal => equalTest left right true
    | .comparison .unequal => equalTest left right false
    | .comparison .less => orderTest .less left right
    | .comparison .lessEqual => orderTest .lessEqual left right
    | .comparison .greater => orderTest .less right left
    | .comparison .greaterEqual => orderTest .lessEqual right left

end Assembler

end StationScript.Lua
