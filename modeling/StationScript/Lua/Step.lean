import StationScript.Lua.Machine

/-!
What each instruction does.

Most instructions change registers and go on to the next one. An operation that a metatable has to
do becomes a call, and the frame records what to do with the result. A message about an operand
names what holds it.
-/

set_option autoImplicit false

namespace StationScript.Lua

open Numeral (Number)

/-- What holds an operand. -/
inductive Holder where
  | register (r : Nat)
  | capture (up : Nat)
  | constant

namespace Machine

section Instructions

variable (a : Activation) (position : Nat)

def register (m : Machine) (r : Nat) : Value := m.slot (a.base + r)

@[inline] def setRegister (m : Machine) (r : Nat) (value : Value) : Machine :=
  m.setSlot (a.base + r) value

/-- Goes on with the next instruction. -/
@[inline] def next (m : Machine) : State := .script a (position + 1) m

/-- Puts a value into a register and goes on. -/
@[inline] def put (m : Machine) (r : Nat) (value : Value) : State :=
  .script a (position + 1) (m.setRegister a r value)

/-- The value of a constant. -/
def constant (k : Nat) : Value := a.prototype.constants.getD k .nil

def sourceValue (m : Machine) : Source → Value
  | .register r => m.register a r
  | .constant k => constant a k

/-- How a message names what holds an operand. -/
def holderSite? : Holder → Option Site
  | .register r => a.prototype.site? position r
  | .capture up => some ⟨.upvalue, a.prototype.captureName up⟩
  | .constant => none

/-- The call waits, to do with its results as told. -/
@[inline] def await (m : Machine) (delivery : Delivery) : Machine :=
  m.push (.script a position delivery)

/-- An error at this instruction. -/
def refuse (m : Machine) (message : String) : State :=
  (m.await a position (.slots 0 none)).fault message

/-- An operand that does not allow an action. -/
def refuseOperand (m : Machine) (action : String) (value : Value) (holder : Holder) : State :=
  m.refuse a position ("attempt to " ++ action ++ " a " ++ m.heap.typeName value ++ " value" ++
    Site.aside (holderSite? a position holder))

/-- Calls a function that a metatable provides. -/
def ask (m : Machine) (delivery : Delivery) (handler : Value) (arguments : List Value) : State :=
  m.callWith (.script a position delivery) a.limit handler arguments

/-- The first result goes into a register. -/
def into (r : Nat) : Delivery := .slots (a.base + r) (some 1)

/-- Reads a field into a register. -/
def readField (m : Machine) (r : Nat) (object : Value) (holder : Holder) (key : Value) : State :=
  match m.heap.read key hopLimit true object with
  | .found value =>
    match key with
    | .integer _ | .number _ =>
      put a position (m.onHeap fun heap => heap.noteReading key hopLimit object) r value
    | _ => m.put a position r value
  | .asks handler object => m.ask a position (into a r) handler [object, key]
  | .refused object isFirst =>
    m.refuseOperand a position "index" object (if isFirst then holder else .constant)
  | .endless => m.refuse a position "'__index' chain too long; possible loop"

/-- Assigns to a field. -/
def writeField (m : Machine) (object : Value) (holder : Holder) (key value : Value) : State :=
  match m with
  | { heap, stack, captured, pending, top, frames, failed } =>
    let (heap, outcome) := heap.assign key value hopLimit true object
    let m : Machine := { heap, stack, captured, pending, top, frames, failed }
    match outcome with
    | .stored => m.next a position
    | .asks handler object => m.ask a position (.slots 0 (some 0)) handler [object, key, value]
    | .refused object isFirst =>
      m.refuseOperand a position "index" object (if isFirst then holder else .constant)
    | .badKey fault => m.refuse a position fault.message
    | .endless => m.refuse a position "'__newindex' chain too long; possible loop"

/-- The complaint about operands that an operator does not take. -/
def refuseOperator (m : Machine) (event : Event) (x y : Value) (xHolder yHolder : Holder) : State :=
  let first : Bool := x.number?.isNone
  let (culprit, holder) := if first then (x, xHolder) else (y, yHolder)
  let bits : State :=
    match x.number?, y.number? with
    | some n, some _ =>
      let holder := if (asInteger? n).isNone then xHolder else yHolder
      m.refuse a position ("number" ++ Site.aside (holderSite? a position holder) ++
        " has no integer representation")
    | _, _ => m.refuseOperand a position "perform bitwise operation on" culprit holder
  match event with
  | .bitwise _ | .complement => bits
  | _ => m.refuseOperand a position "perform arithmetic on" culprit holder

/-- An operator whose operands are not both numbers of the right kind. -/
def operate (m : Machine) (r : Nat) (event : Event) (x y : Value) (xHolder yHolder : Holder) :
    State :=
  match m.heap.operandHandler event x y with
  | .nil => m.refuseOperator a position event x y xHolder yHolder
  | handler => m.ask a position (into a r) handler [x, y]

/-- The register that the operator before a fallback was to set. -/
def operatorTarget : Nat := ((a.prototype.instruction (position - 1)).target?).getD 0

/-- Runs a fallback; `flipped` means that the operands are exchanged. -/
def fallback (m : Machine) (event : Event) (x y : Value) (xHolder yHolder : Holder)
    (flipped : Bool) : State :=
  let r := operatorTarget a position
  if flipped then m.operate a position r event y x yHolder xHolder
  else m.operate a position r event x y xHolder yHolder

/-- The result of an operator on numbers, after which the fallback is left out. -/
def finish (m : Machine) (r : Nat) : Except NumberFault Number → State
  | .ok result => .script a (position + 2) (m.setRegister a r (.ofNumber result))
  | .error fault => m.refuse a position fault.message

def arithmetic (m : Machine) (op : Arithmetic) (r : Nat) (x y : Value) : State :=
  match x, y with
  | .integer x, .integer y => m.finish a position r (op.onIntegers x y)
  | .number x, .number y =>
    .script a (position + 2) (m.setRegister a r (.number (op.onDoubles x y)))
  | x, y =>
    match x.number?, y.number? with
    | some x, some y => m.finish a position r (op.apply x y)
    | _, _ => m.next a position

def bitwise (m : Machine) (op : Bitwise) (r : Nat) (x y : Value) : State :=
  match x.number?, y.number? with
  | some x, some y =>
    match op.apply x y with
    | .ok result => .script a (position + 2) (m.setRegister a r (.ofNumber result))
    | .error _ => m.next a position
  | _, _ => m.next a position

/-- Takes the jump behind a test, or passes over it. -/
def branch (m : Machine) (outcome expected : Bool) : State :=
  if outcome = expected then
    match a.prototype.instruction (position + 1) with
    | .jump target => .script a target m
    | _ => .script a (position + 2) m
  else .script a (position + 2) m

/-- Equality, about which the metatables of two tables have a say. -/
def equal (m : Machine) (x y : Value) (expected : Bool) : State :=
  if x.rawEqual y then m.branch a position true expected
  else
    match x, y with
    | .table _, .table _ =>
      match m.heap.operandHandler .equal x y with
      | .nil => m.branch a position false expected
      | handler => m.ask a position (.test expected) handler [x, y]
    | _, _ => m.branch a position false expected

def accepts : Order → Ordering → Bool
  | .less => Ordering.isLT
  | .lessEqual => Ordering.isLE

/-- The order of two numbers or two strings; anything else is up to metatables. -/
def order (m : Machine) (op : Order) (x y : Value) (expected : Bool) : State :=
  match x, y with
  | .integer x, .integer y =>
    m.branch a position (accepts op (compare x.toInt y.toInt)) expected
  | .string x, .string y =>
    m.branch a position (accepts op (Value.compareBytes x.toList y.toList)) expected
  | x, y =>
    match x.number?, y.number? with
    | some x, some y =>
      m.branch a position ((compareNumbers x y).any (accepts op)) expected
    | _, _ =>
      match m.heap.operandHandler op.event x y with
      | .nil =>
        let (s, t) := (m.heap.typeName x, m.heap.typeName y)
        m.refuse a position (if s = t then "attempt to compare two " ++ s ++ " values"
          else "attempt to compare " ++ s ++ " with " ++ t)
      | handler => m.ask a position (.test expected) handler [x, y]

def lengthOf (m : Machine) (r : Nat) (x : Value) (holder : Holder) : State :=
  match x, m.heap.handler x .length with
  | .string bytes, _ => m.put a position r (.integer (Int64.ofNat bytes.size))
  | .table ref, .nil =>
    let (n, table) := (m.heap.table ref).length
    put a position (m.onHeap fun heap => heap.modifyTable ref fun _ => table) r
      (.integer (Int64.ofNat n))
  | x, .nil => m.refuseOperand a position "get length of" x holder
  | x, handler => m.ask a position (into a r) handler [x, x]

/-- The texts in the slots below one, up to the first value that is none, in front of others, and
how many slots are left. -/
def textsBelow (m : Machine) (first : Nat) :
    (count : Nat) → List ByteArray → Nat × List ByteArray
  | 0, texts => (0, texts)
  | n + 1, texts =>
    match (m.slot (first + n)).toBytes? with
    | some bytes => textsBelow m first n (bytes :: texts)
    | none => (n + 1, texts)

/-- Joins operands from the last one on. The texts at the end are joined at once; before them stands
the result or an operand that has no text. -/
def concatenate (m : Machine) (r count : Nat) : State :=
  let first := a.base + r
  let (rest, texts) := m.textsBelow first count []
  let m := match texts with
    | [] | [_] => m
    | texts => m.setSlot (first + rest) (.string (texts.foldl (· ++ ·) ByteArray.empty))
  /- The operand at `place` and the one behind it are next. -/
  let place := if texts.isEmpty then count - 2 else rest - 1
  if rest = 0 ∨ count ≤ 1 then m.next a position
  else
    let x := m.slot (first + place)
    let y := m.slot (first + place + 1)
    match m.heap.operandHandler .concat x y with
    | .nil =>
      if x.toBytes?.isSome then
        m.refuseOperand a position "concatenate" y (.register (r + place + 1))
      else m.refuseOperand a position "concatenate" x (.register (r + place))
    | handler => m.ask a position (.join (place + 1)) handler [x, y]

/-- A new function and the variables it captures. -/
def makeClosure (m : Machine) (r : Nat) (p : Prototype) : State :=
  let (m, cells) := p.captures.foldl
    (fun (m, cells) capture =>
      if capture.fromRegister then
        let (m, cell) := m.capture (a.base + capture.position)
        (m, cells.push cell)
      else (m, cells.push (a.cells.getD capture.position 0)))
    (m, (#[] : Array Nat))
  let (m, ref) := m.alloc fun heap => heap.addClosure ⟨p, cells⟩
  m.put a position r (.function (.closure ref))

/-- The surplus arguments, all of them or as many as wanted. -/
def surplus (m : Machine) (r : Nat) (wanted : Option Nat) : State :=
  let (count, first) := a.surplus
  let target := a.base + r
  match wanted with
  | none =>
    if stackLimit < a.limit + count then m.refuse a position "stack overflow"
    else
      let m := (m.reserve (target + count)).copySlots first target count
      next a position { m with top := target + count }
  | some wanted =>
    let present := min count wanted
    let m := (m.copySlots first target present).clearSlots (target + present) (wanted - present)
    m.next a position

/-- How many slots lie from one on up to the top, unless a count is given. -/
def openCount (m : Machine) (first : Nat) (count : Option Nat) : Nat := count.getD (m.top - first)

/-- The registers in which a loop keeps its range. -/
def setRange (m : Machine) (r : Nat) : Range → Machine
  | .integers current increment remaining =>
    m.setSlots (a.base + r)
      [.integer current, .integer remaining.toInt64, .integer increment, .integer current]
  | .doubles current limit increment =>
    m.setSlots (a.base + r) [.number current, .number limit, .number increment, .number current]

/-- The range of a loop as its registers hold it. -/
def rangeAt? (m : Machine) (r : Nat) : Option Range :=
  match m.register a r, m.register a (r + 1), m.register a (r + 2) with
  | .integer current, .integer remaining, .integer increment =>
    some (.integers current increment remaining.toUInt64)
  | .number current, .number limit, .number increment => some (.doubles current limit increment)
  | _, _, _ => none

/-- Starts a numeric loop, or goes to its end. -/
def startLoop (m : Machine) (r stop : Nat) : State :=
  match Range.start? (m.register a r) (m.register a (r + 1)) (m.register a (r + 2)) with
  | .ok (some range) => next a position (m.setRange a r range)
  | .ok none => .script a stop m
  | .error .zeroStep => m.refuse a position "'for' step is zero"
  | .error (.notNumber what found) =>
    m.refuse a position ("bad 'for' " ++ what ++ " (number expected, got " ++
      m.heap.typeName found ++ ")")

def turnLoop (m : Machine) (r start : Nat) : State :=
  match (m.rangeAt? a r).bind Range.next? with
  | some range => .script a start (m.setRange a r range)
  | none => m.next a position

/-- From now on the value in a register has to be closed when its scope is left. Nil and false need
no closing, and any other value a method for it. -/
def markToClose (m : Machine) (r target : Nat) : State :=
  if !(m.register a r).truthy then .script a target m
  else
    match m.closer (a.base + r) with
    | .nil =>
      let name := (a.prototype.localName? position r).getD "?"
      m.refuse a position ("variable " ++ inQuotes name ++ " got a non-closable value")
    | _ => .script a target { m with pending := (a.base + r) :: m.pending }

/-- Calls the iterator of a loop for the next values. -/
def iterate (m : Machine) (r count : Nat) : State :=
  let slot := a.base + r + 4
  let m := m.copySlots (a.base + r) slot 3
  .calling slot 2 (a.nesting + 1) (m.await a position (.slots slot (some count)))

/-- Assigns registers to positions of a table. -/
def fillTable (m : Machine) (r : Nat) (count : Option Nat) (offset : Nat) : State :=
  match m.register a r with
  | .table ref =>
    let first := a.base + r + 1
    let values := m.slotsFrom first (m.openCount first count)
    next a position (m.onHeap fun heap => heap.modifyTable ref fun t => t.fill offset values)
  | _ => m.next a position

/-- Closes the variables from a register on and goes on. After the method of one of them the
instruction runs again, for those that are left. -/
def closeFrom (m : Machine) (r : Nat) : State :=
  let m := m.detach (a.base + r)
  match m.takePending? (a.base + r) with
  | some (slot, m) => m.ask a position .again (m.closer slot) [m.slot slot, .nil]
  | none => m.next a position

/-- Ends the call with results, as soon as none of its variables is left that has to be closed. -/
def leaveWith (m : Machine) (results : List Value) : State :=
  let m := m.detach a.base
  match m.takePending? a.base with
  | some (slot, m) => m.ask a position (.leave results) (m.closer slot) [m.slot slot, .nil]
  | none => .delivering results m

/-- Ends the call with so many registers as its results. -/
def leave (m : Machine) (r : Nat) (count : Option Nat) : State :=
  let first := a.base + r
  m.leaveWith a position (m.slotsFrom first (m.openCount first count))

/-- Calls the function in a register with the arguments behind it. -/
def callRegister (m : Machine) (r : Nat) (arguments : Option Nat) (delivery : Delivery) : State :=
  let slot := a.base + r
  .calling slot (m.openCount (slot + 1) arguments) a.nesting (m.await a position delivery)

def runInstruction (m : Machine) : Instruction → State
  | .move r s => m.put a position r (m.register a s)
  | .loadInteger r n => m.put a position r (.integer (Int64.ofInt n))
  | .loadReal r n => m.put a position r (.number (.ofInt n))
  | .loadConstant r k => m.put a position r (constant a k)
  | .loadFalse r => m.put a position r (.boolean false)
  | .loadFalseSkip r => .script a (position + 2) (m.setRegister a r (.boolean false))
  | .loadTrue r => m.put a position r (.boolean true)
  | .loadNil r count => next a position (m.clearSlots (a.base + r) count)
  | .getUpvalue r up => m.put a position r (m.captive (a.cells.getD up 0))
  | .setUpvalue up s => next a position (m.setCaptive (a.cells.getD up 0) (m.register a s))
  | .getUpvalueField r up k =>
    m.readField a position r (m.captive (a.cells.getD up 0)) (.capture up) (constant a k)
  | .getIndexed r t k => m.readField a position r (m.register a t) (.register t) (m.register a k)
  | .getInteger r t n =>
    m.readField a position r (m.register a t) (.register t) (.integer (Int64.ofNat n))
  | .getField r t k => m.readField a position r (m.register a t) (.register t) (constant a k)
  | .setUpvalueField up k value =>
    m.writeField a position (m.captive (a.cells.getD up 0)) (.capture up) (constant a k)
      (m.sourceValue a value)
  | .setIndexed t k value =>
    m.writeField a position (m.register a t) (.register t) (m.register a k) (m.sourceValue a value)
  | .setInteger t n value =>
    m.writeField a position (m.register a t) (.register t) (.integer (Int64.ofNat n))
      (m.sourceValue a value)
  | .setField t k value =>
    m.writeField a position (m.register a t) (.register t) (constant a k) (m.sourceValue a value)
  | .newTable r positions keys =>
    let (m, ref) := m.alloc fun heap => heap.addTable (.sized positions keys)
    m.put a position r (.table ref)
  | .method r object key =>
    let x := m.register a object
    let key := m.sourceValue a key
    readField a position (m.setRegister a (r + 1) x) r x (.register object) key
  | .addImmediate r s n =>
    m.arithmetic a position .add r (m.register a s) (.integer (Int64.ofInt n))
  | .shiftRightImmediate r s n =>
    m.bitwise a position .shiftRight r (m.register a s) (.integer (Int64.ofInt n))
  | .shiftLeftImmediate r s n =>
    m.bitwise a position .shiftLeft r (.integer (Int64.ofInt n)) (m.register a s)
  | .arithmeticConstant op r s k => m.arithmetic a position op r (m.register a s) (constant a k)
  | .bitwiseConstant op r s k => m.bitwise a position op r (m.register a s) (constant a k)
  | .arithmetic op r s t => m.arithmetic a position op r (m.register a s) (m.register a t)
  | .bitwise op r s t => m.bitwise a position op r (m.register a s) (m.register a t)
  | .fallback s t event =>
    m.fallback a position event (m.register a s) (m.register a t) (.register s) (.register t) false
  | .fallbackImmediate s n event flipped =>
    m.fallback a position event (m.register a s) (.integer (Int64.ofInt n)) (.register s) .constant
      flipped
  | .fallbackConstant s k event flipped =>
    m.fallback a position event (m.register a s) (constant a k) (.register s) .constant flipped
  | .negate r s =>
    let x := m.register a s
    match x.number? with
    | some n => m.put a position r (.ofNumber (StationScript.negate n))
    | none => m.operate a position r .negate x x (.register s) (.register s)
  | .complement r s =>
    let x := m.register a s
    match x.number?.bind asInteger? with
    | some n => m.put a position r (.integer (~~~n))
    | none => m.operate a position r .complement x x (.register s) (.register s)
  | .invert r s => m.put a position r (.boolean (!(m.register a s).truthy))
  | .length r s => m.lengthOf a position r (m.register a s) (.register s)
  | .concat r count => m.concatenate a position r count
  | .close r => m.closeFrom a position r
  | .toBeClosed r => m.markToClose a position r (position + 1)
  | .jump target => .script a target m
  | .equal r s expected => m.equal a position (m.register a r) (m.register a s) expected
  | .order op r s expected => m.order a position op (m.register a r) (m.register a s) expected
  | .equalConstant r k expected =>
    m.branch a position ((m.register a r).rawEqual (constant a k)) expected
  | .equalImmediate r n expected =>
    m.branch a position ((m.register a r).rawEqual (.integer (Int64.ofInt n))) expected
  | .orderImmediate op flipped r n real expected =>
    let x := m.register a r
    let y : Value := if real then .number (.ofInt n) else .integer (Int64.ofInt n)
    if flipped then m.order a position op y x expected else m.order a position op x y expected
  | .test r expected => m.branch a position (m.register a r).truthy expected
  | .testSet r s expected =>
    let x := m.register a s
    if x.truthy = expected then branch a position (m.setRegister a r x) expected expected
    else .script a (position + 2) m
  | .call r arguments results =>
    m.callRegister a position r arguments (.slots (a.base + r) results)
  | .tailCall r arguments => m.callRegister a position r arguments .answer
  | .answer r count => m.leave a position r count
  | .forLoop r start => m.turnLoop a position r start
  | .forPrepare r stop => m.startLoop a position r stop
  | .iteratorPrepare r target => m.markToClose a position (r + 3) target
  | .iteratorCall r count => m.iterate a position r count
  | .iteratorLoop r start =>
    match m.register a (r + 4) with
    | .nil => m.next a position
    | control => .script a start (m.setRegister a (r + 2) control)
  | .setList r count offset => m.fillTable a position r count offset
  | .closure r f => m.makeClosure a position r (a.prototype.functions.getD f default)
  | .varargs r count => m.surplus a position r count
  | .prepareVarargs => m.next a position

/-- A function of the program goes on with the results of a call. -/
def receive (m : Machine) (results : List Value) : Delivery → State
  | .slots first (some wanted) => next a position (m.setWanted first wanted results)
  | .slots first none =>
    let stop := first + results.length
    let m := (m.reserve stop).setSlots first results
    next a position { m with top := stop }
  | .test expected => m.branch a position (results.headD .nil).truthy expected
  | .join count =>
    match a.prototype.instruction position with
    | .concat r _ =>
      concatenate a position (m.setRegister a (r + count - 1) (results.headD .nil)) r count
    | _ => m.next a position
  | .answer => m.leaveWith a position results
  | .again => .script a position m
  | .leave results => m.leaveWith a position results

end Instructions

/-- A native function goes on with the results of a call. -/
def resume (m : Machine) (native : NativeCall) (results : List Value) : State :=
  match native.function, native.next with
  | .foreign _, .none => .abroad native m
  | _, next => m.work native (Library.resume results next)

/-- Hands results to the innermost frame. -/
def deliver (m : Machine) (results : List Value) : State :=
  match m with
  | { heap, stack, captured, pending, top, frames, failed } =>
    match frames, failed with
    | [], none => .ended (.ok results) heap
    | [], some raised => abandon { heap, stack, captured, pending, top } raised
    | frame :: frames, failed =>
      let m : Machine := { heap, stack, captured, pending, top, frames, failed }
      match frame with
      | .script a position delivery => m.receive a position results delivery
      | .native native => m.resume native results
      | .host => .delivering results m

end Machine

/-- One step. A state that waits for the host, or has ended, stays as it is. The machine itself
cannot do the work of a function that it knows by its name only, so it lets it fail. -/
def State.step : State → State
  | .script a position m => m.runInstruction a position (a.prototype.instruction position)
  | .calling slot count nesting m => m.call slot count nesting
  | .delivering results m => m.deliver results
  | .raising value m => m.raise value
  | .abroad native m =>
    m.settle native (.error (.raise (.ofText "a function of the library is not available")))
  | state => state

/-- Runs to the end within so many steps, and asks the host on the way. -/
def State.run : (budget : Nat) → State → Run (Except Raised (List Value) × Heap)
  | 0, _ => .done (.error ⟨.ofText "not enough memory", ""⟩, { component := "" })
  | _ + 1, .ended outcome heap => .done (outcome, heap)
  | budget + 1, .asking function arguments m =>
    .call function arguments fun reply => run budget (m.answered reply)
  | budget + 1, state => run budget state.step

end StationScript.Lua
