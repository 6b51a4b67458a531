import StationScript.Lua.Library
import StationScript.Lua.Range
import StationScript.Script.Run

/-!
The register machine that runs scripts.

All active calls share one stack of slots. A call finds its function in a slot and the arguments in
the slots behind; the calls that wait for it are frames. No step of the machine runs another one: a
call, the delivery of results and an error are states of their own, so every script, however deep
its calls, runs in a loop. An error ends the calls down to the one that catches it; the variables of
these calls that have to be closed are closed one by one, in calls of their own, before the error
goes on.
-/

set_option autoImplicit false

namespace StationScript.Lua

/-- So many slots can be in use. -/
def stackLimit : Nat := 1000000

/-- So many slots a native function may need. -/
def nativeSlots : Nat := 20

/-- One call too many of functions by native code inside one another. -/
def nestingLimit : Nat := 200

/-- An error that nothing has caught, and the calls that were active. -/
structure Raised where
  value : Value
  trace : String

/-- The error as it is seen outside: by its text up to a zero byte, and the active calls. A failure
carries its own report. -/
def Raised.report (raised : Raised) (heap : Heap) : Value :=
  match raised.value with
  | .failure ref => .failure ref
  | value =>
    let shown := (Value.asciiChars (Library.plainText heap value)).takeWhile (· ≠ '\x00')
    .string (Library.bytesOfChars shown ++ ("\n" ++ raised.trace).toUTF8)

structure Machine where
  heap : Heap
  stack : Array Value := #[]
  /-- The registers that functions have captured, with their cells, the highest slot first. -/
  captured : List (Nat × Nat) := []
  /-- The slots whose values have to be closed, the highest first. -/
  pending : List Nat := []
  /-- The slot behind the last of an open number of results. -/
  top : Nat := 0
  /-- The calls that wait for another one, the innermost first. -/
  frames : List Frame := []
  /-- The error that has ended all calls, while values are left that have to be closed. -/
  failed : Option Raised := none

inductive State where
  /-- A function of the program is about to run the instruction at a position. -/
  | script (activation : Activation) (position : Nat) (machine : Machine)
  /-- The function in a slot is about to be called with the arguments behind it. -/
  | calling (slot count nesting : Nat) (machine : Machine)
  /-- A call has ended with results. -/
  | delivering (results : List Value) (machine : Machine)
  /-- The innermost frame has raised a value. -/
  | raising (value : Value) (machine : Machine)
  /-- The innermost frame waits for the reply of the host. -/
  | asking (function : HostFunction) (arguments : List Value) (machine : Machine)
  /-- A library function is at work of which only the name is known. -/
  | abroad (native : NativeCall) (machine : Machine)
  | ended (outcome : Except Raised (List Value)) (heap : Heap)

namespace Machine

def slot (m : Machine) (i : Nat) : Value := m.stack.getD i .nil

@[inline] def setSlot (m : Machine) (i : Nat) (value : Value) : Machine :=
  { m with stack := m.stack.set! i value }

@[inline] def onHeap (m : Machine) (change : Heap → Heap) : Machine :=
  { m with heap := change m.heap }

@[inline] def alloc {α : Type} (m : Machine) (change : Heap → Heap × α) : Machine × α :=
  match m with
  | { heap, stack, captured, pending, top, frames, failed } =>
    let (heap, a) := change heap
    ({ heap, stack, captured, pending, top, frames, failed }, a)

@[inline] def push (m : Machine) (frame : Frame) : Machine := { m with frames := frame :: m.frames }

/-- Extends the stack with nil to so many slots. -/
def reserve (m : Machine) (size : Nat) : Machine :=
  { m with stack := fillUp (size - m.stack.size) m.stack }
where
  fillUp : Nat → Array Value → Array Value
    | 0, stack => stack
    | n + 1, stack => fillUp n (stack.push .nil)

/-- So many slots from one on. -/
def slotsFrom (m : Machine) (first : Nat) : (count : Nat) → List Value
  | 0 => []
  | n + 1 => m.slot first :: m.slotsFrom (first + 1) n

/-- Puts values into the slots from one on. -/
def setSlots (m : Machine) (first : Nat) : List Value → Machine
  | [] => m
  | value :: rest => (m.setSlot first value).setSlots (first + 1) rest

/-- Puts nil into so many slots from one on. -/
def clearSlots (m : Machine) (first : Nat) : (count : Nat) → Machine
  | 0 => m
  | n + 1 => (m.setSlot first .nil).clearSlots (first + 1) n

/-- Copies so many slots, the first one first. -/
def copySlots (m : Machine) (source target : Nat) : (count : Nat) → Machine
  | 0 => m
  | n + 1 => (m.setSlot target (m.slot source)).copySlots (source + 1) (target + 1) n

/-- Puts as many values as wanted into the slots from one on; missing ones are nil. -/
def setWanted (m : Machine) (first : Nat) : (wanted : Nat) → List Value → Machine
  | 0, _ => m
  | n + 1, [] => (m.setSlot first .nil).setWanted (first + 1) n []
  | n + 1, value :: rest => (m.setSlot first value).setWanted (first + 1) n rest

/-- The value of a captured variable. -/
def captive (m : Machine) (cell : Nat) : Value :=
  match m.heap.cell cell with
  | .register i => m.slot i
  | .detached value => value

def setCaptive (m : Machine) (cell : Nat) (value : Value) : Machine :=
  match m.heap.cell cell with
  | .register i => m.setSlot i value
  | .detached _ => m.onHeap fun heap => heap.setCell cell (.detached value)

/-- The cell of a register among the captured ones. -/
def cellOf? (slot : Nat) : List (Nat × Nat) → Option Nat
  | [] => none
  | (other, cell) :: rest =>
    if other = slot then some cell else if other < slot then none else cellOf? slot rest

/-- Adds a captured register in its place. -/
def insertCaptured (slot cell : Nat) : List (Nat × Nat) → List (Nat × Nat)
  | [] => [(slot, cell)]
  | (other, its) :: rest =>
    if other < slot then (slot, cell) :: (other, its) :: rest
    else (other, its) :: insertCaptured slot cell rest

/-- The cell of a register; functions that capture the same variable share it. -/
def capture (m : Machine) (slot : Nat) : Machine × Nat :=
  match cellOf? slot m.captured with
  | some cell => (m, cell)
  | none =>
    let (m, cell) := m.alloc fun heap => heap.addCell (.register slot)
    ({ m with captured := insertCaptured slot cell m.captured }, cell)

/-- Captured registers from a slot on become variables of their own. -/
def detachFrom (stack : Array Value) (first : Nat) :
    List (Nat × Nat) → Heap → List (Nat × Nat) × Heap
  | [], heap => ([], heap)
  | (slot, cell) :: rest, heap =>
    if first ≤ slot then
      detachFrom stack first rest (heap.setCell cell (.detached (stack.getD slot .nil)))
    else ((slot, cell) :: rest, heap)

def detach (m : Machine) (first : Nat) : Machine :=
  match m.captured with
  | [] => m
  | (slot, _) :: _ =>
    if first ≤ slot then
      match m with
      | { heap, stack, captured, pending, top, frames, failed } =>
        let (captured, heap) := detachFrom stack first captured heap
        { heap, stack, captured, pending, top, frames, failed }
    else m

/-- Takes the highest of the slots from one on whose values have to be closed. -/
def takePending? (m : Machine) (first : Nat) : Option (Nat × Machine) :=
  match m.pending with
  | [] => none
  | slot :: rest => if first ≤ slot then some (slot, { m with pending := rest }) else none

/-- The method that closes the value in a slot. -/
def closer (m : Machine) (slot : Nat) : Value := m.heap.handler (m.slot slot) .close

/-- An error at the place of the innermost frame. -/
def fault (m : Machine) (message : String) : State :=
  .raising (.ofText (Frame.placed m.frames 0 message)) m

/-- Calls a function with arguments that are put into the slots from `slot` on, on behalf of native
code or of a metatable. -/
def callWith (m : Machine) (frame : Frame) (slot : Nat) (function : Value)
    (arguments : List Value) : State :=
  let count := arguments.length
  let m := ((m.push frame).reserve (slot + 1 + count)).setSlots slot (function :: arguments)
  .calling slot count (frame.nesting + 1) m

/-- Starts a function of the program that has been called with so many arguments. The surplus ones
of a variadic function stay below its registers. -/
def enter (m : Machine) (ref : Nat) (closure : Closure) (origin count nesting : Nat)
    (tail : Bool) : State :=
  let p := closure.prototype
  let a : Activation :=
    { closure := ref, prototype := p, cells := closure.cells,
      slot := origin, origin, tail, nesting }
  let given := max count p.parameters
  let m := (m.reserve (origin + 1 + given)).clearSlots (origin + 1 + count) (given - count)
  if p.variadic then
    let slot := origin + 1 + given
    if stackLimit < slot + p.registers + 1 then
      (m.push (.script a 0 (.slots 0 none))).fault "stack overflow"
    else
      let m := (m.reserve (slot + 1 + p.registers)).copySlots origin slot (p.parameters + 1)
      .script { a with slot } 0 (m.clearSlots (origin + 1) p.parameters)
  else .script a 0 (m.reserve (origin + 1 + p.registers))

/-- What the work of a native function leads to. -/
def settle (m : Machine) (native : NativeCall) (outcome : Except Departure (List Value)) : State :=
  match outcome with
  | .ok results => .delivering results m
  | .error (.raise value) => .raising value (m.push (.native native))
  | .error (.call function arguments next) =>
    m.callWith (.native { native with next }) (native.slot + 2) function arguments

/-- Does the work of a native function for the frames that wait for it. -/
def work (m : Machine) (native : NativeCall) (task : Native (List Value)) : State :=
  match m with
  | { heap, stack, captured, pending, top, frames, failed } =>
    let (outcome, heap) := task.perform ⟨native, frames⟩ heap
    settle { heap, stack, captured, pending, top, frames, failed } native outcome

def startNative (m : Machine) (native : NativeCall) : State :=
  match native.function with
  | .library f => m.work native (Library.perform f)
  | .foreign _ => .abroad native m
  | .readComponent => m.work native Library.readComponent
  | .writeComponent => m.work native Library.writeComponent
  | .host f => .asking f native.arguments (m.push (.native native))
  | .closure _ => .delivering [] m

/-- Calls the function in a slot. A function of the program takes the place of a frame that would
only pass its results on. What is no function is called through its metatable, as the first
argument. -/
def call (m : Machine) (slot count nesting : Nat) : State :=
  if nestingLimit ≤ nesting then m.fault "C stack overflow"
  else
    match m.slot slot with
    | .function (.closure ref) =>
      let closure := m.heap.closure ref
      let needed := slot + 1 + count + closure.prototype.registers
      match m.frames with
      | .script a _ .answer :: callers =>
        if stackLimit + (a.slot - a.origin) < needed then m.fault "stack overflow"
        else
          let m := (m.detach a.base).copySlots slot a.origin (count + 1)
          enter { m with frames := callers } ref closure a.origin count nesting true
      | _ =>
        if stackLimit < needed then m.fault "stack overflow"
        else m.enter ref closure slot count nesting false
    | .function function =>
      if stackLimit < slot + 1 + count + nativeSlots then m.fault "stack overflow"
      else m.startNative { function, arguments := m.slotsFrom (slot + 1) count, slot, nesting }
    | object =>
      match m.heap.handler object .call with
      | .nil =>
        m.fault ("attempt to call a " ++ m.heap.typeName object ++ " value" ++
          Site.aside (Frame.siteAfter? m.frames))
      | handler =>
        if stackLimit < slot + 2 + count then m.fault "stack overflow"
        else
          let arguments := m.slotsFrom slot (count + 1)
          let m := (m.reserve (slot + 2 + count)).setSlots slot (handler :: arguments)
          .calling slot (count + 1) nesting m

/-- The innermost call that catches errors, and the calls that wait for it. -/
def protector? : List Frame → Option (NativeCall × List Frame)
  | [] => none
  | .native call :: callers =>
    match call.next with
    | .protect | .unwind _ => some (call, callers)
    | _ => protector? callers
  | _ :: callers => protector? callers

/-- Ends all calls with an error, as soon as no value is left that has to be closed. -/
def abandon (m : Machine) (raised : Raised) : State :=
  let m := { m.detach 0 with frames := [] }
  match m.takePending? 0 with
  | some (slot, m) =>
    let m := { m with failed := some raised }.reserve (slot + 5)
    .calling (slot + 2) 2 1
      (m.setSlots (slot + 2) [m.closer slot, m.slot slot, raised.report m.heap])
  | none => .ended (.error raised) m.heap

/-- An error ends the calls down to the one that catches it, as soon as no value of theirs is left
that has to be closed. An error that nothing catches is recorded with the active calls, before which
stands the call that records it. -/
def raise (m : Machine) (value : Value) : State :=
  match protector? m.frames with
  | some (call, callers) =>
    let m := { m.detach call.slot with frames := callers }
    match m.takePending? call.slot with
    | some (slot, m) =>
      m.callWith (.native { call with next := .unwind value }) (slot + 2) (m.closer slot)
        [m.slot slot, value]
    | none => .delivering [.boolean false, value] m
  | none => m.abandon ⟨value, Frame.trace m.heap (.host :: m.frames)⟩

/-- The reply of the host to the innermost frame. A failure that passes through the host comes back
as another one. -/
def answered (m : Machine) (reply : Reply) : State :=
  match m.frames with
  | .native native :: callers =>
    let m := { m with frames := callers }
    match reply with
    | .ok results =>
      m.work native (modifyGet fun heap => 
        let (heap, results) := heap.renewAll results
        (results, heap))
    | .error fault => m.work native (Native.fail fault.message)
  | _ => .delivering [] m

end Machine

end StationScript.Lua
