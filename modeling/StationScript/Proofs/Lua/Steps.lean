import StationScript.Lua.Step
import StationScript.Proofs.Lua.Natives

/-!
What each step of the machine does to the memory of a script.

A step stores what its instruction assigns, or what a native function that it starts stores, and
keeps everything else. Only the change of a metatable is set apart. Main statement: the memory after
a step is that before it with the step's stores performed.
-/

set_option autoImplicit false

namespace StationScript.Lua

open Machine

namespace State

/-- The memory of the script. -/
def heap : State → Heap
  | .script _ _ m | .calling _ _ _ m | .delivering _ m | .raising _ m | .asking _ _ m
  | .abroad _ m => m.heap
  | .ended _ heap => heap

end State

namespace Machine

section Assignment

variable (a : Activation) (m : Machine)

/-- The object, the key and the value of an assignment to a field. -/
def assignment? : Instruction → Option (Value × Value × Value)
  | .setUpvalueField up k value =>
    some (m.captive (a.cells.getD up 0), constant a k, m.sourceValue a value)
  | .setIndexed t k value => some (m.register a t, m.register a k, m.sourceValue a value)
  | .setInteger t n value =>
    some (m.register a t, .integer (Int64.ofNat n), m.sourceValue a value)
  | .setField t k value => some (m.register a t, constant a k, m.sourceValue a value)
  | _ => none

/-- What an instruction stores: what it assigns, or the items of a list. -/
def stores (instruction : Instruction) : List Store :=
  match m.assignment? a instruction, instruction with
  | some (object, key, value), _ => m.heap.assignStores hopLimit object key value
  | none, .setList r count offset =>
    match m.register a r with
    | .table ref =>
      let first := a.base + r + 1
      Heap.listStores ref (offset + 1) (m.slotsFrom first (m.openCount first count))
    | _ => []
  | none, _ => []

end Assignment

/-- What a native function stores. -/
def nativeStores (heap : Heap) (arguments : List Value) : Callable → List Store
  | .library .rawset => Library.rawStores arguments
  | .writeComponent => Library.guardStores heap arguments
  | _ => []

/-- Neither the calls inside one another nor the stack are at their limits. -/
def HasRoom (slot count nesting : Nat) : Prop :=
  nesting < nestingLimit ∧ slot + 1 + count + nativeSlots ≤ stackLimit

instance (slot count nesting : Nat) : Decidable (HasRoom slot count nesting) :=
  inferInstanceAs (Decidable (_ ∧ _))

/-- What calling the function in a slot stores. -/
def callStores (m : Machine) (slot count nesting : Nat) : List Store :=
  match m.slot slot with
  | .function f =>
    if HasRoom slot count nesting then nativeStores m.heap (m.slotsFrom (slot + 1) count) f else []
  | _ => []

end Machine

namespace State

/-- What the next step stores. -/
def stores : State → List Store
  | .script a position m => m.stores a (a.prototype.instruction position)
  | .calling slot count nesting m => m.callStores slot count nesting
  | _ => []

/-- The function is about to be called with the globals as its first argument. -/
def CallsOnGlobals (f : LibraryFunction) : State → Prop
  | .calling slot count _ m => m.slot slot = .function (.library f) ∧
    (m.slotsFrom (slot + 1) count)[0]? = some (.table Heap.globalsRef)
  | _ => False

end State

namespace Machine

/-! ### The stack -/

section Stack

variable (m : Machine)

@[simp] theorem heap_reserve (size : Nat) : (m.reserve size).heap = m.heap := rfl

@[simp] theorem heap_setSlots (first : Nat) (values : List Value) :
    (m.setSlots first values).heap = m.heap := by
  induction values generalizing m first with
  | nil => rfl
  | cons value rest ih => exact ih _ _

@[simp] theorem heap_clearSlots (first count : Nat) : (m.clearSlots first count).heap = m.heap := by
  induction count generalizing m first with
  | zero => rfl
  | succ n ih => exact ih _ _

@[simp] theorem heap_copySlots (source target count : Nat) :
    (m.copySlots source target count).heap = m.heap := by
  induction count generalizing m source target with
  | zero => rfl
  | succ n ih => exact ih _ _ _

@[simp] theorem heap_setWanted (first wanted : Nat) (values : List Value) :
    (m.setWanted first wanted values).heap = m.heap := by
  induction wanted generalizing m first values with
  | zero => cases values <;> rfl
  | succ n ih => cases values <;> exact ih _ _ _

theorem heap_callWith (frame : Frame) (slot : Nat) (function : Value) (arguments : List Value) :
    (m.callWith frame slot function arguments).heap = m.heap := by
  unfold callWith State.heap
  dsimp only
  rw [heap_setSlots]
  rfl

theorem keeps_setCaptive (cell : Nat) (value : Value) :
    m.heap.Keeps (m.setCaptive cell value).heap := by
  unfold setCaptive
  split
  · exact .refl _
  · exact .setCell _ _ _

theorem keeps_detachFrom (stack : Array Value) (first : Nat) (captured : List (Nat × Nat))
    (heap : Heap) : heap.Keeps (detachFrom stack first captured heap).2 := by
  induction captured generalizing heap with
  | nil => exact .refl heap
  | cons entry rest ih =>
    unfold detachFrom
    split
    · exact (Heap.Keeps.setCell heap _ _).trans (ih _)
    · exact .refl heap

theorem keeps_detach (first : Nat) : m.heap.Keeps (m.detach first).heap := by
  unfold detach
  split
  · exact .refl _
  · split
    · exact keeps_detachFrom _ _ _ _
    · exact .refl _

theorem heap_of_takePending? {m rest : Machine} {first slot : Nat}
    (taken : m.takePending? first = some (slot, rest)) : rest.heap = m.heap := by
  unfold takePending? at taken
  split at taken
  · cases taken
  · split at taken
    · cases taken
      rfl
    · cases taken

theorem keeps_capture (slot : Nat) : m.heap.Keeps (m.capture slot).1.heap := by
  unfold capture
  split
  · exact .refl _
  · exact .addCell _ _

end Stack

/-! ### Instructions that leave the memory alone -/

section Quiet

variable (a : Activation) (position : Nat) (m : Machine)

theorem heap_ask (delivery : Delivery) (handler : Value) (arguments : List Value) :
    (m.ask a position delivery handler arguments).heap = m.heap := heap_callWith _ _ _ _ _

theorem heap_branch (outcome expected : Bool) :
    (m.branch a position outcome expected).heap = m.heap := by
  unfold branch
  split
  · split <;> rfl
  · rfl

theorem heap_finish (r : Nat) (result : Except NumberFault Numeral.Number) :
    (m.finish a position r result).heap = m.heap := by
  cases result <;> rfl

theorem heap_arithmetic (op : Arithmetic) (r : Nat) (x y : Value) :
    (m.arithmetic a position op r x y).heap = m.heap := by
  unfold arithmetic
  split
  · exact heap_finish _ _ _ _ _
  · rfl
  · split
    · exact heap_finish _ _ _ _ _
    · rfl

theorem heap_bitwise (op : Bitwise) (r : Nat) (x y : Value) :
    (m.bitwise a position op r x y).heap = m.heap := by
  unfold bitwise
  split
  · split <;> rfl
  · rfl

theorem heap_refuseOperator (event : Event) (x y : Value) (xHolder yHolder : Holder) :
    (m.refuseOperator a position event x y xHolder yHolder).heap = m.heap := by
  unfold refuseOperator
  dsimp only
  split
  · split <;> rfl
  · split <;> rfl
  · rfl

theorem heap_operate (r : Nat) (event : Event) (x y : Value) (xHolder yHolder : Holder) :
    (m.operate a position r event x y xHolder yHolder).heap = m.heap := by
  unfold operate
  split
  · exact heap_refuseOperator _ _ _ _ _ _ _ _
  · exact heap_ask _ _ _ _ _ _

theorem heap_fallback (event : Event) (x y : Value) (xHolder yHolder : Holder) (flipped : Bool) :
    (m.fallback a position event x y xHolder yHolder flipped).heap = m.heap := by
  unfold fallback
  dsimp only
  split
  · exact heap_operate _ _ _ _ _ _ _ _ _
  · exact heap_operate _ _ _ _ _ _ _ _ _

theorem heap_equal (x y : Value) (expected : Bool) :
    (m.equal a position x y expected).heap = m.heap := by
  unfold equal
  split
  · exact heap_branch _ _ _ _ _
  · split
    · split
      · exact heap_branch _ _ _ _ _
      · exact heap_ask _ _ _ _ _ _
    · exact heap_branch _ _ _ _ _

theorem heap_order (op : Order) (x y : Value) (expected : Bool) :
    (m.order a position op x y expected).heap = m.heap := by
  unfold order
  split
  · exact heap_branch _ _ _ _ _
  · exact heap_branch _ _ _ _ _
  · split
    · exact heap_branch _ _ _ _ _
    · split
      · rfl
      · exact heap_ask _ _ _ _ _ _

theorem heap_concatenate (r count : Nat) : (m.concatenate a position r count).heap = m.heap := by
  unfold concatenate
  extract_lets first
  split
  rename_i rest texts _
  extract_lets joined place
  have same : joined.heap = m.heap := by
    unfold joined
    split <;> rfl
  split
  · exact same
  · split
    · split
      · exact same
      · exact same
    · exact (heap_ask _ _ _ _ _ _).trans same

theorem heap_surplus (r : Nat) (wanted : Option Nat) :
    (m.surplus a position r wanted).heap = m.heap := by
  unfold surplus
  dsimp only
  split
  · split
    · rfl
    · exact heap_copySlots _ _ _ _
  · exact (heap_clearSlots _ _ _).trans (heap_copySlots _ _ _ _)

theorem heap_setRange (r : Nat) (range : Range) : (m.setRange a r range).heap = m.heap := by
  cases range <;> exact heap_setSlots _ _ _

theorem heap_startLoop (r stop : Nat) : (m.startLoop a position r stop).heap = m.heap := by
  unfold startLoop
  split
  · exact heap_setRange _ _ _ _
  · rfl
  · rfl
  · rfl

theorem heap_turnLoop (r start : Nat) : (m.turnLoop a position r start).heap = m.heap := by
  unfold turnLoop
  split
  · exact heap_setRange _ _ _ _
  · rfl

theorem heap_markToClose (r target : Nat) :
    (m.markToClose a position r target).heap = m.heap := by
  unfold markToClose
  split
  · rfl
  · split <;> rfl

theorem heap_iterate (r count : Nat) : (m.iterate a position r count).heap = m.heap :=
  heap_copySlots _ _ _ _

end Quiet

/-! ### Instructions that change the memory -/

section Change

variable (a : Activation) (position : Nat) (m : Machine)

theorem keeps_readField (r : Nat) (object : Value) (holder : Holder) (key : Value) :
    m.heap.Keeps (m.readField a position r object holder key).heap := by
  unfold readField
  split
  · split
    · exact .noteReading _ _ _ _
    · exact .noteReading _ _ _ _
    · exact .refl _
  · rw [heap_ask]
    exact .refl _
  · exact .refl _
  · exact .refl _

theorem heap_writeField (object : Value) (holder : Holder) (key value : Value) :
    (m.writeField a position object holder key value).heap =
      m.heap.performAll (m.heap.assignStores hopLimit object key value) := by
  rw [← Heap.assign_eq m.heap key value hopLimit true object]
  unfold writeField
  dsimp only
  split
  · rfl
  · exact heap_ask _ _ _ _ _ _
  · rfl
  · rfl
  · rfl

theorem keeps_lengthOf (r : Nat) (x : Value) (holder : Holder) :
    m.heap.Keeps (m.lengthOf a position r x holder).heap := by
  unfold lengthOf
  split
  · exact .refl _
  · exact .modifyTable _ (fun _ => rfl) fun _ => rfl
  · exact .refl _
  · rw [heap_ask]
    exact .refl _

theorem keeps_foldl_capture (captures : List Capture) (start : Machine × Array Nat) :
    start.1.heap.Keeps (captures.foldl (fun (m, cells) capture =>
      if capture.fromRegister then
        let (m, cell) := m.capture (a.base + capture.position)
        (m, cells.push cell)
      else (m, cells.push (a.cells.getD capture.position 0))) start).1.heap := by
  induction captures generalizing start with
  | nil => exact .refl _
  | cons capture rest ih =>
    rw [List.foldl_cons]
    refine Heap.Keeps.trans ?_ (ih _)
    dsimp only
    split
    · exact keeps_capture _ _
    · exact .refl _

theorem keeps_makeClosure (r : Nat) (p : Prototype) :
    m.heap.Keeps (m.makeClosure a position r p).heap := by
  have captured := keeps_foldl_capture a p.captures.toList (m, #[])
  rw [Array.foldl_toList] at captured
  exact captured.trans (.addClosure _ _)

theorem keeps_fillTable (r : Nat) (count : Option Nat) (offset : Nat) :
    (m.heap.performAll (m.stores a (.setList r count offset))).Keeps
      (m.fillTable a position r count offset).heap := by
  unfold fillTable stores assignment?
  dsimp only
  cases m.register a r with
  | table ref => exact Heap.keeps_fill _ _ _ _
  | nil | boolean | integer | number | string | function | thread | failure | userdata =>
    exact .refl _

theorem keeps_closeFrom (r : Nat) : m.heap.Keeps (m.closeFrom a position r).heap := by
  unfold closeFrom
  dsimp only
  split
  · rename_i slot rest taken
    rw [heap_ask, heap_of_takePending? taken]
    exact keeps_detach m _
  · exact keeps_detach m _

theorem keeps_leaveWith (results : List Value) :
    m.heap.Keeps (m.leaveWith a position results).heap := by
  unfold leaveWith
  dsimp only
  split
  · rename_i slot rest taken
    rw [heap_ask, heap_of_takePending? taken]
    exact keeps_detach m _
  · exact keeps_detach m _

/-- An instruction stores what it assigns, and keeps the rest. -/
theorem keeps_runInstruction (instruction : Instruction) :
    (m.heap.performAll (m.stores a instruction)).Keeps
      (m.runInstruction a position instruction).heap := by
  cases instruction with
  | move | loadInteger | loadReal | loadConstant | loadFalse | loadFalseSkip | loadTrue | getUpvalue
  | invert | jump | call | tailCall | prepareVarargs => exact .refl _
  | loadNil => exact .of_eq (heap_clearSlots _ _ _).symm
  | setUpvalue => exact keeps_setCaptive _ _ _
  | getUpvalueField | getIndexed | getInteger | getField => exact keeps_readField _ _ _ _ _ _ _
  | method r object key =>
    exact keeps_readField a position (m.setRegister a (r + 1) (m.register a object)) _ _ _ _
  | setUpvalueField | setIndexed | setInteger | setField =>
    exact .of_eq (heap_writeField _ _ _ _ _ _ _).symm
  | newTable => exact .addTable _ _
  | addImmediate | arithmeticConstant | arithmetic =>
    exact .of_eq (heap_arithmetic a position m _ _ _ _).symm
  | shiftRightImmediate | shiftLeftImmediate | bitwiseConstant | bitwise =>
    exact .of_eq (heap_bitwise a position m _ _ _ _).symm
  | fallback s t event =>
    refine .of_eq (Eq.symm ?_)
    unfold runInstruction
    exact heap_fallback a position m _ _ _ _ _ _
  | fallbackImmediate s n event flipped =>
    refine .of_eq (Eq.symm ?_)
    unfold runInstruction
    exact heap_fallback a position m _ _ _ _ _ _
  | fallbackConstant s k event flipped =>
    refine .of_eq (Eq.symm ?_)
    unfold runInstruction
    exact heap_fallback a position m _ _ _ _ _ _
  | negate r s =>
    refine .of_eq (Eq.symm ?_)
    unfold runInstruction
    dsimp only
    split
    · rfl
    · exact heap_operate _ _ _ _ _ _ _ _ _
  | complement r s =>
    refine .of_eq (Eq.symm ?_)
    unfold runInstruction
    dsimp only
    split
    · rfl
    · exact heap_operate _ _ _ _ _ _ _ _ _
  | length => exact keeps_lengthOf _ _ _ _ _ _
  | concat => exact .of_eq (heap_concatenate _ _ _ _ _).symm
  | close => exact keeps_closeFrom _ _ _ _
  | toBeClosed => exact .of_eq (heap_markToClose _ _ _ _ _).symm
  | equal => exact .of_eq (heap_equal a position m _ _ _).symm
  | order => exact .of_eq (heap_order a position m _ _ _ _).symm
  | equalConstant | equalImmediate | test => exact .of_eq (heap_branch a position m _ _).symm
  | orderImmediate op flipped r n real expected =>
    refine .of_eq (Eq.symm ?_)
    unfold runInstruction
    dsimp only
    split
    · exact heap_order _ _ _ _ _ _ _
    · exact heap_order _ _ _ _ _ _ _
  | testSet r s expected =>
    refine .of_eq (Eq.symm ?_)
    unfold runInstruction
    dsimp only
    split
    · exact heap_branch _ _ _ _ _
    · rfl
  | answer => exact keeps_leaveWith _ _ _ _
  | forLoop => exact .of_eq (heap_turnLoop _ _ _ _ _).symm
  | forPrepare => exact .of_eq (heap_startLoop _ _ _ _ _).symm
  | iteratorPrepare => exact .of_eq (heap_markToClose _ _ _ _ _).symm
  | iteratorCall => exact .of_eq (heap_iterate _ _ _ _ _).symm
  | iteratorLoop r start =>
    refine .of_eq (Eq.symm ?_)
    unfold runInstruction
    dsimp only
    split
    · rfl
    · rfl
  | setList => exact keeps_fillTable _ _ _ _ _ _
  | closure => exact keeps_makeClosure _ _ _ _ _
  | varargs => exact .of_eq (heap_surplus _ _ _ _ _).symm

/-- A function goes on with results, and at most captured variables are detached. -/
theorem keeps_receive (results : List Value) (delivery : Delivery) :
    m.heap.Keeps (m.receive a position results delivery).heap := by
  cases delivery with
  | slots first wanted =>
    cases wanted with
    | none => exact .of_eq (heap_setSlots (m.reserve (first + results.length)) _ _).symm
    | some wanted => exact .of_eq (heap_setWanted _ _ _ _).symm
  | test expected => exact .of_eq (heap_branch _ _ _ _ _).symm
  | join count =>
    unfold receive
    dsimp only
    split
    · rename_i r _ _
      exact .of_eq (heap_concatenate a position
        (m.setRegister a (r + count - 1) (results.headD .nil)) _ _).symm
    · exact .refl _
  | answer | leave => exact keeps_leaveWith _ _ _ _
  | again => exact .refl _

end Change

/-! ### Calls -/

section Calls

variable (m : Machine)

theorem heap_settle (native : NativeCall) (outcome : Except Departure (List Value)) :
    (m.settle native outcome).heap = m.heap := by
  unfold settle
  split
  · rfl
  · rfl
  · exact heap_callWith _ _ _ _ _

theorem heap_work (native : NativeCall) (task : Native (List Value)) :
    (m.work native task).heap = (task.perform ⟨native, m.frames⟩ m.heap).2 := heap_settle _ _ _

/-- A native function that is started stores what `nativeStores` says. -/
theorem keeps_startNative (native : NativeCall)
    (other : native.function = .library .setmetatable →
      native.arguments[0]? ≠ some (.table Heap.globalsRef)) :
    (m.heap.performAll (nativeStores m.heap native.arguments native.function)).Keeps
      (m.startNative native).heap := by
  unfold startNative
  cases native with
  | mk function arguments slot nesting next =>
    cases function with
    | library f =>
      dsimp only
      rw [heap_work]
      by_cases store : f = .rawset
      · subst store
        exact Library.keeps_rawSet ⟨⟨_, arguments, slot, nesting, next⟩, m.frames⟩ m.heap
      · by_cases change : f = .setmetatable
        · subst change
          exact Library.keeps_setMetatable _ _ (other rfl)
        · have none : nativeStores m.heap arguments (.library f) = [] := by
            cases f <;> first | rfl | exact absurd rfl store
          rw [none]
          exact Library.keeps_perform f store change _ _
    | readComponent =>
      dsimp only
      rw [heap_work]
      exact Library.keeps_readComponent _ _
    | writeComponent =>
      dsimp only
      rw [heap_work]
      exact Library.keeps_writeComponent ⟨⟨_, arguments, slot, nesting, next⟩, m.frames⟩ m.heap
    | host | closure | foreign => exact .refl _

theorem heap_enter (ref : Nat) (closure : Closure) (origin count nesting : Nat) (tail : Bool) :
    (m.enter ref closure origin count nesting tail).heap = m.heap := by
  unfold enter
  dsimp only
  split
  · split
    · exact heap_clearSlots _ _ _
    · exact (heap_clearSlots _ _ _).trans ((heap_copySlots _ _ _ _).trans (heap_clearSlots _ _ _))
  · exact heap_clearSlots _ _ _

/-- A native function starts if there is room for it. -/
theorem call_native {slot : Nat} {f : Callable} (called : m.slot slot = .function f)
    (native : ∀ ref, f ≠ .closure ref) (count nesting : Nat) :
    m.call slot count nesting =
      if nestingLimit ≤ nesting then m.fault "C stack overflow"
      else if stackLimit < slot + 1 + count + nativeSlots then m.fault "stack overflow"
      else m.startNative ⟨f, m.slotsFrom (slot + 1) count, slot, nesting, .none⟩ := by
  unfold call
  rw [called]
  cases f with
  | closure ref => exact absurd rfl (native ref)
  | library | foreign | readComponent | writeComponent | host => rfl

theorem keeps_callNative {slot count nesting : Nat} {f : Callable}
    (called : m.slot slot = .function f) (native : ∀ ref, f ≠ .closure ref)
    (other : ¬ State.CallsOnGlobals .setmetatable (.calling slot count nesting m)) :
    (m.heap.performAll (m.callStores slot count nesting)).Keeps
      (m.call slot count nesting).heap := by
  unfold callStores
  rw [m.call_native called native, called]
  dsimp only
  by_cases room : HasRoom slot count nesting
  · rw [if_pos room, if_neg (Nat.not_le.mpr room.1), if_neg (Nat.not_lt.mpr room.2)]
    refine keeps_startNative m ⟨f, m.slotsFrom (slot + 1) count, slot, nesting, .none⟩ ?_
    intro same given
    exact other ⟨called.trans (congrArg Value.function same), given⟩
  · rw [if_neg room]
    split
    · exact .refl _
    · split
      · exact .refl _
      · rename_i shallow fits
        exact absurd ⟨Nat.lt_of_not_le shallow, Nat.le_of_not_lt fits⟩ room

/-- A call stores what `callStores` says, unless it changes the metatable of the globals. -/
theorem keeps_call (slot count nesting : Nat)
    (other : ¬ State.CallsOnGlobals .setmetatable (.calling slot count nesting m)) :
    (m.heap.performAll (m.callStores slot count nesting)).Keeps
      (m.call slot count nesting).heap := by
  cases called : m.slot slot with
  | function f =>
    cases f with
    | closure ref =>
      unfold call callStores
      rw [called]
      dsimp only
      rw [show nativeStores m.heap (m.slotsFrom (slot + 1) count) (.closure ref) = [] from rfl,
        ite_self]
      split
      · exact .refl _
      · split
        · split
          · exact .refl _
          · rw [heap_enter]
            exact (keeps_detach m _).trans (.of_eq (heap_copySlots _ _ _ _).symm)
        · split
          · exact .refl _
          · rw [heap_enter]
            exact .refl _
    | library | foreign | readComponent | writeComponent | host =>
      exact keeps_callNative m called nofun other
  | nil | boolean | integer | number | string | table | thread | failure | userdata =>
    unfold call callStores
    rw [called]
    dsimp only
    split
    · exact .refl _
    · split
      · exact .refl _
      · split
        · exact .refl _
        · exact .of_eq (heap_setSlots (m.reserve _) _ _).symm

theorem keeps_abandon (raised : Raised) : m.heap.Keeps (m.abandon raised).heap := by
  unfold abandon
  dsimp only
  split
  · rename_i slot rest taken
    refine (keeps_detach m 0).trans (.of_eq ?_)
    unfold State.heap
    dsimp only
    rw [heap_setSlots]
    exact (heap_of_takePending? taken).symm
  · exact keeps_detach m 0

/-- An error detaches captured variables at most. -/
theorem keeps_raise (value : Value) : m.heap.Keeps (m.raise value).heap := by
  unfold raise
  split
  · dsimp only
    split
    · rename_i slot rest taken
      rw [heap_callWith, heap_of_takePending? taken]
      exact keeps_detach m _
    · exact keeps_detach m _
  · exact keeps_abandon m _

theorem keeps_resume (native : NativeCall) (results : List Value) :
    m.heap.Keeps (m.resume native results).heap := by
  unfold resume
  split
  · exact .refl _
  · rw [heap_work]
    exact Library.keeps_resume _ _ _ _

theorem keeps_deliver (results : List Value) : m.heap.Keeps (m.deliver results).heap := by
  cases m with
  | mk heap stack captured pending top frames failed =>
    cases frames with
    | nil =>
      cases failed with
      | none => exact .refl _
      | some raised => exact keeps_abandon { heap, stack, captured, pending, top } raised
    | cons frame frames =>
      cases frame with
      | script a position delivery =>
        exact keeps_receive a position
          { heap, stack, captured, pending, top, frames, failed } results delivery
      | native native =>
        exact keeps_resume { heap, stack, captured, pending, top, frames, failed } native results
      | host => exact .refl _

/-- The reply of the host brings new failures at most. -/
theorem keeps_answered (reply : Reply) : m.heap.Keeps (m.answered reply).heap := by
  unfold answered
  split
  · dsimp only
    split
    · rw [heap_work]
      exact .renewAll _ _
    · rw [heap_work]
      exact Native.keeps_fail _ _ _
  · exact .refl _

end Calls

end Machine

/-- A step performs its stores and keeps the rest, unless it changes what guards the globals. -/
theorem State.keeps_step (s : State) (other : ¬ s.CallsOnGlobals .setmetatable) :
    (s.heap.performAll s.stores).Keeps s.step.heap := by
  cases s with
  | script a position m => exact keeps_runInstruction a position m _
  | calling slot count nesting m => exact keeps_call m slot count nesting other
  | delivering results m => exact keeps_deliver m results
  | raising value m => exact keeps_raise m value
  | abroad native m =>
    unfold step
    dsimp only
    rw [heap_settle]
    exact .refl _
  | asking | ended => exact .refl _

end StationScript.Lua
