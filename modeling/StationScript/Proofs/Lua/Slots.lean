import StationScript.Lua.Machine
import StationScript.Proofs.Lua.Memory

/-!
What the slots of the stack hold.

A call of native code or of a metatable puts the function and its arguments behind the registers of
the caller. Main statement: it finds them there, and the slots before them hold what they held.
-/

set_option autoImplicit false

namespace StationScript.Lua.Machine

variable (m : Machine)

theorem slot_setSlot (i : Nat) (value : Value) (other : Nat) :
    (m.setSlot i value).slot other =
      if i = other ∧ other < m.stack.size then value else m.slot other := by
  unfold setSlot slot
  rw [Array.getD_eq_getD_getElem?, Array.getD_eq_getD_getElem?, Array.set!_eq_setIfInBounds,
    Array.getElem?_setIfInBounds]
  by_cases same : i = other
  · subst same
    by_cases inside : i < m.stack.size
    · rw [if_pos rfl, if_pos inside, if_pos ⟨rfl, inside⟩]
      rfl
    · rw [if_pos rfl, if_neg inside, if_neg fun both => inside both.2,
        Array.getElem?_eq_none (Nat.le_of_not_lt inside)]
  · rw [if_neg same, if_neg fun both => same both.1]

@[simp] theorem size_setSlot (i : Nat) (value : Value) :
    (m.setSlot i value).stack.size = m.stack.size := Array.size_setIfInBounds

/-! ### Room -/

theorem size_fillUp (count : Nat) (stack : Array Value) :
    (reserve.fillUp count stack).size = stack.size + count := by
  induction count generalizing stack with
  | zero => rfl
  | succ n ih =>
    rw [reserve.fillUp, ih, Array.size_push]
    omega

/-- Slots that are added hold nil, as slots outside the stack do. -/
theorem getD_fillUp (count : Nat) (stack : Array Value) (i : Nat) :
    (reserve.fillUp count stack).getD i .nil = stack.getD i .nil := by
  induction count generalizing stack with
  | zero => rfl
  | succ n ih =>
    rw [reserve.fillUp, ih, Array.getD_eq_getD_getElem?, Array.getD_eq_getD_getElem?,
      Array.getElem?_push]
    split
    · rename_i last
      rw [Array.getElem?_eq_none (Nat.le_of_eq last.symm)]
      rfl
    · rfl

@[simp] theorem slot_reserve (size i : Nat) : (m.reserve size).slot i = m.slot i :=
  getD_fillUp _ _ _

theorem le_size_reserve (size : Nat) : size ≤ (m.reserve size).stack.size := by
  unfold reserve
  rw [size_fillUp]
  omega

/-! ### Values in a row -/

/-- The slots before the first one stay. -/
theorem slot_setSlots_of_lt {first i : Nat} (values : List Value) (before : i < first) :
    (m.setSlots first values).slot i = m.slot i := by
  induction values generalizing m first with
  | nil => rfl
  | cons value rest ih =>
    rw [setSlots, ih _ (Nat.lt_succ_of_lt before), slot_setSlot,
      if_neg fun both => Nat.ne_of_gt before both.1]

/-- Values put into slots are found there in their order. -/
theorem slotsFrom_setSlots {first : Nat} {values : List Value}
    (inside : first + values.length ≤ m.stack.size) :
    (m.setSlots first values).slotsFrom first values.length = values := by
  induction values generalizing m first with
  | nil => rfl
  | cons value rest ih =>
    rw [List.length_cons] at inside
    rw [List.length_cons, slotsFrom, setSlots, slot_setSlots_of_lt _ _ (Nat.lt_succ_self first),
      slot_setSlot, if_pos ⟨rfl, by omega⟩, ih _ (by rw [size_setSlot]; omega)]

theorem setSlots_eq (first : Nat) (values : List Value) :
    m.setSlots first values = { m with stack := (m.setSlots first values).stack } := by
  induction values generalizing m first with
  | nil => rfl
  | cons value rest ih => exact ih _ _

/-- Two machines agree in their active calls, in the slots before one, in what functions have
captured and in what has to be closed. -/
structure AgreesBelow (limit : Nat) (other : Machine) : Prop where
  frames : other.frames = m.frames
  captured : other.captured = m.captured
  pending : other.pending = m.pending
  top : other.top = m.top
  failed : other.failed = m.failed
  slot : ∀ i < limit, other.slot i = m.slot i
  functions : m.heap.KeepsFunctions other.heap

theorem AgreesBelow.refl (limit : Nat) : m.AgreesBelow limit m :=
  ⟨rfl, rfl, rfl, rfl, rfl, fun _ _ => rfl, .refl _⟩

theorem AgreesBelow.onHeap (limit : Nat) {change : Heap → Heap}
    (functions : m.heap.KeepsFunctions (change m.heap)) :
    m.AgreesBelow limit (m.onHeap change) := ⟨rfl, rfl, rfl, rfl, rfl, fun _ _ => rfl, functions⟩

/-- A variable that is no register further up reads alike. -/
theorem AgreesBelow.captive {m other : Machine} {limit cell : Nat}
    (agrees : m.AgreesBelow limit other) {value : Value}
    (detached : m.heap.cell cell = .detached value) : other.captive cell = value := by
  have same : other.heap.cell cell = .detached value := by
    unfold Heap.cell at detached ⊢
    rw [agrees.functions.cells, detached]
  unfold Machine.captive
  rw [same]

/-! ### Calls on behalf of native code -/

section Call

variable (frame : Frame) (slot : Nat) (function : Value) (arguments : List Value)

/-- The machine in which such a call begins. -/
def prepared : Machine :=
  ((m.push frame).reserve (slot + 1 + arguments.length)).setSlots slot (function :: arguments)

/-- The stack is all that the function and its arguments are put into. -/
theorem prepared_eq : m.prepared frame slot function arguments =
    { m with
      stack := (m.prepared frame slot function arguments).stack
      frames := frame :: m.frames } :=
  setSlots_eq _ _ _

theorem slotsFrom_prepared :
    (m.prepared frame slot function arguments).slotsFrom slot (arguments.length + 1) =
      function :: arguments := by
  refine @slotsFrom_setSlots _ slot (function :: arguments) ?_
  refine Nat.le_trans (Nat.le_of_eq ?_) (le_size_reserve _ _)
  rw [List.length_cons]
  omega

/-- The function and the arguments are where the call looks for them. -/
theorem callee_prepared : (m.prepared frame slot function arguments).slot slot = function ∧
    (m.prepared frame slot function arguments).slotsFrom (slot + 1) arguments.length = arguments :=
  List.cons.inj (m.slotsFrom_prepared frame slot function arguments)

theorem slot_prepared_of_lt {i : Nat} (before : i < slot) :
    (m.prepared frame slot function arguments).slot i = m.slot i :=
  (slot_setSlots_of_lt _ _ before).trans (slot_reserve (m.push frame) _ i)

end Call

end StationScript.Lua.Machine
