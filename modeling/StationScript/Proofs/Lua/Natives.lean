import StationScript.Lua.Library
import StationScript.Proofs.Lua.Memory

/-!
What native functions do to the memory of a script.

Work that is put together from parts keeps the memory if the parts do. Only three functions change
what is in the tables or how they are treated: one stores a value under a key, one assigns to the
globals on behalf of the device's id, and one gives a table another metatable.
-/

set_option autoImplicit false

namespace StationScript.Lua

namespace Native

/-- Whatever becomes of the work, it keeps the memory. -/
def Keeps {α : Type} (task : Native α) : Prop :=
  ∀ (setting : Setting) (heap : Heap), heap.Keeps (task.perform setting heap).2

section Parts

variable {α β : Type}

/-- The second part of some work begins with the memory that the first one leaves. -/
theorem perform_bind (task : Native α) (next : α → Native β) (setting : Setting) (heap : Heap) :
    (task >>= next).perform setting heap =
      match task.perform setting heap with
      | (.ok a, heap) => (next a).perform setting heap
      | (.error departure, heap) => (.error departure, heap) := by
  show ExceptT.bindCont (fun a => next a setting) (task.perform setting heap).1
    (task.perform setting heap).2 = _
  cases task.perform setting heap with
  | mk outcome after => cases outcome <;> rfl

theorem perform_get (setting : Setting) (heap : Heap) :
    (get : Native Heap).perform setting heap = (.ok heap, heap) := rfl

theorem perform_set (after : Heap) (setting : Setting) (heap : Heap) :
    (set after : Native PUnit).perform setting heap = (.ok ⟨⟩, after) := rfl

theorem keeps_pure (a : α) : Keeps (pure a) := fun _ heap => .refl heap

theorem keeps_bind {task : Native α} {next : α → Native β} (first : task.Keeps)
    (second : ∀ a, (next a).Keeps) : Keeps (task >>= next) := by
  intro setting heap
  have before := first setting heap
  rw [perform_bind]
  cases done : task.perform setting heap with
  | mk outcome after =>
    rw [done] at before
    cases outcome with
    | ok a => exact before.trans (second a setting after)
    | error departure => exact before

theorem keeps_ite {p : Prop} [Decidable p] {yes no : Native α} (first : yes.Keeps)
    (second : no.Keeps) : Keeps (if p then yes else no) := by
  split
  · exact first
  · exact second

theorem keeps_throw (departure : Departure) : Keeps (throw departure : Native α) :=
  fun _ heap => .refl heap

theorem keeps_get : Keeps (get : Native Heap) := fun _ heap => .refl heap

theorem keeps_read : Keeps (read : Native Setting) := fun _ heap => .refl heap

theorem keeps_modify {change : Heap → Heap} (keeps : ∀ heap : Heap, heap.Keeps (change heap)) :
    Keeps (modify change : Native Unit) := fun _ heap => keeps heap

theorem keeps_modifyGet {change : Heap → α × Heap}
    (keeps : ∀ heap : Heap, heap.Keeps (change heap).2) :
    Keeps (modifyGet change : Native α) := fun _ heap => keeps heap

end Parts

theorem keeps_frames : Keeps frames := keeps_bind keeps_read fun _ => keeps_pure _

theorem keeps_arguments : Keeps arguments := keeps_bind keeps_read fun _ => keeps_pure _

theorem perform_argument? (position : Nat) (setting : Setting) (heap : Heap) :
    (argument? position).perform setting heap =
      (.ok setting.call.arguments[position - 1]?, heap) := rfl

theorem perform_argument (position : Nat) (setting : Setting) (heap : Heap) :
    (argument position).perform setting heap =
      (.ok (setting.call.arguments[position - 1]?.getD .nil), heap) := rfl

theorem keeps_raise {α : Type} (value : Value) : Keeps (raise value : Native α) := keeps_throw _

theorem keeps_refuse {α : Type} (message : String) : Keeps (refuse message : Native α) :=
  keeps_bind keeps_frames fun _ => keeps_raise _

theorem keeps_fail {α : Type} (cause : String) : Keeps (fail cause : Native α) := by
  refine keeps_bind keeps_get fun _ => keeps_bind keeps_frames fun _ => ?_
  refine keeps_bind (keeps_modifyGet fun heap => ?_) fun _ => keeps_raise _
  exact Heap.Keeps.addFailure heap _

theorem perform_fail {α : Type} (cause : String) (setting : Setting) (heap : Heap) :
    (fail cause : Native α).perform setting heap =
      (.error (.raise (.failure heap.failures.size)),
        (heap.addFailure (cause ++ "\n" ++
          Frame.trace heap (.native setting.call :: setting.callers) ++
          "\n")).1) := rfl

theorem keeps_refuseArgument {α : Type} (position : Nat) (reason : String) :
    Keeps (refuseArgument position reason : Native α) := by
  refine keeps_bind keeps_read fun _ => ?_
  split
  · split
    · exact keeps_refuse _
    · exact keeps_refuse _
  · exact keeps_refuse _
  · exact keeps_bind keeps_get fun _ => keeps_refuse _

theorem keeps_argument? (position : Nat) : Keeps (argument? position) :=
  keeps_bind keeps_arguments fun _ => keeps_pure _

theorem keeps_argument (position : Nat) : Keeps (argument position) :=
  keeps_bind (keeps_argument? position) fun _ => keeps_pure _

theorem keeps_refuseType {α : Type} (position : Nat) (expected : String) :
    Keeps (refuseType position expected : Native α) := by
  refine keeps_bind keeps_get fun _ => keeps_bind (keeps_argument? position) fun _ => ?_
  exact keeps_refuseArgument _ _

theorem keeps_anyArgument (position : Nat) : Keeps (anyArgument position) := by
  refine keeps_bind (keeps_argument? position) fun _ => ?_
  split
  · exact keeps_pure _
  · exact keeps_refuseArgument _ _

theorem keeps_tableArgument (position : Nat) : Keeps (tableArgument position) := by
  refine keeps_bind (keeps_argument? position) fun _ => ?_
  split
  · exact keeps_pure _
  · exact keeps_refuseType _ _

theorem keeps_bytesArgument (position : Nat) : Keeps (bytesArgument position) := by
  refine keeps_bind (keeps_argument? position) fun _ => ?_
  split
  · exact keeps_pure _
  · exact keeps_refuseType _ _

theorem keeps_numberArgument (position : Nat) : Keeps (numberArgument position) := by
  refine keeps_bind (keeps_argument? position) fun _ => ?_
  split
  · exact keeps_pure _
  · exact keeps_refuseType _ _

theorem keeps_integerArgument (position : Nat) : Keeps (integerArgument position) := by
  refine keeps_bind (keeps_numberArgument position) fun _ => ?_
  split
  · exact keeps_pure _
  · exact keeps_refuseArgument _ _

theorem keeps_optionalInteger (position : Nat) (absent : Int64) :
    Keeps (optionalInteger position absent) := by
  refine keeps_bind (keeps_argument position) fun _ => ?_
  split
  · exact keeps_pure _
  · exact keeps_integerArgument _

end Native

namespace Library

open Native

theorem keeps_textOf (value : Value) (next : Continuation) : Keeps (textOf value next) := by
  refine keeps_bind keeps_get fun _ => ?_
  split
  · exact keeps_pure _
  · exact keeps_throw _

theorem keeps_returnedText (results : List Value) : Keeps (returnedText results) := by
  unfold returnedText
  split
  · exact keeps_pure _
  · exact keeps_refuse _

theorem keeps_raiseAt (level : Int64) (value : Value) : Keeps (raiseAt level value) := by
  unfold raiseAt
  split
  · dsimp only
    split
    · exact keeps_bind keeps_frames fun _ => keeps_raise _
    · exact keeps_raise _
  · exact keeps_raise _

theorem keeps_assert : Keeps assert := by
  refine keeps_bind (keeps_anyArgument 1) fun _ => ?_
  split
  · exact keeps_bind (keeps_argument? 2) fun _ => keeps_raiseAt _ _
  · exact keeps_bind (keeps_argument? 2) fun _ => keeps_raiseAt _ _
  · exact keeps_arguments

theorem keeps_select : Keeps select := by
  refine keeps_bind keeps_arguments fun _ => keeps_ite (keeps_pure _) ?_
  refine keeps_bind (keeps_integerArgument 1) fun _ => ?_
  exact keeps_ite (keeps_refuseArgument _ _) (keeps_pure _)

theorem keeps_repeatBytes : Keeps repeatBytes := by
  refine keeps_bind (keeps_bytesArgument 1) fun _ => ?_
  refine keeps_bind (keeps_integerArgument 2) fun _ => ?_
  refine keeps_bind (keeps_argument 3) fun _ => ?_
  extract_lets count filled
  have made (gap : ByteArray) : (filled gap).Keeps := by
    refine keeps_ite (keeps_pure _) ?_
    extract_lets size bytes joined limited
    have kept (u : Unit) : (joined u).Keeps := keeps_ite (keeps_pure _) (keeps_pure _)
    have fits (u : Unit) : (limited u).Keeps :=
      keeps_ite (keeps_bind (keeps_raise _) kept) (kept ())
    exact keeps_ite (keeps_bind (keeps_refuse _) fits) (fits ())
  split
  · exact keeps_bind (keeps_pure _) made
  · exact keeps_bind (keeps_bytesArgument 3) made

theorem keeps_directive (conversion : Char) (modifiers : List Char) :
    Keeps (directive conversion modifiers) := by
  unfold directive
  dsimp only
  split
  · exact keeps_refuse _
  · split
    · exact keeps_pure _
    · exact keeps_refuse _

theorem keeps_formattedText (d : Directive) (position : Nat) (isPlain : Bool) (bytes : ByteArray) :
    Keeps (formattedText d position isPlain bytes) := by
  unfold formattedText
  extract_lets cs shown
  refine keeps_ite (keeps_pure _) ?_
  have kept (u : Unit) : (shown u).Keeps := keeps_ite (keeps_pure _) (keeps_pure _)
  exact keeps_ite (keeps_bind (keeps_refuseArgument _ _) kept) (kept ())

theorem keeps_formatted (conversion : Char) (modifiers : List Char) (position : Nat)
    (written rest : List Char) :
    Keeps (formatted conversion modifiers position written rest) := by
  have spelled := keeps_directive conversion modifiers
  have integral (text : Directive → Int64 → List Char) : Keeps (do
      let n ← integerArgument position
      return text (← directive conversion modifiers) n) :=
    keeps_bind (keeps_integerArgument _) fun _ => keeps_bind spelled fun _ => keeps_pure _
  have real (text : Directive → Numeral.Number → List Char) : Keeps (do
      let x ← numberArgument position
      return text (← directive conversion modifiers) x) :=
    keeps_bind (keeps_numberArgument _) fun _ => keeps_bind spelled fun _ => keeps_pure _
  unfold formatted
  dsimp only
  split
  · exact integral _
  · exact integral _
  · exact integral _
  · exact integral _
  · exact integral _
  · exact integral _
  · exact keeps_bind spelled fun _ => keeps_bind (keeps_integerArgument _) fun _ => keeps_pure _
  · exact real _
  · exact real _
  · exact real _
  · exact real _
  · exact real _
  · refine keeps_bind (keeps_argument _) fun _ => keeps_bind (keeps_textOf _ _) fun _ => ?_
    exact keeps_ite (keeps_formattedText _ _ _ _)
      (keeps_bind spelled fun _ => keeps_formattedText _ _ _ _)
  · exact keeps_bind spelled fun _ => keeps_pure _

theorem keeps_formatFrom (fuel position : Nat) (written cs : List Char) :
    Keeps (formatFrom fuel position written cs) := by
  induction fuel, position, written, cs using formatFrom.induct with
  | case1 => exact keeps_pure _
  | case2 => exact keeps_pure _
  | case3 fuel position written rest ih =>
    rw [formatFrom]
    exact ih
  | case4 fuel position written rest single next ih =>
    rw [formatFrom]
    · refine keeps_bind (keeps_argument? _) fun _ => ?_
      extract_lets modifiers found long
      have kept (u : Unit) : (found u).Keeps := by
        unfold found
        split
        · exact keeps_refuse _
        · exact keeps_bind (keeps_formatted _ _ _ _ _) fun text => ih _ text
      have short (u : Unit) : (long u).Keeps :=
        keeps_ite (keeps_bind (keeps_refuse _) kept) (kept ())
      exact keeps_ite (keeps_bind (keeps_refuseArgument _ _) short) (short ())
    · exact single
  | case5 fuel position written c rest _ plain ih =>
    rw [formatFrom]
    · exact ih
    · assumption
    · exact plain

theorem keeps_formatRest (position : Nat) (written rest : List Char) :
    Keeps (formatRest position written rest) :=
  keeps_bind (keeps_formatFrom _ _ _ _) fun _ => keeps_pure _

theorem keeps_format : Keeps format :=
  keeps_bind (keeps_bytesArgument 1) fun _ => keeps_formatRest _ _ _

theorem keeps_getMetatable : Keeps getMetatable := by
  refine keeps_bind (keeps_anyArgument 1) fun _ => keeps_bind keeps_get fun _ => ?_
  split
  · exact keeps_pure _
  · exact keeps_pure _
  · exact keeps_pure _
  · exact keeps_pure _

theorem keeps_rawGet : Keeps rawGet := by
  refine keeps_bind (keeps_tableArgument 1) fun _ => keeps_bind (keeps_anyArgument 2) fun _ => ?_
  refine keeps_bind (keeps_modify fun heap => Heap.Keeps.noteReading _ _ _ heap) fun _ => ?_
  exact keeps_bind keeps_get fun _ => keeps_pure _

/-- The length is sought in a table as it is, and only the hint for the next search changes. -/
theorem keeps_rawLength : Keeps rawLength := by
  refine keeps_bind (keeps_argument? 1) fun value => ?_
  split
  · intro setting heap
    exact Heap.Keeps.modifyTable heap (fun _ => rfl) fun _ => rfl
  · exact keeps_pure _
  · exact keeps_refuseType _ _

theorem keeps_absolute : Keeps absolute := by
  refine keeps_bind (keeps_argument? 1) fun _ => ?_
  split
  · exact keeps_pure _
  · exact keeps_bind (keeps_numberArgument 1) fun _ => keeps_pure _

theorem keeps_computeText (event : Event)
    (compute : Numeral.Number → Numeral.Number → Except NumberFault Numeral.Number) :
    Keeps (computeText event compute) := by
  refine keeps_bind (keeps_argument 1) fun _ => keeps_bind (keeps_argument 2) fun _ => ?_
  split
  · split
    · exact keeps_pure _
    · exact keeps_raise _
  · refine keeps_bind keeps_get fun _ => ?_
    dsimp only
    split
    · exact keeps_refuse _
    · exact keeps_throw _

theorem keeps_printFrom (values : List Value) : Keeps (printFrom values) := by
  induction values with
  | nil => exact keeps_pure _
  | cons value rest ih => exact keeps_bind (keeps_textOf _ _) fun _ => ih

/-- Only storing without regard to metatables, and changing them, is left out. -/
theorem keeps_perform (f : LibraryFunction) (store : f ≠ .rawset) (change : f ≠ .setmetatable) :
    Keeps (perform f) := by
  cases f with
  | assert => exact keeps_assert
  | error =>
    exact keeps_bind (keeps_optionalInteger 2 1) fun _ => keeps_bind (keeps_argument 1) fun _ =>
      keeps_raiseAt _ _
  | getmetatable => exact keeps_getMetatable
  | mathAbs => exact keeps_absolute
  | mathType =>
    refine keeps_bind (keeps_anyArgument 1) fun _ => ?_
    split
    · exact keeps_pure _
    · exact keeps_pure _
    · exact keeps_pure _
  | pcall =>
    refine keeps_bind (keeps_anyArgument 1) fun _ => ?_
    exact keeps_bind keeps_arguments fun _ => keeps_throw _
  | print => exact keeps_bind keeps_arguments fun _ => keeps_printFrom _
  | rawequal =>
    exact keeps_bind (keeps_anyArgument 1) fun _ => keeps_bind (keeps_anyArgument 2) fun _ =>
      keeps_pure _
  | rawget => exact keeps_rawGet
  | rawlen => exact keeps_rawLength
  | rawset => exact absurd rfl store
  | select => exact keeps_select
  | setmetatable => exact absurd rfl change
  | stringFormat => exact keeps_format
  | stringRep => exact keeps_repeatBytes
  | stringArithmetic op => exact keeps_computeText _ _
  | stringNegate => exact keeps_computeText _ _
  | coroutineCreate =>
    refine keeps_bind (keeps_argument? 1) fun _ => ?_
    split
    · intro setting heap
      exact Heap.Keeps.addThread heap
    · exact keeps_refuseType _ _
  | tostring =>
    exact keeps_bind (keeps_anyArgument 1) fun _ => keeps_bind (keeps_textOf _ _) fun _ =>
      keeps_pure _
  | type => exact keeps_bind (keeps_anyArgument 1) fun _ => keeps_pure _

theorem keeps_resume (results : List Value) (next : Continuation) :
    Keeps (resume results next) := by
  cases next with
  | none => exact keeps_pure _
  | protect => exact keeps_pure _
  | first => exact keeps_pure _
  | unwind value => exact keeps_raise _
  | text => exact keeps_bind (keeps_returnedText _) fun _ => keeps_pure _
  | print rest => exact keeps_bind (keeps_returnedText _) fun _ => keeps_printFrom _
  | format d written rest position =>
    refine keeps_bind (keeps_returnedText _) fun _ => ?_
    exact keeps_bind (keeps_formattedText _ _ _ _) fun _ =>
      keeps_formatRest _ _ _

theorem keeps_guardedTable : Keeps guardedTable := by
  refine keeps_bind (keeps_argument 1) fun _ => ?_
  split
  · exact keeps_pure _
  · exact keeps_fail _

theorem keeps_readComponent : Keeps readComponent := by
  refine keeps_bind keeps_guardedTable fun _ => keeps_bind (keeps_argument 2) fun _ => ?_
  exact keeps_ite (keeps_bind keeps_get fun _ => keeps_pure _) (keeps_pure _)

/-! ### What stores -/

/-- What is stored under a value, if that is a key. -/
def storesUnder (ref : Nat) (key value : Value) : List Store :=
  match Key.ofValue key with
  | .ok key => [⟨ref, key, value⟩]
  | .error _ => []

/-- What storing without regard to metatables does with its arguments. -/
def rawStores (arguments : List Value) : List Store :=
  match (arguments[0]? : Option Value), (arguments[1]? : Option Value),
    (arguments[2]? : Option Value) with
  | some (.table ref), some key, some value => storesUnder ref key value
  | _, _, _ => []

/-- A refused argument is an error, and nothing else happens. -/
theorem perform_refuseArgument {α : Type} (position : Nat) (reason : String) (setting : Setting)
    (heap : Heap) : ∃ message, (refuseArgument position reason : Native α).perform setting heap =
      (.error (.raise (.ofText (Frame.placed (.native setting.call :: setting.callers) 1 message))),
        heap) := by
  unfold refuseArgument
  have known : (read : Native Setting).perform setting heap = (.ok setting, heap) := rfl
  rw [perform_bind, known]
  dsimp only
  split
  · split
    · exact ⟨_, rfl⟩
    · exact ⟨_, rfl⟩
  · exact ⟨_, rfl⟩
  · exact ⟨_, rfl⟩

theorem perform_refuseType {α : Type} (position : Nat) (expected : String) (setting : Setting)
    (heap : Heap) : ∃ message, (refuseType position expected : Native α).perform setting heap =
      (.error (.raise (.ofText (Frame.placed (.native setting.call :: setting.callers) 1 message))),
        heap) := by
  unfold refuseType
  rw [perform_bind, perform_get]
  dsimp only
  rw [perform_bind, perform_argument?]
  exact perform_refuseArgument _ _ setting heap

theorem tableArgument_cases (position : Nat) (setting : Setting) (heap : Heap) :
    (∃ ref, setting.call.arguments[position - 1]? = some (.table ref) ∧
      (tableArgument position).perform setting heap = (.ok ref, heap)) ∨
    (∀ ref, setting.call.arguments[position - 1]? ≠ some (.table ref)) ∧
      ∃ departure, (tableArgument position).perform setting heap = (.error departure, heap) := by
  unfold tableArgument
  rw [perform_bind, perform_argument?]
  dsimp only
  split
  · rename_i ref same
    exact .inl ⟨ref, same, rfl⟩
  · rename_i other
    obtain ⟨message, refused⟩ := perform_refuseType position "table" setting heap
    exact .inr ⟨fun ref same => other ref same, _, refused⟩

theorem anyArgument_cases (position : Nat) (setting : Setting) (heap : Heap) :
    (∃ value, setting.call.arguments[position - 1]? = some value ∧
      (anyArgument position).perform setting heap = (.ok value, heap)) ∨
    setting.call.arguments[position - 1]? = none ∧
      ∃ departure, (anyArgument position).perform setting heap = (.error departure, heap) := by
  unfold anyArgument
  rw [perform_bind, perform_argument?]
  dsimp only
  split
  · rename_i value same
    exact .inl ⟨value, same, rfl⟩
  · rename_i missing
    obtain ⟨message, refused⟩ := perform_refuseArgument position "value expected" setting heap
    exact .inr ⟨missing, _, refused⟩

theorem keeps_rawSet (setting : Setting) (heap : Heap) :
    (heap.performAll (rawStores setting.call.arguments)).Keeps (rawSet.perform setting heap).2 := by
  unfold rawSet rawStores
  rw [perform_bind]
  rcases tableArgument_cases 1 setting heap with ⟨ref, first, done⟩ | ⟨other, _, failed⟩
  · rw [done, first]
    dsimp only
    rw [perform_bind]
    rcases anyArgument_cases 2 setting heap with ⟨key, second, done⟩ | ⟨missing, _, failed⟩
    · rw [done, second]
      dsimp only
      rw [perform_bind]
      rcases anyArgument_cases 3 setting heap with ⟨value, third, done⟩ | ⟨missing, _, failed⟩
      · rw [done, third]
        unfold storesUnder
        dsimp only
        cases Key.ofValue key <;> exact .refl _
      · rw [failed, missing]
        exact .refl heap
    · rw [failed, missing]
      exact .refl heap
  · have nothing : (match (setting.call.arguments[0]? : Option Value),
        (setting.call.arguments[1]? : Option Value),
        (setting.call.arguments[2]? : Option Value) with
        | some (.table ref), some key, some value => storesUnder ref key value
        | _, _, _ => []) = [] := by
      split
      · rename_i ref _ _ same _ _
        exact absurd same (other ref)
      · rfl
    rw [failed, nothing]
    exact .refl heap

/-- What assigning to an absent global stores. Failures come back as others. -/
def guardStores (heap : Heap) (arguments : List Value) : List Store :=
  match arguments[0]?.getD .nil with
  | .table ref =>
    if isComponentKey (arguments[1]?.getD .nil) then []
    else
      let (heap, key) := heap.renew (arguments[1]?.getD .nil)
      storesUnder ref key (heap.renew (arguments[2]?.getD .nil)).2
  | _ => []

theorem perform_guardedTable {setting : Setting} {ref : Nat} (heap : Heap)
    (given : setting.call.arguments[0]?.getD .nil = .table ref) :
    guardedTable.perform setting heap = (.ok ref, heap) := by
  unfold guardedTable
  rw [perform_bind, perform_argument]
  dsimp only
  rw [given]
  rfl

/-- An absent global is nil, apart from the one that holds the device's id. -/
theorem perform_readComponent {setting : Setting} {ref : Nat} {index : Value} (heap : Heap)
    (first : setting.call.arguments[0]?.getD .nil = .table ref)
    (second : setting.call.arguments[1]?.getD .nil = index) :
    readComponent.perform setting heap =
      (.ok [if isComponentKey index then .ofText heap.component else .nil], heap) := by
  unfold readComponent
  rw [perform_bind, perform_guardedTable heap first]
  dsimp only
  rw [perform_bind, perform_argument]
  dsimp only
  rw [second]
  split <;> rfl

theorem perform_writeComponent {setting : Setting} {ref : Nat} {index value : Value} (heap : Heap)
    (first : setting.call.arguments[0]?.getD .nil = .table ref)
    (second : setting.call.arguments[1]?.getD .nil = index)
    (third : setting.call.arguments[2]?.getD .nil = value) :
    writeComponent.perform setting heap =
      if isComponentKey index then
        (fail ("runtime error: " ++ componentName ++ " is read-only")).perform setting heap
      else
        let (heap, index) := heap.renew index
        let (heap, value) := heap.renew value
        match Key.ofValue index with
        | .ok key => (.ok [], heap.setRaw ref key value)
        | .error fault => (fail ("runtime error: " ++ fault.message)).perform setting heap := by
  unfold writeComponent
  rw [perform_bind, perform_guardedTable heap first]
  dsimp only
  rw [perform_bind, perform_argument]
  dsimp only
  rw [second]
  split
  · rw [perform_bind]
    rfl
  · rw [perform_bind, perform_get]
    dsimp only
    rw [perform_bind, perform_argument]
    dsimp only
    rw [third, perform_bind, perform_set]
    dsimp only
    cases Key.ofValue (heap.renew index).2 with
    | error fault => rfl
    | ok key => rfl

theorem keeps_writeComponent (setting : Setting) (heap : Heap) :
    (heap.performAll (guardStores heap setting.call.arguments)).Keeps
      (writeComponent.perform setting heap).2 := by
  unfold guardStores
  split
  · rename_i ref given
    rw [perform_writeComponent heap given rfl rfl]
    split
    · exact Heap.Keeps.addFailure heap _
    · have renewed := (Heap.Keeps.renew heap (setting.call.arguments[1]?.getD .nil)).trans
        (Heap.Keeps.renew _ (setting.call.arguments[2]?.getD .nil))
      unfold storesUnder
      dsimp only
      cases Key.ofValue (heap.renew (setting.call.arguments[1]?.getD .nil)).2 with
      | ok key => exact renewed.perform _
      | error fault => exact renewed.trans (Heap.Keeps.addFailure _ _)
  · rename_i other
    have refused : ∃ cause, guardedTable.perform setting heap =
        (fail cause : Native Nat).perform setting heap := by
      unfold guardedTable
      rw [perform_bind, perform_argument]
      dsimp only
      split
      · rename_i ref same
        exact absurd same (other ref)
      · exact ⟨_, rfl⟩
    obtain ⟨cause, failed⟩ := refused
    unfold writeComponent
    rw [perform_bind, failed, perform_fail]
    exact Heap.Keeps.addFailure heap _

/-- Only a table's own metatable is changed. -/
theorem keeps_setMetatable (setting : Setting) (heap : Heap)
    (other : setting.call.arguments[0]? ≠ some (.table Heap.globalsRef)) :
    heap.Keeps (setMetatable.perform setting heap).2 := by
  unfold setMetatable
  rw [perform_bind, perform_argument?]
  dsimp only
  rw [perform_bind]
  rcases tableArgument_cases 1 setting heap with ⟨ref, first, done⟩ | ⟨_, _, failed⟩
  · rw [done]
    have elsewhere : ref ≠ Heap.globalsRef := by
      rintro rfl
      exact other first
    have changed : ∀ metatable : Option Nat, Keeps (do
        if ((← get).metafield (.table ref) "metatable").isNil then
          modify fun heap => (heap.modifyTable ref fun t => { t with metatable }).mark ref
          return [.table ref]
        else refuse "cannot change a protected metatable" : Native (List Value)) := by
      intro metatable
      refine keeps_bind keeps_get fun _ => keeps_ite ?_ (keeps_refuse _)
      refine keeps_bind ?_ fun _ => keeps_pure _
      refine keeps_modify fun heap => Heap.Keeps.trans ?_ (Heap.Keeps.mark _ ref)
      exact Heap.Keeps.modifyTable heap (fun _ => rfl) fun same => absurd same elsewhere
    dsimp only
    split
    · exact keeps_bind (keeps_pure _) changed setting heap
    · exact keeps_bind (keeps_pure _) changed setting heap
    · exact keeps_bind (keeps_refuseType _ _) changed setting heap
  · rw [failed]
    exact .refl heap

end Library

end StationScript.Lua
