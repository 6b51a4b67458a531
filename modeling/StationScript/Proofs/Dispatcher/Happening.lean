import StationScript.Proofs.Dispatcher.History

/-!
What comes about in the life of a dispatcher: events, and changes of its surroundings that it takes
no part in. A course of such happenings tells which messages were handed over, in what order and
when.
-/

set_option autoImplicit false

namespace StationScript

/-- What there is besides what a dispatcher holds itself. -/
structure Surroundings where
  plant : Plant
  files : Files
  clock : Clock
  log : Log

/-- The host in other surroundings. -/
def Host.amid (host : Host) (now : Surroundings) : Host :=
  { host with plant := now.plant, files := now.files, clock := now.clock, log := now.log }

/-- What can come about: an event, or the surroundings are not what they were. -/
inductive Happening where
  | event (e : Event)
  | outside (now : Surroundings)

/-- A message that is handed to the dispatcher: the instant, its text, and the order in which a
refresh would go through the devices. -/
structure Handover where
  now : Nat
  text : String
  order : Listing

namespace Handover

def event (h : Handover) : Event := .logged h.now h.text h.order

/-- The message leads to a refresh. -/
def Refreshes {engine : Engine} (h : Handover) (d : Dispatcher engine) : Prop :=
  (d.onLogMessage h.now h.text h.order).2 = true

end Handover

/-- The message that is handed over, if the happening is such an event. -/
def Happening.handover? : Happening → Option Handover
  | .event (.logged now text order) => some ⟨now, text, order⟩
  | .event _ | .outside _ => none

theorem Happening.eq_of_handover? {happening : Happening} {h : Handover}
    (handed : happening.handover? = some h) : happening = .event h.event := by
  cases happening with
  | outside now => cases handed
  | event e => cases e <;> cases handed <;> rfl

namespace Dispatcher

variable {engine : Engine}

def undergo (d : Dispatcher engine) : Happening → Dispatcher engine
  | .event e => d.handle e
  | .outside now => d.modifyHost fun host => host.amid now

/-- Happenings in a row. -/
def undergoAll (d : Dispatcher engine) (course : List Happening) : Dispatcher engine :=
  course.foldl undergo d

/-- Messages in a row. -/
def hearAll (d : Dispatcher engine) (handovers : List Handover) : Dispatcher engine :=
  handovers.foldl (fun d h => d.handle h.event) d

section Courses

variable (d : Dispatcher engine)

@[simp] theorem undergoAll_nil : d.undergoAll [] = d := rfl

@[simp] theorem undergoAll_cons (h : Happening) (rest : List Happening) :
    d.undergoAll (h :: rest) = (d.undergo h).undergoAll rest := rfl

theorem undergoAll_append (front back : List Happening) :
    d.undergoAll (front ++ back) = (d.undergoAll front).undergoAll back :=
  List.foldl_append

@[simp] theorem hearAll_cons (h : Handover) (rest : List Handover) :
    d.hearAll (h :: rest) = (d.handle h.event).hearAll rest := rfl

theorem hearAll_append (front back : List Handover) :
    d.hearAll (front ++ back) = (d.hearAll front).hearAll back :=
  List.foldl_append

theorem undergoAll_handovers (handovers : List Handover) :
    d.undergoAll (handovers.map fun h => .event h.event) = d.hearAll handovers :=
  List.foldl_map

theorem filterMap_handovers (handovers : List Handover) :
    (handovers.map fun h => Happening.event h.event).filterMap Happening.handover? = handovers := by
  rw [List.filterMap_map]
  exact List.filterMap_some

/-- The prefix of the host's own messages never changes. -/
theorem logPrefix_undergoAll (course : List Happening) :
    (d.undergoAll course).host.logPrefix = d.host.logPrefix := by
  induction course generalizing d with
  | nil => rfl
  | cons h rest ih =>
    rw [undergoAll_cons, ih]
    cases h with
    | event e => exact (d.handle_advance e).host.logPrefix
    | outside now => rfl

end Courses

/-- From one dispatcher to the other things came about, but no message was handed over. -/
def Unheard (before after : Dispatcher engine) : Prop :=
  ∃ course, after = before.undergoAll course ∧ course.filterMap Happening.handover? = []

namespace Unheard

theorem refl (d : Dispatcher engine) : Unheard d d := ⟨[], rfl, rfl⟩

theorem trans {first second third : Dispatcher engine} (left : Unheard first second)
    (right : Unheard second third) : Unheard first third := by
  obtain ⟨front, rfl, early⟩ := left
  obtain ⟨back, rfl, late⟩ := right
  refine ⟨front ++ back, (first.undergoAll_append front back).symm, ?_⟩
  rw [List.filterMap_append, early, late]
  rfl

/-- An event that is not about a message. -/
theorem event (d : Dispatcher engine) {e : Event} (silent : (Happening.event e).handover? = none) :
    Unheard d (d.handle e) :=
  ⟨[.event e], rfl, List.filterMap_cons_none silent⟩

theorem outside (d : Dispatcher engine) (now : Surroundings) :
    Unheard d (d.modifyHost fun host => host.amid now) :=
  ⟨[.outside now], rfl, rfl⟩

theorem foldl {α : Type} {act : Dispatcher engine → α → Dispatcher engine}
    (each : ∀ d a, Unheard d (act d a)) (items : List α) (d : Dispatcher engine) :
    Unheard d (items.foldl act d) := by
  induction items generalizing d with
  | nil => exact .refl d
  | cons a rest ih => exact (each d a).trans (ih _)

end Unheard

end Dispatcher

end StationScript
