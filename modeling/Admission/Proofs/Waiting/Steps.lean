import Admission.Proofs.Controller.Waiting
import Mathlib.Logic.Relation

/-!
# A wait step by step

A wait looks at the flags of its attendant and at the ledger, one after the other, and others act
in between.  `Waiter` is a wait with the controller that it shares with them, and `WaitStage` is
how far it has come.  In `taking` and `parked` it is registered with its attendant, and is told
when it is called; a parked wait goes on only once it was called.

Undisturbed steps are what a wait does at once: `wait_steps` for a wait that begins, and
`resumeWait_steps` for one that is called while it is parked.
-/

namespace Admission

/-! ## Flags -/

theorem Signal.eq_clear_iff (signal : Signal) :
    signal = .clear ↔ signal.given = false ∧ signal.ended = false := by
  obtain ⟨given, ended⟩ := signal
  rw [clear, mk.injEq]

namespace Attendants

variable {attendants : Attendants} {id other : AttendantId}

theorem get_modify_self (made : id.place < attendants.signals.length) (change : Signal → Signal) :
    (attendants.modify id change).get id = change (attendants.get id) := by
  simp [get, modify, made]

theorem get_modify_of_ne (different : other ≠ id) (change : Signal → Signal) :
    (attendants.modify id change).get other = attendants.get other := by
  have places : id.place ≠ other.place := by
    obtain ⟨place⟩ := id
    rintro rfl
    exact different rfl
  simp [get, modify, places]

@[simp] theorem length_modify (attendants : Attendants) (id : AttendantId)
    (change : Signal → Signal) :
    (attendants.modify id change).signals.length = attendants.signals.length := by
  simp [modify]

/-- After a reset there is no signal, whether or not the attendant was made. -/
theorem get_reset_self (attendants : Attendants) (id : AttendantId) :
    (attendants.reset id).get id = { attendants.get id with given := false } := by
  by_cases made : id.place < attendants.signals.length
  · exact get_modify_self made _
  · simp [reset, get, modify, made, Signal.clear]

/-- A signal is taken in vain if there is no second one. -/
theorem take_reset_of_taken (taken : (attendants.take id).1 = .taken) :
    (attendants.reset id).take id = (.parked, attendants.reset id) := by
  have notEnded : (attendants.get id).ended = false := by
    cases isOver : (attendants.get id).ended with
    | false => rfl
    | true => simp [take, isOver] at taken
  simp [take, get_reset_self, notEnded]

end Attendants

/-! ## Stages -/

/-- How far a wait has come. -/
inductive WaitStage where
  /-- It looks next whether its attendant is ended. -/
  | looking
  /-- It asks next whether its requisition is serviced. -/
  | asking
  /-- Its requisition is serviced, and it discards the signal next. -/
  | serving
  /-- It registers next with its attendant. -/
  | entering
  /-- It takes the signal next, if there is one. -/
  | taking (called : Bool)
  /-- There was no signal. -/
  | parked (called : Bool)
  | completed (outcome : WaitOutcome)
  deriving DecidableEq

/-- Whoever is registered is called. -/
def WaitStage.call (called : Bool) : WaitStage → WaitStage
  | taking earlier => taking (earlier || called)
  | parked earlier => parked (earlier || called)
  | stage => stage

/-- How far a wait is that was carried out at once. -/
def WaitStage.ofProgress : Progress Ticket WaitOutcome → WaitStage
  | .finished outcome => completed outcome
  | .parked _ => parked false

/-- A wait, and the controller that it shares with others. -/
structure Waiter (σ : Type) where
  controller : Controller σ
  ticket : Ticket
  stage : WaitStage

namespace Waiter

variable {σ : Type}

/-- A wait that begins. -/
def begin (controller : Controller σ) (ticket : Ticket) : Waiter σ := ⟨controller, ticket, .looking⟩

/-- The wait at another stage. -/
def goTo (waiter : Waiter σ) (stage : WaitStage) : Waiter σ := { waiter with stage := stage }

/-- Whether the requisition is serviced. -/
def isServiced (waiter : Waiter σ) : Bool :=
  waiter.controller.ledger.isServiced waiter.ticket.direction waiter.ticket.slot

/-- The next step of the wait itself, if it can go on. -/
def step (waiter : Waiter σ) : Option (Waiter σ) :=
  match waiter.stage with
  | .looking =>
    if waiter.ticket.attendant.any waiter.controller.attendants.isEnded then
      some (waiter.goTo (.completed .cancelled))
    else some (waiter.goTo .asking)
  | .asking =>
    if waiter.isServiced then some (waiter.goTo .serving)
    else if waiter.ticket.attendant.isNone then some (waiter.goTo (.completed .cancelled))
    else some (waiter.goTo .entering)
  | .serving => some ⟨{ waiter.controller with
      attendants := Action.signaled waiter.controller.attendants Attendants.reset
        waiter.ticket.attendant }, waiter.ticket, .completed .serviced⟩
  | .entering => some (waiter.goTo (.taking false))
  | .taking called =>
    match waiter.ticket.attendant with
    | none => some (waiter.goTo (.completed .cancelled))
    | some attendant =>
      match waiter.controller.attendants.take attendant with
      | (.ended, _) => some (waiter.goTo (.completed .cancelled))
      | (.taken, attendants) => some ⟨{ waiter.controller with attendants := attendants }.record
          [.note (.woken waiter.ticket.direction waiter.ticket.slot)], waiter.ticket, .looking⟩
      | (.parked, _) => some (waiter.goTo (.parked called))
  | .parked true => some (waiter.goTo .entering)
  | .parked false | .completed _ => none

/-- Any number of steps of the wait, in which nobody else acts. -/
abbrev Steps : Waiter σ → Waiter σ → Prop :=
  Relation.ReflTransGen fun before after => before.step = some after

/-! ## Undisturbed steps -/

section Undisturbed

variable {ticket : Ticket} {controller : Controller σ}

/-- Looking and asking is the check of a wait. -/
theorem check_steps (ticket : Ticket) (controller : Controller σ) :
    (Action.checkWait ticket controller = .ok none controller ∧ ticket.attendant ≠ none ∧
      (begin controller ticket).Steps ⟨controller, ticket, .entering⟩) ∨
    ∃ outcome final, Action.checkWait ticket controller = .ok (some outcome) final ∧
      (begin controller ticket).Steps ⟨final, ticket, .completed outcome⟩ := by
  rw [Action.checkWait_run]
  by_cases isEnded : ticket.attendant.any controller.attendants.isEnded = true
  · rw [if_pos isEnded]
    refine Or.inr ⟨_, _, rfl, .single ?_⟩
    simp [step, begin, goTo, isEnded]
  · rw [if_neg isEnded]
    have looked : (begin controller ticket).Steps ⟨controller, ticket, .asking⟩ :=
      .single (by simp [step, begin, goTo, isEnded])
    by_cases serviced : controller.ledger.isServiced ticket.direction ticket.slot = true
    · rw [if_pos serviced]
      have found : (begin controller ticket).Steps ⟨controller, ticket, .serving⟩ :=
        looked.tail (by simp [step, goTo, isServiced, serviced])
      exact Or.inr ⟨_, _, rfl, found.tail rfl⟩
    · rw [if_neg serviced]
      cases isAttendant : ticket.attendant with
      | none =>
          refine Or.inr ⟨_, _, rfl, looked.tail ?_⟩
          simp [step, goTo, isServiced, serviced, isAttendant]
      | some attendant =>
          refine Or.inl ⟨rfl, by simp, looked.tail ?_⟩
          simp [step, goTo, isServiced, serviced, isAttendant]

/-- Entering and taking is the attempt of a wait to take a signal. -/
theorem take_steps (waits : ticket.attendant ≠ none) (controller : Controller σ) :
    ∃ progress final, Action.resumeWait ticket controller = .ok progress final ∧
      Steps ⟨controller, ticket, .entering⟩ ⟨final, ticket, .ofProgress progress⟩ := by
  obtain ⟨attendant, isAttendant⟩ := Option.ne_none_iff_exists'.mp waits
  have entered : Steps ⟨controller, ticket, .entering⟩ ⟨controller, ticket, .taking false⟩ :=
    .single rfl
  simp only [Action.resumeWait, isAttendant, Action.bind_run, Action.takeSignal_run]
  rcases controller.attendants.take_cases attendant with ⟨taken, -⟩ | taken | taken <;> rw [taken]
  · refine ⟨_, _, rfl, entered.tail ?_⟩
    simp [step, goTo, isAttendant, taken, WaitStage.ofProgress]
  · let woken := (controller.attended (controller.attendants.reset attendant) []).record
      [.note (.woken ticket.direction ticket.slot)]
    have looks : Steps ⟨controller, ticket, .entering⟩ (begin woken ticket) := by
      refine entered.tail ?_
      simp [step, isAttendant, taken, begin, woken, Controller.attended, Controller.record]
    simp only [Action.bind_run, Action.note_run]
    rcases check_steps ticket woken with
      ⟨checked, -, steps⟩ | ⟨outcome, final, checked, steps⟩
    · have nothing : woken.attendants.take attendant = (.parked, woken.attendants) :=
        Attendants.take_reset_of_taken (by rw [taken])
      rw [checked]
      refine ⟨_, _, rfl, ((looks.trans steps).tail rfl).tail ?_⟩
      simp [step, goTo, isAttendant, nothing, WaitStage.ofProgress]
    · rw [checked]
      exact ⟨_, _, rfl, looks.trans steps⟩
  · refine ⟨_, _, rfl, entered.tail ?_⟩
    simp [step, goTo, isAttendant, taken, WaitStage.ofProgress]

/-- Undisturbed, a wait that begins comes as far as it does at once. -/
theorem wait_steps (ticket : Ticket) (controller : Controller σ) :
    ∃ progress final, Action.wait ticket controller = .ok progress final ∧
      (begin controller ticket).Steps ⟨final, ticket, .ofProgress progress⟩ := by
  unfold Action.wait
  rcases check_steps ticket controller with
    ⟨checked, waits, steps⟩ | ⟨outcome, final, checked, steps⟩
  · obtain ⟨progress, final, resumed, more⟩ := take_steps waits controller
    exact ⟨progress, final, by rw [Action.bind_run, checked]; exact resumed, steps.trans more⟩
  · exact ⟨.finished outcome, final, by rw [Action.bind_run, checked]; rfl, steps⟩

/-- Undisturbed, a wait that is called while it is parked comes as far as it does at once. -/
theorem resumeWait_steps (waits : ticket.attendant ≠ none) (controller : Controller σ) :
    ∃ progress final, Action.resumeWait ticket controller = .ok progress final ∧
      Steps ⟨controller, ticket, .parked true⟩ ⟨final, ticket, .ofProgress progress⟩ := by
  obtain ⟨progress, final, resumed, steps⟩ := take_steps waits controller
  exact ⟨progress, final, resumed, .head rfl steps⟩

end Undisturbed

end Waiter

end Admission
