import Admission.Proofs.Controller.Running

/-!
# Waits

A wait changes the flags of attendants and writes notes, and nothing else.  `Waited` says what
its outcome tells about the requisition: it is serviced, or its requester need not wait any
longer, or the wait is parked.  `wait_waited` and `resumeWait_waited` show that a wait always
comes to an outcome and that this is what it tells.
-/

namespace Admission

variable {σ : Type}

/-- The controller with other flags of its attendants and more notes. -/
def Controller.attended (controller : Controller σ) (attendants : Attendants)
    (remarks : List Note) : Controller σ :=
  { controller with attendants := attendants }.record (remarks.map .note)

namespace Controller

theorem record_nil (controller : Controller σ) : controller.record [] = controller := by
  simp [record]

theorem record_record (controller : Controller σ) (earlier later : List Entry) :
    (controller.record earlier).record later = controller.record (earlier ++ later) := by
  simp [record]

@[simp] theorem attended_self (controller : Controller σ) :
    controller.attended controller.attendants [] = controller := by
  simp [attended, record]

theorem attended_record (controller : Controller σ) (attendants : Attendants)
    (remarks : List Note) (remark : Note) :
    (controller.attended attendants remarks).record [.note remark] =
      controller.attended attendants (remarks ++ [remark]) := by
  simp [attended, record]

theorem attended_attended (controller : Controller σ) (earlier later : Attendants)
    (remarks more : List Note) :
    (controller.attended earlier remarks).attended later more =
      controller.attended later (remarks ++ more) := by
  simp [attended, record]

end Controller

/-- What a wait has done to a controller, and what its outcome tells. -/
inductive Waited (ticket : Ticket) (controller : Controller σ) :
    Progress Ticket WaitOutcome → Controller σ → Prop where
  | serviced (attendants : Attendants) (remarks : List Note) :
      controller.ledger.isServiced ticket.direction ticket.slot = true →
      Waited ticket controller (.finished .serviced) (controller.attended attendants remarks)
  | cancelled (attendants : Attendants) (remarks : List Note) :
      (ticket.attendant.any attendants.isEnded = true ∨ ticket.attendant = none ∧
        controller.ledger.isServiced ticket.direction ticket.slot = false) →
      Waited ticket controller (.finished .cancelled) (controller.attended attendants remarks)
  | parked (attendants : Attendants) (remarks : List Note) :
      ticket.attendant ≠ none →
      Waited ticket controller (.parked ticket) (controller.attended attendants remarks)

/-- What an earlier part of a wait has done belongs to the wait. -/
theorem Waited.after {ticket : Ticket} {controller final : Controller σ}
    {progress : Progress Ticket WaitOutcome} {attendants : Attendants} {remarks : List Note}
    (waited : Waited ticket (controller.attended attendants remarks) progress final) :
    Waited ticket controller progress final := by
  cases waited with
  | serviced later more isServiced =>
      rw [Controller.attended_attended]
      exact .serviced _ _ isServiced
  | cancelled later more isOver =>
      rw [Controller.attended_attended]
      exact .cancelled _ _ isOver
  | parked later more waits =>
      rw [Controller.attended_attended]
      exact .parked _ _ waits

/-- A signal is taken, or the attendant is ended, or there is no signal yet. -/
theorem Attendants.take_cases (attendants : Attendants) (id : AttendantId) :
    (attendants.take id = (.ended, attendants) ∧ attendants.isEnded id = true) ∨
      attendants.take id = (.taken, attendants.reset id) ∨
      attendants.take id = (.parked, attendants) := by
  cases isOver : (attendants.get id).ended with
  | true => exact Or.inl ⟨by simp [take, isOver], isOver⟩
  | false =>
      cases isGiven : (attendants.get id).given with
      | true => exact Or.inr (Or.inl (by simp [take, isOver, isGiven]))
      | false => exact Or.inr (Or.inr (by simp [take, isOver, isGiven]))

namespace Action

theorem checkWait_run (ticket : Ticket) (controller : Controller σ) :
    checkWait ticket controller =
      if ticket.attendant.any controller.attendants.isEnded = true then
        .ok (some .cancelled) controller
      else if controller.ledger.isServiced ticket.direction ticket.slot = true then
        .ok (some .serviced) { controller with
          attendants := signaled controller.attendants Attendants.reset ticket.attendant }
      else if ticket.attendant.isNone = true then .ok (some .cancelled) controller
      else .ok none controller := by
  have ended : isEnded ticket.attendant controller =
      .ok (ticket.attendant.any controller.attendants.isEnded) controller := rfl
  have serviced : isServiced ticket controller =
      .ok (controller.ledger.isServiced ticket.direction ticket.slot) controller := rfl
  simp only [checkWait, bind_run, ended]
  split
  · rfl
  · simp only [bind_run, serviced]
    split
    · simp only [bind_run, signal_run, pure_run]
    · split <;> rfl

/-- A wait that need not be parked is over, and otherwise its requester has an attendant. -/
theorem checkWait_waited (ticket : Ticket) (controller : Controller σ) :
    (checkWait ticket controller = .ok none controller ∧ ticket.attendant ≠ none) ∨
      ∃ outcome final, checkWait ticket controller = .ok (some outcome) final ∧
        Waited ticket controller (.finished outcome) final := by
  rw [checkWait_run]
  split
  · next isOver =>
      have cancelled : Waited ticket controller _ _ := .cancelled _ [] (Or.inl isOver)
      rw [controller.attended_self] at cancelled
      exact Or.inr ⟨_, _, rfl, cancelled⟩
  · split
    · next isServiced =>
        have served : Waited ticket controller _ _ := .serviced
          (signaled controller.attendants Attendants.reset ticket.attendant) [] isServiced
        rw [Controller.attended, List.map_nil, Controller.record_nil] at served
        exact Or.inr ⟨_, _, rfl, served⟩
    · next isPending =>
        split
        · next alone =>
            have cancelled : Waited ticket controller _ _ := .cancelled controller.attendants []
              (Or.inr ⟨Option.isNone_iff_eq_none.mp alone, by simpa using isPending⟩)
            rw [controller.attended_self] at cancelled
            exact Or.inr ⟨_, _, rfl, cancelled⟩
        · next waits => exact Or.inl ⟨rfl, fun alone => waits (by rw [alone]; rfl)⟩

/-- A wait without an attendant is over at once if the requisition is serviced. -/
theorem wait_of_serviced {ticket : Ticket} {controller : Controller σ}
    (alone : ticket.attendant = none)
    (serviced : controller.ledger.isServiced ticket.direction ticket.slot = true) :
    wait ticket controller = .ok (.finished .serviced) controller := by
  have checked : checkWait ticket controller = .ok (some .serviced) controller := by
    rw [checkWait_run, alone, if_neg (by simp), if_pos serviced]
    rfl
  rw [wait, bind_run, checked]
  rfl

theorem takeSignal_run (attendant : AttendantId) (controller : Controller σ) :
    takeSignal attendant controller = .ok (controller.attendants.take attendant).1
      (controller.attended (controller.attendants.take attendant).2 []) := by
  rw [Controller.attended, List.map_nil, Controller.record_nil]
  rfl

/-- A wait on an attendant that is resumed comes to an outcome. -/
theorem resumeWait_waited {ticket : Ticket} (waits : ticket.attendant ≠ none)
    (controller : Controller σ) :
    ∃ progress final, resumeWait ticket controller = .ok progress final ∧
      Waited ticket controller progress final := by
  obtain ⟨attendant, isAttendant⟩ := Option.ne_none_iff_exists'.mp waits
  simp only [resumeWait, isAttendant, bind_run, takeSignal_run]
  rcases controller.attendants.take_cases attendant with
    ⟨taken, isEnded⟩ | taken | taken <;> rw [taken]
  · exact ⟨_, _, rfl, .cancelled _ _ (Or.inl (by rw [isAttendant]; exact isEnded))⟩
  · have known : (controller.attended (controller.attendants.reset attendant) []).record
        [.note (.woken ticket.direction ticket.slot)] =
        controller.attended (controller.attendants.reset attendant)
          [.woken ticket.direction ticket.slot] := Controller.attended_record _ _ _ _
    simp only [bind_run, note_run, known]
    rcases checkWait_waited ticket (controller.attended
        (controller.attendants.reset attendant) [.woken ticket.direction ticket.slot]) with
      ⟨checked, -⟩ | ⟨outcome, final, checked, waited⟩
    · rw [checked]
      exact ⟨_, _, rfl, .parked _ _ waits⟩
    · rw [checked]
      exact ⟨_, _, rfl, waited.after⟩
  · exact ⟨_, _, rfl, .parked _ _ waits⟩

/-- A wait comes to an outcome. -/
theorem wait_waited (ticket : Ticket) (controller : Controller σ) :
    ∃ progress final, wait ticket controller = .ok progress final ∧
      Waited ticket controller progress final := by
  unfold wait
  rcases checkWait_waited ticket controller with
    ⟨checked, waits⟩ | ⟨outcome, final, checked, waited⟩
  · rw [bind_run, checked]
    exact resumeWait_waited waits controller
  · exact ⟨.finished outcome, final, by rw [bind_run, checked]; rfl, waited⟩

/-- A wait that is resumed changes attendants only, also one without an attendant. -/
theorem resumeWait_attended (ticket : Ticket) (controller : Controller σ) :
    ∃ progress attendants remarks, resumeWait ticket controller =
      .ok progress (controller.attended attendants remarks) := by
  cases attendant : ticket.attendant with
  | none =>
      refine ⟨.finished .cancelled, controller.attendants, [], ?_⟩
      simp only [resumeWait, attendant, Controller.attended_self]
      rfl
  | some waiting =>
      have attended : ticket.attendant ≠ none := by simp [attendant]
      obtain ⟨progress, final, ran, waited⟩ := resumeWait_waited attended controller
      cases waited <;> exact ⟨_, _, _, ran⟩

theorem wait_attended (ticket : Ticket) (controller : Controller σ) :
    ∃ progress attendants remarks, wait ticket controller =
      .ok progress (controller.attended attendants remarks) := by
  obtain ⟨progress, final, ran, waited⟩ := wait_waited ticket controller
  cases waited <;> exact ⟨_, _, _, ran⟩

end Action

end Admission
