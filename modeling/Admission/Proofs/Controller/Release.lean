import Admission.Proofs.Controller.Submission

/-!
# What dropping a ticket does

`Release` lists how the drop of a ticket can end: its requisition was gone already, it was
pending and is merely taken off the ledger, or it held space, which is handed to the rest of
the queue unless the store refuses the scan.
-/

namespace Admission

/-- The ways in which a ticket can be dropped, each with the controller it leaves. -/
inductive Release {σ : Type} [Store σ] (ticket : Ticket) (controller : Controller σ) :
    Controller σ → Prop where
  | absent :
      controller.ledger.find? ticket.direction ticket.slot = none →
      Release ticket controller controller
  | pending {requisition : Requisition} :
      controller.ledger.find? ticket.direction ticket.slot = some requisition →
      requisition.serviced = false →
      Release ticket controller (controller.shredded ticket.direction ticket.slot)
  | unanswered {requisition : Requisition} {error : StoreError} {medium : Medium} :
      controller.ledger.find? ticket.direction ticket.slot = some requisition →
      requisition.serviced = true →
      (Store.capacity controller.store ticket.direction medium = .error (.refused error) ∨
        Store.occupancy controller.store ticket.direction medium = .error (.refused error)) →
      Release ticket controller
        ((controller.shredded ticket.direction ticket.slot).record
          [.note (.rescanFailed ticket.direction ticket.slot (.store error))])
  | rescanned {requisition : Requisition} {share : Share} :
      controller.ledger.find? ticket.direction ticket.slot = some requisition →
      requisition.serviced = true →
      Budget.Offers controller.store ticket.direction share →
      Release ticket controller
        ((controller.shredded ticket.direction ticket.slot).scanned ticket.direction share)

namespace Action

variable {σ : Type} [Store σ] {ticket : Ticket} {controller final : Controller σ}

theorem dropTicket_run (ticket : Ticket) (controller : Controller σ) :
    dropTicket ticket controller =
      match controller.ledger.find? ticket.direction ticket.slot with
      | none => .ok ⟨⟩ controller
      | some requisition =>
        if requisition.serviced then
          match scan ticket.direction (controller.shredded ticket.direction ticket.slot) with
          | .ok _ final => .ok ⟨⟩ final
          | .error (.overflow kind) final => .error (.overflow kind) final
          | .error (.refused refusal) final =>
            .ok ⟨⟩ (final.record
              [.note (.rescanFailed ticket.direction ticket.slot refusal)])
        else .ok ⟨⟩ (controller.shredded ticket.direction ticket.slot) := by
  simp only [dropTicket, bind_run, shred_run]
  cases controller.ledger.find? ticket.direction ticket.slot with
  | none => rfl
  | some requisition =>
      cases held : requisition.serviced with
      | false => simp [held]
      | true =>
          simp only [held, if_true, bind_run, attempt]
          cases scan ticket.direction (controller.shredded ticket.direction ticket.slot) with
          | ok serviced between => rfl
          | error failure between => cases failure <;> rfl

/-- The drop of a ticket is not refused, even if the scan after it is. -/
theorem dropTicket_ne_refused {refusal : Refusal} :
    dropTicket ticket controller ≠ .error (.refused refusal) final := by
  rw [dropTicket_run]
  split
  · simp
  · split
    · split <;> simp
    · simp

/-- A ticket is dropped in one of the ways of `Release`, unless an overflow stops it. -/
theorem release_of_attempt {outcome : Except Refusal Unit}
    (ended : attempt (dropTicket ticket) controller = .ok outcome final) :
    Release ticket controller final := by
  rw [attempt, dropTicket_run] at ended
  cases found : controller.ledger.find? ticket.direction ticket.slot with
  | none =>
      simp only [found, EStateM.Result.ok.injEq] at ended
      exact ended.2 ▸ .absent found
  | some requisition =>
      cases held : requisition.serviced with
      | false =>
          simp only [found, held, Bool.false_eq_true, if_false,
            EStateM.Result.ok.injEq] at ended
          exact ended.2 ▸ .pending found held
      | true =>
          simp only [found, held, if_true] at ended
          cases scans : scan ticket.direction
              (controller.shredded ticket.direction ticket.slot) with
          | ok serviced between =>
              obtain ⟨share, offers, rfl, -⟩ := scan_eq_ok scans
              simp only [scans, EStateM.Result.ok.injEq] at ended
              exact ended.2 ▸ .rescanned found held offers
          | error failure between =>
              cases failure with
              | overflow kind =>
                  simp only [scans, reduceCtorEq] at ended
              | refused refusal =>
                  obtain ⟨rfl, error, medium, rfl, stopped⟩ := scan_eq_refused scans
                  simp only [scans, EStateM.Result.ok.injEq] at ended
                  exact ended.2 ▸ .unanswered found held stopped

/-- The scan for the rest of the queue finishes if the drop of a serviced ticket does. -/
theorem scan_finishes_of_dropTicket {requisition : Requisition}
    (found : controller.ledger.find? ticket.direction ticket.slot = some requisition)
    (serviced : requisition.serviced = true) (finishes : (dropTicket ticket).Finishes controller) :
    (scan ticket.direction).Finishes (controller.shredded ticket.direction ticket.slot) := by
  intro kind stopped overflows
  refine finishes kind stopped ?_
  rw [dropTicket_run]
  simp only [found, serviced, if_true, overflows]

/-- A scan is done with some share, or refused without a change, unless an overflow stops it. -/
theorem rescan_of_attempt {direction : Direction} {outcome : Except Refusal Nat}
    (ended : attempt (scan direction) controller = .ok outcome final) :
    (∃ share, Budget.Offers controller.store direction share ∧
      final = controller.scanned direction share) ∨
    final = controller ∧ ∃ error medium,
      Store.capacity controller.store direction medium = .error (.refused error) ∨
        Store.occupancy controller.store direction medium = .error (.refused error) := by
  rcases attempt_eq_ok_iff.mp ended with ⟨serviced, -, done⟩ | ⟨refusal, -, refused⟩
  · obtain ⟨share, offers, rfl, -⟩ := scan_eq_ok done
    exact Or.inl ⟨share, offers, rfl⟩
  · obtain ⟨rfl, error, medium, -, stopped⟩ := scan_eq_refused refused
    exact Or.inr ⟨rfl, error, medium, stopped⟩

end Action

end Admission
