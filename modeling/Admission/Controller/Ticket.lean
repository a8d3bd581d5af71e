import Admission.Controller.Request

/-!
# Tickets

The holder of a ticket waits until the requisition is serviced or the attendant is ended,
of which the end is noticed first.  A wait that finds neither parks in taking the signal of
its attendant; when it goes on it finishes that first, and only then looks at the
requisition again.

A ticket that is dropped takes its requisition off the ledger, and if that held space, the
rest of the queue is scanned.
-/

namespace Admission

/-- How a wait ended. -/
inductive WaitOutcome where
  | serviced
  /-- The attendant was ended before or during the wait. -/
  | cancelled
  deriving DecidableEq, Repr

namespace Action

variable {σ : Type}

/-- Takes the signal of an attendant, if it was given. -/
def takeSignal (attendant : AttendantId) : Action σ Taking :=
  modifyGet fun controller =>
    let (taking, attendants) := controller.attendants.take attendant
    (taking, { controller with attendants := attendants })

/-- Whether an attendant is there and ended. -/
def isEnded (attendant : Option AttendantId) : Action σ Bool := do
  let attendants := (← get).attendants
  return attendant.any attendants.isEnded

/-- Whether the requisition of a ticket is serviced. -/
def isServiced (ticket : Ticket) : Action σ Bool := do
  return (← get).ledger.isServiced ticket.direction ticket.slot

/-- How a wait ends that need not be parked. -/
def checkWait (ticket : Ticket) : Action σ (Option WaitOutcome) := do
  if ← isEnded ticket.attendant then return some .cancelled
  if ← isServiced ticket then
    signal ticket.attendant Attendants.reset
    return some .serviced
  if ticket.attendant.isNone then return some .cancelled
  return none

/-- Goes on with a parked wait.  One that has taken a signal in vain parks again, because
there is no second signal. -/
def resumeWait (ticket : Ticket) : Action σ (Progress Ticket WaitOutcome) := do
  match ticket.attendant with
  | none => return .finished .cancelled
  | some attendant =>
    match ← takeSignal attendant with
    | .ended => return .finished .cancelled
    | .parked => return .parked ticket
    | .taken =>
      note (.woken ticket.direction ticket.slot)
      match ← checkWait ticket with
      | some outcome => return .finished outcome
      | none => return .parked ticket

/-- Waits until the requisition is serviced or the attendant is ended. -/
def wait (ticket : Ticket) : Action σ (Progress Ticket WaitOutcome) := do
  match ← checkWait ticket with
  | some outcome => return .finished outcome
  | none => resumeWait ticket

/-- Drops a ticket. -/
def dropTicket [Store σ] (ticket : Ticket) : Action σ Unit := do
  if ← shred ticket.direction ticket.slot then
    match ← attempt (scan ticket.direction) with
    | .ok _ => return ()
    | .error refusal => note (.rescanFailed ticket.direction ticket.slot refusal)

end Action

end Admission
