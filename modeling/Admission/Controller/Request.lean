import Admission.Controller.Scan

/-!
# Requests

A request is queued and scanned for at once.  Without an attendant it is answered at once
as well: granted or not serviceable, and either way nothing is left of it.  With an
attendant a request that does not fit stays queued, and its requester holds a ticket.
-/

namespace Admission

/-- What the requester of a queued requisition holds. -/
structure Ticket where
  direction : Direction
  slot : SlotId
  attendant : Option AttendantId
  deriving DecidableEq

/-- The answer to a request. -/
inductive Answer where
  /-- There was space, and the requisition is gone again. -/
  | granted
  /-- There was no space for a requester that does not wait. -/
  | notServiceable
  | queued (ticket : Ticket)
  deriving DecidableEq

namespace Action

variable {σ : Type}

/-- Takes a requisition off the ledger.  Tells whether it was there and serviced. -/
def shred (direction : Direction) (slot : SlotId) : Action σ Bool := do
  match (← get).ledger.find? direction slot with
  | none => return false
  | some requisition =>
    modify fun controller =>
      { controller with ledger := controller.ledger.remove direction slot }
    event direction slot .shredded
    return requisition.serviced

/-- Takes a slot for a request. -/
def takeSlot (direction : Direction) (needed : Space) (priority : Priority) :
    Action σ SlotId := do
  let pool := (← get).ledger.pool
  match pool.take with
  | none =>
    note (.noFreeSlot direction priority needed)
    refuse (.exhausted pool.limit)
  | some (slot, taken) =>
    modify fun controller => { controller with ledger := { controller.ledger with pool := taken } }
    note (.slotsInUse taken.inUse pool.limit)
    return slot

/-- Queues a requisition and tells the watcher. -/
def enqueue (direction : Direction) (requisition : Requisition) : Action σ Unit := do
  modify fun controller =>
    { controller with ledger := controller.ledger.enqueue direction requisition }
  event direction requisition.slot (.queued requisition.priority requisition.needed)

variable [Store σ]

/-- Scans for the requisition in a slot, which does not survive a refusal. -/
def scanFor (direction : Direction) (slot : SlotId) : Action σ Unit := do
  match ← attempt (scan direction) with
  | .ok _ => return ()
  | .error refusal =>
    note (.scanFailed direction refusal)
    discard (shred direction slot)
    refuse refusal

/-- Queues a requisition and scans.  With `hold` one that is serviced at once stays on the
ledger, so that its space remains reserved until its ticket is dropped. -/
def submit (direction : Direction) (needed : Space) (priority : Priority)
    (attendant : Option AttendantId) (hold : Bool) : Action σ Answer := do
  if !needed.valid then refuse (.invalidArgument .negativeSpace)
  signal attendant Attendants.reset
  let slot ← takeSlot direction needed priority
  enqueue direction ⟨slot, needed, priority, attendant, false⟩
  scanFor direction slot
  let serviced := (← get).ledger.isServiced direction slot
  if serviced && !hold then
    discard (shred direction slot)
    signal attendant Attendants.reset
    return .granted
  else if !serviced && attendant.isNone then
    event direction slot .notServiceable
    discard (shred direction slot)
    return .notServiceable
  else return .queued ⟨direction, slot, attendant⟩

/-- Asks for space of a direction. -/
def request (direction : Direction) (needed : Space) (priority : Priority)
    (attendant : Option AttendantId) : Action σ Answer :=
  submit direction needed priority attendant false

end Action

end Admission
