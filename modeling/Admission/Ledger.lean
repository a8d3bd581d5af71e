import Admission.Attendant
import Admission.Direction
import Admission.Priority
import Admission.Slot
import Admission.Space

/-!
# The ledger

The ledger holds the queued requisitions: one queue per direction, by descending priority
and in order of arrival among equals, and the pool of slots that both directions share.

The requisitions stand in the queues themselves, so that one is looked up in the queue of its
direction.  `Arena` is the same with the requisitions in slots and with queues of slots.
-/

namespace Admission

/-- A request for space that is queued, pending or serviced. -/
structure Requisition where
  slot : SlotId
  needed : Space
  priority : Priority
  /-- Whom to signal; without an attendant the requester does not wait. -/
  attendant : Option AttendantId
  serviced : Bool
  deriving DecidableEq

namespace Requisition

/-- Requesters that wait draw from the restricted budget. -/
def blocking (requisition : Requisition) : Bool := requisition.attendant.isSome

/-- Puts a requisition before the first one of lower priority. -/
def insert (requisition : Requisition) : List Requisition → List Requisition
  | [] => [requisition]
  | head :: rest =>
    if head.priority < requisition.priority then requisition :: head :: rest
    else head :: insert requisition rest

end Requisition

/-- The queues of both directions and the slots that they share. -/
structure Ledger where
  pool : SlotPool
  inbound : List Requisition
  outbound : List Requisition
  deriving DecidableEq

namespace Ledger

/-- A ledger without requisitions. -/
def ofLimit (limit : Nat) : Ledger := ⟨.ofLimit limit, [], []⟩

/-- The requisitions of a direction, head first. -/
def queue (ledger : Ledger) : Direction → List Requisition
  | .inbound => ledger.inbound
  | .outbound => ledger.outbound

/-- Puts another queue in the place of that of a direction. -/
def setQueue (ledger : Ledger) (direction : Direction) (queue : List Requisition) : Ledger :=
  match direction with
  | .inbound => { ledger with inbound := queue }
  | .outbound => { ledger with outbound := queue }

@[simp] theorem queue_setQueue_self (ledger : Ledger) (direction : Direction)
    (queue : List Requisition) : (ledger.setQueue direction queue).queue direction = queue := by
  cases direction <;> rfl

theorem queue_setQueue_of_ne (ledger : Ledger) {direction other : Direction}
    (queue : List Requisition) (different : other ≠ direction) :
    (ledger.setQueue direction queue).queue other = ledger.queue other := by
  cases direction <;> cases other <;> simp_all [setQueue, Ledger.queue]

@[simp] theorem pool_setQueue (ledger : Ledger) (direction : Direction)
    (queue : List Requisition) : (ledger.setQueue direction queue).pool = ledger.pool := by
  cases direction <;> rfl

/-- The requisition in a slot. -/
def find? (ledger : Ledger) (direction : Direction) (slot : SlotId) : Option Requisition :=
  (ledger.queue direction).find? fun requisition => requisition.slot = slot

/-- Whether the requisition in a slot is serviced. -/
def isServiced (ledger : Ledger) (direction : Direction) (slot : SlotId) : Bool :=
  (ledger.find? direction slot).any Requisition.serviced

/-- Queues a requisition by its priority. -/
def enqueue (ledger : Ledger) (direction : Direction) (requisition : Requisition) : Ledger :=
  ledger.setQueue direction (requisition.insert (ledger.queue direction))

/-- Takes the requisition in a slot out of its queue and frees the slot. -/
def remove (ledger : Ledger) (direction : Direction) (slot : SlotId) : Ledger :=
  let rest := (ledger.queue direction).filter fun requisition => requisition.slot ≠ slot
  { ledger.setQueue direction rest with pool := ledger.pool.release slot }

end Ledger

end Admission
