import Admission.Controller.Scan

/-!
# The arena

The ledger as it is laid out in slots.  The requisitions of both directions are stored in the slots
of one arena, where a requisition is found by its slot alone, and a queue only orders the slots of
its direction.  A slot that is queued although nothing is stored in it is passed over.

The place of a new requisition is searched from the tail, so that the common case of equal
priorities is cheap.  A scan marks requisitions as serviced where they are stored.

`Arena.ledger` is what an arena stands for: the queues of requisitions that a controller works on.
-/

namespace Admission

/-- The requisitions in their slots, and the slots of either direction in their order. -/
structure Arena where
  pool : SlotPool
  /-- The requisitions of both directions, in no order that matters. -/
  stored : List Requisition
  inbound : List SlotId
  outbound : List SlotId
  deriving DecidableEq

namespace Arena

/-- An arena in which nothing is stored. -/
def ofLimit (limit : Nat) : Arena := ⟨.ofLimit limit, [], [], []⟩

/-- The slots of a direction, head first. -/
def order (arena : Arena) : Direction → List SlotId
  | .inbound => arena.inbound
  | .outbound => arena.outbound

/-- Puts other slots in the place of those of a direction. -/
def setOrder (arena : Arena) (direction : Direction) (order : List SlotId) : Arena :=
  match direction with
  | .inbound => { arena with inbound := order }
  | .outbound => { arena with outbound := order }

/-- The requisition in a slot. -/
def get? (arena : Arena) (slot : SlotId) : Option Requisition :=
  arena.stored.find? fun requisition => requisition.slot = slot

/-- Whether the requisition in a slot is serviced. -/
def isServiced (arena : Arena) (slot : SlotId) : Bool :=
  (arena.get? slot).any Requisition.serviced

/-- The queues of the requisitions in their slots. -/
def ledger (arena : Arena) : Ledger :=
  ⟨arena.pool, arena.inbound.filterMap arena.get?, arena.outbound.filterMap arena.get?⟩

/-! ## Slots -/

/-- Stores a requisition in a slot that left the pool `taken`. -/
def store (arena : Arena) (requisition : Requisition) (taken : SlotPool) : Arena :=
  { arena with pool := taken, stored := requisition :: arena.stored }

/-- Frees a slot. -/
def free (arena : Arena) (slot : SlotId) : Arena :=
  { arena with
    pool := arena.pool.release slot
    stored := arena.stored.filter fun requisition => requisition.slot ≠ slot }

/-- Marks the requisition in a slot as serviced. -/
def service (arena : Arena) (slot : SlotId) : Arena :=
  { arena with
    stored := arena.stored.map fun requisition =>
      if requisition.slot = slot then { requisition with serviced := true } else requisition }

/-! ## Queues -/

/-- Whether a requisition of some priority goes before a slot: it holds a requisition of lower
priority, or none. -/
def yields (arena : Arena) (priority : Priority) (slot : SlotId) : Bool :=
  (arena.get? slot).all fun requisition => requisition.priority < priority

/-- Queues a slot right after the last one that holds a requisition whose priority is not lower. -/
def insert (arena : Arena) (direction : Direction) (slot : SlotId) (priority : Priority) : Arena :=
  let backwards := (arena.order direction).reverse
  let behind := backwards.takeWhile (arena.yields priority)
  let ahead := backwards.dropWhile (arena.yields priority)
  arena.setOrder direction (ahead.reverse ++ slot :: behind.reverse)

/-- Takes a slot off the queue of a direction. -/
def unqueue (arena : Arena) (direction : Direction) (slot : SlotId) : Arena :=
  arena.setOrder direction ((arena.order direction).erase slot)

/-- Stores a requisition and queues its slot, unless all slots are held. -/
def submit (arena : Arena) (direction : Direction) (needed : Space) (priority : Priority)
    (attendant : Option AttendantId) : Option (SlotId × Arena) :=
  arena.pool.take.map fun (slot, taken) =>
    (slot, (arena.store ⟨slot, needed, priority, attendant, false⟩ taken).insert direction slot
      priority)

/-- Takes a slot off its queue and frees it.  Tells which requisition was in it. -/
def shred (arena : Arena) (direction : Direction) (slot : SlotId) : Option Requisition × Arena :=
  (arena.get? slot, (arena.unqueue direction slot).free slot)

/-! ## Scans -/

/-- What a pass over slots has come to: the arena after it, the requisitions it granted in order,
and the overflow that stopped it, if one did. -/
structure Pass where
  arena : Arena
  granted : List Requisition
  stopped : Option Overflow
  deriving DecidableEq

/-- Goes over slots.  A serviced requisition is charged to the budget wherever it stands; a pending
one is marked as serviced and charged if it fits, and left alone otherwise. -/
def along (arena : Arena) (budget : Budget) : List SlotId → Pass
  | [] => ⟨arena, [], none⟩
  | slot :: rest =>
    match arena.get? slot with
    | none => arena.along budget rest
    | some requisition =>
      if requisition.serviced then
        match budget.charge requisition.needed with
        | .ok left => arena.along left rest
        | .error kind => ⟨arena, [], some kind⟩
      else if requisition.needed.fitsWithin (budget.available requisition) then
        let serviced := { requisition with serviced := true }
        match budget.charge requisition.needed with
        | .ok left =>
          let pass := (arena.service slot).along left rest
          { pass with granted := serviced :: pass.granted }
        | .error kind => ⟨arena.service slot, [serviced], some kind⟩
      else arena.along budget rest

/-- Goes over the slots of a direction. -/
def scan (arena : Arena) (direction : Direction) (budget : Budget) : Pass :=
  arena.along budget (arena.order direction)

end Arena

end Admission
