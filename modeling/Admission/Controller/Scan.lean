import Admission.Controller.Basic

/-!
# Scans

A scan goes over the queue of one direction from head to tail, once.  It grants every
pending requisition that fits in what is left after all serviced requisitions before it.
Requesters that wait draw from a restricted budget, half of each capacity, so that they
cannot use up what requesters that do not wait may need.

The budget is read before anything is changed: a scan whose store refuses a question
changes nothing.
-/

namespace Admission

/-! ## Budgets -/

/-- What is left on every medium for requesters that do not wait, and for those that do. -/
structure Budget where
  total : Space
  restricted : Space
  deriving DecidableEq

namespace Budget

/-- A budget with nothing left for anybody. -/
def zero : Budget := ⟨.zero, .zero⟩

/-- What a capacity leaves when something is occupied already. -/
def ofMedium (capacity occupancy : Magnitude) : Except Overflow (Magnitude × Magnitude) := do
  let total ← capacity.sub occupancy
  let restricted ← capacity.halve.sub occupancy
  return (total, restricted)

/-- Reads the budget of the given media, one after the other. -/
def readFrom {σ : Type} [Store σ] (store : σ) (direction : Direction) (budget : Budget) :
    List Medium → Checked StoreError Budget
  | [] => .ok budget
  | medium :: rest => do
    let capacity ← Store.capacity store direction medium
    let occupancy ← Store.occupancy store direction medium
    let (total, restricted) ← ofMedium capacity occupancy
    readFrom store direction
      ⟨budget.total.set medium total, budget.restricted.set medium restricted⟩ rest

/-- The budget of a direction. -/
def read {σ : Type} [Store σ] (store : σ) (direction : Direction) : Checked StoreError Budget :=
  readFrom store direction zero Medium.all

/-- The space that a requisition may draw from. -/
def available (budget : Budget) (requisition : Requisition) : Space :=
  if requisition.blocking then budget.restricted else budget.total

/-- What is left when `needed` is reserved. -/
def charge (budget : Budget) (needed : Space) : Except Overflow Budget := do
  let total ← budget.total.sub needed
  let restricted ← budget.restricted.sub needed
  return ⟨total, restricted⟩

end Budget

/-! ## Walking the queue -/

/-- What a walk over a queue has come to: the queue after it, the requisitions it granted in
order, and the overflow that stopped it, if one did. -/
structure Walk where
  queue : List Requisition
  granted : List Requisition
  stopped : Option Overflow
  deriving DecidableEq

namespace Walk

/-- Puts the requisition that was passed before the rest of the walk. -/
def pass (requisition : Requisition) (walk : Walk) : Walk :=
  { walk with queue := requisition :: walk.queue }

/-- Puts the requisition that was granted before the rest of the walk. -/
def grant (requisition : Requisition) (walk : Walk) : Walk :=
  { walk with
    queue := requisition :: walk.queue
    granted := requisition :: walk.granted }

/-- The end of a walk that an overflow stopped before `rest`. -/
def stop (kind : Overflow) (rest : List Requisition) : Walk := ⟨rest, [], some kind⟩

/-- Walks a queue.  A serviced requisition is charged to the budget wherever it stands; a
pending one is granted and charged if it fits, and left alone otherwise. -/
def along (budget : Budget) : List Requisition → Walk
  | [] => ⟨[], [], none⟩
  | head :: rest =>
    if head.serviced then
      match budget.charge head.needed with
      | .ok left => (along left rest).pass head
      | .error kind => (stop kind rest).pass head
    else if head.needed.fitsWithin (budget.available head) then
      let serviced := { head with serviced := true }
      match budget.charge head.needed with
      | .ok left => (along left rest).grant serviced
      | .error kind => (stop kind rest).grant serviced
    else (along budget rest).pass head

end Walk

/-! ## The scan -/

namespace Controller

variable {σ : Type}

/-- Puts the outcome of a walk into effect: the queue, the signals, the events. -/
def settle (controller : Controller σ) (direction : Direction) (walk : Walk) : Controller σ :=
  { controller with
    ledger := controller.ledger.setQueue direction walk.queue
    attendants := (walk.granted.filterMap Requisition.attendant).foldl Attendants.give
      controller.attendants
    journal := controller.journal ++ walk.granted.map fun requisition =>
      .event ⟨direction, requisition.slot, .serviced⟩ }

end Controller

namespace Action

variable {σ : Type} [Store σ]

/-- Services every requisition of a direction that fits, and tells how many there were. -/
def scan (direction : Direction) : Action σ Nat := do
  let budget ← query fun store => Budget.read store direction
  let queue := (← get).ledger.queue direction
  note (.scanStarted direction queue.length)
  let walk := Walk.along budget queue
  modify (·.settle direction walk)
  match walk.stopped with
  | none => return walk.granted.length
  | some kind => throw (.overflow kind)

end Action

end Admission
