import Admission.Controller.Basic
import Admission.Snapshot

/-!
# Observing a controller
-/

namespace Admission

/-- The outside of a requisition. -/
def Requisition.observe (requisition : Requisition) : QueuedRequisition :=
  { slot := requisition.slot
    priority := requisition.priority
    needed := requisition.needed
    blocking := requisition.blocking
    serviced := requisition.serviced }

namespace Controller

variable {σ : Type} [Store σ]

/-- How much of a medium is occupied. -/
def usage (store : σ) (direction : Direction) (medium : Medium) :
    Checked StoreError MediumUsage := do
  let capacity ← Store.capacity store direction medium
  let occupancy ← Store.occupancy store direction medium
  return ⟨medium, capacity, occupancy⟩

/-- The queue of a direction as it is now. -/
def snapshot (controller : Controller σ) (direction : Direction) : Checked Refusal Snapshot :=
  Checked.mapRefusal .store do
    let media ← Medium.all.mapM (usage controller.store direction)
    return ⟨direction, media, (controller.ledger.queue direction).map Requisition.observe⟩

end Controller

end Admission
