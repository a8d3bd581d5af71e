import Admission.Controller.Scan

/-!
# Queues in other slots

A slot is a name: who comes before whom, what fits and where a walk is stopped do not depend on it.
So a queue whose requisitions stand in other slots is handled in the same way, as long as no two of
them come to stand in the same.
-/

namespace Admission

/-- The same requisition in another slot. -/
def Requisition.relabel (slots : SlotId → SlotId) (requisition : Requisition) : Requisition :=
  { requisition with slot := slots requisition.slot }

/-- The same walk over a queue in other slots. -/
def Walk.relabel (slots : SlotId → SlotId) (walk : Walk) : Walk :=
  { walk with
    queue := walk.queue.map (Requisition.relabel slots)
    granted := walk.granted.map (Requisition.relabel slots) }

variable {slots : SlotId → SlotId}

namespace Requisition

@[simp] theorem slot_relabel (slots : SlotId → SlotId) (requisition : Requisition) :
    (requisition.relabel slots).slot = slots requisition.slot := rfl

@[simp] theorem needed_relabel (slots : SlotId → SlotId) (requisition : Requisition) :
    (requisition.relabel slots).needed = requisition.needed := rfl

@[simp] theorem priority_relabel (slots : SlotId → SlotId) (requisition : Requisition) :
    (requisition.relabel slots).priority = requisition.priority := rfl

@[simp] theorem serviced_relabel (slots : SlotId → SlotId) (requisition : Requisition) :
    (requisition.relabel slots).serviced = requisition.serviced := rfl

/-- A requisition whose slot keeps its name is the same. -/
theorem relabel_of_fixed {requisition : Requisition}
    (fixed : slots requisition.slot = requisition.slot) :
    requisition.relabel slots = requisition := by
  rw [relabel, fixed]

theorem map_relabel_of_fixed {queue : List Requisition}
    (fixed : ∀ slot ∈ queue.map Requisition.slot, slots slot = slot) :
    queue.map (relabel slots) = queue :=
  (List.map_congr_left fun _ queued =>
    relabel_of_fixed (fixed _ (List.mem_map_of_mem queued))).trans (List.map_id _)

theorem insert_relabel (requisition : Requisition) (queue : List Requisition) :
    (requisition.relabel slots).insert (queue.map (relabel slots)) =
      (requisition.insert queue).map (relabel slots) := by
  induction queue with
  | nil => rfl
  | cons head rest induction =>
      rw [List.map_cons, insert, insert, priority_relabel, priority_relabel, induction]
      split <;> rfl

theorem map_slot_relabel (queue : List Requisition) :
    (queue.map (relabel slots)).map Requisition.slot = (queue.map Requisition.slot).map slots := by
  rw [List.map_map, List.map_map]
  rfl

end Requisition

theorem Walk.along_relabel (budget : Budget) (queue : List Requisition) :
    along budget (queue.map (Requisition.relabel slots)) = (along budget queue).relabel slots := by
  induction queue generalizing budget with
  | nil => rfl
  | cons head rest induction =>
      have available : budget.available (head.relabel slots) = budget.available head := rfl
      simp only [List.map_cons, along, Requisition.serviced_relabel, Requisition.needed_relabel,
        available]
      split
      · cases budget.charge head.needed with
        | ok left => simp only [induction]; rfl
        | error kind => rfl
      · split
        · cases budget.charge head.needed with
          | ok left => simp only [induction]; rfl
          | error kind => rfl
        · simp only [induction]; rfl

section Injective

variable (injective : Function.Injective slots)
include injective

theorem Requisition.filter_relabel (slot : SlotId) (queue : List Requisition) :
    (queue.map (relabel slots)).filter (fun requisition => requisition.slot ≠ slots slot) =
      (queue.filter fun requisition => requisition.slot ≠ slot).map (relabel slots) := by
  rw [List.filter_map]
  congr 1
  refine List.filter_congr fun requisition _ => ?_
  simp [injective.eq_iff]

theorem Requisition.find?_relabel (slot : SlotId) (queue : List Requisition) :
    (queue.map (relabel slots)).find? (fun requisition => requisition.slot = slots slot) =
      (queue.find? fun requisition => requisition.slot = slot).map (relabel slots) := by
  rw [List.find?_map]
  congr 2
  funext requisition
  simp [injective.eq_iff]

end Injective

end Admission
