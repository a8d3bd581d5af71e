import Admission.Ledger
import Admission.Magnitude.Value
import Mathlib.Algebra.BigOperators.Group.List.Basic
import Mathlib.Algebra.Order.BigOperators.Group.List
import Mathlib.Data.List.Perm.Subperm
import Mathlib.Tactic.Linarith

/-!
# Space that a queue reserves

The needs of requisitions as exact integers, and their sum over the serviced requisitions of
a queue.  A sum can leave some slots out: those whose object is stored already, so that its
space is occupied and no longer reserved.
-/

namespace Admission

/-- Every medium is listed. -/
@[simp] theorem Medium.mem_all (medium : Medium) : medium ∈ Medium.all := by
  cases medium <;> simp [Medium.all]

/-! ## Needs -/

namespace Requisition

/-- What a requisition needs on a medium. -/
def need (requisition : Requisition) (medium : Medium) : Int :=
  (requisition.needed.get medium).value

/-- The requisition once its space is granted. -/
def granted (requisition : Requisition) : Requisition := { requisition with serviced := true }

@[simp] theorem granted_slot (requisition : Requisition) :
    requisition.granted.slot = requisition.slot := rfl

@[simp] theorem granted_needed (requisition : Requisition) :
    requisition.granted.needed = requisition.needed := rfl

@[simp] theorem granted_need (requisition : Requisition) :
    requisition.granted.need = requisition.need := rfl

@[simp] theorem granted_serviced (requisition : Requisition) :
    requisition.granted.serviced = true := rfl

@[simp] theorem granted_blocking (requisition : Requisition) :
    requisition.granted.blocking = requisition.blocking := rfl

/-- A serviced requisition has been granted its space before. -/
theorem granted_of_serviced {requisition : Requisition} (serviced : requisition.serviced = true) :
    requisition.granted = requisition := by
  cases requisition
  simp_all [granted]

end Requisition

/-- A space is valid exactly if nothing in it is below zero. -/
theorem Space.valid_iff (space : Space) :
    space.valid = true ↔ ∀ medium, 0 ≤ (space.get medium).value := by
  simp only [Space.valid, List.all_eq_true, Magnitude.valid_iff]
  exact ⟨fun every medium => every medium medium.mem_all, fun every medium _ => every medium⟩

/-! ## Sums over a queue -/

/-- What the serviced requisitions of a queue need on a medium, those in the slots `stored`
left out. -/
def reserved (stored : List SlotId) (queue : List Requisition) (medium : Medium) : Int :=
  (queue.map fun requisition =>
    if requisition.serviced ∧ requisition.slot ∉ stored then requisition.need medium else 0).sum

section Reserved

variable {stored : List SlotId} {queue rest : List Requisition} {medium : Medium}

@[simp] theorem reserved_nil (stored : List SlotId) (medium : Medium) :
    reserved stored [] medium = 0 := rfl

theorem reserved_cons (stored : List SlotId) (head : Requisition) (rest : List Requisition)
    (medium : Medium) :
    reserved stored (head :: rest) medium =
      (if head.serviced ∧ head.slot ∉ stored then head.need medium else 0) +
        reserved stored rest medium := by
  simp [reserved]

@[simp] theorem reserved_append (stored : List SlotId) (front back : List Requisition)
    (medium : Medium) :
    reserved stored (front ++ back) medium =
      reserved stored front medium + reserved stored back medium := by
  simp [reserved]

/-- Leaving out nothing, a serviced requisition at the head counts. -/
theorem reserved_cons_serviced {head : Requisition} (serviced : head.serviced = true)
    (rest : List Requisition) (medium : Medium) :
    reserved [] (head :: rest) medium = head.need medium + reserved [] rest medium := by
  simp [reserved_cons, serviced]

/-- A pending requisition reserves nothing. -/
theorem reserved_cons_pending {head : Requisition} (pending : head.serviced = false)
    (stored : List SlotId) (rest : List Requisition) (medium : Medium) :
    reserved stored (head :: rest) medium = reserved stored rest medium := by
  simp [reserved_cons, pending]

/-- A queue whose requisitions count for nothing reserves nothing. -/
theorem reserved_eq_zero
    (nothing : ∀ requisition ∈ queue, requisition.serviced = true → requisition.slot ∉ stored →
      requisition.need medium = 0) :
    reserved stored queue medium = 0 := by
  induction queue with
  | nil => rfl
  | cons head rest induction =>
      rw [reserved_cons, induction fun requisition member =>
        nothing requisition (List.mem_cons_of_mem head member)]
      by_cases counts : head.serviced ∧ head.slot ∉ stored
      · rw [if_pos counts, nothing head List.mem_cons_self counts.1 counts.2, Int.add_zero]
      · rw [if_neg counts, Int.add_zero]

/-- A part of a queue reserves no more than the whole, however much is left out of the part. -/
theorem reserved_sublist_le {part : List Requisition} {more : List SlotId}
    (nonneg : ∀ requisition ∈ queue, 0 ≤ requisition.need medium)
    (sublist : part.Sublist queue) (leaves : ∀ slot ∈ stored, slot ∈ more) :
    reserved more part medium ≤ reserved stored queue medium := by
  induction sublist with
  | slnil => exact Int.le_refl 0
  | @cons part queue head sublist induction =>
      have tail := induction fun requisition member =>
        nonneg requisition (List.mem_cons_of_mem head member)
      have own := nonneg head List.mem_cons_self
      rw [reserved_cons]
      split <;> omega
  | @cons_cons part queue head sublist induction =>
      have tail := induction fun requisition member =>
        nonneg requisition (List.mem_cons_of_mem head member)
      have own := nonneg head List.mem_cons_self
      rw [reserved_cons, reserved_cons]
      by_cases counts : head.serviced ∧ head.slot ∉ more
      · have before : head.serviced ∧ head.slot ∉ stored :=
          ⟨counts.1, fun member => counts.2 (leaves _ member)⟩
        rw [if_pos counts, if_pos before]
        omega
      · rw [if_neg counts]
        split <;> omega

/-- Valid needs add up to a valid reservation. -/
theorem reserved_nonneg (nonneg : ∀ requisition ∈ queue, 0 ≤ requisition.need medium) :
    0 ≤ reserved stored queue medium :=
  reserved_sublist_le nonneg (List.nil_sublist queue) fun _ member => member

/-- What is left out matters for the slots of the queue only. -/
theorem reserved_congr {more : List SlotId}
    (same : ∀ requisition ∈ queue, requisition.slot ∈ more ↔ requisition.slot ∈ stored) :
    reserved more queue medium = reserved stored queue medium := by
  unfold reserved
  congr 1
  refine List.map_congr_left fun requisition member => ?_
  simp only [same requisition member]

/-- Leaving out one more slot leaves out what its requisition needs. -/
theorem reserved_store {more : List SlotId} {requisition : Requisition}
    (distinct : (queue.map Requisition.slot).Nodup) (member : requisition ∈ queue)
    (serviced : requisition.serviced = true) (unstored : requisition.slot ∉ stored)
    (adds : ∀ slot, slot ∈ more ↔ slot ∈ stored ∨ slot = requisition.slot) (medium : Medium) :
    reserved stored queue medium = reserved more queue medium + requisition.need medium := by
  induction queue with
  | nil => cases member
  | cons head rest induction =>
      rw [List.map_cons, List.nodup_cons] at distinct
      rw [reserved_cons, reserved_cons]
      rcases List.mem_cons.mp member with rfl | inRest
      · have elsewhere : reserved more rest medium = reserved stored rest medium := by
          refine reserved_congr fun other inside => ?_
          rw [adds, or_iff_left]
          exact fun same => distinct.1 (List.mem_map.mpr ⟨other, inside, same⟩)
        rw [elsewhere, if_pos ⟨serviced, unstored⟩,
          if_neg fun counts => counts.2 ((adds _).mpr (Or.inr rfl))]
        omega
      · have different : head.slot ≠ requisition.slot := fun same =>
          distinct.1 (List.mem_map.mpr ⟨requisition, inRest, same.symm⟩)
        have sameSlot : head.slot ∈ more ↔ head.slot ∈ stored := by
          rw [adds, or_iff_left different]
        simp only [sameSlot, induction distinct.2 inRest]
        omega

/-- The requisitions that count as long as the slots `stored` are left out, and no longer when
the slots `more` are. -/
def shifted (stored more : List SlotId) (queue : List Requisition) (medium : Medium) :
    List Requisition :=
  queue.filter fun requisition =>
    requisition.serviced ∧ requisition.slot ∈ more ∧ requisition.slot ∉ stored ∧
      requisition.need medium ≠ 0

theorem mem_shifted {more : List SlotId} {requisition : Requisition} :
    requisition ∈ shifted stored more queue medium ↔
      requisition ∈ queue ∧ requisition.serviced = true ∧ requisition.slot ∈ more ∧
        requisition.slot ∉ stored ∧ requisition.need medium ≠ 0 := by
  simp [shifted]

/-- Leaving out more slots leaves out what the requisitions need that are shifted. -/
theorem reserved_sub {more : List SlotId} (leaves : ∀ slot ∈ stored, slot ∈ more)
    (queue : List Requisition) (medium : Medium) :
    reserved stored queue medium - reserved more queue medium =
      ((shifted stored more queue medium).map (Requisition.need · medium)).sum := by
  induction queue with
  | nil => rfl
  | cons head rest induction =>
      have unfolded : shifted stored more (head :: rest) medium =
          if head.serviced ∧ head.slot ∈ more ∧ head.slot ∉ stored ∧ head.need medium ≠ 0 then
            head :: shifted stored more rest medium
          else shifted stored more rest medium := by
        simp [shifted, List.filter_cons]
      rw [reserved_cons, reserved_cons, unfolded]
      by_cases moves : head.serviced ∧ head.slot ∈ more ∧ head.slot ∉ stored ∧
          head.need medium ≠ 0
      · rw [if_pos moves, List.map_cons, List.sum_cons, ← induction,
          if_pos ⟨moves.1, moves.2.2.1⟩, if_neg fun counts => counts.2 moves.2.1]
        omega
      · have same : (if head.serviced ∧ head.slot ∉ stored then head.need medium else 0) =
            if head.serviced ∧ head.slot ∉ more then head.need medium else 0 := by
          by_cases later : head.serviced ∧ head.slot ∉ more
          · rw [if_pos later, if_pos ⟨later.1, fun now => later.2 (leaves _ now)⟩]
          · rw [if_neg later]
            split
            · next now =>
                by_contra nonzero
                exact moves ⟨now.1, by_contra fun outside => later ⟨now.1, outside⟩, now.2,
                  nonzero⟩
            · rfl
        rw [if_neg moves, ← induction, same]
        omega

/-- Requisitions that are among others need no more than these. -/
theorem sum_need_le_of_subset {part : List Requisition} (distinct : part.Nodup)
    (subset : ∀ requisition ∈ part, requisition ∈ queue)
    (nonneg : ∀ requisition ∈ queue, 0 ≤ requisition.need medium) :
    (part.map (Requisition.need · medium)).sum ≤
      (queue.map (Requisition.need · medium)).sum := by
  obtain ⟨same, permuted, sublist⟩ := List.subperm_of_subset distinct subset
  rw [← (permuted.map _).sum_eq]
  refine (sublist.map _).sum_le_sum ?_
  intro need member
  obtain ⟨requisition, inside, rfl⟩ := List.mem_map.mp member
  exact nonneg requisition inside

/-- What counts of a queue is reserved in it. -/
theorem reserved_eq_sum (stored : List SlotId) (queue : List Requisition) (medium : Medium) :
    reserved stored queue medium =
      ((queue.filter fun requisition => requisition.serviced ∧ requisition.slot ∉ stored ∧
        requisition.need medium ≠ 0).map (Requisition.need · medium)).sum := by
  induction queue with
  | nil => rfl
  | cons head rest induction =>
      rw [reserved_cons, induction, List.filter_cons]
      by_cases counts : head.serviced ∧ head.slot ∉ stored
      · rw [if_pos counts]
        by_cases empty : head.need medium = 0 <;> simp [counts, empty]
      · rw [if_neg counts, if_neg fun all => counts ⟨(of_decide_eq_true all).1,
          (of_decide_eq_true all).2.1⟩, Int.zero_add]

/-- A queue reserves no more than another one in which everything stands that counts. -/
theorem reserved_le_of_subset {part : List Requisition} (distinct : part.Nodup)
    (subset : ∀ requisition ∈ part, requisition.serviced = true →
      requisition.slot ∉ stored → requisition.need medium ≠ 0 → requisition ∈ queue)
    (nonneg : ∀ requisition ∈ queue, 0 ≤ requisition.need medium) :
    reserved stored part medium ≤ reserved stored queue medium := by
  rw [reserved_eq_sum, reserved_eq_sum]
  refine sum_need_le_of_subset (distinct.filter _) ?_ ?_
  · intro requisition member
    obtain ⟨inside, counts⟩ := List.mem_filter.mp member
    obtain ⟨serviced, unstored, nonzero⟩ := of_decide_eq_true counts
    exact List.mem_filter.mpr ⟨subset requisition inside serviced unstored nonzero, counts⟩
  · exact fun requisition member => nonneg requisition (List.mem_filter.mp member).1

end Reserved

end Admission
