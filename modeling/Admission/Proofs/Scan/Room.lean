import Admission.Proofs.Controller.Finishing
import Admission.Proofs.Magnitude.Exact
import Admission.Proofs.Scan.Outcome

/-!
# Room for a scan

A walk charges what was granted before, and what it grants itself.  What it grants fits in what is
left, so that only earlier grants can make a budget negative.  As long as there is room for these
below zero (`Share.Roomy`), a walk is not stopped (`Walk.along_finishes`).

A store that tells words, or nothing, leaves a budget that is far from both ends of what a magnitude
can be.  So a scan does not overflow as long as the queue reserves less than half of that
(`Action.scan_finishes`).
-/

namespace Admission

/-! ## Charges -/

/-- There is room for what a queue reserves in the shares of a budget, also below zero. -/
structure Share.Roomy (share : Share) (queue : List Requisition) : Prop where
  /-- Requesters that wait are left no more than others. -/
  restricted : ∀ medium, share true medium ≤ share false medium
  most : ∀ medium, share false medium < 9223372036854775808000000000
  least : ∀ medium, -9223372036854775808000000000 ≤
    share true medium - max 0 (share false medium) - reserved [] queue medium

/-- What is charged to a budget leaves one, if the lower share stays a magnitude. -/
theorem Budget.charge_finishes {budget : Budget} {needed : Space}
    (nonneg : ∀ medium, 0 ≤ (needed.get medium).value)
    (restricted : ∀ medium, budget.share true medium ≤ budget.share false medium)
    (most : ∀ medium, budget.share false medium < 9223372036854775808000000000)
    (least : ∀ medium, -9223372036854775808000000000 ≤
      budget.share true medium - (needed.get medium).value) :
    ∃ left, budget.charge needed = .ok left := by
  have remains : ∀ blocking, ∃ left : Space, ∀ medium,
      (left.get medium).value = budget.share blocking medium - (needed.get medium).value := by
    intro blocking
    refine Space.exists_of_values fun medium => (Magnitude.exists_value_iff _).mpr ?_
    have own := nonneg medium
    have order := restricted medium
    have upper := most medium
    have lower := least medium
    unfold FitsWord
    cases blocking <;> omega
  obtain ⟨total, totals⟩ := remains false
  obtain ⟨half, halves⟩ := remains true
  have isTotal : budget.total.sub needed = .ok total := Space.sub_eq_ok nonneg totals
  have isHalf : budget.restricted.sub needed = .ok half := Space.sub_eq_ok nonneg halves
  refine ⟨⟨total, half⟩, ?_⟩
  rw [charge, isTotal, isHalf]
  rfl

namespace Share.Roomy

variable {share : Share} {head : Requisition} {rest : List Requisition}

/-- The requisition at the head was serviced before. -/
theorem charged (roomy : share.Roomy (head :: rest)) (serviced : head.serviced = true)
    (nonneg : ∀ medium, 0 ≤ head.need medium) : (share.less head.need).Roomy rest where
  restricted := fun medium => Int.sub_le_sub_right (roomy.restricted medium) _
  most := by
    intro medium
    have own := nonneg medium
    have upper := roomy.most medium
    rw [less_apply]
    omega
  least := by
    intro medium
    have own := nonneg medium
    have lower := roomy.least medium
    rw [reserved_cons_serviced serviced] at lower
    rw [less_apply, less_apply]
    omega

/-- The requisition at the head is granted. -/
theorem granted (roomy : share.Roomy (head :: rest)) (pending : head.serviced = false)
    (fits : head.fits share = true) (nonneg : ∀ medium, 0 ≤ head.need medium) :
    (share.less head.need).Roomy rest where
  restricted := fun medium => Int.sub_le_sub_right (roomy.restricted medium) _
  most := by
    intro medium
    have own := nonneg medium
    have upper := roomy.most medium
    rw [less_apply]
    omega
  least := by
    intro medium
    have own := nonneg medium
    have order := roomy.restricted medium
    have lower := roomy.least medium
    have small : head.need medium ≤ max 0 (share false medium) := by
      have within := (head.fits_iff share).mp fits medium
      cases waits : head.blocking <;> rw [waits] at within <;> omega
    rw [reserved_cons_pending pending] at lower
    rw [less_apply, less_apply]
    omega

theorem skipped (roomy : share.Roomy (head :: rest)) (pending : head.serviced = false) :
    share.Roomy rest where
  restricted := roomy.restricted
  most := roomy.most
  least := fun medium => reserved_cons_pending pending [] rest medium ▸ roomy.least medium

end Share.Roomy

/-- A walk is not stopped as long as there is room for what its queue reserves. -/
theorem Walk.along_finishes {budget : Budget} {queue : List Requisition}
    (nonneg : ∀ requisition ∈ queue, ∀ medium, 0 ≤ requisition.need medium)
    (roomy : budget.share.Roomy queue) : (along budget queue).stopped = none := by
  have chargeable : ∀ {budget : Budget} {head : Requisition} {rest : List Requisition},
      (∀ requisition ∈ head :: rest, ∀ medium, 0 ≤ requisition.need medium) →
      budget.share.Roomy (head :: rest) → (budget.share.less head.need).Roomy rest →
      ∃ left, budget.charge head.needed = .ok left := by
    intro budget head rest nonneg roomy after
    refine Budget.charge_finishes (nonneg head List.mem_cons_self) roomy.restricted roomy.most ?_
    intro medium
    have lower := after.least medium
    have nonnegBehind : ∀ requisition ∈ rest, 0 ≤ requisition.need medium :=
      fun requisition member => nonneg requisition (List.mem_cons_of_mem head member) medium
    have behind : 0 ≤ reserved [] rest medium := reserved_nonneg nonnegBehind
    rw [Share.less_apply, Share.less_apply] at lower
    have same : head.need medium = (head.needed.get medium).value := rfl
    omega
  fun_induction along budget queue with
  | case1 budget => rfl
  | case2 budget head rest serviced left charged induction =>
      refine induction (fun requisition member => nonneg _ (List.mem_cons_of_mem head member)) ?_
      rw [Budget.share_of_charge charged]
      exact roomy.charged serviced (nonneg head List.mem_cons_self)
  | case3 budget head rest serviced kind overflows =>
      obtain ⟨left, charged⟩ := chargeable nonneg roomy
        (roomy.charged serviced (nonneg head List.mem_cons_self))
      cases charged.symm.trans overflows
  | case4 budget head rest pending fits granted left charged induction =>
      rw [Budget.fitsWithin_available] at fits
      refine induction (fun requisition member => nonneg _ (List.mem_cons_of_mem head member)) ?_
      rw [Budget.share_of_charge charged]
      exact roomy.granted (Bool.eq_false_iff.mpr pending) fits (nonneg head List.mem_cons_self)
  | case5 budget head rest pending fits granted kind overflows =>
      rw [Budget.fitsWithin_available] at fits
      obtain ⟨left, charged⟩ := chargeable nonneg roomy
        (roomy.granted (Bool.eq_false_iff.mpr pending) fits (nonneg head List.mem_cons_self))
      cases charged.symm.trans overflows
  | case6 budget head rest pending unfit induction =>
      exact induction (fun requisition member => nonneg _ (List.mem_cons_of_mem head member))
        (roomy.skipped (Bool.eq_false_iff.mpr pending))

/-! ## Budgets -/

/-- An answer is a magnitude that a word can count, or a refusal. -/
def Checked.InWords (answer : Checked StoreError Magnitude) : Prop :=
  (∃ magnitude, answer = .ok magnitude ∧ 0 ≤ magnitude.value ∧
    magnitude.value < 18446744073709551616) ∨ ∃ error, answer = .error (.refused error)

namespace Checked.InWords

variable {answer : Checked StoreError Magnitude} {magnitude : Magnitude}

theorem finishes (words : answer.InWords) : answer.Finishes := by
  rcases words with ⟨magnitude, rfl, -⟩ | ⟨error, rfl⟩
  · exact finishes_ok magnitude
  · exact finishes_refuse error

theorem bounds (words : answer.InWords) (answered : answer = .ok magnitude) :
    0 ≤ magnitude.value ∧ magnitude.value < 18446744073709551616 := by
  subst answered
  rcases words with ⟨found, ⟨⟩, bounds⟩ | ⟨error, ⟨⟩⟩
  exact bounds

end Checked.InWords

section Words

variable {σ : Type} [Store σ] {store : σ} {direction : Direction}

/-- What a store tells of a direction is told in words. -/
def Store.InWords (store : σ) (direction : Direction) : Prop :=
  ∀ medium, Checked.InWords (Store.capacity store direction medium) ∧
    Checked.InWords (Store.occupancy store direction medium)

/-- What a capacity leaves beside an occupancy can be computed if both are words. -/
theorem Budget.ofMedium_finishes {capacity occupancy : Magnitude}
    (nonneg : 0 ≤ capacity.value) (word : capacity.value < 18446744073709551616)
    (occupied : 0 ≤ occupancy.value) (small : occupancy.value < 18446744073709551616) :
    ∃ parts, ofMedium capacity occupancy = .ok parts := by
  obtain ⟨total, isTotal⟩ : ∃ total : Magnitude,
      total.value = capacity.value - occupancy.value := by
    refine (Magnitude.exists_value_iff _).mpr ?_
    unfold FitsWord
    omega
  obtain ⟨half, isHalf⟩ : ∃ half : Magnitude,
      half.value = capacity.halve.value - occupancy.value := by
    refine (Magnitude.exists_value_iff _).mpr ?_
    rw [Magnitude.value_halve]
    unfold FitsWord
    omega
  refine ⟨(total, half), ?_⟩
  rw [ofMedium, Magnitude.sub_eq_ok occupied isTotal, Magnitude.sub_eq_ok occupied isHalf]
  rfl

/-- To read the budget of a store that tells words does not overflow. -/
theorem Budget.read_finishes (words : Store.InWords store direction) :
    (read store direction).Finishes := by
  have every : ∀ (media : List Medium) (budget : Budget),
      (readFrom store direction budget media).Finishes := by
    intro media
    induction media with
    | nil => exact fun budget => Checked.finishes_ok budget
    | cons medium rest induction =>
        intro budget
        obtain ⟨capacities, occupancies⟩ := words medium
        refine capacities.finishes.bind fun capacity isCapacity => ?_
        refine occupancies.finishes.bind fun occupancy isOccupancy => ?_
        obtain ⟨nonneg, word⟩ := capacities.bounds isCapacity
        obtain ⟨occupied, small⟩ := occupancies.bounds isOccupancy
        obtain ⟨parts, computed⟩ := ofMedium_finishes nonneg word occupied small
        have lifted : (liftM (ofMedium capacity occupancy) : Checked StoreError _) = .ok parts :=
          Checked.ofArithmetic_eq_ok_iff.mpr computed
        refine Checked.Finishes.bind ?_ fun parts _ => induction _
        exact lifted ▸ Checked.finishes_ok parts
  exact every Medium.all Budget.zero

/-- What a store offers that tells words has room for a queue that reserves less than half of what a
magnitude can be. -/
theorem Budget.Offers.roomy {share : Share} {queue : List Requisition}
    (offers : Budget.Offers store direction share) (words : Store.InWords store direction)
    (light : ∀ medium, reserved [] queue medium ≤ 4611686018427387904000000000) :
    share.Roomy queue := by
  obtain ⟨capacity, occupancy, capacities, occupancies, rfl⟩ := offers
  constructor <;> intro medium <;>
    obtain ⟨nonneg, word⟩ := (words medium).1.bounds (capacities medium) <;>
    obtain ⟨occupied, small⟩ := (words medium).2.bounds (occupancies medium) <;>
    simp only [Share.of_apply, if_true, Bool.false_eq_true, if_false]
  · omega
  · omega
  · have own := light medium
    omega

/-- A scan does not overflow in front of a store that tells words, if its queue reserves less than
half of what a magnitude can be. -/
theorem Action.scan_finishes {controller : Controller σ}
    (words : Store.InWords controller.store direction)
    (nonneg : ∀ requisition ∈ controller.ledger.queue direction,
      ∀ medium, 0 ≤ requisition.need medium)
    (light : ∀ medium, reserved [] (controller.ledger.queue direction) medium ≤
      4611686018427387904000000000) : Finishes (scan direction) controller := by
  intro kind final
  rw [scan_run]
  cases answered : Budget.read controller.store direction with
  | error failure =>
      intro stopped
      cases failure with
      | refused error => cases stopped
      | overflow other => exact Budget.read_finishes words other answered
  | ok budget =>
      have roomy := (Budget.offers_of_read answered).roomy words light
      simp only [Walk.along_finishes nonneg roomy, ne_eq, reduceCtorEq, not_false_eq_true]

end Words

/-- What a queue reserves is bounded by its length. -/
theorem reserved_le_length {queue : List Requisition} {stored : List SlotId} {medium : Medium}
    {bound : Int} (positive : 0 ≤ bound)
    (each : ∀ requisition ∈ queue, requisition.serviced = true → requisition.need medium ≤ bound) :
    reserved stored queue medium ≤ queue.length * bound := by
  induction queue with
  | nil => simp
  | cons head rest induction =>
      have behind := induction fun requisition member =>
        each requisition (List.mem_cons_of_mem head member)
      have own := each head List.mem_cons_self
      rw [reserved_cons, List.length_cons, Nat.cast_add, Nat.cast_one, Int.add_mul, Int.one_mul]
      split
      · next counts =>
          have counted := own counts.1
          omega
      · omega

end Admission
