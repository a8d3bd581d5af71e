import Admission.Controller.Scan
import Admission.Proofs.Queue.Greedy

/-!
# The walk of a scan in exact integers

A budget is the share that its parts stand for.  The walk of a scan works on the parts and may
overflow; if it does not, it is the greedy pass over the queue, and what it granted is what the
pass turned on (`along_eq`).  A budget that was read from a store is the share that the store
offers by its capacities and occupancies (`offers_of_read`).
-/

namespace Admission

/-! ## Spaces and budgets -/

namespace Space

theorem value_of_sub {space decrement result : Space} (computed : space.sub decrement = .ok result)
    (medium : Medium) :
    (result.get medium).value = (space.get medium).value - (decrement.get medium).value := by
  simp only [sub, Checked.bind_eq_ok_iff] at computed
  obtain ⟨file, files, bulk, bulks, heap, heaps, assembled⟩ := computed
  cases assembled
  cases medium
  · exact Magnitude.value_of_sub files
  · exact Magnitude.value_of_sub bulks
  · exact Magnitude.value_of_sub heaps

theorem value_of_add {space increment result : Space} (computed : space.add increment = .ok result)
    (medium : Medium) :
    (result.get medium).value = (space.get medium).value + (increment.get medium).value := by
  simp only [add, Checked.bind_eq_ok_iff] at computed
  obtain ⟨file, files, bulk, bulks, heap, heaps, assembled⟩ := computed
  cases assembled
  cases medium
  · exact Magnitude.value_of_add files
  · exact Magnitude.value_of_add bulks
  · exact Magnitude.value_of_add heaps

theorem fitsWithin_iff (needed budget : Space) :
    needed.fitsWithin budget = true ↔
      ∀ medium, (needed.get medium).value ≤ max 0 (budget.get medium).value := by
  have inMedium : ∀ medium, decide (needed.get medium ≤ (budget.get medium).orZero) = true ↔
      (needed.get medium).value ≤ max 0 (budget.get medium).value := by
    intro medium
    rw [decide_eq_true_eq, Magnitude.le_iff_value_le, Magnitude.value_orZero]
    split <;> omega
  simp only [fitsWithin, List.all_eq_true, inMedium]
  exact ⟨fun every medium => every medium medium.mem_all, fun every medium _ => every medium⟩

end Space

namespace Budget

/-- What a budget leaves to either kind of requester. -/
def share (budget : Budget) : Share := fun blocking medium =>
  ((if blocking then budget.restricted else budget.total).get medium).value

theorem share_of_charge {budget left : Budget} {needed : Space}
    (charged : budget.charge needed = .ok left) :
    left.share = budget.share.less fun medium => (needed.get medium).value := by
  simp only [charge, Checked.bind_eq_ok_iff] at charged
  obtain ⟨total, totals, restricted, restricteds, assembled⟩ := charged
  cases assembled
  funext blocking medium
  cases blocking
  · exact Space.value_of_sub totals medium
  · exact Space.value_of_sub restricteds medium

theorem fitsWithin_available (budget : Budget) (requisition : Requisition) :
    requisition.needed.fitsWithin (budget.available requisition) =
      requisition.fits budget.share := by
  rw [Bool.eq_iff_iff, Space.fitsWithin_iff, Requisition.fits_iff]
  rfl

end Budget

/-! ## Reading a budget -/

namespace Budget

theorem ofMedium_eq_ok {capacity occupancy total restricted : Magnitude}
    (computed : ofMedium capacity occupancy = .ok (total, restricted)) :
    total.value = capacity.value - occupancy.value ∧
      restricted.value = capacity.value / 2 - occupancy.value := by
  simp only [ofMedium, Checked.bind_eq_ok_iff] at computed
  obtain ⟨total, totals, restricted, restricteds, assembled⟩ := computed
  cases assembled
  exact ⟨Magnitude.value_of_sub totals,
    by rw [Magnitude.value_of_sub restricteds, Magnitude.value_halve]⟩

section Read

variable {σ : Type} [Store σ] {store : σ} {direction : Direction}

theorem readFrom_cons_eq_ok_iff {budget final : Budget} {medium : Medium} {rest : List Medium} :
    readFrom store direction budget (medium :: rest) = .ok final ↔
      ∃ capacity occupancy total restricted,
        Store.capacity store direction medium = .ok capacity ∧
        Store.occupancy store direction medium = .ok occupancy ∧
        ofMedium capacity occupancy = .ok (total, restricted) ∧
        readFrom store direction
          ⟨budget.total.set medium total, budget.restricted.set medium restricted⟩ rest =
          .ok final := by
  have lifted : ∀ capacity occupancy : Magnitude,
      (liftM (ofMedium capacity occupancy) : Checked StoreError _) =
        Checked.ofArithmetic (ofMedium capacity occupancy) := fun _ _ => rfl
  simp only [readFrom, Checked.bind_eq_ok_iff, lifted, Checked.ofArithmetic_eq_ok_iff,
    Prod.exists, exists_and_left]

/-- A store answers all that a scan of a direction asks, and its answers leave this share. -/
def Offers (store : σ) (direction : Direction) (share : Share) : Prop :=
  ∃ capacity occupancy : Medium → Magnitude,
    (∀ medium, Store.capacity store direction medium = .ok (capacity medium)) ∧
    (∀ medium, Store.occupancy store direction medium = .ok (occupancy medium)) ∧
    share = Share.of (fun medium => (capacity medium).value) fun medium => (occupancy medium).value

/-- A store offers one share at most. -/
theorem Offers.unique {share other : Share} (offers : Offers store direction share)
    (again : Offers store direction other) : share = other := by
  obtain ⟨capacity, occupancy, capacities, occupancies, rfl⟩ := offers
  obtain ⟨capacity', occupancy', capacities', occupancies', rfl⟩ := again
  have sameCapacity : capacity' = capacity := by
    funext medium
    exact Except.ok.inj ((capacities' medium).symm.trans (capacities medium))
  have sameOccupancy : occupancy' = occupancy := by
    funext medium
    exact Except.ok.inj ((occupancies' medium).symm.trans (occupancies medium))
  rw [sameCapacity, sameOccupancy]

/-- A budget that was read is the share that the store offers. -/
theorem offers_of_read {budget : Budget} (answered : read store direction = .ok budget) :
    Offers store direction budget.share := by
  simp only [read, Medium.all, readFrom_cons_eq_ok_iff] at answered
  simp only [readFrom, Except.ok.injEq] at answered
  obtain ⟨fileCapacity, fileOccupancy, fileTotal, fileRestricted, fileCapacities, fileOccupancies,
    files, bulkCapacity, bulkOccupancy, bulkTotal, bulkRestricted, bulkCapacities,
    bulkOccupancies, bulks, heapCapacity, heapOccupancy, heapTotal, heapRestricted,
    heapCapacities, heapOccupancies, heaps, rfl⟩ := answered
  have file := ofMedium_eq_ok files
  have bulk := ofMedium_eq_ok bulks
  have heap := ofMedium_eq_ok heaps
  refine ⟨Space.get ⟨fileCapacity, bulkCapacity, heapCapacity⟩,
    Space.get ⟨fileOccupancy, bulkOccupancy, heapOccupancy⟩, ?_, ?_, ?_⟩
  · intro medium
    cases medium <;> assumption
  · intro medium
    cases medium <;> assumption
  · funext blocking medium
    cases blocking <;> cases medium <;>
      simp [share, Share.of, Space.set, Space.get, file, bulk, heap]

/-- A budget is refused only if the store refuses a question. -/
theorem refused_of_read {error : StoreError}
    (refused : read store direction = .error (.refused error)) :
    ∃ medium, Store.capacity store direction medium = .error (.refused error) ∨
      Store.occupancy store direction medium = .error (.refused error) := by
  have every : ∀ (media : List Medium) (budget : Budget),
      readFrom store direction budget media = .error (.refused error) →
      ∃ medium, Store.capacity store direction medium = .error (.refused error) ∨
        Store.occupancy store direction medium = .error (.refused error) := by
    intro media
    induction media with
    | nil =>
        intro budget impossible
        cases impossible
    | cons medium rest induction =>
        intro budget stopped
        simp only [readFrom, Checked.bind_eq_error_iff] at stopped
        rcases stopped with
          capacity | ⟨capacity, -, occupancy | ⟨occupancy, -, parts | ⟨parts, -, later⟩⟩⟩
        · exact ⟨medium, Or.inl capacity⟩
        · exact ⟨medium, Or.inr occupancy⟩
        · exact absurd parts (Checked.ofArithmetic_ne_refused _ _)
        · exact induction _ later
  exact every Medium.all Budget.zero refused

end Read

end Budget

/-! ## The walk -/

/-- The requisitions that are serviced in `after` and were pending in `before`, in order. -/
def turnedOn (before after : List Requisition) : List Requisition :=
  ((before.zip after).filter fun (old, new) => !old.serviced && new.serviced).map Prod.snd

namespace Walk

/-- A walk that was not stopped is the greedy pass, and grants what the pass turns on. -/
theorem along_eq {budget : Budget} {queue : List Requisition}
    (finished : (along budget queue).stopped = none) :
    along budget queue =
      ⟨grantAll budget.share queue, turnedOn queue (grantAll budget.share queue), none⟩ := by
  fun_induction along budget queue with
  | case1 budget => rfl
  | case2 budget head rest serviced left charged induction =>
      have equation : grantAll budget.share (head :: rest) = _ :=
        grantAll_cons_granted (Or.inl serviced) rest
      rw [Requisition.granted_of_serviced serviced, show head.need = _ from rfl] at equation
      rw [induction finished, equation, Budget.share_of_charge charged]
      simp only [pass, turnedOn, List.zip_cons_cons, List.filter_cons, serviced]
      rfl
  | case3 budget head rest serviced kind charged => cases finished
  | case4 budget head rest pending fits granted left charged induction =>
      rw [Budget.fitsWithin_available] at fits
      have equation : grantAll budget.share (head :: rest) = _ :=
        grantAll_cons_granted (Or.inr fits) rest
      rw [induction finished, equation, Budget.share_of_charge charged]
      simp only [grant, turnedOn, List.zip_cons_cons, List.filter_cons,
        Bool.eq_false_iff.mpr pending]
      rfl
  | case5 budget head rest pending fits granted kind charged => cases finished
  | case6 budget head rest pending unfit induction =>
      rw [Budget.fitsWithin_available] at unfit
      have pending := Bool.eq_false_iff.mpr pending
      have equation : grantAll budget.share (head :: rest) = _ :=
        grantAll_cons_skipped pending (Bool.eq_false_iff.mpr unfit) rest
      rw [induction finished, equation]
      simp only [pass, turnedOn, List.zip_cons_cons, List.filter_cons, pending]
      rfl

end Walk

end Admission
