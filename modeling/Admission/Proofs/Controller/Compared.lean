import Admission.Proofs.Controller.Unattended
import Admission.Proofs.Queue.Arrivals
import Admission.Proofs.Scan.Ahead

/-!
# Two requests in the same state

The same request is made twice in the same state, once at a low and once at a high priority, or
once with an attendant and once without.  Both times it is queued in the same slot and the same
share is gone over, and whether it is serviced is decided at its place of the queue, by what the
pass over those ahead of it leaves (`ScannedFor.isServiced`).

*Priorities.*  At a higher priority the place is further ahead, the pass over those ahead of it is
the same as far as it goes, and what it leaves is no less (`ScannedFor.higher`).

*Attendants.*  Without an attendant the place is the same, and the share is the larger one.
Where both are decided alike the rest of the queue is gone over alike, so that the same is left
once the requisition is taken off again (`ScannedFor.decidedAlike`).
-/

namespace Admission

/-! ## Places -/

/-- A requisition of a higher priority is put at the same place as one of a lower priority or
further ahead, in whatever order the queue is. -/
theorem Requisition.insert_higher {low high : Requisition}
    (order : ¬ high.priority < low.priority) (queue : List Requisition) :
    ∃ front middle back, queue = front ++ (middle ++ back) ∧
      high.insert queue = front ++ high :: (middle ++ back) ∧
      low.insert queue = (front ++ middle) ++ low :: back := by
  induction queue with
  | nil => exact ⟨[], [], [], rfl, rfl, rfl⟩
  | cons head rest induction =>
      by_cases belowHigh : head.priority < high.priority
      · obtain ⟨front, back, split, inserted⟩ := low.insert_eq (head :: rest)
        refine ⟨[], front, back, split, ?_, inserted⟩
        rw [insert, if_pos belowHigh, List.nil_append, split]
      · have notBelowLow : ¬ head.priority < low.priority :=
          Priority.not_lt_trans belowHigh order
        obtain ⟨front, middle, back, rfl, isHigh, isLow⟩ := induction
        refine ⟨head :: front, middle, back, rfl, ?_, ?_⟩
        · rw [insert, if_neg belowHigh, isHigh, List.cons_append]
        · rw [insert, if_neg notBelowLow, isLow, List.cons_append, List.cons_append]

/-- Going over a queue decides a pending requisition at its place, and goes over those behind it
with what it leaves. -/
theorem grantAll_middle (share : Share) (front back : List Requisition)
    {requisition : Requisition} (pending : requisition.serviced = false) :
    grantAll share (front ++ requisition :: back) =
      grantAll share front ++
        { requisition with
          serviced := requisition.fits (share.less (reserved [] (grantAll share front))) } ::
        grantAll
          (if requisition.fits (share.less (reserved [] (grantAll share front))) then
            (share.less (reserved [] (grantAll share front))).less requisition.need
          else share.less (reserved [] (grantAll share front))) back := by
  rw [grantAll_append]
  cases fits : requisition.fits (share.less (reserved [] (grantAll share front))) with
  | true =>
      rw [grantAll_cons_granted (Or.inr fits), if_pos rfl]
      rfl
  | false =>
      rw [grantAll_cons_skipped pending fits, if_neg Bool.false_ne_true, ← pending]

/-- Where a walk is stopped does not depend on a requisition, as long as it needs the same and is
decided alike at its place.  What is left behind each of those ahead is what its budget leaves,
charged or not. -/
theorem Walk.stopped_along_decided {requisition other : Requisition}
    (needed : other.needed = requisition.needed) (pending : requisition.serviced = false)
    (pendingToo : other.serviced = false) (budget : Budget) (front back : List Requisition)
    (alike : other.fits (budget.share.less (reserved [] (grantAll budget.share front))) =
      requisition.fits (budget.share.less (reserved [] (grantAll budget.share front)))) :
    (along budget (front ++ other :: back)).stopped =
      (along budget (front ++ requisition :: back)).stopped := by
  induction front generalizing budget with
  | nil =>
      rw [grantAll_nil, Share.less_reserved_nil, ← Budget.fitsWithin_available,
        ← Budget.fitsWithin_available, needed] at alike
      simp only [List.nil_append, along, pending, pendingToo, Bool.false_eq_true, if_false,
        alike, needed]
      split
      · cases budget.charge requisition.needed <;> rfl
      · rfl
  | cons head front induction =>
      have later : ∀ left : Budget,
          budget.share.less (reserved [] (grantAll budget.share (head :: front))) =
            left.share.less (reserved [] (grantAll left.share front)) →
          (along left (front ++ other :: back)).stopped =
            (along left (front ++ requisition :: back)).stopped := by
        intro left same
        rw [same] at alike
        exact induction left alike
      have charged : ∀ left, budget.charge head.needed = .ok left →
          (head.serviced = true ∨ head.fits budget.share = true) →
          budget.share.less (reserved [] (grantAll budget.share (head :: front))) =
            left.share.less (reserved [] (grantAll left.share front)) := by
        intro left charges grants
        have isLeft : left.share = budget.share.less head.need := Budget.share_of_charge charges
        rw [grantAll_cons_granted grants, isLeft]
        funext blocking medium
        rw [Share.less_apply, Share.less_apply, Share.less_apply,
          reserved_cons_serviced (by simp), Requisition.granted_need]
        omega
      simp only [List.cons_append, along]
      split
      · next serviced =>
          cases charges : budget.charge head.needed with
          | ok left => exact later left (charged left charges (Or.inl serviced))
          | error kind => rfl
      · next isPending =>
          split
          · next fits =>
              rw [Budget.fitsWithin_available] at fits
              cases charges : budget.charge head.needed with
              | ok left => exact later left (charged left charges (Or.inr fits))
              | error kind => rfl
          · next unfit =>
              rw [Budget.fitsWithin_available] at unfit
              refine later budget ?_
              rw [grantAll_cons_skipped (Bool.eq_false_iff.mpr isPending)
                (Bool.eq_false_iff.mpr unfit)]
              funext blocking medium
              rw [Share.less_apply, Share.less_apply,
                reserved_cons_pending (Bool.eq_false_iff.mpr isPending)]

/-! ## Requests that were scanned for -/

/-- A requisition was queued and the scan for it was made. -/
structure ScannedFor {σ : Type} [Store σ] (direction : Direction) (requisition : Requisition)
    (controller : Controller σ) (taken : SlotPool) (share : Share) (scanned : Controller σ) :
    Prop where
  valid : requisition.needed.valid = true
  pending : requisition.serviced = false
  took : controller.ledger.pool.take = some (requisition.slot, taken)
  offers : Budget.Offers controller.store direction share
  scans : ∃ count, Action.scan direction (controller.queuing direction requisition taken) =
    .ok count scanned

section ScannedFor

variable {σ : Type} [Store σ] {direction : Direction} {requisition : Requisition}
  {controller scanned final : Controller σ} {taken : SlotPool} {share : Share}
  {front back : List Requisition} {needed : Space} {priority : Priority}
  {attendant : Option AttendantId} {hold : Bool} {slot : SlotId}

namespace Action

/-- A submission that is not refused was scanned for. -/
theorem scannedFor_of_submit {result : Answer}
    (done : submit direction needed priority attendant hold controller = .ok result final) :
    ∃ slot taken share scanned,
      ScannedFor direction ⟨slot, needed, priority, attendant, false⟩ controller taken share
        scanned ∧
      answer direction slot attendant hold scanned = .ok result final := by
  obtain ⟨valid, slot, taken, count, scanned, took, scans, isAnswer⟩ := submit_eq_ok done
  obtain ⟨share, offers, -⟩ := scan_eq_ok scans
  exact ⟨slot, taken, share, scanned, ⟨valid, rfl, took, offers, count, scans⟩, isAnswer⟩

end Action

namespace ScannedFor

theorem isScanned (made : ScannedFor direction requisition controller taken share scanned) :
    scanned = (controller.queuing direction requisition taken).scanned direction share := by
  obtain ⟨count, scans⟩ := made.scans
  obtain ⟨found, offers, rfl, -⟩ := Action.scan_eq_ok scans
  rw [offers.unique made.offers]

theorem queue_scanned (made : ScannedFor direction requisition controller taken share scanned) :
    scanned.ledger.queue direction =
      grantAll share (requisition.insert (controller.ledger.queue direction)) := by
  rw [made.isScanned, Controller.ledger_scanned, Ledger.queue_setQueue_self]
  congr 1
  exact Ledger.queue_joined_self controller.ledger direction requisition taken

theorem queued (made : ScannedFor direction requisition controller taken share scanned) :
    requisition.slot ∈ (scanned.ledger.queue direction).map Requisition.slot := by
  rw [made.isScanned]
  exact Controller.mem_slots_scanned (controller.mem_slots_queuing ..) share

/-- The ledger once the requisition is taken off again. -/
theorem ledger_removed
    (made : ScannedFor direction requisition controller taken share scanned) :
    scanned.ledger.remove direction requisition.slot =
      { controller.ledger.setQueue direction
          ((grantAll share (requisition.insert (controller.ledger.queue direction))).filter
            fun queued => queued.slot ≠ requisition.slot) with
        pool := taken.release requisition.slot } := by
  rw [made.isScanned]
  cases direction <;> rfl

/-- A submission makes its scan, and answers. -/
theorem submit_eq
    (made : ScannedFor direction ⟨slot, needed, priority, attendant, false⟩ controller taken
      share scanned) :
    Action.submit direction needed priority attendant hold controller =
      Action.answer direction slot attendant hold scanned := by
  obtain ⟨count, scans⟩ := made.scans
  rw [Action.submit_run made.valid made.took, Action.bind_run,
    Action.scanFor_run (controller.mem_slots_queuing ..), scans]

/-- Whether a requisition is serviced is decided at its place. -/
theorem isServiced (made : ScannedFor direction requisition controller taken share scanned)
    (fresh : requisition.slot ∉ (controller.ledger.queue direction).map Requisition.slot)
    (split : controller.ledger.queue direction = front ++ back)
    (placed : requisition.insert (controller.ledger.queue direction) =
      front ++ requisition :: back) :
    scanned.ledger.isServiced direction requisition.slot =
      requisition.fits (share.less (reserved [] (grantAll share front))) := by
  have apart : requisition.slot ∉ (grantAll share front).map Requisition.slot := by
    rw [split, List.map_append, List.mem_append, not_or] at fresh
    rw [map_slot_grantAll]
    exact fresh.1
  have queue := made.queue_scanned
  rw [placed, grantAll_middle share front back made.pending] at queue
  exact Ledger.isServiced_of_split queue apart

/-- Unless an overflow stops it, a request in the state in which another one was scanned for is
scanned for as well, in the same slot and with the same share. -/
theorem again (made : ScannedFor direction requisition controller taken share scanned)
    (other : Requisition)
    (slot : other.slot = requisition.slot) (valid : other.needed.valid = true)
    (pending : other.serviced = false)
    (finishes : (Action.scan direction).Finishes (controller.queuing direction other taken)) :
    ∃ later, ScannedFor direction other controller taken share later :=
  ⟨_, valid, pending, slot ▸ made.took, made.offers, _,
    Action.scan_of_offers made.offers finishes⟩

/-! ## At a higher priority -/

/-- What is serviced at a low priority is serviced at a higher one: the pass over those ahead of the
low place begins with the one over those ahead of the high. -/
theorem higher {low high : Requisition} {later : Controller σ}
    (made : ScannedFor direction low controller taken share scanned)
    (madeHigh : ScannedFor direction high controller taken share later)
    (fresh : low.slot ∉ (controller.ledger.queue direction).map Requisition.slot)
    (nonneg : ∀ other ∈ controller.ledger.queue direction, ∀ medium, 0 ≤ other.need medium)
    (same : high = { low with priority := high.priority })
    (order : ¬ high.priority < low.priority)
    (serviced : scanned.ledger.isServiced direction low.slot = true) :
    later.ledger.isServiced direction high.slot = true := by
  obtain ⟨front, middle, back, split, isHigh, isLow⟩ :=
    Requisition.insert_higher order (controller.ledger.queue direction)
  have slot : high.slot = low.slot := by rw [same]
  rw [made.isServiced fresh (by rw [split, List.append_assoc]) isLow] at serviced
  rw [madeHigh.isServiced (slot ▸ fresh) split isHigh]
  have fits : high.fits (share.less (reserved [] (grantAll share (front ++ middle)))) = true := by
    rw [same]
    exact serviced
  refine Requisition.fits_mono (fun blocking medium => ?_) fits
  have between : 0 ≤ reserved [] (grantAll (share.less (reserved [] (grantAll share front)))
      middle) medium := by
    refine reserved_nonneg (nonneg_grantAll fun other member => nonneg other ?_ medium)
    rw [split]
    simp [member]
  rw [grantAll_append, Share.less_apply, Share.less_apply, reserved_append]
  omega

/-! ## With an attendant and without -/

/-- Two requisitions of the same slot, need and priority that are decided alike at their place are
serviced alike, and leave the same once they are taken off again. -/
theorem decidedAlike {other : Requisition}
    (made : ScannedFor direction requisition controller taken share scanned)
    (fresh : requisition.slot ∉ (controller.ledger.queue direction).map Requisition.slot)
    (same : other = { requisition with attendant := other.attendant })
    (split : controller.ledger.queue direction = front ++ back)
    (placed : ∀ requisition : Requisition, requisition.priority = other.priority →
      requisition.insert (controller.ledger.queue direction) = front ++ requisition :: back)
    (alike : other.fits (share.less (reserved [] (grantAll share front))) =
      requisition.fits (share.less (reserved [] (grantAll share front)))) :
    ∃ later, ScannedFor direction other controller taken share later ∧
      later.ledger.isServiced direction other.slot =
        scanned.ledger.isServiced direction requisition.slot ∧
      later.ledger.remove direction other.slot =
        scanned.ledger.remove direction requisition.slot := by
  have slot : other.slot = requisition.slot := by rw [same]
  have needed : other.needed = requisition.needed := by rw [same]
  have priority : requisition.priority = other.priority := by rw [same]
  have pending : other.serviced = false := by rw [same]; exact made.pending
  have isPlaced := placed requisition priority
  have otherPlaced := placed other rfl
  obtain ⟨later, madeToo⟩ : ∃ later, ScannedFor direction other controller taken share later := by
    obtain ⟨count, scans⟩ := made.scans
    refine made.again other slot (needed ▸ made.valid) pending
      (Action.scan_exact_of_stopped scans rfl fun budget answered => ?_)
    have isShare : budget.share = share := (Budget.offers_of_read answered).unique made.offers
    rw [← isShare] at alike
    have queues : ∀ queued : Requisition, queued.priority = other.priority →
        (controller.queuing direction queued taken).ledger.queue direction =
          front ++ queued :: back := fun queued equal =>
      (Ledger.queue_joined_self controller.ledger direction queued taken).trans
        (placed queued equal)
    rw [queues requisition priority, queues other rfl]
    exact Walk.stopped_along_decided needed made.pending pending budget front back alike
  refine ⟨later, madeToo, ?_, ?_⟩
  · rw [made.isServiced fresh split isPlaced,
      madeToo.isServiced (slot ▸ fresh) split otherPlaced, alike]
  · have rest : (grantAll share (other.insert (controller.ledger.queue direction))).filter
          (fun queued => queued.slot ≠ requisition.slot) =
        (grantAll share (requisition.insert (controller.ledger.queue direction))).filter
          (fun queued => queued.slot ≠ requisition.slot) := by
      have need : other.need = requisition.need := by
        funext medium
        rw [Requisition.need, needed, Requisition.need]
      rw [isPlaced, otherPlaced, grantAll_middle _ _ _ made.pending,
        grantAll_middle _ _ _ pending, alike, need, List.filter_append, List.filter_append,
        List.filter_cons_of_neg (by simp [slot]), List.filter_cons_of_neg (by simp)]
    rw [madeToo.ledger_removed, made.ledger_removed, slot, rest]

end ScannedFor

namespace Action

section Higher

variable {low high : Priority}
  (fresh : ∀ slot taken, controller.ledger.pool.take = some (slot, taken) →
    slot ∉ (controller.ledger.queue direction).map Requisition.slot)
  (nonneg : ∀ other ∈ controller.ledger.queue direction, ∀ medium, 0 ≤ other.need medium)
  (order : ¬ high < low)
include fresh nonneg order

/-- A submission that is serviced at a low priority is scanned for at a higher one and serviced,
unless an overflow stops it. -/
theorem serviced_higher
    (made : ScannedFor direction ⟨slot, needed, low, attendant, false⟩ controller taken share
      scanned)
    (serviced : scanned.ledger.isServiced direction slot = true)
    (finishes : (submit direction needed high attendant hold).Finishes controller) :
    ∃ later, ScannedFor direction ⟨slot, needed, high, attendant, false⟩ controller taken share
        later ∧ later.ledger.isServiced direction slot = true := by
  obtain ⟨later, madeHigh⟩ := made.again ⟨slot, needed, high, attendant, false⟩ rfl made.valid rfl
    (scan_finishes_of_submit made.valid made.took finishes)
  exact ⟨later, madeHigh,
    made.higher madeHigh (fresh slot taken made.took) nonneg rfl order serviced⟩

/-- A request that is granted at a low priority is granted at a higher one. -/
theorem granted_higher
    (granted : request direction needed low attendant controller = .ok .granted final)
    (finishes : (request direction needed high attendant).Finishes controller) :
    ∃ later, request direction needed high attendant controller = .ok .granted later := by
  obtain ⟨slot, taken, share, scanned, made, answered⟩ := scannedFor_of_submit granted
  rcases answer_cases made.queued answered with ⟨-, serviced, -⟩ | ⟨⟨⟩, -⟩ | ⟨⟨⟩, -⟩
  obtain ⟨later, madeHigh, servicedHigh⟩ :=
    serviced_higher fresh nonneg order made serviced finishes
  exact ⟨_, by rw [request, madeHigh.submit_eq, answer_of_granted madeHigh.queued servicedHigh]⟩

/-- The same of a creation of an object with an initial extent: neither scan touches the store. -/
theorem createdReserved_higher {source : Source} {location : Location} {id : ObjectId}
    (created : createReserved direction source location low id controller =
      .ok (.created id) final)
    (finishes : (createReserved direction source location high id).Finishes controller) :
    ∃ later, createReserved direction source location high id controller =
      .ok (.created id) later := by
  unfold createReserved at created finishes ⊢
  obtain ⟨needed, same, sized, submits⟩ := bind_eq_ok_iff.mp created
  obtain rfl := (spaceNeeded_keeps source location controller).1 sized
  obtain ⟨result, submitted, isSubmitted, stores⟩ := bind_eq_ok_iff.mp submits
  have finishesToo := finishes.of_bind.2 needed _ sized
  obtain ⟨slot, taken, share, scanned, made, answered⟩ := scannedFor_of_submit isSubmitted
  rcases answer_cases made.queued answered with
    ⟨rfl, -⟩ | ⟨rfl, -⟩ | ⟨rfl, rfl, ⟨serviced, -⟩ | ⟨-, waits⟩⟩
  · cases stores
  · cases stores
  · obtain ⟨later, madeHigh, servicedHigh⟩ :=
      serviced_higher fresh nonneg order made serviced finishesToo.of_bind.1
    have isSubmittedHigh : submit direction needed high none true same =
        .ok (.queued ⟨direction, slot, none⟩) later := by
      rw [madeHigh.submit_eq, answer_of_held servicedHigh]
    have store : later.store = submitted.store := by
      rw [madeHigh.isScanned, made.isScanned]
      rfl
    obtain ⟨stored, -⟩ := created_of_store stores
    obtain ⟨last, done⟩ := store_of_created (store ▸ stored)
      (finishesToo.of_bind.2 _ later isSubmittedHigh)
    exact ⟨last, bind_eq_ok_iff.mpr ⟨needed, _, sized,
      bind_eq_ok_iff.mpr ⟨_, later, isSubmittedHigh, done⟩⟩⟩
  · exact absurd rfl waits

/-- A creation that makes its object at a low priority makes it at a higher one.  Of a slice nothing
is requested, so that there is nothing to which the priority could matter. -/
theorem created_higher {source : Source} {id : ObjectId}
    (created : create direction source low none id controller =
      .ok (.finished (.created id)) final)
    (finishes : (create direction source high none id).Finishes controller) :
    ∃ later, create direction source high none id controller =
      .ok (.finished (.created id)) later := by
  rw [create_unattended] at created finishes ⊢
  obtain ⟨made, between, atOnce, isCreated⟩ := bind_eq_ok_iff.mp created
  cases isCreated
  suffices ∃ later, createAtOnce direction source high id controller = .ok (.created id) later by
    obtain ⟨later, done⟩ := this
    exact ⟨later, bind_eq_ok_iff.mpr ⟨_, later, done, rfl⟩⟩
  have finishes := finishes.of_bind.1
  unfold createAtOnce at atOnce finishes ⊢
  cases isLocation : source.location with
  | none =>
      simp only [isLocation] at atOnce ⊢
      exact ⟨_, atOnce⟩
  | some location =>
      simp only [isLocation] at atOnce finishes ⊢
      split at atOnce
      · cases atOnce
      · next nonempty =>
          rw [if_neg nonempty] at finishes ⊢
          exact createdReserved_higher fresh nonneg order atOnce finishes

end Higher

section Unattended

variable (fresh : ∀ slot taken, controller.ledger.pool.take = some (slot, taken) →
    slot ∉ (controller.ledger.queue direction).map Requisition.slot)
  (nonneg : ∀ other ∈ controller.ledger.queue direction, ∀ medium, 0 ≤ other.need medium)
  (grounded : Budget.Grounded controller.store direction)
include fresh nonneg grounded

/-- What is serviced for one that waits would be for one that does not, and what is not serviced
for one that does not wait would not be for one that does.  Either way the same is left once it is
taken off again. -/
theorem decided_unattended {waits : Option AttendantId} (alone : Option AttendantId)
    (made : ScannedFor direction ⟨slot, needed, priority, waits, false⟩ controller taken share
      scanned)
    (decided : scanned.ledger.isServiced direction slot = true ∧ alone = none ∨
      scanned.ledger.isServiced direction slot = false ∧ waits = none) :
    ∃ later, ScannedFor direction ⟨slot, needed, priority, alone, false⟩ controller taken share
        later ∧
      later.ledger.isServiced direction slot = scanned.ledger.isServiced direction slot ∧
      later.ledger.remove direction slot = scanned.ledger.remove direction slot := by
  obtain ⟨front, back, split, placed⟩ :=
    Requisition.exists_place priority (controller.ledger.queue direction)
  have free := fresh slot taken made.took
  have isServiced := made.isServiced free split (placed _ rfl)
  refine made.decidedAlike free rfl split placed ?_
  have least : ∀ medium, 0 ≤ reserved [] (grantAll share front) medium := fun medium =>
    reserved_nonneg (nonneg_grantAll fun other member =>
      nonneg other (split ▸ List.mem_append_left back member) medium)
  have ranked : ∀ someone : Option AttendantId,
      (⟨slot, needed, priority, someone, false⟩ : Requisition).fits
        (share.less (reserved [] (grantAll share front))) = true →
      (⟨slot, needed, priority, none, false⟩ : Requisition).fits
        (share.less (reserved [] (grantAll share front))) = true :=
    fun _ => Requisition.fits_of_ranked (grounded.ranked made.offers) least rfl rfl
  rcases decided with ⟨serviced, rfl⟩ | ⟨pending, rfl⟩
  · have fits := isServiced.symm.trans serviced
    exact (ranked waits fits).trans fits.symm
  · have unfit := isServiced.symm.trans pending
    refine Eq.trans (Bool.eq_false_iff.mpr fun fits => ?_) unfit.symm
    exact Bool.eq_false_iff.mp unfit (ranked alone fits)

/-- What is granted to a requester that waits is granted to one that does not, and both leave the
same ledger. -/
theorem granted_unattended {id : AttendantId}
    (granted : request direction needed priority (some id) controller = .ok .granted final) :
    ∃ alone, request direction needed priority none controller = .ok .granted alone ∧
      alone.ledger = final.ledger := by
  obtain ⟨slot, taken, share, scanned, made, answered⟩ := scannedFor_of_submit granted
  rcases answer_cases made.queued answered with
    ⟨-, serviced, -, ledger⟩ | ⟨⟨⟩, -⟩ | ⟨⟨⟩, -⟩
  obtain ⟨later, madeAlone, alike, same⟩ :=
    decided_unattended fresh nonneg grounded none made (Or.inl ⟨serviced, rfl⟩)
  refine ⟨{ later.shredded direction slot with
    attendants := signaled later.attendants Attendants.reset none }, ?_, same.trans ledger.symm⟩
  rw [request, madeAlone.submit_eq, answer_of_granted madeAlone.queued (alike.trans serviced)]

/-- What is not serviceable for a requester that does not wait stays pending for one that does,
and both leave the same ledger beside it. -/
theorem pending_attended
    (refused : request direction needed priority none controller = .ok .notServiceable final)
    (id : AttendantId) :
    ∃ slot waiting, request direction needed priority (some id) controller =
        .ok (.queued ⟨direction, slot, some id⟩) waiting ∧
      slot ∈ (waiting.ledger.queue direction).map Requisition.slot ∧
      waiting.ledger.isServiced direction slot = false ∧
      waiting.ledger.remove direction slot = final.ledger := by
  obtain ⟨slot, taken, share, scanned, made, answered⟩ := scannedFor_of_submit refused
  rcases answer_cases made.queued answered with
    ⟨⟨⟩, -⟩ | ⟨-, pending, -, ledger⟩ | ⟨⟨⟩, -⟩
  obtain ⟨later, madeWaits, alike, same⟩ :=
    decided_unattended fresh nonneg grounded (some id) made (Or.inr ⟨pending, rfl⟩)
  refine ⟨slot, later, ?_, madeWaits.queued, alike.trans pending, same.trans ledger.symm⟩
  rw [request, madeWaits.submit_eq, answer_of_pending (alike.trans pending)]

end Unattended

end Action

end ScannedFor

end Admission
