import Admission.Proofs.Controller.Restored
import Admission.Proofs.Scan.Fixpoint

/-!
# Requests that are answered at once

A request is queued, the whole queue is scanned with it, and if it is answered at once it is taken
off again without another scan.  In a queue that is settled for what the store has left, a
newcomer changes nothing for the others: the scan services it if it fits, and nobody else
(`Newcomer`).  So the answer leaves no trace (`Action.immediate_of_request`), and the same request
is answered in the same way again, in the slot that it has freed (`Action.request_times`).
-/

namespace Admission

/-! ## The place of a newcomer -/

/-- Requisitions of one priority are all put at the same place of a queue. -/
theorem Requisition.exists_place (priority : Priority) (queue : List Requisition) :
    ∃ front back, queue = front ++ back ∧
      ∀ requisition : Requisition, requisition.priority = priority →
        requisition.insert queue = front ++ requisition :: back := by
  induction queue with
  | nil => exact ⟨[], [], rfl, fun _ _ => rfl⟩
  | cons head rest induction =>
      by_cases lower : head.priority < priority
      · refine ⟨[], head :: rest, rfl, ?_⟩
        rintro requisition rfl
        rw [insert, if_pos lower, List.nil_append]
      · obtain ⟨front, back, split, placed⟩ := induction
        refine ⟨head :: front, back, by rw [split, List.cons_append], ?_⟩
        rintro requisition rfl
        rw [insert, if_neg lower, placed requisition rfl, List.cons_append]

/-- Where a walk is stopped does not depend on the slots of the requisitions. -/
theorem Walk.stopped_along_slot (budget : Budget) (front back : List Requisition)
    (requisition : Requisition) (slot : SlotId) :
    (along budget (front ++ { requisition with slot := slot } :: back)).stopped =
      (along budget (front ++ requisition :: back)).stopped := by
  induction front generalizing budget with
  | nil =>
      simp only [List.nil_append, along]
      have same : budget.available { requisition with slot := slot } =
          budget.available requisition := rfl
      rw [same]
      split
      · cases budget.charge requisition.needed <;> rfl
      · split
        · cases budget.charge requisition.needed <;> rfl
        · rfl
  | cons head front induction =>
      simp only [List.cons_append, along]
      split
      · cases budget.charge head.needed with
        | ok left => exact induction left
        | error kind => rfl
      · split
        · cases budget.charge head.needed with
          | ok left => exact induction left
          | error kind => rfl
        · exact induction budget

/-- Where only a pending requisition in the middle changes, only that one is turned on. -/
theorem turnedOn_middle {requisition : Requisition} (pending : requisition.serviced = false)
    (front back : List Requisition) (fits : Bool) :
    turnedOn (front ++ requisition :: back)
        (front ++ { requisition with serviced := fits } :: back) =
      if fits then [{ requisition with serviced := true }] else [] := by
  induction front with
  | nil =>
      rw [List.nil_append, List.nil_append, turnedOn_cons, turnedOn_self, List.append_nil]
      cases fits <;> simp [pending]
  | cons head front induction =>
      rw [List.cons_append, List.cons_append, turnedOn_cons, induction]
      simp

/-- The requisition in a slot is the one behind a front that does not have the slot. -/
theorem Ledger.isServiced_of_split {ledger : Ledger} {direction : Direction}
    {front back : List Requisition} {requisition : Requisition}
    (split : ledger.queue direction = front ++ requisition :: back)
    (apart : requisition.slot ∉ front.map Requisition.slot) :
    ledger.isServiced direction requisition.slot = requisition.serviced := by
  have notFront : front.find? (fun other => other.slot = requisition.slot) = none := by
    refine List.find?_eq_none.mpr fun other member => ?_
    simpa using fun same => apart (List.mem_map.mpr ⟨other, member, same⟩)
  rw [isServiced, find?, split, List.find?_append, notFront]
  simp

/-! ## A newcomer in a settled queue -/

/-- A requisition that comes to a queue that is settled for what the store offers: its place, its
slot, whether there is space for it beside the serviced ones ahead, and the controller after the
scan that is made for it. -/
structure Newcomer {σ : Type} [Store σ] (controller : Controller σ) (direction : Direction)
    (requisition : Requisition) (taken : SlotPool) (share : Share)
    (front back : List Requisition) (fits : Bool) (scanned : Controller σ) : Prop where
  nonneg : ∀ medium, 0 ≤ requisition.need medium
  pending : requisition.serviced = false
  took : controller.ledger.pool.take = some (requisition.slot, taken)
  fresh : requisition.slot ∉ (controller.ledger.queue direction).map Requisition.slot
  offers : Budget.Offers controller.store direction share
  settled : Settled share (controller.ledger.queue direction)
  split : controller.ledger.queue direction = front ++ back
  placed : ∀ other : Requisition, other.priority = requisition.priority →
    other.insert (controller.ledger.queue direction) = front ++ other :: back
  fits : requisition.fits (share.less (reserved [] front)) = fits
  scanned : scanned = (controller.queuing direction requisition taken).scanned direction share

/-- The answer to a request that is not queued for longer than it takes. -/
def Answer.immediate (fits : Bool) : Answer := if fits then .granted else .notServiceable

/-- What is told of a requisition that is queued and answered at once. -/
def Requisition.passing (requisition : Requisition) (direction : Direction) (fits : Bool) :
    List Event :=
  [⟨direction, requisition.slot, .queued requisition.priority requisition.needed⟩,
    ⟨direction, requisition.slot, if fits then .serviced else .notServiceable⟩,
    ⟨direction, requisition.slot, .shredded⟩]

namespace Newcomer

variable {σ : Type} [Store σ] {controller scanned final : Controller σ} {direction : Direction}
  {requisition : Requisition} {taken : SlotPool} {share : Share} {front back : List Requisition}
  {fits claimed : Bool} {serviced : Nat}

theorem queue_queuing
    (newcomer : Newcomer controller direction requisition taken share front back fits scanned) :
    (controller.queuing direction requisition taken).ledger.queue direction =
      front ++ requisition :: back :=
  (Ledger.queue_joined_self controller.ledger direction requisition taken).trans
    (newcomer.placed requisition rfl)

/-- The scan leaves the others as they are. -/
theorem queue_scanned
    (newcomer : Newcomer controller direction requisition taken share front back fits scanned) :
    scanned.ledger.queue direction =
      front ++ { requisition with serviced := fits } :: back := by
  have settled : Settled share (front ++ back) := newcomer.split ▸ newcomer.settled
  rw [newcomer.scanned, Controller.ledger_scanned, Ledger.queue_setQueue_self,
    newcomer.queue_queuing, settled.grantAll_insert newcomer.nonneg newcomer.pending,
    newcomer.fits]

theorem isServiced
    (newcomer : Newcomer controller direction requisition taken share front back fits scanned) :
    scanned.ledger.isServiced direction requisition.slot = fits := by
  have apart : requisition.slot ∉ front.map Requisition.slot := by
    have fresh := newcomer.fresh
    rw [newcomer.split, List.map_append, List.mem_append, not_or] at fresh
    exact fresh.1
  exact Ledger.isServiced_of_split newcomer.queue_scanned apart

theorem queued
    (newcomer : Newcomer controller direction requisition taken share front back fits scanned) :
    requisition.slot ∈ (scanned.ledger.queue direction).map Requisition.slot := by
  rw [newcomer.queue_scanned]
  simp

/-- Without the newcomer the queue is what it was before it came. -/
theorem rest
    (newcomer : Newcomer controller direction requisition taken share front back fits scanned) :
    (scanned.ledger.queue direction).filter (fun other => other.slot ≠ requisition.slot) =
      controller.ledger.queue direction := by
  have others : ∀ other ∈ front ++ back, decide (other.slot ≠ requisition.slot) = true := by
    intro other member
    rw [← newcomer.split] at member
    exact decide_eq_true fun same =>
      newcomer.fresh (List.mem_map.mpr ⟨other, member, same⟩)
  rw [newcomer.queue_scanned, List.filter_append, List.filter_cons_of_neg (by simp),
    ← List.filter_append, List.filter_eq_self.mpr others, newcomer.split]

/-- The scan services and signals the newcomer alone, or nobody. -/
theorem effect
    (newcomer : Newcomer controller direction requisition taken share front back fits scanned)
    (scans : Action.scan direction (controller.queuing direction requisition taken) =
      .ok serviced scanned) :
    serviced = fits.toNat ∧
    scanned.attendants =
      Action.signaled (Action.signaled controller.attendants Attendants.reset
        requisition.attendant) Attendants.give (if fits then requisition.attendant else none) ∧
    scanned.journal.events = controller.journal.events ++
      ⟨direction, requisition.slot, .queued requisition.priority requisition.needed⟩ ::
        if fits then [⟨direction, requisition.slot, .serviced⟩] else [] := by
  have effect := Controller.scanEffect_scanned
    (controller.queuing direction requisition taken) direction share
  have turned : turnedOn ((controller.queuing direction requisition taken).ledger.queue direction)
      (scanned.ledger.queue direction) =
      if fits then [{ requisition with serviced := true }] else [] := by
    rw [newcomer.queue_scanned, newcomer.queue_queuing]
    exact turnedOn_middle newcomer.pending front back fits
  rw [← newcomer.scanned] at effect
  refine ⟨?_, ?_, ?_⟩
  · obtain ⟨found, offers, isScanned, count⟩ := Action.scan_eq_ok scans
    have same : found = share := offers.unique newcomer.offers
    subst same
    rw [count, effect.count, turned]
    cases fits <;> rfl
  · rw [effect.signals, turned, Controller.queuing]
    cases fits
    · rfl
    · cases requisition.attendant <;> simp [Action.signaled]
  · rw [effect.events, turned, Controller.queuing, Journal.events_append, List.append_assoc]
    cases fits <;> rfl

/-- What is left once the newcomer is taken off again. -/
theorem restored
    (newcomer : Newcomer controller direction requisition taken share front back fits scanned) :
    controller.ledger.Restored (scanned.ledger.remove direction requisition.slot) ∧
      (scanned.ledger.remove direction requisition.slot).pool =
        taken.release requisition.slot := by
  have pool : scanned.ledger.pool = taken := by
    rw [newcomer.scanned]
    exact (Ledger.pool_setQueue _ _ _).trans (Ledger.pool_enqueue _ _ _)
  have others : ∀ other, other ≠ direction →
      scanned.ledger.queue other = controller.ledger.queue other := by
    intro other different
    rw [newcomer.scanned]
    exact (Ledger.queue_setQueue_of_ne _ _ different).trans
      (Ledger.queue_joined_of_ne requisition taken different)
  exact ⟨Ledger.restored_of_rest newcomer.took pool others newcomer.rest,
    by rw [Ledger.pool_remove, pool]⟩

/-- A newcomer that fits, or that does not wait, is answered at once and leaves no trace. -/
theorem answered
    (newcomer : Newcomer controller direction requisition taken share front back fits scanned)
    (atOnce : fits = true ∨ requisition.attendant = none)
    (scans : Action.scan direction (controller.queuing direction requisition taken) =
      .ok serviced scanned) :
    ∃ final, Action.answer direction requisition.slot requisition.attendant false scanned =
        .ok (.immediate fits) final ∧
      Restored requisition.attendant (requisition.passing direction fits) controller final ∧
      final.ledger.pool = taken.release requisition.slot := by
  obtain ⟨-, attendants, events⟩ := newcomer.effect scans
  obtain ⟨ledger, pool⟩ := newcomer.restored
  have store : scanned.store = controller.store := by
    rw [newcomer.scanned]
    rfl
  cases fits with
  | true =>
      refine ⟨_, Action.answer_of_granted newcomer.queued newcomer.isServiced,
        ⟨ledger, store, ?_, ?_⟩, pool⟩
      · rw [attendants]
        cases requisition.attendant with
        | none => rfl
        | some id =>
            exact (Attendants.reset_give _ id).trans (Attendants.reset_reset _ id)
      · rw [Controller.shredded, Controller.record, Journal.events_append, events]
        simp [Requisition.passing, Journal.events, Journal.event?]
  | false =>
      have alone := atOnce.resolve_left Bool.false_ne_true
      rw [if_neg Bool.false_ne_true] at attendants
      rw [alone] at attendants ⊢
      refine ⟨_, Action.answer_of_notServiceable newcomer.queued newcomer.isServiced,
        ⟨ledger, store, attendants, ?_⟩, pool⟩
      rw [Controller.shredded, Controller.record, Controller.record, Journal.events_append,
        Journal.events_append, events]
      simp [Requisition.passing, Journal.events, Journal.event?]

/-- Only a newcomer that fits or does not wait is answered at once. -/
theorem atOnce_of_answer
    (newcomer : Newcomer controller direction requisition taken share front back fits scanned)
    (isAnswer : Action.answer direction requisition.slot requisition.attendant false scanned =
      .ok (.immediate claimed) final) :
    claimed = fits ∧ (fits = true ∨ requisition.attendant = none) := by
  cases fits with
  | true =>
      rw [Action.answer_of_granted newcomer.queued newcomer.isServiced] at isAnswer
      cases claimed <;> cases isAnswer
      exact ⟨rfl, Or.inl rfl⟩
  | false =>
      cases isAttendant : requisition.attendant with
      | none =>
          rw [isAttendant, Action.answer_of_notServiceable newcomer.queued
            newcomer.isServiced] at isAnswer
          cases claimed <;> cases isAnswer
          exact ⟨rfl, Or.inr rfl⟩
      | some waiting =>
          rw [isAttendant, Action.answer_of_pending newcomer.isServiced] at isAnswer
          cases claimed <;> cases isAnswer

/-- What can be said of a newcomer can be said of the same one that comes again, in the slot that
it had. -/
theorem again {attendant : Option AttendantId} {told : List Event}
    (newcomer : Newcomer controller direction requisition taken share front back fits scanned)
    (ready : controller.ledger.Ready) (restored : Restored attendant told controller final)
    (pool : final.ledger.pool = taken.release requisition.slot) :
    final.ledger.Ready ∧ ∃ takenAgain,
      Newcomer final direction { requisition with slot := requisition.slot.renew } takenAgain
        share front back fits ((final.queuing direction
          { requisition with slot := requisition.slot.renew } takenAgain).scanned direction
            share) := by
  obtain ⟨readyAgain, takenAgain, tookAgain⟩ :=
    ready.released newcomer.took restored.ledger pool
  refine ⟨readyAgain, takenAgain, ?_⟩
  exact {
    nonneg := newcomer.nonneg
    pending := newcomer.pending
    took := tookAgain
    fresh := readyAgain.fresh tookAgain direction
    offers := by
      rw [restored.store]
      exact newcomer.offers
    settled := by
      rw [restored.ledger.queue]
      exact newcomer.settled
    split := by
      rw [restored.ledger.queue]
      exact newcomer.split
    placed := by
      rw [restored.ledger.queue]
      exact newcomer.placed
    fits := newcomer.fits
    scanned := rfl }

end Newcomer

/-! ## Requests -/

/-- A request that was answered at once.  It had a slot of its own for as long as it took, the
scan that it made serviced and signaled nobody else, and it has left no trace. -/
structure Immediate {σ : Type} [Store σ] (direction : Direction) (requisition : Requisition)
    (fits : Bool) (before after : Controller σ) : Prop where
  fresh : ∀ other, requisition.slot ∉ (before.ledger.queue other).map Requisition.slot
  scanned : ∃ taken scanned,
    Action.scan direction (before.queuing direction requisition taken) =
      .ok fits.toNat scanned ∧
    (scanned.ledger.queue direction).filter (fun other => other.slot ≠ requisition.slot) =
      before.ledger.queue direction ∧
    scanned.attendants = Action.signaled
      (Action.signaled before.attendants Attendants.reset requisition.attendant)
      Attendants.give (if fits then requisition.attendant else none)
  restored :
    Restored requisition.attendant (requisition.passing direction fits) before after

namespace Action

section Times

variable {σ α : Type}

/-- Does something a number of times in a row, and tells what came of it each time. -/
def times (action : Action σ α) : Nat → Action σ (List α)
  | 0 => pure []
  | count + 1 => do
    let value ← action
    let values ← times action count
    return value :: values

theorem times_succ_run {action : Action σ α} {count : Nat} {value : α} {values : List α}
    {controller between final : Controller σ} (first : action controller = .ok value between)
    (rest : times action count between = .ok values final) :
    times action (count + 1) controller = .ok (value :: values) final := by
  simp only [times, bind_run, first, rest, pure_run]

end Times

variable {σ : Type} [Store σ] {controller other final : Controller σ} {direction : Direction}
  {needed : Space} {priority : Priority} {attendant : Option AttendantId} {hold fits : Bool}

/-- A submission that is not refused has made its scan, and its answer is that of the scan. -/
theorem submit_eq_ok {result : Answer}
    (done : submit direction needed priority attendant hold controller = .ok result final) :
    needed.valid = true ∧ ∃ slot taken serviced scanned,
      controller.ledger.pool.take = some (slot, taken) ∧
      scan direction (controller.queuing direction ⟨slot, needed, priority, attendant, false⟩
        taken) = .ok serviced scanned ∧
      answer direction slot attendant hold scanned = .ok result final := by
  cases valid : needed.valid with
  | false => simp [submit, valid] at done
  | true =>
      cases took : controller.ledger.pool.take with
      | none => simp [submit, valid, takeSlot_run, took] at done
      | some found =>
          obtain ⟨slot, taken⟩ := found
          have here := controller.mem_slots_queuing direction
            ⟨slot, needed, priority, attendant, false⟩ taken
          rw [submit_run valid took, bind_run, scanFor_run here] at done
          cases scans : scan direction (controller.queuing direction
              ⟨slot, needed, priority, attendant, false⟩ taken) with
          | error failure between =>
              rw [scans] at done
              cases failure <;> cases done
          | ok serviced scanned =>
              rw [scans] at done
              exact ⟨rfl, slot, taken, serviced, scanned, rfl, scans, done⟩

/-- A scan for which only the slot of a requisition is another overflows no more. -/
theorem scan_slot {front back : List Requisition} {requisition : Requisition} {slot : SlotId}
    {share : Share} {serviced : Nat} (scans : scan direction controller = .ok serviced final)
    (store : other.store = controller.store)
    (queue : controller.ledger.queue direction = front ++ requisition :: back)
    (otherQueue : other.ledger.queue direction =
      front ++ { requisition with slot := slot } :: back)
    (offers : Budget.Offers other.store direction share) :
    ∃ count, scan direction other = .ok count (other.scanned direction share) := by
  refine ⟨_, scan_of_offers offers (scan_exact_of_stopped scans store fun budget _ => ?_)⟩
  rw [queue, otherQueue]
  exact Walk.stopped_along_slot budget front back requisition slot

/-- A request that is answered at once in front of a settled queue leaves no trace, and is
answered in the same way when it is made again. -/
theorem immediate_of_request (ready : controller.ledger.Ready)
    (settled : ∀ share, Budget.Offers controller.store direction share →
      Settled share (controller.ledger.queue direction))
    (done : request direction needed priority attendant controller =
      .ok (.immediate fits) final) :
    (∃ slot, Immediate direction ⟨slot, needed, priority, attendant, false⟩ fits controller
      final) ∧ final.ledger.Ready ∧
    ∃ last, request direction needed priority attendant final = .ok (.immediate fits) last := by
  obtain ⟨valid, slot, taken, serviced, scanned, took, scans, isAnswer⟩ := submit_eq_ok done
  obtain ⟨share, offers, isScanned, -⟩ := scan_eq_ok scans
  obtain ⟨front, back, split, placed⟩ :=
    Requisition.exists_place priority (controller.ledger.queue direction)
  have newcomer : Newcomer controller direction ⟨slot, needed, priority, attendant, false⟩ taken
      share front back _ scanned :=
    ⟨(Space.valid_iff _).mp valid, rfl, took, ready.fresh took direction, offers,
      settled share offers, split, placed, rfl, isScanned⟩
  obtain ⟨rfl, atOnce⟩ := newcomer.atOnce_of_answer isAnswer
  obtain ⟨after, answers, restored, pool⟩ := newcomer.answered atOnce scans
  cases isAnswer.symm.trans answers
  obtain ⟨isCount, signals, -⟩ := newcomer.effect scans
  obtain ⟨readyAgain, takenAgain, comesAgain⟩ := newcomer.again ready restored pool
  refine ⟨⟨slot, ready.fresh took, ⟨taken, scanned, isCount ▸ scans, newcomer.rest, signals⟩,
    restored⟩, readyAgain, ?_⟩
  have sameStore : (final.queuing direction ⟨slot.renew, needed, priority, attendant, false⟩
      takenAgain).store = (controller.queuing direction
        ⟨slot, needed, priority, attendant, false⟩ taken).store := restored.store
  obtain ⟨count, scansAgain⟩ := scan_slot scans sameStore newcomer.queue_queuing
    comesAgain.queue_queuing comesAgain.offers
  obtain ⟨last, answersAgain, -⟩ := comesAgain.answered atOnce scansAgain
  have here := final.mem_slots_queuing direction
    ⟨slot.renew, needed, priority, attendant, false⟩ takenAgain
  refine ⟨last, ?_⟩
  rw [request, submit_run valid comesAgain.took, bind_run, scanFor_run here, scansAgain]
  exact answersAgain

/-- A request that is answered at once in front of a settled queue is answered in the same way as
often as it is made, and leaves no trace. -/
theorem request_times (ready : controller.ledger.Ready)
    (settled : ∀ share, Budget.Offers controller.store direction share →
      Settled share (controller.ledger.queue direction))
    (done : request direction needed priority attendant controller =
      .ok (.immediate fits) final) (count : Nat) :
    ∃ told last, times (request direction needed priority attendant) (count + 1) controller =
        .ok (List.replicate (count + 1) (.immediate fits)) last ∧
      Restored attendant told controller last := by
  induction count generalizing controller final with
  | zero =>
      obtain ⟨⟨slot, immediate⟩, -⟩ := immediate_of_request ready settled done
      exact ⟨_, final, times_succ_run done rfl, immediate.restored⟩
  | succ count induction =>
      obtain ⟨⟨slot, immediate⟩, readyAgain, again, doneAgain⟩ :=
        immediate_of_request ready settled done
      have settledAgain : ∀ share, Budget.Offers final.store direction share →
          Settled share (final.ledger.queue direction) := by
        rw [immediate.restored.store, immediate.restored.ledger.queue]
        exact settled
      obtain ⟨told, last, rest, restored⟩ := induction readyAgain settledAgain doneAgain
      exact ⟨_, last, times_succ_run done rest, immediate.restored.trans restored⟩

end Action

end Admission
