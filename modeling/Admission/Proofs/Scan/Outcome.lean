import Admission.Proofs.Controller.Running
import Admission.Proofs.Queue.Settled

/-!
# What a scan does

A scan that is neither refused nor stopped by an overflow makes the greedy pass over the queue
of its direction and changes nothing else but the signals and the journal.
-/

namespace Admission

namespace Walk

/-- Going over a queue once more charges the same needs at the same places, so it overflows no
more than the first walk, and grants nothing. -/
theorem along_again {budget : Budget} {queue : List Requisition}
    (finished : (along budget queue).stopped = none) :
    along budget (along budget queue).queue = ⟨(along budget queue).queue, [], none⟩ := by
  fun_induction along budget queue with
  | case1 budget => rfl
  | case2 budget head rest serviced left charged induction =>
      rw [pass, along, if_pos serviced, charged]
      simp only [induction finished]
      rfl
  | case3 budget head rest serviced kind charged => cases finished
  | case4 budget head rest pending fits granted left charged induction =>
      rw [grant, along, if_pos rfl, show granted.needed = head.needed from rfl, charged]
      simp only [induction finished]
      rfl
  | case5 budget head rest pending fits granted kind charged => cases finished
  | case6 budget head rest pending unfit induction =>
      rw [pass, along, if_neg pending, if_neg unfit]
      simp only [induction finished]
      rfl

end Walk

theorem turnedOn_cons (old new : Requisition) (before after : List Requisition) :
    turnedOn (old :: before) (new :: after) =
      (if old.serviced = false ∧ new.serviced = true then [new] else []) ++
        turnedOn before after := by
  cases wasServiced : old.serviced <;> cases isServiced : new.serviced <;>
    simp [turnedOn, wasServiced, isServiced]

/-- Nothing is turned on between a queue and itself. -/
@[simp] theorem turnedOn_self (queue : List Requisition) : turnedOn queue queue = [] := by
  induction queue with
  | nil => rfl
  | cons head rest induction =>
      rw [turnedOn_cons, induction]
      simp

@[simp] theorem Ledger.setQueue_queue (ledger : Ledger) (direction : Direction) :
    ledger.setQueue direction (ledger.queue direction) = ledger := by
  cases direction <;> rfl

namespace Controller

variable {σ : Type}

/-- The controller after a walk over the queue of a direction was put into effect. -/
def walked (controller : Controller σ) (direction : Direction) (walk : Walk) : Controller σ :=
  (controller.record
    [.note (.scanStarted direction (controller.ledger.queue direction).length)]).settle
      direction walk

/-- The controller after its queue of a direction was gone over with a share. -/
def scanned (controller : Controller σ) (direction : Direction) (share : Share) : Controller σ :=
  let queue := controller.ledger.queue direction
  controller.walked direction
    ⟨grantAll share queue, turnedOn queue (grantAll share queue), none⟩

/-- Where the walk grants nothing and leaves the queue as it was, only its start is noted. -/
theorem walked_settled (controller : Controller σ) (direction : Direction) :
    controller.walked direction ⟨controller.ledger.queue direction, [], none⟩ =
      controller.record
        [.note (.scanStarted direction (controller.ledger.queue direction).length)] := by
  simp only [walked, settle, record, Ledger.setQueue_queue, List.filterMap_nil, List.foldl_nil,
    List.map_nil, List.append_nil]

@[simp] theorem store_scanned (controller : Controller σ) (direction : Direction)
    (share : Share) : (controller.scanned direction share).store = controller.store := rfl

@[simp] theorem ledger_scanned (controller : Controller σ) (direction : Direction)
    (share : Share) :
    (controller.scanned direction share).ledger =
      controller.ledger.setQueue direction
        (grantAll share (controller.ledger.queue direction)) := rfl

/-- Whoever was queued before a scan is queued after it. -/
theorem mem_slots_scanned {controller : Controller σ} {direction : Direction} {slot : SlotId}
    (queued : slot ∈ (controller.ledger.queue direction).map Requisition.slot) (share : Share) :
    slot ∈ ((controller.scanned direction share).ledger.queue direction).map
      Requisition.slot := by
  rwa [ledger_scanned, Ledger.queue_setQueue_self, map_slot_grantAll]

end Controller

namespace Action

variable {σ : Type} [Store σ]

theorem scan_run (direction : Direction) (controller : Controller σ) :
    scan direction controller =
      match Budget.read controller.store direction with
      | .error failure => .error (failure.map .store) controller
      | .ok budget =>
        let walk := Walk.along budget (controller.ledger.queue direction)
        match walk.stopped with
        | none => .ok walk.granted.length (controller.walked direction walk)
        | some kind => .error (.overflow kind) (controller.walked direction walk) := by
  simp only [scan, bind_run, query]
  cases Budget.read controller.store direction with
  | error failure => rfl
  | ok budget =>
      simp only [get_run, note_run, modify_run]
      cases stopped : (Walk.along budget (controller.ledger.queue direction)).stopped <;> rfl

/-- A scan that is done went over the queue with the share that the store offers. -/
theorem scan_eq_ok {direction : Direction} {controller final : Controller σ} {serviced : Nat}
    (done : scan direction controller = .ok serviced final) :
    ∃ share, Budget.Offers controller.store direction share ∧
      final = controller.scanned direction share ∧
      serviced = (turnedOn (controller.ledger.queue direction)
        (grantAll share (controller.ledger.queue direction))).length := by
  rw [scan_run] at done
  cases answered : Budget.read controller.store direction with
  | error failure =>
      rw [answered] at done
      cases done
  | ok budget =>
      rw [answered] at done
      cases stopped : (Walk.along budget (controller.ledger.queue direction)).stopped with
      | some kind =>
          simp only [stopped] at done
          cases done
      | none =>
          simp only [Walk.along_eq stopped, EStateM.Result.ok.injEq] at done
          exact ⟨budget.share, Budget.offers_of_read answered, done.2.symm, done.1.symm⟩

/-- A refused scan changes nothing, and is refused by its store. -/
theorem scan_eq_refused {direction : Direction} {controller final : Controller σ}
    {refusal : Refusal} (refused : scan direction controller = .error (.refused refusal) final) :
    final = controller ∧ ∃ error medium, refusal = .store error ∧
      (Store.capacity controller.store direction medium = .error (.refused error) ∨
        Store.occupancy controller.store direction medium = .error (.refused error)) := by
  rw [scan_run] at refused
  cases answered : Budget.read controller.store direction with
  | error failure =>
      rw [answered] at refused
      cases failure with
      | overflow kind => cases refused
      | refused error =>
          cases refused
          obtain ⟨medium, stopped⟩ := Budget.refused_of_read answered
          exact ⟨rfl, error, medium, rfl, stopped⟩
  | ok budget =>
      rw [answered] at refused
      cases stopped : (Walk.along budget (controller.ledger.queue direction)).stopped with
      | some kind =>
          simp only [stopped] at refused
          cases refused
      | none =>
          simp only [stopped] at refused
          cases refused

/-- A scan whose questions are answered and whose arithmetic does not overflow is done. -/
theorem scan_of_offers {direction : Direction} {controller : Controller σ} {share : Share}
    (offers : Budget.Offers controller.store direction share)
    (exact : ∀ kind final, scan direction controller ≠ .error (.overflow kind) final) :
    scan direction controller =
      .ok (turnedOn (controller.ledger.queue direction)
          (grantAll share (controller.ledger.queue direction))).length
        (controller.scanned direction share) := by
  cases outcome : scan direction controller with
  | error failure final =>
      cases failure with
      | overflow kind => exact absurd outcome (exact kind final)
      | refused refusal =>
          obtain ⟨capacity, occupancy, capacities, occupancies, -⟩ := offers
          obtain ⟨-, error, medium, -, stopped | stopped⟩ := scan_eq_refused outcome
          · rw [capacities] at stopped
            cases stopped
          · rw [occupancies] at stopped
            cases stopped
  | ok serviced final =>
      obtain ⟨found, answered, rfl, rfl⟩ := scan_eq_ok outcome
      rw [answered.unique offers]

/-- A scan of a queue in which a walk is stopped no more than in another one that was scanned in
front of the same store overflows no more. -/
theorem scan_exact_of_stopped {direction : Direction} {controller other final : Controller σ}
    {serviced : Nat} (done : scan direction controller = .ok serviced final)
    (store : other.store = controller.store)
    (stopped : ∀ budget, Budget.read controller.store direction = .ok budget →
      (Walk.along budget (other.ledger.queue direction)).stopped =
        (Walk.along budget (controller.ledger.queue direction)).stopped)
    (kind : Overflow) (last : Controller σ) :
    scan direction other ≠ .error (.overflow kind) last := by
  intro overflows
  rw [scan_run] at done overflows
  rw [store] at overflows
  cases answered : Budget.read controller.store direction with
  | error failure =>
      rw [answered] at done
      cases done
  | ok budget =>
      have same := stopped budget answered
      rw [answered] at done overflows
      simp only [same] at overflows
      cases isStopped : (Walk.along budget (controller.ledger.queue direction)).stopped <;>
        simp [isStopped] at done overflows

/-- A scan right after another one grants nothing and only notes that it was made. -/
theorem scan_again {direction : Direction} {controller final : Controller σ} {serviced : Nat}
    (done : scan direction controller = .ok serviced final) :
    scan direction final = .ok 0 (final.record
      [.note (.scanStarted direction (controller.ledger.queue direction).length)]) := by
  rw [scan_run] at done ⊢
  cases answered : Budget.read controller.store direction with
  | error failure =>
      rw [answered] at done
      cases done
  | ok budget =>
      rw [answered] at done
      cases stopped : (Walk.along budget (controller.ledger.queue direction)).stopped with
      | some kind =>
          simp only [stopped] at done
          cases done
      | none =>
          simp only [stopped, EStateM.Result.ok.injEq] at done
          obtain ⟨-, rfl⟩ := done
          have queueAfter : (controller.walked direction
              (Walk.along budget (controller.ledger.queue direction))).ledger.queue direction =
              (Walk.along budget (controller.ledger.queue direction)).queue :=
            Ledger.queue_setQueue_self _ _ _
          have storeAfter : (controller.walked direction
              (Walk.along budget (controller.ledger.queue direction))).store =
              controller.store := rfl
          have lengthAfter : (Walk.along budget (controller.ledger.queue direction)).queue.length =
              (controller.ledger.queue direction).length := by
            rw [Walk.along_eq stopped, length_grantAll]
          rw [storeAfter, answered, queueAfter]
          simp only [Walk.along_again stopped, List.length_nil]
          rw [← queueAfter, Controller.walked_settled, queueAfter, lengthAfter]

end Action

end Admission
