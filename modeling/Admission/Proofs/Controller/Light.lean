import Admission.Proofs.Controller.Release
import Admission.Proofs.Controller.Waiting
import Admission.Proofs.Scan.Room

/-!
# Actions at a light ledger

A queue is `Bearable` if what was granted in it makes less than half of what a magnitude can be.  In
front of a store that tells words, no action that scans a bearable queue overflows, and none of the
actions that take a requisition off it: a ticket is dropped (`Action.dropTicket_finishes`), a
creation that was parked goes on (`Action.resumeCreation_finishes`), an object is destroyed
(`Action.destroy_of_removed`).

A queue is bearable if it is `Light`, so that nothing that was granted in it is of more than 2 to
the 30 billions, or if as much is true of a bound of its own (`Ledger.Bearable.of_bound`).
-/

namespace Admission

/-! ## Bearable queues -/

/-- What was granted in the queue of a direction is less than half of what a magnitude can be. -/
structure Ledger.Bearable (ledger : Ledger) (direction : Direction) : Prop where
  nonneg : ∀ requisition ∈ ledger.queue direction, ∀ medium, 0 ≤ requisition.need medium
  most : ∀ medium, reserved [] (ledger.queue direction) medium ≤ 4611686018427387904000000000

namespace Ledger.Bearable

variable {ledger : Ledger} {direction : Direction}

/-- A queue is bearable if all its places together are, each with the most that is granted. -/
theorem of_bound (bound : Int) (positive : 0 ≤ bound)
    (nonneg : ∀ requisition ∈ ledger.queue direction, ∀ medium, 0 ≤ requisition.need medium)
    (each : ∀ requisition ∈ ledger.queue direction, requisition.serviced = true →
      ∀ medium, requisition.need medium ≤ bound)
    (few : (ledger.queue direction).length * bound ≤ 4611686018427387904000000000) :
    ledger.Bearable direction where
  nonneg := nonneg
  most := fun medium => (reserved_le_length positive fun requisition queued serviced =>
    each requisition queued serviced medium).trans few

theorem remove (bearable : ledger.Bearable direction) (slot : SlotId) :
    (ledger.remove direction slot).Bearable direction where
  nonneg := by
    rw [queue_remove_self]
    exact fun requisition queued => bearable.nonneg requisition (List.mem_filter.mp queued).1
  most := by
    intro medium
    rw [queue_remove_self]
    exact (reserved_sublist_le (fun requisition queued => bearable.nonneg requisition queued medium)
      List.filter_sublist fun _ member => member).trans (bearable.most medium)

/-- A requisition that is queued reserves nothing before it is serviced. -/
theorem enqueue (bearable : ledger.Bearable direction) {requisition : Requisition}
    (pending : requisition.serviced = false) (valid : requisition.needed.valid = true) :
    (ledger.enqueue direction requisition).Bearable direction := by
  obtain ⟨front, back, isQueue, inserted⟩ := requisition.insert_eq (ledger.queue direction)
  constructor
  · intro other queued
    rw [queue_enqueue_self, inserted, List.mem_append, List.mem_cons] at queued
    rcases queued with ahead | rfl | behind
    · exact bearable.nonneg other (isQueue ▸ List.mem_append_left back ahead)
    · exact (Space.valid_iff _).mp valid
    · exact bearable.nonneg other (isQueue ▸ List.mem_append_right front behind)
  · intro medium
    have most := bearable.most medium
    rw [isQueue, reserved_append] at most
    rwa [queue_enqueue_self, inserted, reserved_append, reserved_cons_pending pending]

end Ledger.Bearable

/-! ## Light queues -/

/-- All that was granted in the queue of a direction is small. -/
structure Ledger.Light (ledger : Ledger) (direction : Direction) : Prop where
  few : (ledger.queue direction).length < 4294967296
  nonneg : ∀ requisition ∈ ledger.queue direction, ∀ medium, 0 ≤ requisition.need medium
  small : ∀ requisition ∈ ledger.queue direction, requisition.serviced = true →
    ∀ medium, requisition.need medium ≤ 1073741824000000000

theorem Ledger.Light.bearable {ledger : Ledger} {direction : Direction}
    (light : ledger.Light direction) : ledger.Bearable direction := by
  refine .of_bound 1073741824000000000 (by decide) light.nonneg light.small ?_
  have few := light.few
  omega

namespace Action

variable {σ : Type} [Store σ] {controller : Controller σ} {direction : Direction}
  {id : ObjectId}

/-! ## Actions -/

section Words

variable (words : ∀ (store : σ) (direction : Direction), Store.InWords store direction)
include words

theorem scan_finishes_of_bearable (bearable : controller.ledger.Bearable direction) :
    Finishes (scan direction) controller :=
  scan_finishes (words _ _) bearable.nonneg bearable.most

/-- A ticket is dropped without an overflow. -/
theorem dropTicket_finishes {ticket : Ticket}
    (bearable : controller.ledger.Bearable ticket.direction) :
    Finishes (dropTicket ticket) controller := by
  intro kind final
  rw [dropTicket_run]
  cases controller.ledger.find? ticket.direction ticket.slot with
  | none => rintro ⟨⟩
  | some requisition =>
      have finishes : Finishes (scan ticket.direction)
          (controller.shredded ticket.direction ticket.slot) :=
        scan_finishes_of_bearable words (bearable.remove ticket.slot)
      cases held : requisition.serviced with
      | false => simp [held]
      | true =>
          simp only [held, if_true]
          cases scans : scan ticket.direction
              (controller.shredded ticket.direction ticket.slot) with
          | ok serviced between => simp
          | error failure between =>
              cases failure with
              | refused refusal => simp
              | overflow other => exact absurd scans (finishes other between)

/-- What follows the drop of a ticket finishes if it does anyway. -/
theorem dropping_finishes {α : Type} {ticket : Ticket} {next : Action σ α}
    (bearable : controller.ledger.Bearable ticket.direction)
    (follows : ∀ between, next.Finishes between) :
    Finishes (dropTicket ticket >>= fun _ => next) controller :=
  (dropTicket_finishes words bearable).bind fun _ between _ => follows between

variable {creation : PendingCreation}

/-- A creation whose object the store can make is stored without an overflow. -/
theorem store_finishes (bearable : controller.ledger.Bearable creation.ticket.direction)
    (creates : (Store.create controller.store id creation.object).result.Finishes) :
    Finishes (store creation id) controller := by
  refine (finishes_tryChange creates).bind fun stored between tried => ?_
  obtain ⟨-, rfl⟩ := tryChange_eq_ok tried
  cases stored with
  | ok nothing => exact dropping_finishes words bearable fun _ => finishes_pure _
  | error error =>
      refine Finishes.bind (by rintro kind final ⟨⟩) fun nothing noted isNoted => ?_
      cases isNoted
      exact dropping_finishes words bearable fun _ => finishes_refuse _

theorem interrupt_finishes (bearable : controller.ledger.Bearable creation.ticket.direction) :
    Finishes (interrupt creation) controller := by
  refine Finishes.bind (by rintro kind final ⟨⟩) fun nothing noted isNoted => ?_
  cases isNoted
  refine Finishes.bind (by rintro kind final ⟨⟩) fun nothing told isTold => ?_
  cases isTold
  exact dropping_finishes words bearable fun _ => finishes_pure _

/-- A creation goes on from its wait without an overflow. -/
theorem follow_finishes {between : Controller σ} {progress : Progress Ticket WaitOutcome}
    (bearable : controller.ledger.Bearable creation.ticket.direction)
    (creates : (Store.create controller.store id creation.object).result.Finishes)
    (waited : Waited creation.ticket controller progress between) :
    Finishes (follow creation id progress) between := by
  cases waited with
  | serviced attendants remarks isServiced =>
      have stores : Finishes (store creation id) (controller.attended attendants remarks) :=
        store_finishes words bearable creates
      exact stores.bind fun _ _ _ => finishes_pure _
  | cancelled attendants remarks isOver =>
      have interrupts : Finishes (interrupt creation) (controller.attended attendants remarks) :=
        interrupt_finishes words bearable
      exact interrupts.bind fun _ _ _ => finishes_pure _
  | parked attendants remarks attended => exact finishes_pure _

/-- A creation that was parked goes on without an overflow. -/
theorem resumeCreation_finishes (attended : creation.ticket.attendant ≠ none)
    (bearable : controller.ledger.Bearable creation.ticket.direction)
    (creates : (Store.create controller.store id creation.object).result.Finishes) :
    Finishes (resumeCreation creation id) controller := by
  obtain ⟨progress, between, resumes, waited⟩ := resumeWait_waited attended controller
  refine Finishes.bind ?_ fun found woken done => ?_
  · intro kind final stopped
    cases resumes.symm.trans stopped
  · cases resumes.symm.trans done
    exact follow_finishes words bearable creates waited

/-- An object that the store removes is destroyed, and its direction told, if the store tells what
is left of that direction. -/
theorem destroy_of_removed {share : Share} (bearable : controller.ledger.Bearable direction)
    (removes : (Store.destroy controller.store id).result = .ok direction)
    (offers : Budget.Offers (Store.destroy controller.store id).store direction share) :
    ∃ final, destroy id controller = .ok direction final ∧
      final.store = (Store.destroy controller.store id).store := by
  let between := { controller with store := (Store.destroy controller.store id).store }.record
    ((Store.destroy controller.store id).notes.map .note)
  have removed : tryChange (fun store => Store.destroy store id) controller =
      .ok (.ok direction) between := by
    unfold tryChange
    simp only [removes]
    rfl
  have finishes : Finishes (scan direction) between := scan_finishes_of_bearable words bearable
  have scans := scan_of_offers offers finishes
  rw [destroy, change, bind_assoc, bind_run, removed]
  simp only [orRefuse, bind_run, scans, note_run, pure_run]
  exact ⟨_, rfl, rfl⟩

end Words

/-- What the store refuses to remove is not destroyed. -/
theorem destroy_of_refused {error : StoreError}
    (refuses : Store.destroy controller.store id = .none controller.store (.refused error)) :
    destroy id controller = .error (.refused (.store error)) controller := by
  have refused : tryChange (fun store => Store.destroy store id) controller =
      .ok (.error error) controller := by
    unfold tryChange
    simp only [refuses, Change.none, List.map_nil, Controller.record_nil]
  rw [destroy, change, bind_assoc, bind_run, refused]
  simp only [orRefuse, bind_run, refuse_run]

end Action

end Admission
