import Admission.Proofs.Controller.Handled
import Admission.Proofs.Ledger.Upkeep
import Mathlib.Logic.Relation

/-!
# What a controller does to its ledger

A ledger is `Upkept` to another one if it comes to it by upkeep that it permits.  Whatever is asked
of a controller, nothing else is done to its ledger: not by a scan (`Action.rescan_upkept`), by a
submission (`Action.submit_upkept`) or by the drop of a ticket (`Action.dropTicket_upkept`), whether
it is refused or not.

`Arena.Represents.upkept` is the main statement: an arena comes to represent whatever the ledger
that it represents is upkept to.
-/

namespace Admission

namespace Ledger

/-- A ledger comes to another one by something that may be done to it. -/
def Keeps (before after : Ledger) : Prop :=
  ∃ upkeep, before.Permits upkeep ∧ after = before.keep upkeep

/-- A ledger comes to another one by any number of things, one after the other. -/
abbrev Upkept : Ledger → Ledger → Prop := Relation.ReflTransGen Keeps

end Ledger

/-- What a ledger is upkept to is represented by what its arena comes to. -/
theorem Arena.Represents.upkept {arena : Arena} {before after : Ledger}
    (represents : arena.Represents before) (upkept : before.Upkept after) :
    ∃ upkeeps, (arena.keepAll upkeeps).Represents after := by
  induction upkept with
  | refl => exact ⟨[], represents⟩
  | tail earlier last induction =>
      obtain ⟨upkeeps, represented⟩ := induction
      obtain ⟨upkeep, permits, rfl⟩ := last
      refine ⟨upkeeps ++ [upkeep], ?_⟩
      rw [keepAll, List.foldl_append]
      exact represented.keep permits

section Actions

variable {σ : Type} {controller final : Controller σ} {direction : Direction} {slot : SlotId}
  {needed : Space} {priority : Priority} {attendant : Option AttendantId} {hold : Bool}
  {taken : SlotPool}

namespace Controller

theorem queuing_upkept (spare : controller.ledger.pool.Spare)
    (took : controller.ledger.pool.take = some (slot, taken)) :
    controller.ledger.Upkept
      (controller.queuing direction ⟨slot, needed, priority, attendant, false⟩ taken).ledger :=
  .single ⟨.submit direction needed priority attendant, spare, queuing_keeps took⟩

theorem shredded_upkept (wellFormed : controller.ledger.WellFormed)
    (queued : slot ∈ (controller.ledger.queue direction).map Requisition.slot) :
    controller.ledger.Upkept (controller.shredded direction slot).ledger :=
  .single ⟨.shred direction slot, wellFormed.permits_shred queued,
    controller.shredded_keeps direction slot⟩

end Controller

namespace Action

variable [Store σ]

/-- A scan that is done goes over the queue with the budget that was read. -/
theorem scan_upkept {serviced : Nat} (done : scan direction controller = .ok serviced final) :
    controller.ledger.Upkept final.ledger := by
  rw [scan_run] at done
  cases answered : Budget.read controller.store direction with
  | error failure =>
      rw [answered] at done
      cases done
  | ok budget =>
      rw [answered] at done
      cases stopped : (Walk.along budget (controller.ledger.queue direction)).stopped with
      | some kind =>
          simp only [stopped] at done
          cases done
      | none =>
          simp only [stopped, EStateM.Result.ok.injEq] at done
          obtain ⟨-, rfl⟩ := done
          exact .single ⟨.scan direction budget, trivial, controller.walked_keeps direction budget⟩

/-- So it does with the share that is offered, if no overflow stops it. -/
theorem scanned_upkept {share : Share} (offers : Budget.Offers controller.store direction share)
    (finishes : (scan direction).Finishes controller) :
    controller.ledger.Upkept (controller.scanned direction share).ledger :=
  scan_upkept (scan_of_offers offers finishes)

theorem rescan_upkept {outcome : Except Refusal Nat}
    (ended : attempt (scan direction) controller = .ok outcome final) :
    controller.ledger.Upkept final.ledger := by
  rcases rescan_of_attempt ended with ⟨share, offers, rfl⟩ | ⟨rfl, -⟩
  · exact scanned_upkept offers (finishes_of_attempt ended)
  · exact .refl

/-- A submission queues at most one requisition, has its queue gone over and takes it off again, if
it does so much. -/
theorem submit_upkept {outcome : Except Refusal Answer} (wellFormed : controller.ledger.WellFormed)
    (spare : controller.ledger.pool.Spare)
    (ended : attempt (submit direction needed priority attendant hold) controller =
      .ok outcome final) : controller.ledger.Upkept final.ledger := by
  have queuing : ∀ {slot : SlotId} {taken : SlotPool}, needed.valid = true →
      controller.ledger.pool.take = some (slot, taken) →
      (controller.queuing direction ⟨slot, needed, priority, attendant, false⟩
        taken).ledger.WellFormed :=
    fun valid took => wellFormed.joined ⟨valid, rfl, spare, took⟩ direction
  have scanning : ∀ {slot : SlotId} {taken : SlotPool} {share : Share}, needed.valid = true →
      controller.ledger.pool.take = some (slot, taken) →
      Budget.Offers controller.store direction share →
      controller.ledger.Upkept ((controller.queuing direction
        ⟨slot, needed, priority, attendant, false⟩ taken).scanned direction share).ledger :=
    fun valid took offers => (Controller.queuing_upkept spare took).trans
      (scanned_upkept offers (scan_finishes_of_submit valid took (finishes_of_attempt ended)))
  have shredding : ∀ {slot : SlotId} {taken : SlotPool} {share : Share}, needed.valid = true →
      controller.ledger.pool.take = some (slot, taken) →
      Budget.Offers controller.store direction share →
      controller.ledger.Upkept (((controller.queuing direction
        ⟨slot, needed, priority, attendant, false⟩ taken).scanned direction share).shredded
          direction slot).ledger :=
    fun valid took offers => (scanning valid took offers).trans
      (Controller.shredded_upkept ((queuing valid took).granting direction _)
        (Controller.mem_slots_scanned (controller.mem_slots_queuing ..) _))
  cases submission_of_attempt ended with
  | invalid invalid => exact .refl
  | exhausted valid full => exact .refl
  | unanswered valid took stopped =>
      exact (Controller.queuing_upkept spare took).trans
        (Controller.shredded_upkept (queuing valid took) (controller.mem_slots_queuing ..))
  | granted valid took offers isScanned serviced released =>
      subst isScanned
      exact shredding valid took offers
  | notServiceable valid took offers isScanned pending alone =>
      subst isScanned
      exact shredding valid took offers
  | queued valid took offers isScanned outcome =>
      subst isScanned
      exact scanning valid took offers

/-- The drop of a ticket takes its requisition off, if it is there, and has its queue gone over if
it was serviced. -/
theorem dropTicket_upkept {ticket : Ticket} {outcome : Except Refusal Unit}
    (wellFormed : controller.ledger.WellFormed)
    (ended : attempt (dropTicket ticket) controller = .ok outcome final) :
    controller.ledger.Upkept final.ledger := by
  have shredding : ∀ {requisition : Requisition},
      controller.ledger.find? ticket.direction ticket.slot = some requisition →
      controller.ledger.Upkept (controller.shredded ticket.direction ticket.slot).ledger :=
    fun found => Controller.shredded_upkept wellFormed (Ledger.mem_slots_of_find? found)
  cases release_of_attempt ended with
  | absent missing => exact .refl
  | pending found isPending => exact shredding found
  | unanswered found serviced stopped => exact shredding found
  | rescanned found serviced offers =>
      have finishes := scan_finishes_of_dropTicket found serviced (finishes_of_attempt ended)
      exact (shredding found).trans (scanned_upkept offers finishes)

end Action

end Actions

end Admission
