import Admission.Proofs.Controller.Upkept
import Admission.Proofs.Traffic.Sorted

/-!
# The arena of a controller

The ledger of a controller can be kept in an arena.  In any weather, the ledger of the start is
upkept to that which traffic comes to (`Weather.Reaches.upkept`), so that an arena in which nothing
was stored at first comes to represent it (`ledger_kept_in_arena`).

It can also be laid out in an arena at any time, since it is well-formed and its queues are in
order.  Whatever arena represents it, whatever is done next can be done to the arena, of which the
result represents the ledger again.  In particular each requisition is put to the same place if
that is searched from the tail of its queue, and each held ticket is of the requisition in its
slot.

`ledger_represented` is the main statement.
-/

namespace Admission

section Weather

variable {σ : Type} [Store σ] {weather : Weather σ} {store : σ} {slots : Nat}
  {before between after later : Traffic σ} {see : Glimpses σ}

/-! ## Upkeep in traffic -/

theorem Turn.upkept (turn : Turn before between see after)
    (wellFormed : between.controller.ledger.WellFormed) :
    between.controller.ledger.Upkept after.controller.ledger := by
  have shown : (between.controller.withStore see).ledger.WellFormed := wellFormed
  cases turn with
  | request spare ended => exact (Action.submit_upkept shown spare ended :)
  | submit wasSized isSized spare ended => exact (Action.submit_upkept shown spare ended :)
  | drop wasHeld isHeld ended => exact (Action.dropTicket_upkept shown ended :)
  | finish wasStored isStored ended => exact (Action.dropTicket_upkept shown ended :)
  | leave wasLeaving isLeaving ended => exact (Action.dropTicket_upkept shown ended :)
  | scan ended => exact (Action.rescan_upkept ended :)
  | rescan wasRemoved isRemoved ended => exact (Action.rescan_upkept ended :)

theorem Weather.Step.upkept (step : weather.Step before after)
    (wellFormed : before.controller.ledger.WellFormed) :
    before.controller.ledger.Upkept after.controller.ledger := by
  cases step with
  | aside aside =>
      rw [aside.ledger]
  | turn shows turn => exact turn.upkept wellFormed
  | change changes => exact .refl

/-- Nothing but upkeep is done to a ledger from the start on. -/
theorem Weather.Reaches.upkept (reached : weather.Reaches (Traffic.start store slots) later) :
    (Ledger.ofLimit slots).Upkept later.controller.ledger := by
  induction reached with
  | refl => exact .refl
  | tail earlier last induction =>
      have tallied := (Tallied.start store slots).reaches earlier
      exact induction.trans (last.upkept tallied.ledger)

/-- Whatever traffic comes to, its ledger is what comes of an arena in which nothing was stored at
first, by what was done to both. -/
theorem ledger_kept_in_arena (reached : weather.Reaches (Traffic.start store slots) later) :
    ∃ upkeeps, ((Arena.ofLimit slots).keepAll upkeeps).Represents later.controller.ledger :=
  (Arena.represents_ofLimit slots).upkept reached.upkept

/-! ## Whatever arena it is -/

/-- The ledger is what some arena represents, and whatever arena that is, a requisition that comes
next goes to the same place from the tail as from the head, a held ticket is good for what is in
its slot, and whatever is done next, one thing after the other, comes to the same. -/
theorem ledger_represented (reached : weather.Reaches (Traffic.start store slots) later) :
    later.controller.ledger.arena.Represents later.controller.ledger ∧
    (∀ direction (requisition : Requisition),
      requisition.insertFromTail (later.queue direction) =
        requisition.insert (later.queue direction)) ∧
    ∀ arena : Arena, arena.Represents later.controller.ledger →
      (∀ ticket ∈ later.held,
        later.controller.ledger.Permits (.shred ticket.direction ticket.slot) ∧
        arena.get? ticket.slot =
          later.controller.ledger.find? ticket.direction ticket.slot ∧
        arena.isServiced ticket.slot =
          later.controller.ledger.isServiced ticket.direction ticket.slot) ∧
      ∀ upkeeps, later.controller.ledger.PermitsAll upkeeps →
        (arena.keepAll upkeeps).Represents (later.controller.ledger.keepAll upkeeps) := by
  have tallied := (Tallied.start store slots).reaches reached
  have ordered : later.controller.ledger.Ordered := reached.sorted.pairwise
  refine ⟨Ledger.represented tallied.ledger ordered,
    fun direction requisition => requisition.insertFromTail_eq (ordered direction),
    fun arena represents => ⟨fun ticket held => ?_, fun upkeeps permits =>
      Arena.keepAll_represents represents permits⟩⟩
  have listed := Ledger.mem_tickets_iff.mp (tallied.tickets.mem_iff.mp held)
  obtain ⟨requisition, queued, isTicket⟩ := List.mem_map.mp listed
  have inQueue := List.mem_map_of_mem (f := Requisition.slot) queued
  rw [show requisition.slot = ticket.slot from congrArg Ticket.slot isTicket] at inQueue
  have permits := tallied.ledger.permits_shred inQueue
  exact ⟨permits, represents.find? permits, represents.isServiced permits⟩

end Weather

end Admission
