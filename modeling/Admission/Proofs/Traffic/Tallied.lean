import Admission.Proofs.Controller.Tickets
import Admission.Proofs.Traffic.Replay
import Admission.Proofs.Traffic.Weather

/-!
# The ledger tallies

In any weather the ledger and the tickets that are held agree: every held ticket is of exactly
one queued requisition in the queue of its direction, every queued requisition of exactly one
held ticket, and the slots that are taken are those of the queued requisitions.  `Tallied` is the
invariant, `Tallied.step` says that each step restores it, and `ledger_tallies` is the main
statement.
-/

namespace Admission

/-! ## The number of slots -/

namespace SlotPool

/-- No more slots are held than there are. -/
structure Within (pool : SlotPool) (slots : Nat) : Prop where
  limit : pool.limit = slots
  inUse : pool.inUse ≤ slots

namespace Within

variable {pool taken : SlotPool} {slots : Nat} {slot : SlotId}

theorem take (within : pool.Within slots) (took : pool.take = some (slot, taken)) :
    taken.Within slots := by
  unfold SlotPool.take at took
  split at took
  · cases took
  · next room =>
      have bound : pool.inUse + 1 ≤ slots := by
        rw [← within.limit]
        omega
      split at took <;> cases took <;> exact ⟨within.limit, bound⟩

theorem release (within : pool.Within slots) (slot : SlotId) :
    (pool.release slot).Within slots := by
  unfold SlotPool.release
  split
  · exact ⟨within.limit, (List.erase_sublist.length_le).trans within.inUse⟩
  · exact within

end Within

end SlotPool

namespace Books

variable {before after : Books} {slots : Nat}

theorem within_of_chore (chore : Chore before after)
    (within : before.ledger.pool.Within slots) : after.ledger.pool.Within slots := by
  cases chore with
  | remark note => exact within
  | interrupt direction slot => exact within
  | queue direction joins =>
      rw [Ledger.joined, Ledger.pool_enqueue]
      exact within.take joins.took
  | shred queued =>
      rw [Ledger.pool_remove]
      exact within.release _
  | turnAway queued pending =>
      rw [Ledger.pool_remove]
      exact within.release _
  | scan direction share =>
      rw [Ledger.granting, Ledger.pool_setQueue]
      exact within

theorem within_of_chores (chores : Chores before after)
    (within : before.ledger.pool.Within slots) : after.ledger.pool.Within slots := by
  induction chores with
  | refl => exact within
  | tail earlier last induction => exact within_of_chore last induction

end Books

/-! ## The invariant -/

/-- The tickets that are held and the ledger agree. -/
structure Tallied {σ : Type} (slots : Nat) (traffic : Traffic σ) : Prop where
  ledger : traffic.controller.ledger.WellFormed
  tickets : traffic.held.Perm traffic.controller.ledger.tickets
  within : traffic.controller.ledger.pool.Within slots
  prompt : traffic.controller.ledger.Prompt none

section Tallied

variable {σ : Type} [Store σ] {weather : Weather σ} {before between after traffic : Traffic σ}
  {see : Glimpses σ} {slots : Nat}

namespace Tallied

omit [Store σ] in
theorem start (store : σ) (slots : Nat) : Tallied slots (Traffic.start store slots) where
  ledger := Ledger.wellFormed_ofLimit slots
  tickets := List.Perm.refl _
  within := ⟨rfl, Nat.zero_le _⟩
  prompt := by rintro (_ | _) requisition ⟨⟩

omit [Store σ] in
/-- Nothing that is tallied changes. -/
theorem of_same (tallied : Tallied slots before)
    (ledger : after.controller.ledger = before.controller.ledger)
    (held : after.held.Perm before.held) : Tallied slots after := by
  refine ⟨?_, ?_, ?_, ?_⟩ <;> rw [ledger]
  · exact tallied.ledger
  · exact held.trans tallied.tickets
  · exact tallied.within
  · exact tallied.prompt

/-- The tickets after a turn are those of the requisitions that are queued then. -/
theorem tickets_of_effect (tallied : Tallied slots between) {direction : Direction}
    {came : Option Requisition} {gone : Option Ticket}
    (effect : TurnEffect before between see direction came gone after) :
    after.held.Perm after.controller.ledger.tickets := by
  have there : ∀ ticket, gone = some ticket →
      ticket ∈ between.controller.ledger.ticketsOf direction := by
    rintro ticket rfl
    cases came with
    | some requisition =>
        obtain ⟨-, -, impossible, -⟩ := effect.handled.came_spec tallied.ledger rfl
        cases impossible
    | none =>
        have held : ticket ∈ between.held := effect.held.mem_iff.mp List.mem_cons_self
        have queued := Ledger.mem_tickets_iff.mp (tallied.tickets.mem_iff.mp held)
        rwa [effect.ofDirection ticket rfl] at queued
  have changed := effect.handled.tickets tallied.ledger there
  have same := effect.held.trans ((tallied.tickets.append_left _).trans changed.symm)
  exact (List.perm_append_left_iff _).mp same

theorem turn (tallied : Tallied slots between) (turn : Turn before between see after) :
    Tallied slots after := by
  obtain ⟨direction, came, gone, effect⟩ := turn.effect
  obtain ⟨final, remarks, deed, isAfter⟩ := turn.deed
  have ledger : after.controller.ledger = final.ledger := by rw [isAfter]; rfl
  exact {
    ledger := effect.handled.wellFormed tallied.ledger
    tickets := tallied.tickets_of_effect effect
    within := Books.within_of_chores turn.chores tallied.within
    prompt := ledger ▸ deed.prompt tallied.ledger tallied.prompt }

/-- Each step leaves the ledger in agreement with the tickets. -/
theorem step (tallied : Tallied slots before) (step : weather.Step before after) :
    Tallied slots after := by
  cases step with
  | aside aside => exact tallied.of_same aside.ledger aside.held
  | turn shows turn => exact tallied.turn turn
  | change changes => exact tallied.of_same rfl (List.Perm.refl _)

theorem reaches (tallied : Tallied slots before) (reached : weather.Reaches before after) :
    Tallied slots after := by
  induction reached with
  | refl => exact tallied
  | tail earlier last induction => exact induction.step last

omit [Store σ] in
/-- Without tickets nothing is queued and no slot is taken. -/
theorem empty_of_nobody (tallied : Tallied slots traffic) (nobody : traffic.held = []) :
    (∀ direction, traffic.queue direction = []) ∧
      traffic.controller.ledger.pool.held = [] := by
  have none : traffic.controller.ledger.tickets = [] := by
    have tickets := tallied.tickets
    rw [nobody] at tickets
    exact tickets.nil_eq.symm
  constructor
  · obtain ⟨inbound, outbound⟩ := List.append_eq_nil_iff.mp none
    rintro (_ | _)
    · exact List.map_eq_nil_iff.mp inbound
    · exact List.map_eq_nil_iff.mp outbound
  · have held := tallied.ledger.held
    rw [← Ledger.map_slot_tickets, none] at held
    exact held.nil_eq.symm

omit [Store σ] in
/-- No two tickets that are held are of one slot. -/
theorem distinct (tallied : Tallied slots traffic) :
    (traffic.held.map Ticket.slot).Nodup := by
  rw [(tallied.tickets.map Ticket.slot).nodup_iff, Ledger.map_slot_tickets]
  exact tallied.ledger.slots_nodup

omit [Store σ] in
/-- The requisition that a held ticket is good for. -/
theorem requisition_of_held (tallied : Tallied slots traffic) {ticket : Ticket}
    (held : ticket ∈ traffic.held) :
    ∃ requisition ∈ traffic.queue ticket.direction, requisition.slot = ticket.slot ∧
      requisition.attendant = ticket.attendant := by
  have queued := Ledger.mem_tickets_iff.mp (tallied.tickets.mem_iff.mp held)
  obtain ⟨requisition, stood, same⟩ := List.mem_map.mp queued
  exact ⟨requisition, stood, congrArg Ticket.slot same, congrArg Ticket.attendant same⟩

omit [Store σ] in
/-- Whoever holds a ticket without an attendant has been serviced. -/
theorem serviced_of_unattended (tallied : Tallied slots traffic) {ticket : Ticket}
    (held : ticket ∈ traffic.held) (alone : ticket.attendant = none) :
    traffic.controller.ledger.isServiced ticket.direction ticket.slot = true := by
  obtain ⟨requisition, stood, sameSlot, sameAttendant⟩ := tallied.requisition_of_held held
  have serviced := (tallied.prompt _ requisition stood (sameAttendant.trans alone)).resolve_right
    (by simp)
  exact tallied.ledger.isServiced_iff.mpr ⟨requisition, stood, sameSlot, serviced⟩

end Tallied

/-- The ledger and the tickets agree.  In any weather, whatever traffic comes to: no slot is that
of two queued requisitions, the slots of both queues are those that are taken, and the tickets
that are held are those of the queued requisitions, each in the queue of its direction.  No more
slots are taken than there are, and whoever is queued without an attendant is serviced.  Once
nobody holds a ticket, nothing is queued and every slot is free. -/
theorem ledger_tallies (weather : Weather σ) {store : σ} {slots : Nat} {later : Traffic σ}
    (reached : weather.Reaches (Traffic.start store slots) later) :
    later.controller.ledger.slots.Nodup ∧
    later.controller.ledger.slots.Perm later.controller.ledger.pool.held ∧
    later.held.Perm later.controller.ledger.tickets ∧
    later.controller.ledger.pool.limit = slots ∧
    later.controller.ledger.pool.inUse ≤ slots ∧
    (∀ direction, ∀ requisition ∈ later.queue direction,
      requisition.attendant = none → requisition.serviced = true) ∧
    (later.held = [] → (∀ direction, later.queue direction = []) ∧
      later.controller.ledger.pool.held = []) := by
  have tallied := (Tallied.start store slots).reaches reached
  refine ⟨tallied.ledger.slots_nodup, tallied.ledger.held, tallied.tickets,
    tallied.within.limit, tallied.within.inUse, ?_, tallied.empty_of_nobody⟩
  intro direction requisition queued alone
  exact (tallied.prompt direction requisition queued alone).resolve_right (by simp)

end Tallied

/-- A requester waits for more than half of the capacity, and gives up. -/
def waitingInVain : List Move :=
  [.makeAttendant, .request .outbound (.ofFile 60) ⟨1, 0⟩ (some ⟨0⟩),
    .drop ⟨.outbound, .ofParts 1 1, some ⟨0⟩⟩]

/-- While that requester waits its ticket is that of the only queued requisition, and afterwards
nothing is left of it. -/
theorem waitingInVain_tallies :
    (∃ waits ∈ Traffic.hundred.replay waitingInVain,
      waits.held = [⟨.outbound, .ofParts 1 1, some ⟨0⟩⟩] ∧
      waits.held.Perm waits.controller.ledger.tickets ∧
      waits.controller.ledger.slots.Perm waits.controller.ledger.pool.held) ∧
    ∃ left ∈ Traffic.hundred.replay waitingInVain, left.held = [] ∧
      (∀ direction, left.queue direction = []) ∧ left.controller.ledger.pool.held = [] := by
  have reached : ∀ later ∈ Traffic.hundred.replay waitingInVain,
      (Weather.any MemoryStore).Reaches Traffic.hundred later := fun later member =>
    Run.inAny (Traffic.hundred.replay_run waitingInVain) later (List.mem_cons_of_mem _ member)
  constructor
  · obtain ⟨waits, found, held⟩ : ∃ waits, (Traffic.hundred.replay waitingInVain)[1]? =
        some waits ∧ waits.held = [⟨.outbound, .ofParts 1 1, some ⟨0⟩⟩] :=
      ⟨(Traffic.hundred.replay waitingInVain).getD 1 .hundred, rfl, rfl⟩
    have inRun := List.mem_of_getElem? found
    obtain ⟨-, slots, tickets, -⟩ := ledger_tallies (.any _) (reached waits inRun)
    exact ⟨waits, inRun, held, tickets, slots⟩
  · obtain ⟨left, found, nobody⟩ : ∃ left, (Traffic.hundred.replay waitingInVain)[2]? =
        some left ∧ left.held = [] :=
      ⟨(Traffic.hundred.replay waitingInVain).getD 2 .hundred, rfl, rfl⟩
    have inRun := List.mem_of_getElem? found
    obtain ⟨-, -, -, -, -, -, nothing⟩ := ledger_tallies (.any _) (reached left inRun)
    exact ⟨left, inRun, nobody, nothing nobody⟩

end Admission
