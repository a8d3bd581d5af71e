import Admission.Proofs.Controller.Chores
import Admission.Proofs.Queue.Arrivals

/-!
# Tickets and queued requisitions

Every queued requisition is somebody's, and two facts say whose.

*Tickets.*  `Ledger.tickets` are the tickets that the queued requisitions are good for.
`Handled.asked` says what becomes of a queue, apart from the marks of being serviced: what has
come is put at its place, and what was to go is taken out.  Hence tickets come and go with their
requisitions (`Handled.tickets`).

*Promptness.*  Whoever would not wait is answered at once: a requisition without an attendant
stays on the ledger only if it is serviced (`Deed.prompt`).
-/

namespace Admission

/-! ## Tickets -/

namespace Ledger

/-- The tickets that the requisitions of a direction are good for. -/
def ticketsOf (ledger : Ledger) (direction : Direction) : List Ticket :=
  (ledger.queue direction).map (Requisition.ticket · direction)

/-- The tickets that all requisitions are good for. -/
def tickets (ledger : Ledger) : List Ticket :=
  ledger.ticketsOf .inbound ++ ledger.ticketsOf .outbound

theorem map_slot_tickets (ledger : Ledger) : ledger.tickets.map Ticket.slot = ledger.slots := by
  simp only [tickets, ticketsOf, List.map_append, List.map_map]
  rfl

theorem mem_tickets_iff {ledger : Ledger} {ticket : Ticket} :
    ticket ∈ ledger.tickets ↔ ticket ∈ ledger.ticketsOf ticket.direction := by
  obtain ⟨direction, slot, attendant⟩ := ticket
  cases direction <;> simp [tickets, ticketsOf, Requisition.ticket]

/-- What happens to the tickets of one direction happens to all of them. -/
theorem tickets_perm {ledger after : Ledger} {direction : Direction} {came gone : List Ticket}
    (others : ∀ other, other ≠ direction → after.queue other = ledger.queue other)
    (own : (gone ++ after.ticketsOf direction).Perm (came ++ ledger.ticketsOf direction)) :
    (gone ++ after.tickets).Perm (came ++ ledger.tickets) := by
  cases direction with
  | inbound =>
      have same : after.ticketsOf .outbound = ledger.ticketsOf .outbound := by
        rw [ticketsOf, others .outbound (by simp), ticketsOf]
      rw [tickets, tickets, same, ← List.append_assoc, ← List.append_assoc]
      exact own.append_right _
  | outbound =>
      have same : after.ticketsOf .inbound = ledger.ticketsOf .inbound := by
        rw [ticketsOf, others .inbound (by simp), ticketsOf]
      rw [tickets, tickets, same]
      exact (List.perm_append_comm_assoc _ _ _).trans
        ((own.append_left _).trans (List.perm_append_comm_assoc _ _ _))

end Ledger

theorem Requisition.insert_perm (requisition : Requisition) (queue : List Requisition) :
    (requisition.insert queue).Perm (requisition :: queue) := by
  obtain ⟨front, back, rfl, inserted⟩ := requisition.insert_eq queue
  rw [inserted]
  exact List.perm_middle

/-- What is taken out of a queue is the only requisition of its slot. -/
theorem Requisition.cons_filter_perm {requisition : Requisition} {queue : List Requisition}
    (distinct : (queue.map slot).Nodup) (queued : requisition ∈ queue) :
    (requisition :: queue.filter fun other => other.slot ≠ requisition.slot).Perm queue := by
  obtain ⟨front, back, rfl⟩ := List.append_of_mem queued
  have moved : ((front ++ requisition :: back).map slot).Perm
      (requisition.slot :: (front ++ back).map slot) := List.perm_middle.map slot
  have apart := (List.nodup_cons.mp (moved.nodup_iff.mp distinct)).1
  have stays : ∀ other ∈ front ++ back, decide (other.slot ≠ requisition.slot) = true := by
    intro other member
    simpa using fun same => apart (List.mem_map.mpr ⟨other, member, same⟩)
  rw [List.filter_append, List.filter_cons_of_neg (by simp), ← List.filter_append,
    List.filter_eq_self.mpr stays]
  exact List.perm_middle.symm

namespace Handled

variable {offers : Share → Prop} {unanswered : Prop} {direction : Direction}
  {ledger after : Ledger} {came : Option Requisition}

/-- Apart from who is serviced, what has come is put at its place in the queue and what was to
go is taken out. -/
theorem asked {gone : Option SlotId}
    (handled : Handled offers unanswered direction ledger came gone after)
    (wellFormed : ledger.WellFormed) :
    (after.queue direction).map Requisition.asked =
      ((came.elim id Requisition.insert (ledger.queue direction)).filter
        fun requisition => gone ≠ some requisition.slot).map Requisition.asked := by
  have nobody : ∀ queue : List Requisition,
      queue.filter (fun requisition => (none : Option SlotId) ≠ some requisition.slot) =
        queue := fun queue => List.filter_eq_self.mpr (by simp)
  have somebody : ∀ (slot : SlotId) (queue : List Requisition),
      queue.filter (fun requisition => some slot ≠ some requisition.slot) =
        queue.filter fun requisition => requisition.slot ≠ slot := by
    intro slot queue
    refine List.filter_congr fun requisition _ => ?_
    simp [eq_comm]
  cases handled with
  | same => rw [nobody, Option.elim_none, id]
  | @absent slot missing =>
      have all : (ledger.queue direction).filter
          (fun requisition => requisition.slot ≠ slot) = ledger.queue direction := by
        refine List.filter_eq_self.mpr fun requisition queued => ?_
        simpa using fun same => missing (List.mem_map.mpr ⟨requisition, queued, same⟩)
      rw [somebody, Option.elim_none, id, all]
  | unscanned stopped => rw [nobody, Option.elim_none, id]
  | scanned offered =>
      rw [nobody, Option.elim_none, id, Ledger.queue_granting_self, map_asked_grantAll]
  | withdrawn stopped joins =>
      rw [nobody, Option.elim_none, id, Ledger.queue_remove_self, Ledger.queue_joined_self,
        Requisition.filter_insert (wellFormed.fresh_of_take joins.spare joins.took direction)]
  | passed offered joins =>
      rw [nobody, Option.elim_none, id, Ledger.queue_remove_self, Ledger.queue_granting_self,
        Ledger.queue_joined_self, Requisition.map_asked_filter, map_asked_grantAll,
        ← Requisition.map_asked_filter,
        Requisition.filter_insert (wellFormed.fresh_of_take joins.spare joins.took direction)]
  | queued offered joins =>
      rw [nobody, Option.elim_some, Ledger.queue_granting_self, Ledger.queue_joined_self,
        map_asked_grantAll]
  | left found pending => rw [somebody, Option.elim_none, id, Ledger.queue_remove_self]
  | leftUnscanned stopped found serviced =>
      rw [somebody, Option.elim_none, id, Ledger.queue_remove_self]
  | leftScanned offered found serviced =>
      rw [somebody, Option.elim_none, id, Ledger.queue_granting_self, map_asked_grantAll,
        Ledger.queue_remove_self]

/-- The tickets change by that of what has come and that of what was to go. -/
theorem tickets {gone : Option Ticket}
    (handled : Handled offers unanswered direction ledger came (gone.map Ticket.slot) after)
    (wellFormed : ledger.WellFormed)
    (there : ∀ ticket, gone = some ticket → ticket ∈ ledger.ticketsOf direction) :
    (gone.toList ++ after.tickets).Perm
      ((came.map (Requisition.ticket · direction)).toList ++ ledger.tickets) := by
  refine Ledger.tickets_perm (fun other different => handled.queue_of_ne different) ?_
  have asked := congrArg (List.map (Requisition.ticket · direction)) (handled.asked wellFormed)
  rw [List.map_map, List.map_map] at asked
  have own : after.ticketsOf direction = List.map (Requisition.ticket · direction) _ := asked
  rw [own]
  cases gone with
  | none =>
      rw [Option.map_none, List.filter_eq_self.mpr (by simp)]
      cases came with
      | none => exact List.Perm.refl _
      | some requisition =>
          exact (requisition.insert_perm (ledger.queue direction)).map _
  | some ticket =>
      cases came with
      | some requisition =>
          obtain ⟨-, -, impossible, -⟩ := handled.came_spec wellFormed rfl
          cases impossible
      | none =>
          obtain ⟨requisition, queued, rfl⟩ := List.mem_map.mp (there ticket rfl)
          have left := (Requisition.cons_filter_perm (wellFormed.queue_nodup direction) queued).map
            (Requisition.ticket · direction)
          simpa [Requisition.ticket, Ledger.ticketsOf, eq_comm] using left

end Handled

/-! ## Promptness -/

/-- Whoever is queued without an attendant is serviced, but for the one in an exempt slot. -/
def Ledger.Prompt (ledger : Ledger) (exempt : Option SlotId) : Prop :=
  ∀ direction, ∀ requisition ∈ ledger.queue direction, requisition.attendant = none →
    requisition.serviced = true ∨ exempt = some requisition.slot

namespace Ledger.Prompt

variable {ledger : Ledger} {direction : Direction} {exempt : Option SlotId}

theorem granting (prompt : ledger.Prompt exempt) (direction : Direction) (share : Share) :
    (ledger.granting direction share).Prompt exempt := by
  intro other requisition queued alone
  by_cases here : other = direction
  · subst here
    rw [queue_granting_self] at queued
    rcases mem_of_mem_grantAll queued with stood | ⟨before, -, -, rfl⟩
    · exact prompt other requisition stood alone
    · exact Or.inl before.granted_serviced
  · rw [queue_granting_of_ne share here] at queued
    exact prompt other requisition queued alone

theorem remove (prompt : ledger.Prompt exempt) (direction : Direction) (slot : SlotId) :
    (ledger.remove direction slot).Prompt exempt := by
  intro other requisition queued alone
  by_cases here : other = direction
  · subst here
    rw [queue_remove_self] at queued
    exact prompt other requisition (List.mem_filter.mp queued).1 alone
  · rw [queue_remove_of_ne ledger slot here] at queued
    exact prompt other requisition queued alone

/-- What has come is exempt if it has no attendant. -/
theorem joined (prompt : ledger.Prompt none) {fresh : Requisition} {taken : SlotPool}
    (exempts : fresh.attendant = none → exempt = some fresh.slot) :
    (ledger.joined direction fresh taken).Prompt exempt := by
  intro other requisition queued alone
  have before : requisition ∈ ledger.queue other → requisition.serviced = true := fun stood =>
    (prompt other requisition stood alone).resolve_right (by simp)
  by_cases here : other = direction
  · subst here
    rw [queue_joined_self] at queued
    rcases Requisition.mem_insert.mp queued with rfl | stood
    · exact Or.inr (exempts alone)
    · exact Or.inl (before stood)
  · rw [queue_joined_of_ne fresh taken here] at queued
    exact Or.inl (before queued)

/-- Without the exempt one everybody is serviced. -/
theorem remove_exempt {slot : SlotId} (prompt : ledger.Prompt (some slot))
    (wellFormed : ledger.WellFormed)
    (present : slot ∈ (ledger.queue direction).map Requisition.slot) :
    (ledger.remove direction slot).Prompt none := by
  intro other requisition queued alone
  have apart : requisition.slot ≠ slot := by
    by_cases here : other = direction
    · subst here
      rw [queue_remove_self] at queued
      simpa using (List.mem_filter.mp queued).2
    · rw [queue_remove_of_ne ledger slot here] at queued
      rintro rfl
      exact wellFormed.disjoint here present (List.mem_map_of_mem queued)
  rcases prompt.remove direction slot other requisition queued alone with serviced | isExempt
  · exact Or.inl serviced
  · exact absurd (Option.some.inj isExempt).symm apart

/-- Everybody is serviced if the exempt one is. -/
theorem of_serviced {slot : SlotId} (prompt : ledger.Prompt (some slot))
    (wellFormed : ledger.WellFormed) (serviced : ledger.isServiced direction slot = true) :
    ledger.Prompt none := by
  intro other requisition queued alone
  rcases prompt other requisition queued alone with isServiced | isExempt
  · exact Or.inl isServiced
  · obtain ⟨found, foundQueued, same, foundServiced⟩ := wellFormed.isServiced_iff.mp serviced
    rw [Option.some.injEq] at isExempt
    by_cases here : other = direction
    · subst here
      exact Or.inl (wellFormed.requisition_unique foundQueued queued
        (same.trans isExempt) ▸ foundServiced)
    · exact absurd (List.mem_map.mpr ⟨requisition, queued, isExempt.symm.trans same.symm⟩)
        (wellFormed.disjoint here (List.mem_map_of_mem foundQueued))

end Ledger.Prompt

section Deeds

variable {σ : Type} [Store σ] {controller final : Controller σ}

theorem Submission.prompt {direction : Direction} {needed : Space} {priority : Priority}
    {attendant : Option AttendantId} {hold : Bool} {answer : Except Refusal Answer}
    (submission : Submission direction needed priority attendant hold controller answer final)
    (spare : controller.ledger.pool.Spare) (wellFormed : controller.ledger.WellFormed)
    (prompt : controller.ledger.Prompt none) : final.ledger.Prompt none := by
  have joins : ∀ {slot : SlotId} {taken : SlotPool}, needed.valid = true →
      controller.ledger.pool.take = some (slot, taken) →
      Joins controller.ledger ⟨slot, needed, priority, attendant, false⟩ taken :=
    fun valid took => ⟨valid, rfl, spare, took⟩
  have scannedFormed : ∀ {slot : SlotId} {taken : SlotPool} (share : Share),
      Joins controller.ledger ⟨slot, needed, priority, attendant, false⟩ taken →
      ((controller.ledger.joined direction ⟨slot, needed, priority, attendant, false⟩
        taken).granting direction share).WellFormed :=
    fun share joined => (wellFormed.joined joined direction).granting direction share
  have queued : ∀ (slot : SlotId) (taken : SlotPool) (share : Share),
      slot ∈ (((controller.ledger.joined direction ⟨slot, needed, priority, attendant, false⟩
        taken).granting direction share).queue direction).map Requisition.slot := by
    intro slot taken share
    rw [Ledger.queue_granting_self, map_slot_grantAll]
    exact controller.ledger.mem_slots_joined direction ⟨slot, _, _, _, _⟩ taken
  cases submission with
  | invalid invalid => exact prompt
  | exhausted valid full => exact prompt
  | unanswered valid took stopped =>
      exact (prompt.joined fun _ => rfl).remove_exempt
        (wellFormed.joined (joins valid took) direction)
        (controller.ledger.mem_slots_joined direction _ _)
  | @granted slot taken share scanned valid took offers isScanned serviced released =>
      subst isScanned
      exact ((prompt.joined fun _ => rfl).granting direction share).remove_exempt
        (scannedFormed share (joins valid took)) (queued slot taken share)
  | @notServiceable slot taken share scanned valid took offers isScanned pending alone =>
      subst isScanned
      exact ((prompt.joined fun _ => rfl).granting direction share).remove_exempt
        (scannedFormed share (joins valid took)) (queued slot taken share)
  | @queued slot taken share scanned valid took offers isScanned outcome =>
      subst isScanned
      rcases outcome with ⟨serviced, -⟩ | ⟨-, attended⟩
      · exact ((prompt.joined fun _ => rfl).granting direction share).of_serviced
          (scannedFormed share (joins valid took)) serviced
      · refine (prompt.joined fun alone => ?_).granting direction share
        rw [show attendant = none from alone] at attended
        cases attended

/-- Whoever would not wait is answered at once. -/
theorem Deed.prompt (deed : Deed controller final) (wellFormed : controller.ledger.WellFormed)
    (prompt : controller.ledger.Prompt none) : final.ledger.Prompt none := by
  cases deed with
  | submission spare submission => exact submission.prompt spare wellFormed prompt
  | @release ticket final release =>
      cases release with
      | absent missing => exact prompt
      | pending found isPending => exact prompt.remove _ _
      | unanswered found serviced stopped => exact prompt.remove _ _
      | rescanned found serviced offers => exact (prompt.remove _ _).granting _ _
  | scan offers => exact prompt.granting _ _
  | unscanned => exact prompt

end Deeds

end Admission
