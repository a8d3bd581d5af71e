import Admission.Proofs.Controller.Release
import Admission.Proofs.Ledger.Slots
import Admission.Store.Memory

/-!
# What is done to the ledger

Requests, scans and drops of tickets handle the ledger in few ways: a requisition comes, a
requisition goes, a queue is gone over.  `Handled` lists the combinations of these, and each of
the three operations is shown to be one of them.  What has to be known of a ledger over a run
is then proved of `Handled` once.
-/

namespace Admission

/-- The ledger after a queue was gone over. -/
def Ledger.granting (ledger : Ledger) (direction : Direction) (share : Share) : Ledger :=
  ledger.setQueue direction (grantAll share (ledger.queue direction))

/-- The ledger after a requisition was queued in a slot that left the pool `taken`. -/
def Ledger.joined (ledger : Ledger) (direction : Direction) (requisition : Requisition)
    (taken : SlotPool) : Ledger :=
  ({ ledger with pool := taken } : Ledger).enqueue direction requisition

/-- A store refuses a question that a scan of a direction asks. -/
def Unanswered {σ : Type} [Store σ] (store : σ) (direction : Direction) : Prop :=
  ∃ error medium, Store.capacity store direction medium = .error (.refused error) ∨
    Store.occupancy store direction medium = .error (.refused error)

/-- The store in memory refuses no question of a scan. -/
theorem MemoryStore.answers (store : MemoryStore) (direction : Direction) :
    ¬ Unanswered store direction := by
  rintro ⟨error, medium, stopped | stopped⟩
  · cases stopped
  · simp only [Store.occupancy, Checked.bind_eq_error_iff] at stopped
    rcases stopped with computed | ⟨total, -, impossible⟩
    · exact Checked.ofArithmetic_ne_refused _ _ computed
    · cases impossible

/-- A requisition that can be queued next. -/
structure Joins (ledger : Ledger) (requisition : Requisition) (taken : SlotPool) : Prop where
  valid : requisition.needed.valid = true
  pending : requisition.serviced = false
  spare : ledger.pool.Spare
  took : ledger.pool.take = some (requisition.slot, taken)

/-- The ways to handle the ledger, with the requisition that has come to stay and the slot whose
requisition was to go.  The shares that a scan may find are those of `offers`; without an
answer of the store there is none. -/
inductive Handled (offers : Share → Prop) (unanswered : Prop) (direction : Direction)
    (ledger : Ledger) : Option Requisition → Option SlotId → Ledger → Prop where
  | same : Handled offers unanswered direction ledger none none ledger
  | absent {slot : SlotId} :
      slot ∉ (ledger.queue direction).map Requisition.slot →
      Handled offers unanswered direction ledger none (some slot) ledger
  | unscanned : unanswered → Handled offers unanswered direction ledger none none ledger
  | scanned {share : Share} :
      offers share →
      Handled offers unanswered direction ledger none none (ledger.granting direction share)
  | withdrawn {requisition : Requisition} {taken : SlotPool} :
      unanswered → Joins ledger requisition taken →
      Handled offers unanswered direction ledger none none
        ((ledger.joined direction requisition taken).remove direction requisition.slot)
  | passed {requisition : Requisition} {taken : SlotPool} {share : Share} :
      offers share → Joins ledger requisition taken →
      Handled offers unanswered direction ledger none none
        (((ledger.joined direction requisition taken).granting direction share).remove direction
          requisition.slot)
  | queued {requisition : Requisition} {taken : SlotPool} {share : Share} :
      offers share → Joins ledger requisition taken →
      Handled offers unanswered direction ledger (some requisition) none
        ((ledger.joined direction requisition taken).granting direction share)
  | left {slot : SlotId} {requisition : Requisition} :
      ledger.find? direction slot = some requisition → requisition.serviced = false →
      Handled offers unanswered direction ledger none (some slot)
        (ledger.remove direction slot)
  | leftUnscanned {slot : SlotId} {requisition : Requisition} :
      unanswered → ledger.find? direction slot = some requisition →
      requisition.serviced = true →
      Handled offers unanswered direction ledger none (some slot)
        (ledger.remove direction slot)
  | leftScanned {slot : SlotId} {requisition : Requisition} {share : Share} :
      offers share → ledger.find? direction slot = some requisition →
      requisition.serviced = true →
      Handled offers unanswered direction ledger none (some slot)
        ((ledger.remove direction slot).granting direction share)

/-- The ticket that an answer hands out. -/
def Answer.ticket? : Except Refusal Answer → Option Ticket
  | .ok (.queued ticket) => some ticket
  | .ok .granted | .ok .notServiceable | .error _ => none

/-- The ticket of a requisition. -/
def Requisition.ticket (requisition : Requisition) (direction : Direction) : Ticket :=
  ⟨direction, requisition.slot, requisition.attendant⟩

section Operations

variable {σ : Type} [Store σ] {controller final : Controller σ} {direction : Direction}

/-- A submission handles the ledger, and hands out a ticket exactly for what has come to stay. -/
theorem Submission.handled {needed : Space} {priority : Priority}
    {attendant : Option AttendantId} {hold : Bool} {answer : Except Refusal Answer}
    (submission : Submission direction needed priority attendant hold controller answer final)
    (spare : controller.ledger.pool.Spare) :
    ∃ came, Handled (Budget.Offers controller.store direction)
        (Unanswered controller.store direction) direction controller.ledger came none
        final.ledger ∧
      Answer.ticket? answer = came.map (Requisition.ticket · direction) ∧
      ∀ requisition, came = some requisition →
        requisition.needed = needed ∧ requisition.attendant = attendant := by
  cases submission with
  | invalid invalid => exact ⟨none, .same, rfl, by simp⟩
  | exhausted valid full => exact ⟨none, .same, rfl, by simp⟩
  | @unanswered slot taken error medium valid took stopped =>
      have joins : Joins controller.ledger ⟨slot, needed, priority, attendant, false⟩ taken :=
        ⟨valid, rfl, spare, took⟩
      exact ⟨none, .withdrawn ⟨error, medium, stopped⟩ joins, rfl, by simp⟩
  | @granted slot taken share scanned valid took offers isScanned serviced released =>
      subst isScanned
      have joins : Joins controller.ledger ⟨slot, needed, priority, attendant, false⟩ taken :=
        ⟨valid, rfl, spare, took⟩
      exact ⟨none, .passed offers joins, rfl, by simp⟩
  | @notServiceable slot taken share scanned valid took offers isScanned pending alone =>
      subst isScanned
      have joins : Joins controller.ledger ⟨slot, needed, priority, attendant, false⟩ taken :=
        ⟨valid, rfl, spare, took⟩
      exact ⟨none, .passed offers joins, rfl, by simp⟩
  | @queued slot taken share scanned valid took offers isScanned outcome =>
      subst isScanned
      exact ⟨some ⟨slot, needed, priority, attendant, false⟩, .queued offers
        ⟨valid, rfl, spare, took⟩, rfl, by rintro requisition ⟨⟩; exact ⟨rfl, rfl⟩⟩

theorem Release.handled {ticket : Ticket} (release : Release ticket controller final) :
    Handled (Budget.Offers controller.store ticket.direction)
      (Unanswered controller.store ticket.direction) ticket.direction controller.ledger none
      (some ticket.slot) final.ledger := by
  cases release with
  | absent missing =>
      refine .absent fun queued => ?_
      rw [← Ledger.isSome_find?_iff, missing] at queued
      cases queued
  | pending found isPending => exact .left found isPending
  | @unanswered requisition error medium found serviced stopped =>
      exact .leftUnscanned ⟨error, medium, stopped⟩ found serviced
  | rescanned found serviced offers => exact .leftScanned offers found serviced

theorem Action.handled_of_scan {outcome : Except Refusal Nat}
    (ended : attempt (scan direction) controller = .ok outcome final) :
    Handled (Budget.Offers controller.store direction) (Unanswered controller.store direction)
      direction controller.ledger none none final.ledger := by
  rcases rescan_of_attempt ended with ⟨share, offers, rfl⟩ | ⟨rfl, stopped⟩
  · exact .scanned offers
  · exact .unscanned stopped

end Operations

/-! ## What handling leaves true -/

theorem Requisition.mem_insert {requisition other : Requisition} {queue : List Requisition} :
    other ∈ requisition.insert queue ↔ other = requisition ∨ other ∈ queue := by
  obtain ⟨front, back, rfl, inserted⟩ := requisition.insert_eq queue
  rw [inserted]
  simp only [List.mem_append, List.mem_cons]
  tauto

namespace Ledger

variable {ledger : Ledger} {direction other : Direction}

@[simp] theorem queue_granting_self (ledger : Ledger) (direction : Direction) (share : Share) :
    (ledger.granting direction share).queue direction =
      grantAll share (ledger.queue direction) := queue_setQueue_self _ _ _

theorem queue_granting_of_ne (share : Share) (different : other ≠ direction) :
    (ledger.granting direction share).queue other = ledger.queue other :=
  queue_setQueue_of_ne _ _ different

@[simp] theorem queue_joined_self (ledger : Ledger) (direction : Direction)
    (requisition : Requisition) (taken : SlotPool) :
    (ledger.joined direction requisition taken).queue direction =
      requisition.insert (ledger.queue direction) := by
  rw [joined, queue_enqueue_self, queue_withPool]

theorem queue_joined_of_ne (requisition : Requisition) (taken : SlotPool)
    (different : other ≠ direction) :
    (ledger.joined direction requisition taken).queue other = ledger.queue other := by
  rw [joined, queue_enqueue_of_ne _ _ different, queue_withPool]

theorem WellFormed.granting (wellFormed : ledger.WellFormed) (direction : Direction)
    (share : Share) : (ledger.granting direction share).WellFormed :=
  wellFormed.setQueue (map_slot_grantAll share _)

theorem WellFormed.joined {requisition : Requisition} {taken : SlotPool}
    (wellFormed : ledger.WellFormed) (joins : Joins ledger requisition taken)
    (direction : Direction) : (ledger.joined direction requisition taken).WellFormed :=
  wellFormed.enqueue joins.spare joins.took direction

theorem map_slot_queue_granting (ledger : Ledger) (direction other : Direction) (share : Share) :
    ((ledger.granting direction share).queue other).map Requisition.slot =
      (ledger.queue other).map Requisition.slot := by
  by_cases here : other = direction
  · subst here
    rw [queue_granting_self, map_slot_grantAll]
  · rw [queue_granting_of_ne share here]

theorem mem_queue_joined {requisition another : Requisition} {taken : SlotPool} :
    another ∈ (ledger.joined direction requisition taken).queue other ↔
      other = direction ∧ another = requisition ∨ another ∈ ledger.queue other := by
  by_cases here : other = direction
  · subst here
    rw [queue_joined_self, Requisition.mem_insert, and_iff_right rfl]
  · rw [queue_joined_of_ne requisition taken here, or_iff_right fun joins => here joins.1]

/-- What is in the queues, once a slot of one of them was taken off. -/
theorem WellFormed.mem_queue_remove (wellFormed : ledger.WellFormed) {slot : SlotId}
    (queued : slot ∈ (ledger.queue direction).map Requisition.slot) {another : Requisition} :
    another ∈ (ledger.remove direction slot).queue other ↔
      another ∈ ledger.queue other ∧ another.slot ≠ slot := by
  by_cases here : other = direction
  · subst here
    rw [queue_remove_self, List.mem_filter, decide_eq_true_iff]
  · rw [queue_remove_of_ne ledger slot here]
    refine (and_iff_left_of_imp ?_).symm
    rintro stands rfl
    exact wellFormed.disjoint here queued (List.mem_map_of_mem stands)

theorem mem_slots_joined (ledger : Ledger) (direction : Direction) (requisition : Requisition)
    (taken : SlotPool) :
    requisition.slot ∈ ((ledger.joined direction requisition taken).queue direction).map
      Requisition.slot := mem_slots_enqueue _ direction requisition

theorem mem_slots_of_find? {slot : SlotId} {requisition : Requisition}
    (found : ledger.find? direction slot = some requisition) :
    slot ∈ (ledger.queue direction).map Requisition.slot :=
  isSome_find?_iff.mp (by rw [found, Option.isSome_some])

end Ledger

/-- What was queued and is taken off again leaves the queue as it was. -/
theorem Requisition.filter_insert {requisition : Requisition} {queue : List Requisition}
    (fresh : requisition.slot ∉ queue.map Requisition.slot) :
    (requisition.insert queue).filter (fun other => other.slot ≠ requisition.slot) = queue := by
  obtain ⟨front, back, rfl, inserted⟩ := requisition.insert_eq queue
  have stays : ∀ other ∈ front ++ back, decide (other.slot ≠ requisition.slot) = true := by
    intro other member
    simpa using fun same => fresh (List.mem_map.mpr ⟨other, member, same⟩)
  rw [inserted, List.filter_append, List.filter_cons_of_neg (by simp), ← List.filter_append,
    List.filter_eq_self.mpr stays]

namespace Handled

variable {offers : Share → Prop} {unanswered : Prop} {direction : Direction}
  {ledger after : Ledger} {came : Option Requisition} {gone : Option SlotId}

theorem wellFormed (handled : Handled offers unanswered direction ledger came gone after)
    (wellFormed : ledger.WellFormed) : after.WellFormed := by
  cases handled with
  | same => exact wellFormed
  | absent missing => exact wellFormed
  | unscanned stopped => exact wellFormed
  | scanned offered => exact wellFormed.granting direction _
  | @withdrawn requisition taken stopped joins =>
      exact (wellFormed.joined joins direction).remove
        (ledger.mem_slots_joined direction requisition taken)
  | @passed requisition taken share offered joins =>
      refine ((wellFormed.joined joins direction).granting direction share).remove ?_
      rw [Ledger.queue_granting_self, map_slot_grantAll]
      exact ledger.mem_slots_joined direction requisition taken
  | queued offered joins => exact (wellFormed.joined joins direction).granting direction _
  | left found pending => exact wellFormed.remove (Ledger.mem_slots_of_find? found)
  | leftUnscanned stopped found serviced =>
      exact wellFormed.remove (Ledger.mem_slots_of_find? found)
  | leftScanned offered found serviced =>
      exact (wellFormed.remove (Ledger.mem_slots_of_find? found)).granting direction _

theorem queue_of_ne (handled : Handled offers unanswered direction ledger came gone after)
    {other : Direction} (different : other ≠ direction) :
    after.queue other = ledger.queue other := by
  cases handled <;>
    simp only [Ledger.queue_remove_of_ne _ _ different, Ledger.queue_granting_of_ne _ different,
      Ledger.queue_joined_of_ne _ _ different]

/-- What has come to stay was queued just now, pending and in a slot that nothing else had. -/
theorem came_spec (handled : Handled offers unanswered direction ledger came gone after)
    (wellFormed : ledger.WellFormed) {requisition : Requisition}
    (isCame : came = some requisition) :
    requisition.needed.valid = true ∧ requisition.serviced = false ∧ gone = none ∧
      (∀ other, requisition.slot ∉ (ledger.queue other).map Requisition.slot) ∧
      (requisition ∈ after.queue direction ∨ requisition.granted ∈ after.queue direction) := by
  cases handled with
  | queued offered joins =>
      cases isCame
      refine ⟨joins.valid, joins.pending, rfl,
        fun other => wellFormed.fresh_of_take joins.spare joins.took other, ?_⟩
      rw [Ledger.queue_granting_self, Ledger.queue_joined_self]
      exact mem_grantAll (Requisition.mem_insert.mpr (Or.inl rfl))
  | _ => cases isCame

/-- A queued requisition other than the one that goes stays, and can only be granted. -/
theorem kept (handled : Handled offers unanswered direction ledger came gone after)
    (wellFormed : ledger.WellFormed) {requisition : Requisition}
    (queued : requisition ∈ ledger.queue direction) (stays : gone ≠ some requisition.slot) :
    requisition ∈ after.queue direction ∨ requisition.granted ∈ after.queue direction := by
  cases handled with
  | same => exact Or.inl queued
  | absent missing => exact Or.inl queued
  | unscanned stopped => exact Or.inl queued
  | scanned offered =>
      rw [Ledger.queue_granting_self]
      exact mem_grantAll queued
  | @withdrawn fresh taken stopped joins =>
      have different : requisition.slot ≠ fresh.slot := fun same =>
        wellFormed.fresh_of_take joins.spare joins.took direction
          (List.mem_map.mpr ⟨requisition, queued, same⟩)
      rw [Ledger.queue_remove_self, Ledger.queue_joined_self]
      exact Or.inl (List.mem_filter.mpr
        ⟨Requisition.mem_insert.mpr (Or.inr queued), by simpa using different⟩)
  | @passed fresh taken share offered joins =>
      have different : requisition.slot ≠ fresh.slot := fun same =>
        wellFormed.fresh_of_take joins.spare joins.took direction
          (List.mem_map.mpr ⟨requisition, queued, same⟩)
      rw [Ledger.queue_remove_self, Ledger.queue_granting_self, Ledger.queue_joined_self]
      have inserted : requisition ∈ fresh.insert (ledger.queue direction) :=
        Requisition.mem_insert.mpr (Or.inr queued)
      rcases mem_grantAll inserted with stands | stands
      · exact Or.inl (List.mem_filter.mpr ⟨stands, by simpa using different⟩)
      · exact Or.inr (List.mem_filter.mpr ⟨stands, decide_eq_true different⟩)
  | queued offered joins =>
      rw [Ledger.queue_granting_self, Ledger.queue_joined_self]
      exact mem_grantAll (Requisition.mem_insert.mpr (Or.inr queued))
  | left found pending =>
      rw [Ledger.queue_remove_self]
      exact Or.inl (List.mem_filter.mpr
        ⟨queued, by simpa using fun same => stays (congrArg some same.symm)⟩)
  | leftUnscanned stopped found serviced =>
      rw [Ledger.queue_remove_self]
      exact Or.inl (List.mem_filter.mpr
        ⟨queued, by simpa using fun same => stays (congrArg some same.symm)⟩)
  | leftScanned offered found serviced =>
      rw [Ledger.queue_granting_self, Ledger.queue_remove_self]
      exact mem_grantAll (List.mem_filter.mpr
        ⟨queued, by simpa using fun same => stays (congrArg some same.symm)⟩)

/-- The queue afterwards is part of the queue before, or of what a greedy pass made of
requisitions that were queued before, and of one that is pending in a slot of its own. -/
theorem part (handled : Handled offers unanswered direction ledger came gone after)
    (wellFormed : ledger.WellFormed) :
    (after.queue direction).Sublist (ledger.queue direction) ∨
      ∃ share before, offers share ∧
        (after.queue direction).Sublist (grantAll share before) ∧
        ∀ requisition ∈ before, requisition ∈ ledger.queue direction ∨
          requisition.serviced = false ∧ requisition.needed.valid = true ∧
            requisition.slot ∉ (ledger.queue direction).map Requisition.slot := by
  have joined : ∀ {requisition : Requisition} {taken : SlotPool},
      Joins ledger requisition taken →
      ∀ other ∈ requisition.insert (ledger.queue direction), other ∈ ledger.queue direction ∨
        other.serviced = false ∧ other.needed.valid = true ∧
          other.slot ∉ (ledger.queue direction).map Requisition.slot := by
    intro requisition taken joins other member
    rcases Requisition.mem_insert.mp member with rfl | queued
    · exact Or.inr ⟨joins.pending, joins.valid,
        wellFormed.fresh_of_take joins.spare joins.took direction⟩
    · exact Or.inl queued
  cases handled with
  | same => exact Or.inl (List.Sublist.refl _)
  | absent missing => exact Or.inl (List.Sublist.refl _)
  | unscanned stopped => exact Or.inl (List.Sublist.refl _)
  | scanned offered =>
      rw [Ledger.queue_granting_self]
      exact Or.inr ⟨_, _, offered, List.Sublist.refl _, fun requisition queued => Or.inl queued⟩
  | withdrawn stopped joins =>
      rw [Ledger.queue_remove_self, Ledger.queue_joined_self, Requisition.filter_insert
        (wellFormed.fresh_of_take joins.spare joins.took direction)]
      exact Or.inl (List.Sublist.refl _)
  | passed offered joins =>
      rw [Ledger.queue_remove_self, Ledger.queue_granting_self, Ledger.queue_joined_self]
      exact Or.inr ⟨_, _, offered, List.filter_sublist, joined joins⟩
  | queued offered joins =>
      rw [Ledger.queue_granting_self, Ledger.queue_joined_self]
      exact Or.inr ⟨_, _, offered, List.Sublist.refl _, joined joins⟩
  | left found pending =>
      rw [Ledger.queue_remove_self]
      exact Or.inl List.filter_sublist
  | leftUnscanned stopped found serviced =>
      rw [Ledger.queue_remove_self]
      exact Or.inl List.filter_sublist
  | leftScanned offered found serviced =>
      rw [Ledger.queue_granting_self, Ledger.queue_remove_self]
      exact Or.inr ⟨_, _, offered, List.Sublist.refl _,
        fun requisition member => Or.inl (List.mem_filter.mp member).1⟩

/-- The slot that was to go is of no requisition afterwards. -/
theorem gone_slot (handled : Handled offers unanswered direction ledger came gone after)
    {slot : SlotId} (isGone : gone = some slot) :
    slot ∉ (after.queue direction).map Requisition.slot := by
  have removed : ∀ queue : List Requisition,
      slot ∉ (queue.filter fun requisition => requisition.slot ≠ slot).map
        Requisition.slot := by
    intro queue member
    obtain ⟨requisition, inside, same⟩ := List.mem_map.mp member
    simp [same] at inside
  cases handled with
  | absent missing =>
      cases isGone
      exact missing
  | left found pending =>
      cases isGone
      rw [Ledger.queue_remove_self]
      exact removed _
  | leftUnscanned stopped found serviced =>
      cases isGone
      rw [Ledger.queue_remove_self]
      exact removed _
  | leftScanned offered found serviced =>
      cases isGone
      rw [Ledger.queue_granting_self, map_slot_grantAll, Ledger.queue_remove_self]
      exact removed _
  | _ => cases isGone

end Handled

end Admission
