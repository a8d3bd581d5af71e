import Admission.Proofs.Controller.Tickets

/-!
# Arrivals and the journal

The journal tells who arrived and who was taken off again.  `Journal.live` reads from it who is
still there, in order of arrival, and a queue is exactly that, stably sorted by descending
priority: `Books.Sorted` is the invariant, and each chore restores it (`Books.Sorted.chore`).

`Handled.arrives` and `Handled.stays` compare a queue before and after it was handled: what
arrives is put between what is not lower and what is, and those that stay keep their order and
all but the mark of being serviced.
-/

namespace Admission

/-! ## What the journal tells -/

namespace Journal

/-- What an entry changes about who is there. -/
def heed (direction : Direction) (live : List Arrival) : Entry → List Arrival
  | .note _ => live
  | .event event =>
    if event.direction = direction then
      match event.kind with
      | .queued priority needed => live ++ [⟨event.slot, priority, needed⟩]
      | .shredded => live.filter fun arrival => arrival.slot ≠ event.slot
      | .serviced | .notServiceable | .interrupted => live
    else live

/-- Who arrived in a direction and was not taken off again, in order of arrival. -/
def live (journal : Journal) (direction : Direction) : List Arrival :=
  journal.foldl (heed direction) []

variable {journal : Journal} {direction other : Direction} {slot : SlotId}

theorem live_concat (journal : Journal) (direction : Direction) (entry : Entry) :
    live (journal ++ [entry]) direction = heed direction (journal.live direction) entry := by
  rw [live, live, List.foldl_append]
  rfl

theorem live_note (journal : Journal) (direction : Direction) (note : Note) :
    live (journal ++ [.note note]) direction = journal.live direction := live_concat _ _ _

theorem live_event_of_ne (different : direction ≠ other) (kind : EventKind) :
    live (journal ++ [.event ⟨direction, slot, kind⟩]) other = journal.live other := by
  rw [live_concat, heed, if_neg different]

theorem live_queued (journal : Journal) (direction : Direction) (slot : SlotId)
    (priority : Priority) (needed : Space) :
    live (journal ++ [.event ⟨direction, slot, .queued priority needed⟩]) direction =
      journal.live direction ++ [⟨slot, priority, needed⟩] := by
  rw [live_concat, heed, if_pos rfl]

theorem live_shredded (journal : Journal) (direction : Direction) (slot : SlotId) :
    live (journal ++ [.event ⟨direction, slot, .shredded⟩]) direction =
      (journal.live direction).filter fun arrival => arrival.slot ≠ slot := by
  rw [live_concat, heed, if_pos rfl]

/-- Other events do not tell of arrivals or removals. -/
theorem live_other {kind : EventKind}
    (isOther : kind = .serviced ∨ kind = .notServiceable ∨ kind = .interrupted) :
    live (journal ++ [.event ⟨direction, slot, kind⟩]) other = journal.live other := by
  rw [live_concat, heed]
  split
  · rcases isOther with rfl | rfl | rfl <;> rfl
  · rfl

theorem live_serviced (journal : Journal) (direction other : Direction)
    (granted : List Requisition) :
    live (journal ++ granted.map fun requisition =>
      .event ⟨direction, requisition.slot, .serviced⟩) other = journal.live other := by
  induction granted generalizing journal with
  | nil => rw [List.map_nil, List.append_nil]
  | cons first rest induction =>
      rw [List.map_cons, ← List.singleton_append, ← List.append_assoc, induction,
        live_other (Or.inl rfl)]

end Journal

/-! ## The invariant -/

/-- Both queues are what the journal tells, sorted. -/
def Books.Sorted (books : Books) : Prop :=
  ∀ direction, (books.ledger.queue direction).map Requisition.arrival =
    Arrival.sorted (books.journal.live direction)

namespace Books.Sorted

variable {before after : Books}

theorem pairwise (sorted : before.Sorted) (direction : Direction) :
    ((before.ledger.queue direction).map Requisition.arrival).Pairwise
      fun first second => first.mayPrecede second = true := by
  rw [sorted direction]
  exact Arrival.pairwise_sorted _

/-- A requisition is queued behind what is not lower. -/
theorem queue (sorted : before.Sorted) (direction : Direction) (requisition : Requisition)
    (taken : SlotPool) :
    Books.Sorted ⟨before.ledger.joined direction requisition taken, before.journal ++
      [.event ⟨direction, requisition.slot,
        .queued requisition.priority requisition.needed⟩]⟩ := by
  intro other
  by_cases here : other = direction
  · subst here
    obtain ⟨front, back, split, inserted, notLower, lower⟩ :=
      requisition.insert_sorted (sorted.pairwise other)
    have before := sorted other
    rw [split, List.map_append] at before
    have placed : front.map Requisition.arrival ++
        requisition.arrival :: back.map Requisition.arrival =
        Arrival.sorted (_ ++ [requisition.arrival]) :=
      Arrival.sorted_concat before.symm (by simpa using notLower) (by simpa using lower)
    rw [Ledger.queue_joined_self, inserted, Journal.live_queued, List.map_append, List.map_cons]
    exact placed
  · rw [Ledger.queue_joined_of_ne requisition taken here,
      Journal.live_event_of_ne (Ne.symm here)]
    exact sorted other

/-- A requisition is taken off. -/
theorem shred (sorted : before.Sorted) (direction : Direction) (slot : SlotId) :
    Books.Sorted ⟨before.ledger.remove direction slot, before.journal ++
      [.event ⟨direction, slot, .shredded⟩]⟩ := by
  intro other
  by_cases here : other = direction
  · subst here
    rw [Ledger.queue_remove_self, Journal.live_shredded, Requisition.map_arrival_filter,
      sorted other, Arrival.sorted_filter]
  · rw [Ledger.queue_remove_of_ne before.ledger slot here,
      Journal.live_event_of_ne (Ne.symm here)]
    exact sorted other

/-- A requester is told something that does not change who is there. -/
theorem tell (sorted : before.Sorted) (direction : Direction) (slot : SlotId) {kind : EventKind}
    (isOther : kind = .serviced ∨ kind = .notServiceable ∨ kind = .interrupted) :
    (before.record [.event ⟨direction, slot, kind⟩]).Sorted := by
  intro other
  rw [record, Journal.live_other isOther]
  exact sorted other

/-- Each chore leaves the queues in order. -/
theorem chore (sorted : before.Sorted) (chore : Chore before after) : after.Sorted := by
  cases chore with
  | remark note =>
      intro direction
      rw [record, Journal.live_note]
      exact sorted direction
  | interrupt direction slot => exact sorted.tell direction slot (Or.inr (Or.inr rfl))
  | queue direction joins => exact sorted.queue direction _ _
  | shred queued => exact sorted.shred _ _
  | @turnAway direction slot queued pending =>
      have told := (sorted.tell direction slot (Or.inr (Or.inl rfl))).shred direction slot
      rwa [record, List.append_assoc] at told
  | scan direction share =>
      intro other
      rw [Journal.live_serviced]
      by_cases here : other = direction
      · subst here
        rw [Ledger.queue_granting_self, map_arrival_of_asked (map_asked_grantAll share _)]
        exact sorted other
      · rw [Ledger.queue_granting_of_ne share here]
        exact sorted other

theorem chores (sorted : before.Sorted) (chores : Chores before after) : after.Sorted := by
  induction chores with
  | refl => exact sorted
  | tail earlier last induction => exact induction.chore last

end Books.Sorted

/-! ## One step -/

namespace Handled

variable {offers : Share → Prop} {unanswered : Prop} {direction : Direction}
  {ledger after : Ledger} {came : Option Requisition} {gone : Option SlotId}

/-- A requisition that was not there before is put between what is not lower and what is. -/
theorem arrives (handled : Handled offers unanswered direction ledger came gone after)
    (wellFormed : ledger.WellFormed)
    (order : ((ledger.queue direction).map Requisition.arrival).Pairwise
      fun first second => first.mayPrecede second = true)
    {requisition : Requisition} (queued : requisition ∈ after.queue direction)
    (new : requisition.slot ∉ (ledger.queue direction).map Requisition.slot) :
    ∃ front back, after.queue direction = front ++ requisition :: back ∧
      (∀ other ∈ front, ¬ other.priority < requisition.priority) ∧
      ∀ other ∈ back, other.priority < requisition.priority := by
  have asked := handled.asked wellFormed
  cases came with
  | none =>
      obtain ⟨before, inside, same, -⟩ := exists_of_asked asked queued
      exact absurd (List.mem_map.mpr ⟨before, (List.mem_filter.mp inside).1, same⟩) new
  | some fresh =>
      obtain ⟨-, -, rfl, -, -⟩ := handled.came_spec wellFormed rfl
      obtain ⟨front, back, split, inserted, notLower, lower⟩ := fresh.insert_sorted order
      rw [List.filter_eq_self.mpr (by simp), Option.elim_some, inserted, List.map_append,
        List.map_cons] at asked
      obtain ⟨fronts, rest, isAfter, fronted, rested⟩ := List.map_eq_append_iff.mp asked
      obtain ⟨head, backs, rfl, headed, backed⟩ := List.map_eq_cons_iff.mp rested
      have old : ∀ other ∈ front ++ back, other.slot ≠ requisition.slot := by
        rw [← split]
        exact fun other member same => new (List.mem_map.mpr ⟨other, member, same⟩)
      have isHead : requisition = head := by
        rw [isAfter, List.mem_append, List.mem_cons] at queued
        rcases queued with inFront | isHead | inBack
        · obtain ⟨other, member, same, -⟩ := exists_of_asked fronted inFront
          exact absurd same (old other (List.mem_append_left _ member))
        · exact isHead
        · obtain ⟨other, member, same, -⟩ := exists_of_asked backed inBack
          exact absurd same (old other (List.mem_append_right _ member))
      have priority : requisition.priority = fresh.priority := by
        have priorities : head.asked.priority = fresh.asked.priority := by rw [headed]
        rw [isHead]
        exact priorities
      refine ⟨fronts, backs, isHead ▸ isAfter, ?_, ?_⟩
      · intro other member
        obtain ⟨before, inFront, -, same⟩ := exists_of_asked fronted member
        rw [← same, priority]
        exact notLower before inFront
      · intro other member
        obtain ⟨before, inBack, -, same⟩ := exists_of_asked backed member
        rw [← same, priority]
        exact lower before inBack

/-- The requisitions that stay keep their order, and all but the mark of being serviced. -/
theorem stays (handled : Handled offers unanswered direction ledger came gone after)
    (wellFormed : ledger.WellFormed) :
    ((after.queue direction).filter fun requisition =>
      requisition.slot ∈ (ledger.queue direction).map Requisition.slot).map Requisition.asked =
    ((ledger.queue direction).filter fun requisition =>
      requisition.slot ∈ (after.queue direction).map Requisition.slot).map Requisition.asked := by
  have asked := handled.asked wellFormed
  rw [filter_of_asked asked, map_slot_of_asked asked]
  congr 1
  cases came with
  | none =>
      rw [Option.elim_none, id, List.filter_eq_self.mpr]
      · refine List.filter_congr fun requisition queued => ?_
        by_cases goes : gone = some requisition.slot
        · simpa [goes] using fun other _ different same => different same.symm
        · have present : ∃ other, (other ∈ ledger.queue direction ∧ gone ≠ some other.slot) ∧
              other.slot = requisition.slot := ⟨requisition, ⟨queued, goes⟩, rfl⟩
          simpa [goes] using present
      · intro requisition member
        simpa using ⟨requisition, (List.mem_filter.mp member).1, rfl⟩
  | some fresh =>
      obtain ⟨-, -, rfl, new, -⟩ := handled.came_spec wellFormed rfl
      have all : (fresh.insert (ledger.queue direction)).filter
          (fun requisition => (none : Option SlotId) ≠ some requisition.slot) =
          fresh.insert (ledger.queue direction) := List.filter_eq_self.mpr (by simp)
      have isNew := new direction
      obtain ⟨front, back, split, inserted⟩ := fresh.insert_eq (ledger.queue direction)
      rw [Option.elim_some, all, inserted]
      rw [split] at isNew ⊢
      have old : ∀ requisition ∈ front ++ back,
          requisition.slot ∈ (front ++ back).map Requisition.slot ∧
          requisition.slot ∈ (front ++ fresh :: back).map Requisition.slot :=
        fun requisition member => ⟨List.mem_map_of_mem member,
          List.mem_map_of_mem (List.perm_middle.mem_iff.mpr (List.mem_cons_of_mem _ member))⟩
      rw [List.filter_append, List.filter_cons_of_neg (by simpa using isNew),
        ← List.filter_append, List.filter_eq_self.mpr, List.filter_eq_self.mpr]
      · exact fun requisition member => decide_eq_true (old requisition member).2
      · exact fun requisition member => decide_eq_true (old requisition member).1

end Handled

end Admission
