import Admission.Proofs.Controller.Chores
import Admission.Proofs.Ledger.Keys

/-!
# The life of a requisition

What a watcher is told about one slot is the life of the requisition in it.  `Life` says which
sequences of events are lives: queued once and first, shredded once and last, and in between
serviced, turned away or interrupted, each with its own restrictions (`Between`).

`Books.Telling` is the invariant that ties the journal to the ledger.  Of a queued requisition the
journal tells the life so far, and it tells of being serviced exactly if the requisition is
(`Requisition.Told`).  Of a slot in which nothing is queued it tells nothing or a whole life.  As
a slot that is taken was not given out before (`SlotPool.Issued`), a new life begins where nothing
was told.

Each way to change the books restores the invariant, and so does a deed (`Deed.telling`).
-/

namespace Admission

/-! ## What a journal tells about a slot -/

namespace Journal

/-- What a watcher was told about the requisition in a slot. -/
def about (journal : Journal) (slot : SlotId) : List Event :=
  journal.events.filter fun event => event.slot = slot

/-- The entries that tell of one requisition what happened to it. -/
def telling (direction : Direction) (slot : SlotId) (kinds : List EventKind) : List Entry :=
  (kinds.map (Event.mk direction slot)).map .event

variable {direction : Direction} {slot other : SlotId} {event : Event}

@[simp] theorem about_nil (slot : SlotId) : about [] slot = [] := rfl

@[simp] theorem about_append (earlier later : Journal) (slot : SlotId) :
    about (earlier ++ later) slot = earlier.about slot ++ later.about slot := by
  rw [about, events_append, List.filter_append]
  rfl

@[simp] theorem about_notes (notes : List Note) (slot : SlotId) :
    about (notes.map .note) slot = [] := by
  have nothing : events (notes.map .note) = [] := by
    rw [events, List.filterMap_map]
    exact List.filterMap_eq_nil_iff.mpr fun _ _ => rfl
  rw [about, nothing, List.filter_nil]

@[simp] theorem about_telling (direction : Direction) (slot : SlotId) (kinds : List EventKind) :
    about (telling direction slot kinds) slot = kinds.map (Event.mk direction slot) := by
  rw [about, telling, events_map_event, List.filter_eq_self]
  intro event member
  obtain ⟨kind, -, rfl⟩ := List.mem_map.mp member
  exact decide_eq_true rfl

theorem about_telling_of_ne (kinds : List EventKind) (different : other ≠ slot) :
    about (telling direction slot kinds) other = [] := by
  rw [about, telling, events_map_event, List.filter_eq_nil_iff]
  intro event member
  obtain ⟨kind, -, rfl⟩ := List.mem_map.mp member
  simpa using different.symm

theorem mem_about {journal : Journal} :
    event ∈ journal.about slot ↔ event ∈ journal.events ∧ event.slot = slot := by
  rw [about, List.mem_filter, decide_eq_true_eq]

/-- A watcher was told that the wait for a slot was cancelled. -/
def Interrupted (journal : Journal) (slot : SlotId) : Prop :=
  ∃ direction, .event ⟨direction, slot, .interrupted⟩ ∈ journal

@[simp] theorem not_interrupted_nil (slot : SlotId) : ¬ Interrupted [] slot := by
  rintro ⟨direction, ⟨⟩⟩

@[simp] theorem interrupted_cons_note (note : Note) (rest : Journal) :
    Interrupted (.note note :: rest) slot ↔ Interrupted rest slot := by
  simp [Interrupted]

@[simp] theorem interrupted_cons_event (event : Event) (rest : Journal) :
    Interrupted (.event event :: rest) slot ↔
      event.slot = slot ∧ event.kind = .interrupted ∨ Interrupted rest slot := by
  obtain ⟨direction, other, kind⟩ := event
  constructor
  · rintro ⟨direction, member⟩
    rcases List.mem_cons.mp member with same | inRest
    · cases same
      exact Or.inl ⟨rfl, rfl⟩
    · exact Or.inr ⟨direction, inRest⟩
  · rintro (⟨rfl, rfl⟩ | ⟨direction, inRest⟩)
    · exact ⟨direction, List.mem_cons_self⟩
    · exact ⟨direction, List.mem_cons_of_mem _ inRest⟩

theorem interrupted_append {earlier later : Journal} :
    Interrupted (earlier ++ later) slot ↔ Interrupted earlier slot ∨ Interrupted later slot := by
  simp only [Interrupted, List.mem_append, exists_or]

theorem not_interrupted_notes (notes : List Note) (slot : SlotId) :
    ¬ Interrupted (notes.map .note) slot := by
  simp [Interrupted]

end Journal

/-! ## Lives -/

/-- What may happen to a requisition between being queued and being shredded. -/
structure Between (kinds : List EventKind) : Prop where
  known : ∀ kind ∈ kinds, kind = .serviced ∨ kind = .notServiceable ∨ kind = .interrupted
  servicedOnce : kinds.count .serviced ≤ 1
  endsOnce : kinds.count .notServiceable + kinds.count .interrupted ≤ 1
  apart : .notServiceable ∈ kinds → .serviced ∉ kinds

/-- All that can happen to a requisition, from its queuing to its end. -/
inductive Life : List EventKind → Prop where
  | mk (priority : Priority) (needed : Space) {between : List EventKind} :
      Between between → Life (.queued priority needed :: between ++ [.shredded])

namespace Between

variable {kinds : List EventKind}

theorem nil : Between [] where
  known := by rintro kind ⟨⟩
  servicedOnce := Nat.zero_le _
  endsOnce := Nat.zero_le _
  apart := by rintro ⟨⟩

/-- A pending requisition can be serviced. -/
theorem service (between : Between kinds) (pending : .serviced ∉ kinds)
    (waits : .notServiceable ∉ kinds) : Between (kinds ++ [.serviced]) where
  known := by
    intro kind member
    rcases List.mem_append.mp member with earlier | last
    · exact between.known kind earlier
    · exact Or.inl (List.mem_singleton.mp last)
  servicedOnce := by simp [List.count_append, List.count_eq_zero.mpr pending]
  endsOnce := by simpa [List.count_append] using between.endsOnce
  apart := by
    intro turnedAway
    simp [waits] at turnedAway

/-- A pending requisition that nobody interrupted can be turned away. -/
theorem turnAway (between : Between kinds) (pending : .serviced ∉ kinds)
    (waits : .notServiceable ∉ kinds) (stays : .interrupted ∉ kinds) :
    Between (kinds ++ [.notServiceable]) where
  known := by
    intro kind member
    rcases List.mem_append.mp member with earlier | last
    · exact between.known kind earlier
    · exact Or.inr (Or.inl (List.mem_singleton.mp last))
  servicedOnce := by simpa [List.count_append] using between.servicedOnce
  endsOnce := by
    simp [List.count_append, List.count_eq_zero.mpr waits, List.count_eq_zero.mpr stays]
  apart := by simp [pending]

/-- The wait for a requisition can be interrupted once. -/
theorem interrupt (between : Between kinds) (waits : .notServiceable ∉ kinds)
    (stays : .interrupted ∉ kinds) : Between (kinds ++ [.interrupted]) where
  known := by
    intro kind member
    rcases List.mem_append.mp member with earlier | last
    · exact between.known kind earlier
    · exact Or.inr (Or.inr (List.mem_singleton.mp last))
  servicedOnce := by simpa [List.count_append] using between.servicedOnce
  endsOnce := by
    simp [List.count_append, List.count_eq_zero.mpr waits, List.count_eq_zero.mpr stays]
  apart := by
    intro turnedAway
    simp [waits] at turnedAway

end Between

/-- What a watcher was told of a requisition that is still queued. -/
structure Requisition.Told (requisition : Requisition) (direction : Direction)
    (events : List Event) (kinds : List EventKind) : Prop where
  events : events = (.queued requisition.priority requisition.needed :: kinds).map
    (Event.mk direction requisition.slot)
  between : Between kinds
  stays : .notServiceable ∉ kinds
  serviced : .serviced ∈ kinds ↔ requisition.serviced = true
  /-- Only who waits can be interrupted. -/
  attended : .interrupted ∈ kinds → requisition.attendant ≠ none

namespace Requisition.Told

variable {requisition : Requisition} {direction : Direction} {events : List Event}
  {kinds : List EventKind}

theorem pending (told : requisition.Told direction events kinds)
    (isPending : requisition.serviced = false) : .serviced ∉ kinds := by
  rw [told.serviced, isPending]
  exact Bool.false_ne_true

/-- A requisition that is granted is told to be serviced. -/
theorem grant (told : requisition.Told direction events kinds)
    (isPending : requisition.serviced = false) :
    requisition.granted.Told direction
      (events ++ [⟨direction, requisition.slot, .serviced⟩]) (kinds ++ [.serviced]) where
  events := by
    rw [told.events, ← List.cons_append, List.map_append]
    rfl
  between := told.between.service (told.pending isPending) told.stays
  stays := by simpa using told.stays
  serviced := by simp
  attended := by simpa [granted] using told.attended

/-- The wait for a requisition with an attendant is interrupted. -/
theorem interrupt (told : requisition.Told direction events kinds)
    (attends : requisition.attendant ≠ none) (first : .interrupted ∉ kinds) :
    requisition.Told direction
      (events ++ [⟨direction, requisition.slot, .interrupted⟩]) (kinds ++ [.interrupted]) where
  events := by
    rw [told.events, ← List.cons_append, List.map_append]
    rfl
  between := told.between.interrupt told.stays first
  stays := by simpa using told.stays
  serviced := by simpa using told.serviced
  attended := fun _ => attends

end Requisition.Told

/-! ## What a scan tells -/

section TurnedOn

theorem mem_of_mem_turnedOn {before after : List Requisition} {requisition : Requisition}
    (member : requisition ∈ turnedOn before after) : requisition ∈ after := by
  obtain ⟨⟨old, new⟩, inside, rfl⟩ := List.mem_map.mp member
  exact (List.of_mem_zip (List.mem_filter.mp inside).1).2

/-- A scan turns on nothing in a slot that is not queued. -/
theorem filter_turnedOn_of_not_mem {share : Share} {queue : List Requisition} {slot : SlotId}
    (absent : slot ∉ queue.map Requisition.slot) :
    (turnedOn queue (grantAll share queue)).filter (fun other => other.slot = slot) = [] := by
  refine List.filter_eq_nil_iff.mpr fun requisition member => ?_
  have stands := List.mem_map_of_mem (f := Requisition.slot) (mem_of_mem_turnedOn member)
  rw [map_slot_grantAll] at stands
  simpa using fun same : requisition.slot = slot => absent (same ▸ stands)

/-- A scan turns on the requisition in a slot if it stands there granted and did not before.  What
stands behind the head is told as if the head were not there. -/
theorem turnedOn_cases {share : Share} {queue : List Requisition} {requisition : Requisition}
    (distinct : (queue.map Requisition.slot).Nodup)
    (stands : requisition ∈ grantAll share queue) :
    (requisition ∈ queue ∧ (turnedOn queue (grantAll share queue)).filter
        (fun other => other.slot = requisition.slot) = []) ∨
    ∃ before ∈ queue, before.serviced = false ∧ requisition = before.granted ∧
      (turnedOn queue (grantAll share queue)).filter
        (fun other => other.slot = requisition.slot) = [requisition] := by
  induction queue generalizing share with
  | nil => cases stands
  | cons head rest induction =>
      obtain ⟨apart, restDistinct⟩ := List.nodup_cons.mp distinct
      have behind : ∀ (new : Requisition) (left : Share), new.slot = head.slot →
          grantAll share (head :: rest) = new :: grantAll left rest →
          requisition ∈ grantAll left rest →
          (requisition ∈ head :: rest ∧ (turnedOn (head :: rest)
            (grantAll share (head :: rest))).filter
              (fun other => other.slot = requisition.slot) = []) ∨
          ∃ before ∈ head :: rest, before.serviced = false ∧ requisition = before.granted ∧
            (turnedOn (head :: rest) (grantAll share (head :: rest))).filter
              (fun other => other.slot = requisition.slot) = [requisition] := by
        intro new left sameSlot equation inRest
        have different : ¬ new.slot = requisition.slot := by
          intro same
          refine apart ?_
          rw [← sameSlot, same, ← map_slot_grantAll left rest]
          exact List.mem_map_of_mem inRest
        have tail : (turnedOn (head :: rest) (grantAll share (head :: rest))).filter
              (fun other => other.slot = requisition.slot) =
            (turnedOn rest (grantAll left rest)).filter
              (fun other => other.slot = requisition.slot) := by
          rw [equation, turnedOn_cons, List.filter_append]
          split <;> simp [different]
        rw [tail]
        rcases induction restDistinct inRest with
          ⟨stood, nothing⟩ | ⟨before, stood, wasPending, isGranted, told⟩
        · exact Or.inl ⟨List.mem_cons_of_mem _ stood, nothing⟩
        · exact Or.inr ⟨before, List.mem_cons_of_mem _ stood, wasPending, isGranted, told⟩
      rcases grantAll_cons_cases share head rest with
        ⟨grants, equation⟩ | ⟨isPending, unfit, equation⟩
      · have cases := List.mem_cons.mp (equation ▸ stands)
        rcases cases with rfl | inRest
        · rw [equation, turnedOn_cons, List.filter_append, Requisition.granted_slot,
            filter_turnedOn_of_not_mem apart]
          cases wasServiced : head.serviced with
          | true =>
              rw [Requisition.granted_of_serviced wasServiced]
              exact Or.inl ⟨List.mem_cons_self, by simp⟩
          | false => exact Or.inr ⟨head, List.mem_cons_self, wasServiced, rfl, by simp⟩
        · exact behind head.granted _ rfl equation inRest
      · have cases := List.mem_cons.mp (equation ▸ stands)
        rcases cases with rfl | inRest
        · rw [equation, turnedOn_cons, List.filter_append, filter_turnedOn_of_not_mem apart]
          exact Or.inl ⟨List.mem_cons_self, by simp [isPending]⟩
        · exact behind _ _ rfl equation inRest

/-- What a watcher is told about a slot when requisitions are serviced. -/
theorem Journal.about_serviced (direction : Direction) (granted : List Requisition)
    (slot : SlotId) :
    Journal.about (granted.map fun requisition =>
        .event ⟨direction, requisition.slot, .serviced⟩) slot =
      (granted.filter fun requisition => requisition.slot = slot).map fun requisition =>
        ⟨direction, requisition.slot, .serviced⟩ := by
  have listed : granted.map (fun requisition =>
      Entry.event ⟨direction, requisition.slot, .serviced⟩) =
      (granted.map fun requisition =>
        (⟨direction, requisition.slot, .serviced⟩ : Event)).map .event := by
    rw [List.map_map]
    rfl
  rw [listed, about, events_map_event, List.filter_map]
  rfl

end TurnedOn

/-! ## The invariant -/

/-- The journal tells of every slot the life of its requisition, as far as it has come. -/
structure Books.Telling (books : Books) : Prop where
  live : ∀ direction, ∀ requisition ∈ books.ledger.queue direction,
    ∃ kinds, requisition.Told direction (books.journal.about requisition.slot) kinds
  past : ∀ slot, (∀ direction, slot ∉ (books.ledger.queue direction).map Requisition.slot) →
    books.journal.about slot = [] ∨
      ∃ direction life, Life life ∧ books.journal.about slot = life.map (Event.mk direction slot)
  issued : ∀ slot, books.journal.about slot ≠ [] → books.ledger.pool.Issued slot

namespace Books.Telling

variable {books : Books} {direction : Direction} {slot : SlotId}

/-- Nothing is told that is about a slot. -/
theorem of_about (telling : books.Telling) {journal : Journal}
    (same : ∀ slot, journal.about slot = books.journal.about slot) :
    Books.Telling ⟨books.ledger, journal⟩ where
  live := by
    intro direction requisition queued
    rw [same]
    exact telling.live direction requisition queued
  past := by
    intro slot nowhere
    rw [same]
    exact telling.past slot nowhere
  issued := by
    intro slot told
    rw [same] at told
    exact telling.issued slot told

theorem remarks (telling : books.Telling) (notes : List Note) :
    (books.record (notes.map .note)).Telling :=
  telling.of_about fun slot => by
    rw [Journal.about_append, Journal.about_notes, List.append_nil]

/-- Of a slot that is taken next nothing was told. -/
theorem about_fresh (telling : books.Telling) (wellFormed : books.ledger.WellFormed)
    {requisition : Requisition} {taken : SlotPool}
    (joins : Joins books.ledger requisition taken) :
    books.journal.about requisition.slot = [] := by
  by_contra told
  exact ((telling.issued _ told).take wellFormed.pool joins.spare joins.took).2 rfl

/-- A requisition is queued. -/
theorem queue (telling : books.Telling) (wellFormed : books.ledger.WellFormed)
    {requisition : Requisition} {taken : SlotPool}
    (joins : Joins books.ledger requisition taken) (direction : Direction) :
    Books.Telling ⟨books.ledger.joined direction requisition taken, books.journal ++
      Journal.telling direction requisition.slot
        [.queued requisition.priority requisition.needed]⟩ where
  live := by
    intro other another queued
    rcases Ledger.mem_queue_joined.mp queued with ⟨rfl, rfl⟩ | stood
    · refine ⟨[], ?_, .nil, by simp, by simp [joins.pending], by simp⟩
      rw [Journal.about_append, telling.about_fresh wellFormed joins, Journal.about_telling,
        List.nil_append]
    · have different : another.slot ≠ requisition.slot := fun same =>
        wellFormed.fresh_of_take joins.spare joins.took other
          (List.mem_map.mpr ⟨another, stood, same⟩)
      rw [Journal.about_append, Journal.about_telling_of_ne _ different, List.append_nil]
      exact telling.live other another stood
  past := by
    intro slot nowhere
    have different : slot ≠ requisition.slot := by
      rintro rfl
      exact nowhere direction (books.ledger.mem_slots_joined direction requisition taken)
    rw [Journal.about_append, Journal.about_telling_of_ne _ different, List.append_nil]
    refine telling.past slot fun other queued => nowhere other ?_
    obtain ⟨another, stood, rfl⟩ := List.mem_map.mp queued
    exact List.mem_map_of_mem (Ledger.mem_queue_joined.mpr (Or.inr stood))
  issued := by
    intro slot told
    rw [Ledger.joined, Ledger.pool_enqueue]
    by_cases new : slot = requisition.slot
    · subst new
      refine SlotPool.issued_of_held ?_
      rw [(wellFormed.pool.take joins.spare joins.took).2]
      exact List.mem_cons_self
    · rw [Journal.about_append, Journal.about_telling_of_ne _ new, List.append_nil] at told
      exact ((telling.issued slot told).take wellFormed.pool joins.spare joins.took).1

/-- A requisition is taken off, and the watcher is told why beforehand. -/
theorem remove (telling : books.Telling) (wellFormed : books.ledger.WellFormed)
    (reasons : List EventKind)
    (queued : slot ∈ (books.ledger.queue direction).map Requisition.slot)
    (ends : ∀ requisition ∈ books.ledger.queue direction, requisition.slot = slot →
      ∀ kinds, requisition.Told direction (books.journal.about slot) kinds →
        Between (kinds ++ reasons))
    (unworn : (books.ledger.pool.release slot).Unworn) :
    Books.Telling ⟨books.ledger.remove direction slot, books.journal ++
      Journal.telling direction slot (reasons ++ [.shredded])⟩ where
  live := by
    intro other requisition stays
    have stood := (wellFormed.mem_queue_remove queued).mp stays
    rw [Journal.about_append, Journal.about_telling_of_ne _ stood.2, List.append_nil]
    exact telling.live other requisition stood.1
  past := by
    intro another nowhere
    rw [Journal.about_append]
    by_cases gone : another = slot
    · subst gone
      obtain ⟨requisition, stood, rfl⟩ := List.mem_map.mp queued
      obtain ⟨kinds, told⟩ := telling.live direction requisition stood
      refine Or.inr ⟨direction, _, .mk requisition.priority requisition.needed
        (ends requisition stood rfl kinds told), ?_⟩
      rw [told.events, Journal.about_telling, ← List.map_append]
      simp only [List.cons_append, List.append_assoc]
    · rw [Journal.about_telling_of_ne _ gone, List.append_nil]
      refine telling.past another fun other stood => nowhere other ?_
      obtain ⟨requisition, inside, rfl⟩ := List.mem_map.mp stood
      exact List.mem_map_of_mem ((wellFormed.mem_queue_remove queued).mpr ⟨inside, gone⟩)
  issued := by
    intro another told
    have held := wellFormed.held_of_queued queued
    rw [Ledger.pool_remove]
    refine SlotPool.Issued.release ?_ held unworn
    by_cases gone : another = slot
    · subst gone
      exact SlotPool.issued_of_held held
    · rw [Journal.about_append, Journal.about_telling_of_ne _ gone, List.append_nil] at told
      exact telling.issued another told

/-- A requisition is taken off without a word. -/
theorem shred (telling : books.Telling) (wellFormed : books.ledger.WellFormed)
    (queued : slot ∈ (books.ledger.queue direction).map Requisition.slot)
    (unworn : (books.ledger.pool.release slot).Unworn) :
    Books.Telling ⟨books.ledger.remove direction slot, books.journal ++
      Journal.telling direction slot [.shredded]⟩ := by
  refine telling.remove wellFormed [] queued ?_ unworn
  intro requisition stood same kinds told
  rw [List.append_nil]
  exact told.between

/-- A requester that would not wait is told that there is no space, and is taken off. -/
theorem turnAway (telling : books.Telling) (wellFormed : books.ledger.WellFormed)
    (queued : slot ∈ (books.ledger.queue direction).map Requisition.slot)
    (refused : ∀ requisition ∈ books.ledger.queue direction, requisition.slot = slot →
      requisition.serviced = false ∧ requisition.attendant = none)
    (unworn : (books.ledger.pool.release slot).Unworn) :
    Books.Telling ⟨books.ledger.remove direction slot, books.journal ++
      Journal.telling direction slot [.notServiceable, .shredded]⟩ := by
  refine telling.remove wellFormed [.notServiceable] queued ?_ unworn
  intro requisition stood same kinds told
  obtain ⟨isPending, alone⟩ := refused requisition stood same
  exact told.between.turnAway (told.pending isPending) told.stays
    fun interrupted => told.attended interrupted alone

/-- A queue is gone over. -/
theorem scan (telling : books.Telling) (wellFormed : books.ledger.WellFormed)
    (direction : Direction) (share : Share) :
    Books.Telling ⟨books.ledger.granting direction share, books.journal ++
      (turnedOn (books.ledger.queue direction)
        (grantAll share (books.ledger.queue direction))).map fun requisition =>
          .event ⟨direction, requisition.slot, .serviced⟩⟩ := by
  constructor
  case live =>
    intro other requisition queued
    rw [Journal.about_append, Journal.about_serviced]
    by_cases here : other = direction
    · subst here
      rw [Ledger.queue_granting_self] at queued
      rcases turnedOn_cases (wellFormed.queue_nodup other) queued with
        ⟨stood, nothing⟩ | ⟨before, stood, isPending, rfl, told⟩
      · rw [nothing, List.map_nil, List.append_nil]
        exact telling.live other requisition stood
      · obtain ⟨kinds, earlier⟩ := telling.live other before stood
        rw [told]
        exact ⟨_, earlier.grant isPending⟩
    · rw [Ledger.queue_granting_of_ne share here] at queued
      rw [filter_turnedOn_of_not_mem
          (wellFormed.disjoint (Ne.symm here) (List.mem_map_of_mem queued)),
        List.map_nil, List.append_nil]
      exact telling.live other requisition queued
  case past =>
    intro slot nowhere
    have before : ∀ other, slot ∉ (books.ledger.queue other).map Requisition.slot := by
      intro other queued
      exact nowhere other ((Ledger.map_slot_queue_granting ..).symm ▸ queued)
    rw [Journal.about_append, Journal.about_serviced, filter_turnedOn_of_not_mem (before direction),
      List.map_nil, List.append_nil]
    exact telling.past slot before
  case issued =>
    intro slot told
    rw [Ledger.granting, Ledger.pool_setQueue]
    by_cases queued : slot ∈ (books.ledger.queue direction).map Requisition.slot
    · exact SlotPool.issued_of_held (wellFormed.held_of_queued queued)
    · rw [Journal.about_append, Journal.about_serviced, filter_turnedOn_of_not_mem queued,
        List.map_nil, List.append_nil] at told
      exact telling.issued slot told

/-- The wait for a requisition with an attendant is interrupted. -/
theorem interrupt (telling : books.Telling) (wellFormed : books.ledger.WellFormed)
    {requisition : Requisition} (queued : requisition ∈ books.ledger.queue direction)
    (attends : requisition.attendant ≠ none)
    (first : ¬ books.journal.Interrupted requisition.slot) :
    (books.record (Journal.telling direction requisition.slot [.interrupted])).Telling where
  live := by
    intro other another stands
    by_cases same : another.slot = requisition.slot
    · have here : other = direction := by
        by_contra different
        exact wellFormed.disjoint different (List.mem_map_of_mem queued)
          (same ▸ List.mem_map_of_mem stands)
      subst here
      obtain rfl := wellFormed.requisition_unique stands queued same
      obtain ⟨kinds, told⟩ := telling.live other another stands
      have notYet : .interrupted ∉ kinds := by
        intro interrupted
        have told : ⟨other, another.slot, .interrupted⟩ ∈ books.journal.about another.slot := by
          rw [told.events]
          exact List.mem_map_of_mem (List.mem_cons_of_mem _ interrupted)
        exact first ⟨other, Journal.mem_events.mp (Journal.mem_about.mp told).1⟩
      refine ⟨kinds ++ [.interrupted], ?_⟩
      rw [Books.record, Journal.about_append, Journal.about_telling]
      exact told.interrupt attends notYet
    · rw [Books.record, Journal.about_append, Journal.about_telling_of_ne _ same,
        List.append_nil]
      exact telling.live other another stands
  past := by
    intro slot nowhere
    have different : slot ≠ requisition.slot := by
      rintro rfl
      exact nowhere direction (List.mem_map_of_mem queued)
    rw [Books.record, Journal.about_append, Journal.about_telling_of_ne _ different,
      List.append_nil]
    exact telling.past slot nowhere
  issued := by
    intro slot told
    by_cases same : slot = requisition.slot
    · subst same
      exact SlotPool.issued_of_held (wellFormed.held_of_queued (List.mem_map_of_mem queued))
    · rw [Books.record, Journal.about_append, Journal.about_telling_of_ne _ same,
        List.append_nil] at told
      exact telling.issued slot told

/-! ## What follows from the invariant -/

/-- Whatever is told about a slot belongs to one life. -/
theorem lives (telling : books.Telling) (slot : SlotId) :
    ∃ direction life, Life life ∧
      books.journal.about slot <+: life.map (Event.mk direction slot) := by
  by_cases queued : ∃ direction, slot ∈ (books.ledger.queue direction).map Requisition.slot
  · obtain ⟨direction, queued⟩ := queued
    obtain ⟨requisition, stood, rfl⟩ := List.mem_map.mp queued
    obtain ⟨kinds, told⟩ := telling.live direction requisition stood
    refine ⟨direction, _, .mk requisition.priority requisition.needed told.between, ?_⟩
    rw [told.events, List.map_append]
    exact List.prefix_append _ _
  · rcases telling.past slot (not_exists.mp queued) with nothing | ⟨direction, life, isLife, told⟩
    · exact ⟨.inbound, _, .mk ⟨0, 0⟩ .zero .nil, nothing ▸ List.nil_prefix⟩
    · exact ⟨direction, life, isLife, told ▸ List.prefix_refl _⟩

/-- What is told about a queued requisition. -/
theorem mem_events_of_queued (telling : books.Telling) {requisition : Requisition}
    (stood : requisition ∈ books.ledger.queue direction) :
    ∃ kinds, requisition.Told direction (books.journal.about requisition.slot) kinds ∧
      ∀ other kind, ⟨other, requisition.slot, kind⟩ ∈ books.journal.events ↔
        other = direction ∧
          (kind = .queued requisition.priority requisition.needed ∨ kind ∈ kinds) := by
  obtain ⟨kinds, told⟩ := telling.live direction requisition stood
  refine ⟨kinds, told, fun other kind => ?_⟩
  have about : ⟨other, requisition.slot, kind⟩ ∈ books.journal.events ↔
      ⟨other, requisition.slot, kind⟩ ∈ books.journal.about requisition.slot :=
    ⟨fun member => Journal.mem_about.mpr ⟨member, rfl⟩,
      fun member => (Journal.mem_about.mp member).1⟩
  rw [about, told.events, List.mem_map]
  constructor
  · rintro ⟨same, member, equal⟩
    cases equal
    exact ⟨rfl, List.mem_cons.mp member⟩
  · rintro ⟨rfl, isTold⟩
    exact ⟨kind, List.mem_cons.mpr isTold, rfl⟩

/-- A slot is queued exactly if it was told to be, and not told to be shredded. -/
theorem queued_iff (telling : books.Telling) :
    slot ∈ (books.ledger.queue direction).map Requisition.slot ↔
      (∃ priority needed, ⟨direction, slot, .queued priority needed⟩ ∈ books.journal.events) ∧
        ⟨direction, slot, .shredded⟩ ∉ books.journal.events := by
  constructor
  · intro queued
    obtain ⟨requisition, stood, rfl⟩ := List.mem_map.mp queued
    obtain ⟨kinds, told, events⟩ := telling.mem_events_of_queued stood
    refine ⟨⟨requisition.priority, requisition.needed,
      (events _ _).mpr ⟨rfl, Or.inl rfl⟩⟩, fun shredded => ?_⟩
    rcases ((events _ _).mp shredded).2 with impossible | between
    · cases impossible
    · rcases told.between.known _ between with impossible | impossible | impossible <;>
        cases impossible
  · rintro ⟨⟨priority, needed, queued⟩, notShredded⟩
    by_contra absent
    have about := Journal.mem_about.mpr ⟨queued, rfl⟩
    by_cases elsewhere : ∃ other, slot ∈ (books.ledger.queue other).map Requisition.slot
    · obtain ⟨other, there⟩ := elsewhere
      obtain ⟨requisition, stood, rfl⟩ := List.mem_map.mp there
      obtain ⟨kinds, -, events⟩ := telling.mem_events_of_queued stood
      obtain ⟨rfl, -⟩ := (events _ _).mp queued
      exact absent there
    · rcases telling.past slot (not_exists.mp elsewhere) with
        nothing | ⟨other, life, isLife, told⟩
      · rw [nothing] at about
        cases about
      · have shredded : ⟨other, slot, .shredded⟩ ∈ books.journal.about slot := by
          rw [told]
          obtain ⟨_, _, between⟩ := isLife
          exact List.mem_map_of_mem (by simp)
        rw [told, List.mem_map] at about
        obtain ⟨kind, -, same⟩ := about
        cases same
        exact notShredded (Journal.mem_about.mp shredded).1

/-- A slot is serviced exactly if it is queued and was told to be serviced. -/
theorem isServiced_iff (telling : books.Telling) (wellFormed : books.ledger.WellFormed) :
    books.ledger.isServiced direction slot = true ↔
      slot ∈ (books.ledger.queue direction).map Requisition.slot ∧
        ⟨direction, slot, .serviced⟩ ∈ books.journal.events := by
  rw [wellFormed.isServiced_iff]
  constructor
  · rintro ⟨requisition, stood, rfl, serviced⟩
    obtain ⟨kinds, told, events⟩ := telling.mem_events_of_queued stood
    exact ⟨List.mem_map_of_mem stood,
      (events _ _).mpr ⟨rfl, Or.inr (told.serviced.mpr serviced)⟩⟩
  · rintro ⟨queued, isTold⟩
    obtain ⟨requisition, stood, rfl⟩ := List.mem_map.mp queued
    obtain ⟨kinds, told, events⟩ := telling.mem_events_of_queued stood
    rcases ((events _ _).mp isTold).2 with impossible | between
    · cases impossible
    · exact ⟨requisition, stood, rfl, told.serviced.mp between⟩

end Books.Telling

/-! ## Deeds -/

/-- Whatever stands in the slot of what was just queued and scanned for is that, serviced or
not. -/
theorem Ledger.attendant_of_fresh {ledger : Ledger} (wellFormed : ledger.WellFormed)
    {fresh requisition : Requisition} {taken : SlotPool} (joins : Joins ledger fresh taken)
    {direction : Direction} {share : Share}
    (stands : requisition ∈ ((ledger.joined direction fresh taken).granting direction
      share).queue direction)
    (same : requisition.slot = fresh.slot) : requisition.attendant = fresh.attendant := by
  have joined := wellFormed.joined joins direction
  have isFresh : fresh ∈ (ledger.joined direction fresh taken).queue direction := by
    rw [queue_joined_self]
    exact Requisition.mem_insert.mpr (Or.inl rfl)
  rw [queue_granting_self] at stands
  rcases mem_of_mem_grantAll stands with stood | ⟨before, stood, -, rfl⟩
  · rw [joined.requisition_unique stood isFresh same]
  · rw [← joined.requisition_unique stood isFresh same]
    rfl

section Deeds

variable {σ : Type} {controller final : Controller σ} {direction : Direction}

namespace Controller

@[simp] theorem interrupted_record {entries : List Entry} {slot : SlotId} :
    (controller.record entries).journal.Interrupted slot ↔
      controller.journal.Interrupted slot ∨ Journal.Interrupted entries slot :=
  Journal.interrupted_append

@[simp] theorem interrupted_queuing {requisition : Requisition} {taken : SlotPool}
    {slot : SlotId} :
    (controller.queuing direction requisition taken).journal.Interrupted slot ↔
      controller.journal.Interrupted slot := by
  simp [queuing, Journal.Interrupted]

@[simp] theorem interrupted_scanned {share : Share} {slot : SlotId} :
    (controller.scanned direction share).journal.Interrupted slot ↔
      controller.journal.Interrupted slot := by
  simp [scanned, walked, settle, record, Journal.Interrupted]

@[simp] theorem interrupted_shredded {slot other : SlotId} :
    (controller.shredded direction slot).journal.Interrupted other ↔
      controller.journal.Interrupted other := by
  simp [shredded, record, Journal.Interrupted]

theorem telling_queuing (telling : controller.books.Telling)
    (wellFormed : controller.ledger.WellFormed) {requisition : Requisition} {taken : SlotPool}
    (joins : Joins controller.ledger requisition taken) (direction : Direction) :
    (controller.queuing direction requisition taken).books.Telling := by
  have noted := telling.remarks [.slotsInUse taken.inUse controller.ledger.pool.limit]
  have queued := noted.queue wellFormed joins direction
  rw [Books.record, List.append_assoc] at queued
  exact queued

theorem telling_scanned (telling : controller.books.Telling)
    (wellFormed : controller.ledger.WellFormed) (direction : Direction) (share : Share) :
    (controller.scanned direction share).books.Telling :=
  (telling.remarks [.scanStarted direction (controller.ledger.queue direction).length]).scan
    wellFormed direction share

theorem telling_shredded (telling : controller.books.Telling)
    (wellFormed : controller.ledger.WellFormed) {slot : SlotId}
    (queued : slot ∈ (controller.ledger.queue direction).map Requisition.slot)
    (unworn : (controller.shredded direction slot).ledger.pool.Unworn) :
    (controller.shredded direction slot).books.Telling :=
  telling.shred wellFormed queued (Ledger.pool_remove controller.ledger direction slot ▸ unworn)

end Controller

variable [Store σ]

/-- A request that ends keeps the journal and the ledger together. -/
theorem Submission.telling {needed : Space} {priority : Priority}
    {attendant : Option AttendantId} {hold : Bool} {answer : Except Refusal Answer}
    (submission : Submission direction needed priority attendant hold controller answer final)
    (spare : controller.ledger.pool.Spare) (wellFormed : controller.ledger.WellFormed)
    (telling : controller.books.Telling) (unworn : final.ledger.pool.Unworn) :
    final.books.Telling := by
  have joins : ∀ {slot : SlotId} {taken : SlotPool}, needed.valid = true →
      controller.ledger.pool.take = some (slot, taken) →
      Joins controller.ledger ⟨slot, needed, priority, attendant, false⟩ taken :=
    fun valid took => ⟨valid, rfl, spare, took⟩
  have scannedFormed : ∀ {slot : SlotId} {taken : SlotPool} (share : Share),
      Joins controller.ledger ⟨slot, needed, priority, attendant, false⟩ taken →
      ((controller.queuing direction ⟨slot, needed, priority, attendant, false⟩
        taken).scanned direction share).ledger.WellFormed :=
    fun share joined => (wellFormed.joined joined direction).granting direction share
  have scannedTelling : ∀ {slot : SlotId} {taken : SlotPool} (share : Share),
      Joins controller.ledger ⟨slot, needed, priority, attendant, false⟩ taken →
      ((controller.queuing direction ⟨slot, needed, priority, attendant, false⟩
        taken).scanned direction share).books.Telling :=
    fun share joined => Controller.telling_scanned
      (Controller.telling_queuing telling wellFormed joined direction)
      (wellFormed.joined joined direction) direction share
  have stillQueued : ∀ (slot : SlotId) (taken : SlotPool) (share : Share),
      slot ∈ (((controller.queuing direction ⟨slot, needed, priority, attendant, false⟩
        taken).scanned direction share).ledger.queue direction).map Requisition.slot :=
    fun slot taken share => Controller.mem_slots_scanned (controller.mem_slots_queuing ..) share
  cases submission with
  | invalid invalid => exact telling
  | exhausted valid full => exact telling.remarks [.noFreeSlot direction priority needed]
  | @unanswered slot taken error medium valid took stopped =>
      have noted : ((controller.queuing direction ⟨slot, needed, priority, attendant, false⟩
          taken).record [.note (.scanFailed direction (.store error))]).books.Telling :=
        (Controller.telling_queuing telling wellFormed (joins valid took) direction).remarks
          [.scanFailed direction (.store error)]
      exact Controller.telling_shredded noted (wellFormed.joined (joins valid took) direction)
        (controller.mem_slots_queuing ..) unworn
  | @granted slot taken share scanned valid took offers isScanned serviced released =>
      subst isScanned
      exact Controller.telling_shredded (scannedTelling share (joins valid took))
        (scannedFormed share (joins valid took)) (stillQueued slot taken share) unworn
  | @notServiceable slot taken share scanned valid took offers isScanned pending alone =>
      subst isScanned
      have formed := scannedFormed share (joins valid took)
      have turned := (scannedTelling share (joins valid took)).turnAway formed
        (stillQueued slot taken share) ?_ ?_
      · rw [Journal.telling, List.map_cons, List.map_cons, ← List.singleton_append,
          ← List.append_assoc] at turned
        exact turned
      · intro requisition stands same
        refine ⟨?_, (Ledger.attendant_of_fresh wellFormed (joins valid took) stands
          same).trans alone⟩
        by_contra serviced
        rw [Bool.not_eq_false] at serviced
        rw [formed.isServiced_iff.mpr ⟨requisition, stands, same, serviced⟩] at pending
        cases pending
      · exact Ledger.pool_remove _ direction slot ▸ unworn
  | queued valid took offers isScanned outcome =>
      subst isScanned
      exact scannedTelling _ (joins valid took)

/-- So does the drop of a ticket. -/
theorem Release.telling {ticket : Ticket} (release : Release ticket controller final)
    (wellFormed : controller.ledger.WellFormed) (telling : controller.books.Telling)
    (unworn : final.ledger.pool.Unworn) : final.books.Telling := by
  cases release with
  | absent missing => exact telling
  | pending found isPending =>
      exact Controller.telling_shredded telling wellFormed (Ledger.mem_slots_of_find? found)
        unworn
  | @unanswered requisition error medium found serviced stopped =>
      exact (Controller.telling_shredded telling wellFormed (Ledger.mem_slots_of_find? found)
        unworn).remarks [.rescanFailed ticket.direction ticket.slot (.store error)]
  | @rescanned requisition share found serviced offers =>
      have queued := Ledger.mem_slots_of_find? found
      have released : (controller.shredded ticket.direction ticket.slot).ledger.pool.Unworn := by
        rwa [Controller.ledger_scanned, Ledger.pool_setQueue] at unworn
      exact Controller.telling_scanned
        (Controller.telling_shredded telling wellFormed queued released)
        (wellFormed.remove queued) ticket.direction share

/-- What needs the ledger keeps the journal and the ledger together. -/
theorem Deed.telling (deed : Deed controller final) (wellFormed : controller.ledger.WellFormed)
    (telling : controller.books.Telling) (unworn : final.ledger.pool.Unworn) :
    final.books.Telling := by
  cases deed with
  | submission spare submission => exact submission.telling spare wellFormed telling unworn
  | release release => exact release.telling wellFormed telling unworn
  | scan offers => exact Controller.telling_scanned telling wellFormed _ _
  | unscanned => exact telling

/-- Nobody is interrupted by what needs the ledger. -/
theorem Deed.not_interrupted (deed : Deed controller final) {slot : SlotId}
    (first : ¬ controller.journal.Interrupted slot) : ¬ final.journal.Interrupted slot := by
  cases deed with
  | submission spare submission =>
      cases submission with
      | invalid invalid => exact first
      | exhausted valid full => simpa using first
      | unanswered valid took stopped => simpa using first
      | granted valid took offers isScanned serviced released =>
          subst isScanned
          simpa using first
      | notServiceable valid took offers isScanned pending alone =>
          subst isScanned
          simpa using first
      | queued valid took offers isScanned outcome =>
          subst isScanned
          simpa using first
  | release release =>
      cases release with
      | absent missing => exact first
      | pending found isPending => simpa using first
      | unanswered found serviced stopped => simpa using first
      | rescanned found serviced offers => simpa using first
  | scan offers => simpa using first
  | unscanned => exact first

end Deeds

end Admission
