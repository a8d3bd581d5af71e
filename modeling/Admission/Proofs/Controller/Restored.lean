import Admission.Proofs.Controller.Handled

/-!
# Calls that leave no trace

A call has left no trace if the same requisitions stand in both queues, the same slots are taken
and the store is as it was.  What can be told of the call then is what it wrote to the journal,
and that the signal of its own attendant was discarded.

What was queued in a fresh slot and is taken off again leaves the ledger as it was
(`Ledger.restored_of_withdrawn`), so that a request which is refused leaves no trace, whatever
refused it (`Submission.restored`).
-/

namespace Admission

/-- The same requisitions in the same order, and the same slots taken. -/
structure Ledger.Restored (before after : Ledger) : Prop where
  queue : ∀ direction, after.queue direction = before.queue direction
  held : after.pool.held = before.pool.held
  limit : after.pool.limit = before.pool.limit

/-- Nothing is left of a call but the events that it told.  If it had an attendant, the signal of
that one is discarded; nobody is signaled. -/
structure Restored {σ : Type} (attendant : Option AttendantId) (told : List Event)
    (before after : Controller σ) : Prop where
  ledger : before.ledger.Restored after.ledger
  store : after.store = before.store
  attendants : after.attendants = Action.signaled before.attendants Attendants.reset attendant
  events : after.journal.events = before.journal.events ++ told

/-! ## The ledger -/

namespace SlotPool

variable {pool taken : SlotPool} {slot : SlotId}

theorem take_eq_none_iff : pool.take = none ↔ pool.limit ≤ pool.inUse := by
  unfold take
  split
  · next full => simp [full]
  · next room =>
      split <;> simp [room]

theorem held_of_take (took : pool.take = some (slot, taken)) :
    taken.held = slot :: pool.held ∧ taken.limit = pool.limit := by
  unfold take at took
  split at took
  · cases took
  · split at took <;> cases took <;> exact ⟨rfl, rfl⟩

/-- The slots that are held once the one that was taken last is free again. -/
theorem held_release_of_take (took : pool.take = some (slot, taken)) :
    (taken.release slot).held = pool.held ∧ (taken.release slot).limit = pool.limit := by
  obtain ⟨held, limit⟩ := held_of_take took
  have isHeld : slot ∈ taken.held := held ▸ List.mem_cons_self
  rw [release, if_pos isHeld, held, List.erase_cons_head]
  exact ⟨rfl, limit⟩

/-- A slot that is taken next has an index that no held slot has. -/
theorem WellFormed.index_fresh_of_take (wellFormed : pool.WellFormed)
    (took : pool.take = some (slot, taken)) : slot.index ∉ pool.held.map SlotId.index := by
  unfold SlotPool.take at took
  split at took
  · cases took
  · split at took
    case h_1 first free isFree =>
      cases took
      have distinct := wellFormed.distinct
      rw [isFree, List.map_append, List.nodup_append] at distinct
      exact fun held => distinct.2.2 _ held _ List.mem_cons_self rfl
    case h_2 noneFree =>
      cases took
      intro held
      obtain ⟨other, isHeld, same⟩ := List.mem_map.mp held
      have known := wellFormed.known other (List.mem_append_left _ isHeld)
      have bounded := wellFormed.bounded
      have index : (UInt32.ofNat (pool.opened + 1)).toNat = pool.opened + 1 :=
        UInt32.toNat_ofNat_of_lt' (by simp only [UInt32.size]; omega)
      rw [same, SlotId.ofParts, index] at known
      omega

end SlotPool

namespace Ledger

variable {ledger between after : Ledger} {direction : Direction} {requisition : Requisition}
  {slot : SlotId} {taken : SlotPool}

namespace Restored

theorem refl (ledger : Ledger) : ledger.Restored ledger := ⟨fun _ => rfl, rfl, rfl⟩

theorem trans (first : ledger.Restored between) (second : between.Restored after) :
    ledger.Restored after where
  queue direction := (second.queue direction).trans (first.queue direction)
  held := second.held.trans first.held
  limit := second.limit.trans first.limit

theorem inUse (restored : ledger.Restored after) : after.pool.inUse = ledger.pool.inUse :=
  congrArg List.length restored.held

end Restored

/-- Whoever is queued holds a slot, and the slot that is taken next has an index that no held slot
has. -/
structure Ready (ledger : Ledger) : Prop where
  held : ∀ direction, ∀ slot ∈ (ledger.queue direction).map Requisition.slot,
    slot ∈ ledger.pool.held
  index : ∀ slot taken, ledger.pool.take = some (slot, taken) →
    slot.index ∉ ledger.pool.held.map SlotId.index

theorem WellFormed.ready (wellFormed : ledger.WellFormed) : ledger.Ready :=
  ⟨fun _ _ queued => wellFormed.held_of_queued queued,
    fun _ _ took => wellFormed.pool.index_fresh_of_take took⟩

/-- The slot that is taken next is of no requisition. -/
theorem Ready.fresh (ready : ledger.Ready) (took : ledger.pool.take = some (slot, taken))
    (direction : Direction) : slot ∉ (ledger.queue direction).map Requisition.slot :=
  fun queued => ready.index slot taken took (List.mem_map_of_mem (ready.held direction slot queued))

/-- A slot that was taken and freed is taken again next, renewed. -/
theorem Ready.released (ready : ledger.Ready) (took : ledger.pool.take = some (slot, taken))
    (restored : ledger.Restored after) (pool : after.pool = taken.release slot) :
    after.Ready ∧ ∃ again, after.pool.take = some (slot.renew, again) := by
  have isHeld : slot ∈ taken.held := (SlotPool.held_of_take took).1 ▸ List.mem_cons_self
  have room : ¬ after.pool.limit ≤ after.pool.inUse := by
    rw [restored.limit, restored.inUse, ← SlotPool.take_eq_none_iff, took]
    simp
  have free : after.pool.free = slot.renew :: taken.free := by
    rw [pool, SlotPool.release, if_pos isHeld]
  have next : after.pool.take = some (slot.renew,
      { after.pool with held := slot.renew :: after.pool.held, free := taken.free }) := by
    rw [SlotPool.take, if_neg room, free]
  refine ⟨⟨?_, ?_⟩, _, next⟩
  · intro direction other queued
    rw [restored.queue] at queued
    rw [restored.held]
    exact ready.held direction other queued
  · intro other taken' takes
    rw [next] at takes
    cases takes
    rw [restored.held]
    exact ready.index slot taken took

/-- Taking off what was queued last restores a ledger, if nothing else in its queue is another
than before. -/
theorem restored_of_rest (took : ledger.pool.take = some (slot, taken))
    (pool : between.pool = taken)
    (others : ∀ other, other ≠ direction → between.queue other = ledger.queue other)
    (rest : (between.queue direction).filter (fun other => other.slot ≠ slot) =
      ledger.queue direction) :
    ledger.Restored (between.remove direction slot) where
  queue other := by
    by_cases here : other = direction
    · subst here
      rw [queue_remove_self, rest]
    · rw [queue_remove_of_ne _ _ here, others other here]
  held := by
    rw [pool_remove, pool]
    exact (SlotPool.held_release_of_take took).1
  limit := by
    rw [pool_remove, pool]
    exact (SlotPool.held_release_of_take took).2

/-- What was queued and is taken off before anything else happens has left no trace. -/
theorem restored_of_withdrawn (requisition : Requisition)
    (took : ledger.pool.take = some (requisition.slot, taken))
    (fresh : requisition.slot ∉ (ledger.queue direction).map Requisition.slot) :
    ledger.Restored ((ledger.joined direction requisition taken).remove direction
      requisition.slot) := by
  refine restored_of_rest took (pool_enqueue _ _ _)
    (fun other different => queue_joined_of_ne requisition taken different) ?_
  rw [queue_joined_self]
  exact Requisition.filter_insert fresh

end Ledger

/-! ## The attendants -/

/-- Discarding a signal twice is the same as once. -/
theorem Attendants.reset_reset (attendants : Attendants) (id : AttendantId) :
    (attendants.reset id).reset id = attendants.reset id := by
  simp only [reset, modify, List.modify_modify_eq]
  rfl

/-- A signal that was given and is discarded is as good as discarded at once. -/
theorem Attendants.reset_give (attendants : Attendants) (id : AttendantId) :
    (attendants.give id).reset id = attendants.reset id := by
  simp only [give, reset, modify, List.modify_modify_eq]
  rfl

/-! ## Calls -/

namespace Restored

variable {σ : Type} {attendant : Option AttendantId} {first second : List Event}
  {before between after : Controller σ}

theorem refl (controller : Controller σ) : Restored none [] controller controller where
  ledger := .refl _
  store := rfl
  attendants := rfl
  events := (List.append_nil _).symm

/-- Two calls with the same attendant that leave no trace, one after the other. -/
theorem trans (earlier : Restored attendant first before between)
    (later : Restored attendant second between after) :
    Restored attendant (first ++ second) before after where
  ledger := earlier.ledger.trans later.ledger
  store := later.store.trans earlier.store
  attendants := by
    rw [later.attendants, earlier.attendants]
    cases attendant with
    | none => rfl
    | some id => exact Attendants.reset_reset before.attendants id
  events := by rw [later.events, earlier.events, List.append_assoc]

end Restored

/-! ## Requests that are refused -/

/-- The ways in which a request is refused, each with the events that it told. -/
inductive Rejection {σ : Type} [Store σ] (direction : Direction) (needed : Space)
    (priority : Priority) (controller : Controller σ) : Refusal → List Event → Prop where
  /-- Less than nothing was asked for. -/
  | invalid :
      needed.valid = false →
      Rejection direction needed priority controller (.invalidArgument .negativeSpace) []
  | exhausted :
      needed.valid = true → controller.ledger.pool.limit ≤ controller.ledger.pool.inUse →
      Rejection direction needed priority controller
        (.exhausted controller.ledger.pool.limit) []
  /-- The store refused one of the questions of the scan. -/
  | unanswered {slot : SlotId} {error : StoreError} {medium : Medium} :
      needed.valid = true →
      (∀ other, slot ∉ (controller.ledger.queue other).map Requisition.slot) →
      (Store.capacity controller.store direction medium = .error (.refused error) ∨
        Store.occupancy controller.store direction medium = .error (.refused error)) →
      Rejection direction needed priority controller (.store error)
        [⟨direction, slot, .queued priority needed⟩, ⟨direction, slot, .shredded⟩]

section Refused

variable {σ : Type} [Store σ] {direction : Direction} {needed : Space} {priority : Priority}
  {attendant : Option AttendantId} {hold : Bool} {controller final : Controller σ}
  {refusal : Refusal}

/-- A submission that is refused leaves no trace. -/
theorem Submission.restored
    (submission : Submission direction needed priority attendant hold controller
      (.error refusal) final)
    (wellFormed : controller.ledger.WellFormed) :
    ∃ told, Rejection direction needed priority controller refusal told ∧
      Restored (if needed.valid then attendant else none) told controller final := by
  cases submission with
  | invalid invalid =>
      refine ⟨[], .invalid invalid, ?_⟩
      rw [if_neg (by simp [invalid])]
      exact .refl controller
  | exhausted valid full =>
      refine ⟨[], .exhausted valid (SlotPool.take_eq_none_iff.mp full), ?_⟩
      rw [if_pos valid]
      exact {
        ledger := .refl _
        store := rfl
        attendants := rfl
        events := Journal.events_append _ _ }
  | @unanswered slot taken error medium valid took stopped =>
      have fresh := wellFormed.ready.fresh took
      refine ⟨_, .unanswered valid fresh stopped, ?_⟩
      rw [if_pos valid]
      exact {
        ledger := Ledger.restored_of_withdrawn ⟨slot, needed, priority, attendant, false⟩ took
          (fresh direction)
        store := rfl
        attendants := rfl
        events := by
          simp only [Controller.shredded, Controller.queuing, Controller.record,
            Journal.events_append, List.append_assoc]
          rfl }

theorem Action.restored_of_refused
    (refused : submit direction needed priority attendant hold controller =
      .error (.refused refusal) final)
    (wellFormed : controller.ledger.WellFormed) :
    ∃ told, Rejection direction needed priority controller refusal told ∧
      Restored (if needed.valid then attendant else none) told controller final := by
  have ended : attempt (submit direction needed priority attendant hold) controller =
      .ok (.error refusal) final := attempt_eq_ok_iff.mpr (Or.inr ⟨refusal, rfl, refused⟩)
  exact (submission_of_attempt ended).restored wellFormed

end Refused

end Admission
