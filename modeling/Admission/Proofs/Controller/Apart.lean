import Admission.Proofs.Controller.Alike
import Admission.Proofs.Controller.Restored

/-!
# What is done beside a direction

Whatever is done for a direction leaves the queue and the objects of the other one as they are,
and takes one slot at most.  `Controller.Beside` says so of a controller before and after; it is
kept by everything that is done for the direction, step by step.
-/

namespace Admission

/-! ## Slots that are left -/

/-- So many more slots can be taken. -/
def SlotPool.Vacant (pool : SlotPool) (count : Nat) : Prop :=
  pool.inUse + count ≤ pool.limit ∧ pool.inUse + count < 4294967295

instance (pool : SlotPool) (count : Nat) : Decidable (pool.Vacant count) :=
  inferInstanceAs (Decidable (_ ∧ _))

namespace SlotPool

variable {pool : SlotPool} {count : Nat}

theorem Vacant.spare (vacant : pool.Vacant (count + 1)) : pool.Spare := by
  have indices := vacant.2
  unfold Spare
  omega

theorem Vacant.take (vacant : pool.Vacant (count + 1)) :
    ∃ slot taken, pool.take = some (slot, taken) := by
  have room := vacant.1
  cases took : pool.take with
  | none =>
      rw [take_eq_none_iff] at took
      omega
  | some found => exact ⟨found.1, found.2, rfl⟩

theorem Vacant.fewer (vacant : pool.Vacant (count + 1)) : pool.Vacant count := by
  obtain ⟨room, indices⟩ := vacant
  constructor <;> omega

theorem inUse_release_le (pool : SlotPool) (slot : SlotId) :
    (pool.release slot).limit = pool.limit ∧ (pool.release slot).inUse ≤ pool.inUse := by
  unfold release
  split
  · exact ⟨rfl, List.erase_sublist.length_le⟩
  · exact ⟨rfl, Nat.le_refl _⟩

end SlotPool

/-- A ledger in order, of which so many more slots can be taken. -/
structure Ledger.Roomy (ledger : Ledger) (count : Nat) : Prop where
  wellFormed : ledger.WellFormed
  vacant : ledger.pool.Vacant count

theorem Ledger.Roomy.fewer {ledger : Ledger} {count : Nat} (roomy : ledger.Roomy (count + 1)) :
    ledger.Roomy count :=
  ⟨roomy.wellFormed, roomy.vacant.fewer⟩

/-- However a ledger is handled, only what has come to stay takes a slot. -/
theorem Handled.inUse_le {offers : Share → Prop} {unanswered : Prop} {direction : Direction}
    {ledger after : Ledger} {came : Option Requisition} {gone : Option SlotId}
    (handled : Handled offers unanswered direction ledger came gone after) :
    after.pool.limit = ledger.pool.limit ∧
      after.pool.inUse ≤ ledger.pool.inUse + came.toList.length := by
  cases handled with
  | same => exact ⟨rfl, Nat.le_add_right _ _⟩
  | absent missing => exact ⟨rfl, Nat.le_add_right _ _⟩
  | unscanned stopped => exact ⟨rfl, Nat.le_add_right _ _⟩
  | scanned offered =>
      rw [Ledger.granting, Ledger.pool_setQueue]
      exact ⟨rfl, Nat.le_add_right _ _⟩
  | withdrawn stopped joins =>
      obtain ⟨held, limit⟩ := SlotPool.held_release_of_take joins.took
      rw [Ledger.pool_remove, Ledger.joined, Ledger.pool_enqueue]
      exact ⟨limit, (congrArg List.length held).le⟩
  | passed offered joins =>
      obtain ⟨held, limit⟩ := SlotPool.held_release_of_take joins.took
      rw [Ledger.pool_remove, Ledger.granting, Ledger.pool_setQueue, Ledger.joined,
        Ledger.pool_enqueue]
      exact ⟨limit, (congrArg List.length held).le⟩
  | queued offered joins =>
      obtain ⟨held, limit⟩ := SlotPool.held_of_take joins.took
      rw [Ledger.granting, Ledger.pool_setQueue, Ledger.joined, Ledger.pool_enqueue]
      exact ⟨limit, (congrArg List.length held).le⟩
  | left found pending =>
      rw [Ledger.pool_remove]
      exact SlotPool.inUse_release_le _ _
  | leftUnscanned stopped found serviced =>
      rw [Ledger.pool_remove]
      exact SlotPool.inUse_release_le _ _
  | leftScanned offered found serviced =>
      rw [Ledger.granting, Ledger.pool_setQueue, Ledger.pool_remove]
      exact SlotPool.inUse_release_le _ _

/-! ## Where actions end -/

namespace Action

variable {σ α β : Type} {controller : Controller σ} {left : Controller σ → Prop}

/-- Wherever an action ends, with a value or refused, something is true of the controller. -/
def Leaves (action : Action σ α) (controller : Controller σ) (left : Controller σ → Prop) : Prop :=
  ∀ outcome final, attempt action controller = .ok outcome final → left final

theorem leaves_pure (already : left controller) (value : α) :
    Leaves (pure value) controller left := by
  rintro _ _ ⟨⟩
  exact already

theorem leaves_refuse (already : left controller) (refusal : Refusal) :
    Leaves (refuse refusal : Action σ α) controller left := by
  rintro _ _ ⟨⟩
  exact already

theorem Leaves.of_ok {action : Action σ α} (leaves : Leaves action controller left) {value : α}
    {final : Controller σ} (done : action controller = .ok value final) : left final :=
  leaves _ _ (attempt_eq_ok_iff.mpr (Or.inl ⟨value, rfl, done⟩))

theorem Leaves.bind {first : Action σ α} {next : α → Action σ β}
    (begins : Leaves first controller left)
    (goesOn : ∀ value between, first controller = .ok value between → left between →
      Leaves (next value) between left) : Leaves (first >>= next) controller left := by
  intro outcome final ended
  rcases attempt_bind_cases ended with ⟨value, between, done, rest⟩ | ⟨refusal, -, refused⟩
  · exact goesOn value between done (begins.of_ok done) outcome final rest
  · exact begins _ _ (attempt_eq_ok_iff.mpr (Or.inr ⟨refusal, rfl, refused⟩))

end Action

/-! ## Beside a direction -/

theorem Submission.store {σ : Type} [Store σ] {direction : Direction} {needed : Space}
    {priority : Priority} {attendant : Option AttendantId} {hold : Bool}
    {answer : Except Refusal Answer} {controller final : Controller σ}
    (submission : Submission direction needed priority attendant hold controller answer final) :
    final.store = controller.store := by
  cases submission <;> (try subst_vars) <;> rfl

theorem Release.store {σ : Type} [Store σ] {ticket : Ticket} {controller final : Controller σ}
    (release : Release ticket controller final) : final.store = controller.store := by
  cases release <;> rfl

/-- What was done for a direction, at the objects that were `changed`: the other direction is as it
was, and so many more slots can be taken. -/
structure Controller.Beside (direction : Direction) (changed : List ObjectId) (count : Nat)
    (before after : Controller MemoryStore) : Prop where
  queue : ∀ other, other ≠ direction → after.ledger.queue other = before.ledger.queue other
  ledger : after.ledger.Roomy count
  store : before.store.Beside direction changed after.store

namespace Controller.Beside

variable {direction : Direction} {changed : List ObjectId} {count : Nat}
  {before between after : Controller MemoryStore}

theorem refl (roomy : before.ledger.Roomy count) :
    Beside direction changed count before before :=
  ⟨fun _ _ => rfl, roomy, .refl _ _ _⟩

/-- What is done for another direction leaves a controller that is alike another one so. -/
theorem alike_left {slots : SlotId → SlotId} {ids : ObjectId → ObjectId}
    {known : List ObjectId} {other : Direction} {second : Controller MemoryStore}
    (beside : Beside direction changed count before after) (apart : other ≠ direction)
    (alike : Alike slots ids known other before second) : Alike slots ids [] other after second :=
  ⟨by rw [alike.queue, beside.queue other apart],
    by rw [beside.store.limits, alike.store.limits],
    by rw [beside.store.objects other apart, alike.store.objects], by simp⟩

theorem alike_right {slots : SlotId → SlotId} {ids : ObjectId → ObjectId}
    {known : List ObjectId} {other : Direction} {first : Controller MemoryStore}
    (beside : Beside direction changed count before after) (apart : other ≠ direction)
    (alike : Alike slots ids known other first before) : Alike slots ids [] other first after :=
  ⟨by rw [beside.queue other apart, alike.queue],
    by rw [beside.store.limits, alike.store.limits],
    by rw [beside.store.objects other apart, alike.store.objects], by simp⟩

/-- What is written down does not matter. -/
theorem note (beside : Beside direction changed count before between) (remark : Note) :
    (Action.note remark).Leaves between (Beside direction changed count before) := by
  rintro _ _ ⟨⟩
  exact ⟨beside.queue, beside.ledger, beside.store⟩

theorem handled {offers : Share → Prop} {unanswered : Prop} {came : Option Requisition}
    {gone : Option SlotId}
    (beside : Beside direction changed (count + came.toList.length) before between)
    (handled : Handled offers unanswered direction between.ledger came gone after.ledger)
    (store : after.store = between.store) : Beside direction changed count before after where
  queue other apart := (handled.queue_of_ne apart).trans (beside.queue other apart)
  ledger := by
    obtain ⟨limit, inUse⟩ := handled.inUse_le
    obtain ⟨wellFormed, room, indices⟩ := beside.ledger
    exact ⟨handled.wellFormed wellFormed, by omega, by omega⟩
  store := store ▸ beside.store

theorem fewer (beside : Beside direction changed (count + 1) before between) :
    Beside direction changed count before between :=
  { beside with ledger := beside.ledger.fewer }

theorem scan (beside : Beside direction changed count before between) :
    (Action.scan direction).Leaves between (Beside direction changed count before) := by
  intro outcome final ended
  refine beside.handled (Action.handled_of_scan ended) ?_
  rcases Action.rescan_of_attempt ended with ⟨share, -, rfl⟩ | ⟨rfl, -⟩ <;> rfl

theorem dropTicket (beside : Beside direction changed count before between) (slot : SlotId)
    (attendant : Option AttendantId) :
    (Action.dropTicket ⟨direction, slot, attendant⟩).Leaves between
      (Beside direction changed count before) := by
  intro outcome final ended
  have release := Action.release_of_attempt ended
  exact beside.handled release.handled release.store

/-- A submission takes one slot at most. -/
theorem submit (beside : Beside direction changed (count + 1) before between) (needed : Space)
    (priority : Priority) (attendant : Option AttendantId) (hold : Bool) :
    (Action.submit direction needed priority attendant hold).Leaves between
      (Beside direction changed count before) := by
  intro answer final ended
  have submission := Action.submission_of_attempt ended
  obtain ⟨came, handled, -⟩ := submission.handled beside.ledger.vacant.spare
  cases came with
  | none => exact beside.fewer.handled handled submission.store
  | some requisition => exact beside.handled handled submission.store

/-- Another change of the store for the same direction. -/
theorem tryChange {α : Type} {change : MemoryStore → Change MemoryStore StoreError α}
    (beside : Beside direction changed count before between)
    (changes : between.store.Beside direction changed (change between.store).store) :
    (Action.tryChange change).Leaves between (Beside direction changed count before) := by
  intro outcome final ended
  rcases Action.attempt_eq_ok_iff.mp ended with ⟨result, -, done⟩ | ⟨refusal, -, refused⟩
  · obtain ⟨-, rfl⟩ := Action.tryChange_eq_ok done
    exact ⟨beside.queue, beside.ledger, beside.store.trans changes⟩
  · exact absurd refused Action.tryChange_ne_refused

theorem change {α : Type} {change : MemoryStore → Change MemoryStore StoreError α}
    (beside : Beside direction changed count before between)
    (changes : between.store.Beside direction changed (change between.store).store) :
    (Action.change change).Leaves between (Beside direction changed count before) := by
  refine (beside.tryChange changes).bind fun outcome _ _ changed => ?_
  cases outcome with
  | ok value => exact Action.leaves_pure changed value
  | error error => exact Action.leaves_refuse changed _

section Creations

variable {id : ObjectId} {object : NewObject}

theorem stored (beside : Beside direction [id] count before between)
    (same : object.direction = direction) (slot : SlotId) (attendant : Option AttendantId) :
    (Action.store ⟨⟨direction, slot, attendant⟩, object⟩ id).Leaves between
      (Beside direction [id] count before) := by
  have creates := MemoryStore.Beside.create between.store id object
  rw [same] at creates
  refine (beside.tryChange creates).bind fun outcome _ _ made => ?_
  cases outcome with
  | ok nothing =>
      exact (made.dropTicket slot attendant).bind fun _ _ _ dropped => Action.leaves_pure dropped _
  | error error =>
      refine (made.note _).bind fun _ _ _ noted => ?_
      exact (noted.dropTicket slot attendant).bind fun _ _ _ dropped =>
        Action.leaves_refuse dropped _

/-- A creation of a requester that does not wait. -/
theorem create (beside : Beside direction [id] (count + 1) before between) (source : Source)
    (priority : Priority) :
    (Action.createAtOnce direction source priority id).Leaves between
      (Beside direction [id] count before) := by
  unfold Action.createAtOnce
  cases source.location with
  | none =>
      have creates := MemoryStore.Beside.create between.store id
        ⟨direction, source, .unreserved, decide (direction = .inbound)⟩
      exact (beside.fewer.change creates).bind fun _ _ _ made => Action.leaves_pure made _
  | some location =>
      dsimp only
      split
      · exact Action.leaves_refuse beside.fewer _
      · intro outcome final ended
        unfold Action.createReserved at ended
        rcases Action.attempt_bind_cases ended with
          ⟨needed, same, sized, rest⟩ | ⟨refusal, -, refused⟩
        · obtain rfl := (Action.spaceNeeded_keeps source location between).1 sized
          refine ((beside.submit needed priority none true).bind ?_) outcome final rest
          intro answer later submitted answered
          cases answer with
          | granted => exact Action.leaves_pure answered _
          | notServiceable => exact Action.leaves_pure answered _
          | queued ticket =>
              obtain ⟨ticketDirection, ticketSlot, waits⟩ := ticket
              obtain ⟨-, rfl, -⟩ := Action.serviced_of_queued submitted
              exact answered.stored rfl ticketSlot waits
        · obtain rfl := (Action.spaceNeeded_keeps source location between).2 refused
          exact beside.fewer

end Creations

theorem destroy {object : ObjectId} (beside : Beside direction [object] count before between)
    (own : ∀ stored ∈ between.store.under object, stored.direction = direction) :
    (Action.destroy object).Leaves between (Beside direction [object] count before) := by
  refine (beside.change (MemoryStore.Beside.destroy own)).bind fun found _ destroyed changed => ?_
  obtain rfl : found = direction :=
    MemoryStore.direction_of_destroy own (Action.change_eq_ok destroyed)
  refine changed.scan.bind fun serviced _ _ scanned => ?_
  exact (scanned.note _).bind fun _ _ _ noted => Action.leaves_pure noted _

end Controller.Beside

end Admission
