import Admission.Proofs.Scan.Fixpoint
import Admission.Proofs.Store.Accounted
import Admission.Proofs.Store.Failing
import Admission.Store.Record

/-!
# Who comes before whom in a scan

*Those that do not wait.*  Their share is the larger one at every place of a queue
(`Share.Ranked`), as long as no capacity below zero meets an occupancy below zero: half of a
capacity below zero is more than the whole, but such a share counts as nothing unless the
occupancy makes up for it.  No store here occupies less than nothing
(`MemoryStore.counted`, `RecordStore.counted`).

*Those that stand further ahead.*  A scan passes over what does not fit and goes on, so a
requisition can be serviced while others stay pending ahead of it.  What is left only shrinks
along the queue, whatever was skipped, granted or serviced already, so no requisition stays
pending that needs no more than one that is granted behind it (`scan_never_favours_rear`).  With any
of the stores here nothing has to be known of capacities and occupancies for that
(`Action.serviced_ahead_of_counted`).
-/

namespace Admission

/-! ## The share of those that do not wait -/

/-- Whatever is taken off both shares, what is left to requesters that wait is nothing, or no
more than what is left to those that do not. -/
def Share.Ranked (share : Share) : Prop :=
  ∀ medium (space : Int), 0 ≤ space →
    max 0 (share true medium - space) ≤ max 0 (share false medium - space)

/-- Where something fits, the same fits for one that does not wait. -/
theorem Requisition.fits_of_ranked {share : Share} {space : Medium → Int}
    {requisition other : Requisition} (ranked : share.Ranked)
    (nonneg : ∀ medium, 0 ≤ space medium) (need : other.need = requisition.need)
    (alone : other.blocking = false) (fits : requisition.fits (share.less space) = true) :
    other.fits (share.less space) = true := by
  rw [fits_iff] at fits ⊢
  intro medium
  rw [need, alone]
  have room := fits medium
  cases waits : requisition.blocking with
  | false => rwa [waits] at room
  | true =>
      rw [waits] at room
      exact room.trans (ranked medium (space medium) (nonneg medium))

section Stores

variable {σ : Type} [Store σ]

/-- A store in which the objects of a direction never occupy less than nothing. -/
def Budget.Counted (store : σ) (direction : Direction) : Prop :=
  ∀ medium occupancy, Store.occupancy store direction medium = .ok occupancy →
    occupancy.valid = true

/-- A store that has on no medium both a capacity and an occupancy below zero. -/
def Budget.Grounded (store : σ) (direction : Direction) : Prop :=
  ∀ medium capacity occupancy, Store.capacity store direction medium = .ok capacity →
    Store.occupancy store direction medium = .ok occupancy →
    capacity.valid = true ∨ occupancy.valid = true

variable {store : σ} {direction : Direction} {share : Share}

theorem Budget.Counted.grounded (counted : Budget.Counted store direction) :
    Budget.Grounded store direction :=
  fun medium _ occupancy _ answered => Or.inr (counted medium occupancy answered)

/-- Only of a capacity below zero is the half more, and then nothing is left of either share. -/
theorem Budget.Grounded.ranked (grounded : Budget.Grounded store direction)
    (offers : Budget.Offers store direction share) : share.Ranked := by
  obtain ⟨capacity, occupancy, capacities, occupancies, rfl⟩ := offers
  intro medium space nonneg
  have sound := grounded medium _ _ (capacities medium) (occupancies medium)
  rw [Magnitude.valid_iff, Magnitude.valid_iff] at sound
  simp only [Share.of_apply, if_true, Bool.false_eq_true, if_false]
  rcases sound with whole | occupied <;> omega

/-- A store that fails on demand occupies what the store behind it does. -/
theorem Unreliable.counted {unreliable : Unreliable σ}
    (counted : Budget.Counted unreliable.store direction) :
    Budget.Counted unreliable direction :=
  fun medium occupancy answered => counted medium occupancy (Unreliable.of_guarded answered)

end Stores

theorem MemoryStore.counted (store : MemoryStore) (direction : Direction) :
    Budget.Counted store direction := by
  intro medium occupancy answered
  rw [Magnitude.valid_iff, MemoryStore.value_of_occupancy answered]
  exact occupied_nonneg store.objects direction medium

/-- A sum of lengths is taken without its sign. -/
theorem RecordStore.counted (store : RecordStore) (direction : Direction) :
    Budget.Counted store direction := by
  intro medium occupancy answered
  have computed : store.occupancy direction medium = .ok occupancy := answered
  unfold RecordStore.occupancy at computed
  split at computed
  · cases computed
    rw [Magnitude.valid_iff, Magnitude.value_ofInt64]
    omega
  · cases computed

/-! ## Ahead of a requisition that is granted -/

/-- In one pass a requisition is serviced if one behind it is granted that needs as much as
it does, and waits like it or has the smaller share. -/
theorem GreedyPass.serviced_of_behind {share : Share} {before after : List Requisition}
    (pass : GreedyPass share before after)
    (nonneg : ∀ requisition ∈ before, ∀ medium, 0 ≤ requisition.need medium)
    {front rear : Nat} (order : front < rear) (old : rear < before.length)
    (new : rear < after.length) (pending : before[rear].serviced = false)
    (granted : after[rear].serviced = true)
    (less : ∀ medium, before[front].need medium ≤ before[rear].need medium)
    (kind : before[front].blocking = before[rear].blocking ∨
      before[front].blocking = false ∧ share.Ranked) :
    after[front].serviced = true := by
  have nonnegAfter : ∀ medium, ∀ requisition ∈ after.take rear,
      0 ≤ requisition.need medium := by
    intro medium requisition member
    obtain ⟨position, new, rfl⟩ := List.mem_iff_getElem.mp (List.mem_of_mem_take member)
    have stood : position < before.length := pass.length_eq ▸ new
    rw [pass.unmarked position stood new]
    exact nonneg _ (List.getElem_mem stood) medium
  have fits := (pass.serviced_iff rear old new).mp granted
  rw [pending] at fits
  refine (pass.serviced_iff front (by omega) (by omega)).mpr (Or.inr fun medium => ?_)
  have least : 0 ≤ reserved [] (after.take front) medium :=
    reserved_nonneg fun requisition member =>
      nonnegAfter medium requisition ((List.take_sublist_take_left (Nat.le_of_lt order)).mem member)
  have shrinks : reserved [] (after.take front) medium ≤ reserved [] (after.take rear) medium :=
    reserved_sublist_le (nonnegAfter medium)
      (List.take_prefix_take_left (Nat.le_of_lt order)).sublist fun _ member => member
  have room := fits.resolve_left Bool.false_ne_true medium
  calc before[front].need medium
      ≤ before[rear].need medium := less medium
    _ ≤ max 0 (share before[rear].blocking medium - reserved [] (after.take rear) medium) := room
    _ ≤ max 0 (share before[rear].blocking medium - reserved [] (after.take front) medium) := by
        omega
    _ ≤ max 0 (share before[front].blocking medium -
          reserved [] (after.take front) medium) := by
        rcases kind with same | ⟨waitsNot, ranked⟩
        · rw [same]
        · rw [waitsNot]
          cases before[rear].blocking with
          | true => exact ranked medium _ least
          | false => exact Int.le_refl _

/-- What stands at `rear` of a queue becomes granted, and what stands at `front`, ahead of it, needs
no more on any medium. -/
structure GrantsBehind (before after : List Requisition) (front rear : Nat)
    (ahead behind : Requisition) : Prop where
  order : front < rear
  first : before[front]? = some ahead
  second : before[rear]? = some behind
  pending : behind.serviced = false
  granted : after[rear]? = some behind.granted
  less : ∀ medium, ahead.needed.get medium ≤ behind.needed.get medium

namespace Action

variable {σ : Type} [Store σ] {controller final : Controller σ} {direction : Direction}
  {serviced front rear : Nat} {ahead behind : Requisition}

/-- A scan that grants a requisition leaves no other one pending ahead of it that needs no more, and
waits like it, or does not wait and has the larger share. -/
theorem serviced_ahead (done : scan direction controller = .ok serviced final)
    (valid : ∀ requisition ∈ controller.ledger.queue direction, requisition.needed.valid = true)
    (grants : GrantsBehind (controller.ledger.queue direction) (final.ledger.queue direction)
      front rear ahead behind)
    (kind : ahead.blocking = behind.blocking ∨ ahead.blocking = false ∧
      ∀ share, Budget.Offers controller.store direction share → share.Ranked) :
    (final.ledger.queue direction)[front]? = some ahead.granted := by
  obtain ⟨order, first, second, pending, granted, less⟩ := grants
  obtain ⟨share, offers, rfl, -⟩ := scan_eq_ok done
  have effect := controller.scanEffect_scanned direction share
  obtain ⟨old, rfl⟩ := List.getElem?_eq_some_iff.mp second
  obtain ⟨oldFront, rfl⟩ := List.getElem?_eq_some_iff.mp first
  obtain ⟨new, becomes⟩ := List.getElem?_eq_some_iff.mp granted
  have newFront : front < ((controller.scanned direction share).ledger.queue direction).length :=
    Nat.lt_trans order new
  have turnsOn := effect.pass.serviced_of_behind
    (fun requisition member => (Space.valid_iff _).mp (valid requisition member))
    order old new pending (by rw [becomes]; rfl)
    (fun medium => (Magnitude.le_iff_value_le _ _).mp (less medium))
    (kind.imp_right fun ⟨waitsNot, ranked⟩ => ⟨waitsNot, ranked share offers⟩)
  refine List.getElem?_eq_some_iff.mpr ⟨newFront, ?_⟩
  rw [effect.pass.unmarked front oldFront newFront, turnsOn]
  rfl

/-- Where objects never occupy less than nothing, a requester that does not wait is second to none
behind it. -/
theorem serviced_ahead_of_counted (counted : Budget.Counted controller.store direction)
    (done : scan direction controller = .ok serviced final)
    (valid : ∀ requisition ∈ controller.ledger.queue direction, requisition.needed.valid = true)
    (grants : GrantsBehind (controller.ledger.queue direction) (final.ledger.queue direction)
      front rear ahead behind)
    (kind : ahead.blocking = behind.blocking ∨ ahead.blocking = false) :
    (final.ledger.queue direction)[front]? = some ahead.granted :=
  serviced_ahead done valid grants
    (kind.imp_right fun waitsNot => ⟨waitsNot, fun _ offers => counted.grounded.ranked offers⟩)

end Action

section Kinds

variable {direction : Direction} {serviced front rear : Nat} {ahead behind : Requisition}

/-- With the store in memory a requester that does not wait is second to none behind it. -/
theorem MemoryStore.serviced_ahead {controller final : Controller MemoryStore}
    (done : Action.scan direction controller = .ok serviced final)
    (valid : ∀ requisition ∈ controller.ledger.queue direction, requisition.needed.valid = true)
    (grants : GrantsBehind (controller.ledger.queue direction) (final.ledger.queue direction)
      front rear ahead behind)
    (kind : ahead.blocking = behind.blocking ∨ ahead.blocking = false) :
    (final.ledger.queue direction)[front]? = some ahead.granted :=
  Action.serviced_ahead_of_counted (controller.store.counted direction) done valid grants kind

/-- The same with the store that keeps records. -/
theorem RecordStore.serviced_ahead {controller final : Controller RecordStore}
    (done : Action.scan direction controller = .ok serviced final)
    (valid : ∀ requisition ∈ controller.ledger.queue direction, requisition.needed.valid = true)
    (grants : GrantsBehind (controller.ledger.queue direction) (final.ledger.queue direction)
      front rear ahead behind)
    (kind : ahead.blocking = behind.blocking ∨ ahead.blocking = false) :
    (final.ledger.queue direction)[front]? = some ahead.granted :=
  Action.serviced_ahead_of_counted (controller.store.counted direction) done valid grants kind

/-- The same with a store that fails on demand, in front of one that never shows less than nothing
occupied. -/
theorem Unreliable.serviced_ahead {σ : Type} [Store σ]
    {controller final : Controller (Unreliable σ)}
    (counted : Budget.Counted controller.store.store direction)
    (done : Action.scan direction controller = .ok serviced final)
    (valid : ∀ requisition ∈ controller.ledger.queue direction, requisition.needed.valid = true)
    (grants : GrantsBehind (controller.ledger.queue direction) (final.ledger.queue direction)
      front rear ahead behind)
    (kind : ahead.blocking = behind.blocking ∨ ahead.blocking = false) :
    (final.ledger.queue direction)[front]? = some ahead.granted :=
  Action.serviced_ahead_of_counted (Unreliable.counted counted) done valid grants kind

end Kinds

/-- A store in debt: its capacities are more than a billion bytes below zero, and so is what objects
occupy. -/
structure Indebted where

instance : Store Indebted where
  capacity _ _ _ := .ok ⟨-2, 999999900, by decide, by decide⟩
  occupancy _ _ _ := .ok ⟨-2, 999999900, by decide, by decide⟩
  sliceSpace _ _ _ _ := .ok .zero
  create store _ _ := ⟨store, [], .ok ()⟩
  destroy store id := .none store (.refused (.notFound id))

/-- A requester that does not wait needs fifty bytes, and so does one that waits behind it. -/
def indebted : Controller Indebted where
  store := {}
  ledger :=
    { pool := .ofLimit 8
      inbound :=
        [⟨.ofParts 1 1, .of .file (.ofUInt64 50), ⟨1, 0⟩, none, false⟩,
          ⟨.ofParts 2 1, .of .file (.ofUInt64 50), ⟨1, 0⟩, some ⟨0⟩, false⟩]
      outbound := [] }
  attendants := ⟨[.clear]⟩
  journal := []

/-- Where a capacity and an occupancy both are below zero a scan favours the rear: nothing is left
to the first one, but fifty bytes to the second. -/
example : (match Action.scan .inbound indebted with
    | .ok _ final => (final.ledger.queue .inbound).map Requisition.serviced
    | .error _ _ => []) = [false, true] := by decide

end Admission
