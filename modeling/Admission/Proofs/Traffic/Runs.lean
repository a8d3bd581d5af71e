import Admission.Proofs.Traffic.Restocking

/-!
# Runs are orderly

A turn leaves orderly traffic orderly as well: what comes has a slot of its own, what goes takes
its only ticket along, and what is granted fits in a share of what the store offered at some
moment of the turn.  Hence every state of a run is orderly.
-/

namespace Admission

/-- What is offered exceeds no capacity. -/
theorem Share.of_le {capacity occupancy : Medium → Int} (nonneg : ∀ medium, 0 ≤ occupancy medium)
    (blocking : Bool) (medium : Medium) :
    Share.of capacity occupancy blocking medium ≤ max 0 (capacity medium) := by
  have own := nonneg medium
  unfold Share.of
  split <;> omega

section Runs

variable {σ : Type} [Store σ] [Accounted σ] {limits : Direction → Medium → Int}
  {before between after traffic : Traffic σ} {see : Glimpses σ} {direction : Direction}

theorem Traffic.occupancy_nonneg (traffic : Traffic σ) (direction : Direction)
    (medium : Medium) : 0 ≤ traffic.occupancy direction medium := occupied_nonneg _ _ _

theorem Orderly.asides (orderly : Orderly limits before) (asides : Asides before after) :
    Orderly limits after := by
  induction asides with
  | refl => exact orderly
  | tail earlier last induction => exact (induction.aside last).1

/-- What the capacities leave beside the objects that are stored now. -/
def Traffic.share (limits : Direction → Medium → Int) (traffic : Traffic σ)
    (direction : Direction) : Share :=
  Share.of (limits direction) (traffic.occupancy direction)

/-- What a store offers at a moment when nothing changes. -/
theorem Orderly.share_eq (orderly : Orderly limits traffic) {share : Share}
    (offers : Budget.Offers traffic.controller.store direction share) :
    share = traffic.share limits direction := by
  obtain ⟨capacity, occupancy, capacities, occupancies, rfl⟩ := offers
  unfold Traffic.share
  congr 1
  · funext medium
    rw [Accounted.capacity_value orderly.sound (capacities medium), orderly.fixed]
  · funext medium
    exact Accounted.occupancy_value orderly.sound (occupancies medium)

/-- What a scan finds to share is what the capacities leave beside the occupancies of some
moments of its turn. -/
theorem Glimpsed.share_eq (glimpsed : Glimpsed before between see)
    (orderly : Orderly limits before) {share : Share}
    (offers : Budget.Offers see direction share) :
    ∃ occupancy : Medium → Int, share = Share.of (limits direction) occupancy ∧
      ∀ medium, ∃ moment, Asides before moment ∧ Asides moment between ∧
        occupancy medium = moment.occupancy direction medium := by
  obtain ⟨capacity, occupancy, capacities, occupancies, rfl⟩ := offers
  refine ⟨fun medium => (occupancy medium).value, ?_, ?_⟩
  · congr 1
    funext medium
    obtain ⟨moment, earlier, -, isMoment⟩ := glimpsed.capacityAt medium
    have answered : Store.capacity (see.capacityAt medium) direction medium =
        .ok (capacity medium) := capacities medium
    rw [isMoment] at answered
    have moments := orderly.asides earlier
    rw [Accounted.capacity_value moments.sound answered, moments.fixed]
  · intro medium
    obtain ⟨moment, earlier, later, isMoment⟩ := glimpsed.occupancyAt medium
    have answered : Store.occupancy (see.occupancyAt medium) direction medium =
        .ok (occupancy medium) := occupancies medium
    rw [isMoment] at answered
    have moments := orderly.asides earlier
    exact ⟨moment, earlier, later, Accounted.occupancy_value moments.sound answered⟩

/-- Nothing that a scan can share exceeds a capacity. -/
def Glimpses.Within (limits : Direction → Medium → Int) (see : Glimpses σ) : Prop :=
  ∀ direction share, Budget.Offers see direction share → ∀ blocking medium,
    share blocking medium ≤ max 0 (limits direction medium)

theorem Glimpsed.within (glimpsed : Glimpsed before between see)
    (orderly : Orderly limits before) : see.Within limits := by
  intro direction share offers blocking medium
  obtain ⟨occupancy, rfl, moments⟩ := glimpsed.share_eq orderly offers
  refine Share.of_le (fun other => ?_) blocking medium
  obtain ⟨moment, -, -, isMoment⟩ := moments other
  rw [isMoment]
  exact moment.occupancy_nonneg direction other

namespace TurnEffect

variable {came : Option Requisition} {gone : Option Ticket}

theorem objects (effect : TurnEffect before between see direction came gone after) :
    after.objects = between.objects := by
  rw [Traffic.objects, effect.store, Traffic.objects]

/-- The tickets after a turn, with the one that was taken back, are of different
requisitions. -/
theorem distinct (effect : TurnEffect before between see direction came gone after)
    (orderly : Orderly limits between) :
    ((gone.toList ++ after.held).map Ticket.slot).Nodup := by
  rw [(effect.held.map Ticket.slot).nodup_iff]
  cases came with
  | none => exact orderly.distinct
  | some requisition =>
      obtain ⟨-, -, -, fresh, -⟩ := effect.handled.came_spec orderly.ledger rfl
      refine List.nodup_cons.mpr ⟨?_, orderly.distinct⟩
      intro member
      obtain ⟨ticket, held, same⟩ := List.mem_map.mp member
      have queued := orderly.queued ticket held
      rw [same] at queued
      exact fresh ticket.direction queued

/-- Who still holds a ticket does not hold the one that was taken back. -/
theorem gone_ne (effect : TurnEffect before between see direction came gone after)
    (orderly : Orderly limits between) {ticket : Ticket} (held : ticket ∈ after.held) :
    gone.map Ticket.slot ≠ some ticket.slot := by
  have distinct := effect.distinct orderly
  rw [List.map_append, List.nodup_append] at distinct
  intro same
  obtain ⟨taken, rfl, isSlot⟩ := Option.map_eq_some_iff.mp same
  exact distinct.2.2 taken.slot (by simp) ticket.slot (List.mem_map_of_mem held) isSlot

/-- The requisition of a ticket that is still held stays queued, and can only be granted. -/
theorem kept (effect : TurnEffect before between see direction came gone after)
    (orderly : Orderly limits between) {ticket : Ticket} (held : ticket ∈ after.held)
    {requisition : Requisition} (queued : requisition ∈ between.queue ticket.direction)
    (same : requisition.slot = ticket.slot) :
    requisition ∈ after.queue ticket.direction ∨
      requisition.granted ∈ after.queue ticket.direction := by
  by_cases here : ticket.direction = direction
  · rw [here] at queued ⊢
    refine effect.handled.kept orderly.ledger queued ?_
    rw [same]
    exact effect.gone_ne orderly held
  · left
    unfold Traffic.queue
    rw [effect.handled.queue_of_ne here]
    exact queued

/-- What is queued after a turn was queued before or has come, and what was granted meanwhile
exceeds no capacity. -/
theorem origin (effect : TurnEffect before between see direction came gone after)
    (orderly : Orderly limits between) (within : see.Within limits) {other : Direction}
    {requisition : Requisition}
    (queued : requisition ∈ after.queue other) :
    (∀ medium, 0 ≤ requisition.need medium) ∧
      (requisition.serviced = true →
        ∀ medium, requisition.need medium ≤ max 0 (limits other medium)) := by
  by_cases here : other = direction
  · subst here
    have fromQueue : ∀ {found : Requisition}, found ∈ between.queue other →
        (∀ medium, 0 ≤ found.need medium) ∧ (found.serviced = true →
          ∀ medium, found.need medium ≤ max 0 (limits other medium)) :=
      fun member => ⟨orderly.valid other _ member, orderly.bounded other _ member⟩
    rcases effect.handled.part orderly.ledger with part | ⟨share, passed, offers, part, origin⟩
    · exact fromQueue (part.mem queued)
    · have passedValid : ∀ found ∈ passed, ∀ medium, 0 ≤ found.need medium := by
        intro found member
        rcases origin found member with old | ⟨-, valid, -⟩
        · exact orderly.valid other found old
        · exact (Space.valid_iff _).mp valid
      rcases fits_of_mem_grantAll passedValid (part.mem queued) with
        stood | ⟨found, stood, -, rfl, fits⟩
      · rcases origin requisition stood with old | ⟨pending, -⟩
        · exact fromQueue old
        · exact ⟨passedValid requisition stood, fun serviced => by simp [pending] at serviced⟩
      · refine ⟨passedValid found stood, fun _ medium => ?_⟩
        have own := (found.fits_iff share).mp fits medium
        have most := within other share offers found.blocking medium
        rw [Requisition.granted_need]
        omega
  · have same : after.queue other = between.queue other := effect.handled.queue_of_ne here
    rw [same] at queued
    exact ⟨orderly.valid other _ queued, orderly.bounded other _ queued⟩

/-- A turn leaves the traffic orderly. -/
theorem orderly (effect : TurnEffect before between see direction came gone after)
    (orderly : Orderly limits between) (within : see.Within limits) : Orderly limits after where
  sound := by
    rw [effect.store]
    exact orderly.sound
  fixed := by
    rw [effect.store]
    exact orderly.fixed
  named := by
    rw [effect.objects, effect.named]
    exact orderly.named
  unique := by
    rw [effect.objects]
    exact orderly.unique
  ledger := effect.handled.wellFormed orderly.ledger
  distinct := by
    have distinct := effect.distinct orderly
    rw [List.map_append] at distinct
    exact distinct.sublist (List.sublist_append_right _ _)
  queued := by
    intro ticket held
    rcases List.mem_append.mp (effect.held.mem_iff.mp (List.mem_append_right _ held)) with
      new | old
    · obtain ⟨requisition, isCame, rfl⟩ := Option.map_eq_some_iff.mp (Option.mem_toList.mp new)
      obtain ⟨-, -, -, -, stays | granted⟩ := effect.handled.came_spec orderly.ledger isCame
      · exact List.mem_map.mpr ⟨requisition, stays, rfl⟩
      · exact List.mem_map.mpr ⟨requisition.granted, granted, rfl⟩
    · obtain ⟨requisition, queued, same⟩ := List.mem_map.mp (orderly.queued ticket old)
      rcases effect.kept orderly held queued same with stays | granted
      · exact List.mem_map.mpr ⟨requisition, stays, same⟩
      · exact List.mem_map.mpr ⟨requisition.granted, granted, same⟩
  valid := fun _ _ queued => (effect.origin orderly within queued).1
  bounded := fun _ _ queued => (effect.origin orderly within queued).2
  backed := by
    intro call member
    rw [effect.objects, effect.named]
    rcases effect.calls call member with old |
      ⟨object, priority, requisition, isCame, rfl, isSized, rfl⟩
    · refine (orderly.backed call old).mono (fun _ _ measured => measured) ?_
      intro ticket holds requisition queued same
      exact effect.kept orderly (Traffic.mem_held_of_call member holds) queued same
    · have measured := orderly.backed _ isSized
      obtain ⟨-, -, -, -, stays | granted⟩ := effect.handled.came_spec orderly.ledger isCame
      · exact ⟨requisition, rfl, stays, rfl, measured⟩
      · exact ⟨requisition.granted, rfl, granted, rfl, measured⟩

end TurnEffect

namespace Orderly

/-- A step leaves the traffic orderly. -/
theorem step (orderly : Orderly limits before) (step : Step before after) :
    Orderly limits after := by
  cases step with
  | aside aside => exact (orderly.aside aside).1
  | turn glimpsed turn =>
      obtain ⟨direction, came, gone, effect⟩ := turn.effect
      exact effect.orderly (orderly.asides glimpsed.meanwhile) (glimpsed.within orderly)

/-- Every state of a run is orderly. -/
theorem run {run : List (Traffic σ)} (orderly : Orderly limits traffic)
    (steps : Run traffic run) : ∀ later ∈ run, Orderly limits later := by
  induction run generalizing traffic with
  | nil =>
      rintro later ⟨⟩
  | cons next rest induction =>
      obtain ⟨first, others⟩ := List.isChain_cons_cons.mp steps
      intro later member
      rcases List.mem_cons.mp member with rfl | inRest
      · exact orderly.step first
      · exact induction (orderly.step first) others later inRest

end Orderly

end Runs

end Admission
