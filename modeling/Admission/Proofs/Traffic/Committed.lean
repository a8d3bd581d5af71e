import Admission.Proofs.Traffic.Runs

/-!
# Committed space

What is committed of a direction and medium is what its objects take and what is reserved for
those whose requisition is serviced, counted once where both are the case.

Asides never commit more (`Orderly.committed_asides_le`).  A scan commits what it grants within
the share that it found, but it takes reserved space off that share only when it comes to it:
what is reserved further back in the queue is overlooked.  `Overtakes` says that a step has
granted space ahead of such a requisition.  `Orderly.committed_step_le` is the main lemma: a
step that does not overtake leaves committed space within any bound that is kept by what it
grants.
-/

namespace Admission

section Committed

variable {σ : Type} [Store σ]

/-- A step has granted space to a requisition ahead of one that was serviced before and whose
object was not stored, and both need some of the medium. -/
def Overtakes (before after : Traffic σ) (direction : Direction) (medium : Medium) : Prop :=
  ∃ front granted back, after.queue direction = front ++ granted :: back ∧
    granted.serviced = true ∧
    before.controller.ledger.isServiced direction granted.slot = false ∧
    0 < granted.need medium ∧
    ∃ overtaken ∈ back,
      before.controller.ledger.isServiced direction overtaken.slot = true ∧
      overtaken.slot ∉ before.storedSlots direction ∧ 0 < overtaken.need medium

variable [Accounted σ]

/-- What objects take and what is reserved for further ones. -/
def Traffic.committed (traffic : Traffic σ) (direction : Direction) (medium : Medium) : Int :=
  traffic.occupancy direction medium +
    reserved (traffic.storedSlots direction) (traffic.queue direction) medium

variable {limits : Direction → Medium → Int} {before between after traffic : Traffic σ}
  {see : Glimpses σ} {direction : Direction} {medium : Medium}

/-! ## Asides -/

/-- An aside does not commit more: an object that is stored takes what was reserved for it. -/
theorem Orderly.committed_aside_le (orderly : Orderly limits before)
    (aside : Aside before after) (direction : Direction) (medium : Medium) :
    after.committed direction medium ≤ before.committed direction medium ∧
      ∀ slot ∈ before.storedSlots direction, slot ∈ after.storedSlots direction := by
  unfold Traffic.committed
  rw [Asides.queue (.single aside)]
  cases (orderly.aside aside).2 with
  | kept occupancy stored removals =>
      rw [occupancy, reserved_congr fun requisition _ => stored direction requisition.slot]
      exact ⟨Int.le_refl _, fun slot => (stored direction slot).mpr⟩
  | stored ticket requisition held queued same serviced unstored occupancy stored removals =>
      refine ⟨?_, fun slot was => (stored direction slot).mpr (Or.inl was)⟩
      rw [occupancy]
      by_cases here : ticket.direction = direction
      · subst here
        rw [if_pos rfl]
        have moved := reserved_store (orderly.ledger.queue_nodup ticket.direction) queued
          serviced (same ▸ unstored) (fun slot => by rw [stored, same, and_iff_right rfl]) medium
        have unfolded : before.queue ticket.direction =
            before.controller.ledger.queue ticket.direction := rfl
        rw [unfolded]
        omega
      · rw [if_neg here, Int.add_zero, reserved_congr fun other _ => ?_]
        rw [stored, or_iff_left fun isTicket => here isTicket.1.symm]
  | removed removal less others stored removals =>
      rw [reserved_congr fun requisition _ => stored direction requisition.slot]
      refine ⟨?_, fun slot => (stored direction slot).mpr⟩
      by_cases here : direction = removal.direction
      · subst here
        have := less medium
        omega
      · rw [others direction here]

theorem Orderly.committed_asides_le (orderly : Orderly limits before)
    (asides : Asides before after) (direction : Direction) (medium : Medium) :
    after.committed direction medium ≤ before.committed direction medium ∧
      ∀ slot ∈ before.storedSlots direction, slot ∈ after.storedSlots direction := by
  induction asides with
  | refl => exact ⟨Int.le_refl _, fun slot was => was⟩
  | tail earlier last induction =>
      obtain ⟨less, more⟩ := (orderly.asides earlier).committed_aside_le last direction medium
      exact ⟨less.trans induction.1, fun slot was => more slot (induction.2 slot was)⟩

/-! ## Turns -/

/-- The last member of a list with a property has none behind it. -/
theorem exists_last_of_mem {α : Type} {property : α → Prop} {list : List α}
    (some_has : ∃ member ∈ list, property member) :
    ∃ front last back, list = front ++ last :: back ∧ property last ∧
      ∀ member ∈ back, ¬ property member := by
  induction list with
  | nil =>
      obtain ⟨member, impossible, -⟩ := some_has
      cases impossible
  | cons head rest induction =>
      by_cases later : ∃ member ∈ rest, property member
      · obtain ⟨front, last, back, rfl, has, none_has⟩ := induction later
        exact ⟨head :: front, last, back, rfl, has, none_has⟩
      · obtain ⟨member, inside, has⟩ := some_has
        rcases List.mem_cons.mp inside with rfl | inRest
        · exact ⟨[], member, rest, rfl, has, fun other there holds => later ⟨other, there, holds⟩⟩
        · exact absurd ⟨member, inRest, has⟩ later

/-- Where a part of a list splits, the whole list splits with more around it. -/
theorem exists_split_of_sublist {α : Type} {front back whole : List α} {middle : α}
    (part : (front ++ middle :: back).Sublist whole) :
    ∃ frontWhole backWhole, whole = frontWhole ++ middle :: backWhole ∧
      front.Sublist frontWhole := by
  obtain ⟨first, second, rfl, fronts, others⟩ := List.append_sublist_iff.mp part
  obtain ⟨third, fourth, rfl, member, -⟩ := List.cons_sublist_iff.mp others
  obtain ⟨before, after, rfl⟩ := List.append_of_mem member
  exact ⟨first ++ before, after ++ fourth, by simp, fronts.trans (List.sublist_append_left _ _)⟩

namespace TurnEffect

variable {came : Option Requisition} {gone : Option Ticket}

/-- An object that was stored during a turn is not the one whose ticket the turn takes back. -/
theorem gone_ne_of_stored (effect : TurnEffect before between see direction came gone after)
    (orderly : Orderly limits between) {slot : SlotId}
    (isStored : slot ∈ between.storedSlots direction)
    (wasNot : slot ∉ before.storedSlots direction) : gone.map Ticket.slot ≠ some slot := by
  intro same
  obtain ⟨taken, isGone, rfl⟩ := Option.map_eq_some_iff.mp same
  obtain ⟨creation, id, present, isDirection, isSlot⟩ := Traffic.mem_storedSlots.mp isStored
  rcases effect.early taken isGone with
    ⟨finished, finishedId, was, rfl⟩ | ⟨-, isTicket⟩ | ⟨other, -, isLeaving, rfl⟩
  · exact wasNot (Traffic.mem_storedSlots.mpr
      ⟨finished, finishedId, was, effect.ofDirection _ isGone, rfl⟩)
  · have distinct := orderly.distinct
    rw [Traffic.held, List.map_append, List.nodup_append] at distinct
    have listed : creation.ticket ∈ between.calls.filterMap Call.ticket? :=
      List.mem_filterMap.mpr ⟨_, present, rfl⟩
    exact distinct.2.2 taken.slot (List.mem_map_of_mem isTicket) creation.ticket.slot
      (List.mem_map_of_mem listed) isSlot.symm
  · cases orderly.call_unique present isLeaving rfl rfl isSlot

/-- What is serviced after a turn in a slot that was serviced before stood there already. -/
theorem mem_of_serviced (effect : TurnEffect before between see direction came gone after)
    (orderly : Orderly limits between) {requisition : Requisition}
    (queued : requisition ∈ after.queue direction)
    (was : between.controller.ledger.isServiced direction requisition.slot = true) :
    requisition ∈ between.queue direction := by
  obtain ⟨old, stood, same, serviced⟩ := orderly.ledger.isServiced_iff.mp was
  rcases effect.handled.part orderly.ledger with part | ⟨share, passed, offers, part, origin⟩
  · exact part.mem queued
  · have fromPassed : ∀ found ∈ passed, found.slot = requisition.slot →
        found ∈ between.queue direction := by
      intro found member isSlot
      rcases origin found member with inQueue | ⟨-, -, fresh⟩
      · exact inQueue
      · exact absurd (List.mem_map.mpr ⟨old, stood, same.trans isSlot.symm⟩) fresh
    rcases mem_of_mem_grantAll (part.mem queued) with stands | ⟨found, stands, pending, rfl⟩
    · exact fromPassed requisition stands rfl
    · have equal := orderly.ledger.requisition_unique (fromPassed found stands rfl) stood
        same.symm
      rw [equal, serviced] at pending
      cases pending

/-- What is stored of the slots that are queued does not change in a turn. -/
theorem reserved_stored (effect : TurnEffect before between see direction came gone after)
    (orderly : Orderly limits between) (other : Direction) {part : List Requisition}
    (queued : ∀ requisition ∈ part, requisition ∈ after.queue other) (medium : Medium) :
    reserved (after.storedSlots other) part medium =
      reserved (between.storedSlots other) part medium := by
  refine reserved_congr fun requisition member => effect.stored _ ?_ other
  intro same
  obtain ⟨taken, isGone, isSlot⟩ := Option.map_eq_some_iff.mp same
  have listed : requisition.slot ∈ (after.queue other).map Requisition.slot :=
    List.mem_map_of_mem (queued requisition member)
  by_cases here : other = direction
  · subst here
    exact effect.handled.gone_slot same listed
  · have elsewhere : after.queue other = between.queue other :=
      effect.handled.queue_of_ne here
    rw [elsewhere, ← isSlot] at listed
    have held : taken ∈ between.held := by
      have member := effect.held.mem_iff.mp (List.mem_append_left _ (Option.mem_toList.mpr isGone))
      rcases List.mem_append.mp member with new | old
      · obtain ⟨found, isCame, -⟩ := Option.map_eq_some_iff.mp (Option.mem_toList.mp new)
        rw [(effect.handled.came_spec orderly.ledger isCame).2.2.1] at same
        cases same
      · exact old
    have own := orderly.queued taken held
    rw [effect.ofDirection taken isGone] at own
    exact orderly.ledger.disjoint here own listed

/-- A turn commits nothing in the other direction. -/
theorem committed_of_ne (effect : TurnEffect before between see direction came gone after)
    (orderly : Orderly limits between) {other : Direction} (different : other ≠ direction)
    (medium : Medium) : after.committed other medium = between.committed other medium := by
  have same : after.queue other = between.queue other := effect.handled.queue_of_ne different
  unfold Traffic.committed Traffic.occupancy
  rw [effect.objects, effect.reserved_stored orderly other (fun _ member => member), same]

/-- A turn that grants none of a medium commits no more of it. -/
theorem committed_le_of_none (effect : TurnEffect before between see direction came gone after)
    (orderly : Orderly limits between) (later : Orderly limits after)
    (nothing : ∀ requisition ∈ after.queue direction, requisition.serviced = true →
      between.controller.ledger.isServiced direction requisition.slot = false →
      ¬ 0 < requisition.need medium) :
    after.committed direction medium ≤ between.committed direction medium := by
  have distinct : (after.queue direction).Nodup :=
    List.Nodup.of_map _ (later.ledger.queue_nodup direction)
  have stood : ∀ requisition ∈ after.queue direction, requisition.serviced = true →
      requisition.slot ∉ between.storedSlots direction → requisition.need medium ≠ 0 →
      requisition ∈ between.queue direction := by
    intro requisition queued serviced _ nonzero
    have nonneg := later.valid direction requisition queued medium
    refine effect.mem_of_serviced orderly queued ?_
    by_contra pending
    exact nothing requisition queued serviced (by simpa using pending) (by omega)
  have less := reserved_le_of_subset distinct stood
    fun requisition queued => orderly.valid direction requisition queued medium
  unfold Traffic.committed Traffic.occupancy
  rw [effect.objects, effect.reserved_stored orderly direction (fun _ member => member)]
  omega

/-- What is granted fits beside what was occupied at some moment of the turn and everything
serviced ahead of it. -/
theorem granted_within (effect : TurnEffect before between see direction came gone after)
    (glimpsed : Glimpsed before between see) (start : Orderly limits before) {bound : Int}
    {front back : List Requisition} {granted : Requisition}
    (split : after.queue direction = front ++ granted :: back)
    (serviced : granted.serviced = true)
    (pending : between.controller.ledger.isServiced direction granted.slot = false)
    (needs : 0 < granted.need medium)
    (draws : (if granted.blocking then limits direction medium / 2
      else limits direction medium) ≤ bound) :
    ∃ moment, Asides before moment ∧ Asides moment between ∧
      moment.occupancy direction medium + reserved [] front medium + granted.need medium ≤
        bound := by
  have orderly := start.asides glimpsed.meanwhile
  have wasPending : ∀ found ∈ between.queue direction, found.slot = granted.slot →
      found.serviced = false := by
    intro found queued same
    by_contra isServiced
    rw [orderly.ledger.isServiced_iff.mpr
      ⟨found, queued, same, by simpa using isServiced⟩] at pending
    cases pending
  rcases effect.handled.part orderly.ledger with part | ⟨share, passed, offers, part, origin⟩
  · have stands : granted ∈ after.queue direction := by
      rw [split]
      exact List.mem_append_right _ List.mem_cons_self
    have queued : granted ∈ between.queue direction := part.mem stands
    rw [wasPending granted queued rfl] at serviced
    cases serviced
  · have queueAfter : after.controller.ledger.queue direction = front ++ granted :: back := split
    rw [queueAfter] at part
    obtain ⟨frontWhole, backWhole, whole, fronts⟩ := exists_split_of_sublist part
    have own := need_le_of_granted whole serviced (fun found member same => by
      rcases origin found member with inQueue | ⟨isPending, -⟩
      · exact wasPending found inQueue same
      · exact isPending) medium
    have nonneg : ∀ requisition ∈ frontWhole, 0 ≤ requisition.need medium := by
      intro requisition member
      have inPass : requisition ∈ grantAll share passed :=
        whole ▸ List.mem_append_left _ member
      refine nonneg_grantAll (fun found inside => ?_) requisition inPass
      rcases origin found inside with inQueue | ⟨-, valid, -⟩
      · exact orderly.valid direction found inQueue medium
      · exact (Space.valid_iff _).mp valid medium
    have less : reserved [] front medium ≤ reserved [] frontWhole medium :=
      reserved_sublist_le nonneg fronts fun _ member => member
    obtain ⟨occupancy, rfl, moments⟩ := glimpsed.share_eq start offers
    obtain ⟨moment, earlier, later, isMoment⟩ := moments medium
    refine ⟨moment, earlier, later, ?_⟩
    rw [← isMoment]
    rw [Share.of_apply] at own
    omega

/-- The objects that are stored during a turn take what is reserved for them further ahead. -/
theorem occupancy_shift (effect : TurnEffect before between see direction came gone after)
    (orderly : Orderly limits between) {moment : Traffic σ} {front : List Requisition}
    (moments : Orderly limits moment) (rest : Asides moment between)
    (more : ∀ slot ∈ before.storedSlots direction, slot ∈ moment.storedSlots direction)
    (ahead : ∀ requisition ∈ after.queue direction, requisition.serviced = true →
      between.controller.ledger.isServiced direction requisition.slot = true →
      requisition.slot ∉ before.storedSlots direction → requisition.need medium ≠ 0 →
      requisition ∈ front)
    (nonneg : ∀ requisition ∈ front, 0 ≤ requisition.need medium) :
    between.occupancy direction medium +
        reserved (between.storedSlots direction) front medium ≤
      moment.occupancy direction medium + reserved [] front medium := by
  obtain ⟨less, stores⟩ := moments.committed_asides_le rest direction medium
  have noneStored : ∀ slot ∈ ([] : List SlotId), slot ∈ between.storedSlots direction := by
    rintro slot ⟨⟩
  have taken := reserved_sub stores (between.queue direction) medium
  have given := reserved_sub noneStored front medium
  have moved : ((shifted (moment.storedSlots direction) (between.storedSlots direction)
        (between.queue direction) medium).map (Requisition.need · medium)).sum ≤
      ((shifted [] (between.storedSlots direction) front medium).map
        (Requisition.need · medium)).sum := by
    refine sum_need_le_of_subset
      ((List.Nodup.of_map _ (orderly.ledger.queue_nodup direction)).filter _) ?_
      fun requisition member => nonneg requisition (mem_shifted.mp member).1
    intro requisition member
    obtain ⟨queued, serviced, isStored, wasNot, nonzero⟩ := mem_shifted.mp member
    refine mem_shifted.mpr ⟨?_, serviced, isStored, List.not_mem_nil, nonzero⟩
    have unstored : requisition.slot ∉ before.storedSlots direction :=
      fun was => wasNot (more _ was)
    have stays : requisition ∈ after.queue direction := by
      have kept := effect.handled.kept orderly.ledger queued
        (effect.gone_ne_of_stored orderly isStored unstored)
      rwa [Requisition.granted_of_serviced serviced, or_self] at kept
    exact ahead requisition stays serviced
      (orderly.ledger.isServiced_iff.mpr ⟨requisition, queued, rfl, serviced⟩) unstored nonzero
  unfold Traffic.committed at less
  rw [← rest.queue direction] at less
  omega

/-- A turn that does not overtake leaves committed space within a bound that is kept by the
budgets from which it grants.  Nothing behind the last grant counts any more, or the grant would
have overtaken it. -/
theorem committed_le (effect : TurnEffect before between see direction came gone after)
    (glimpsed : Glimpsed before between see) (start : Orderly limits before) {bound : Int}
    (within : before.committed direction medium ≤ bound)
    (draws : ∀ requisition ∈ after.queue direction, requisition.serviced = true →
      before.controller.ledger.isServiced direction requisition.slot = false →
      (if requisition.blocking then limits direction medium / 2 else limits direction medium) ≤
        bound)
    (keeps : ¬ Overtakes before after direction medium) :
    after.committed direction medium ≤ bound := by
  have orderly := start.asides glimpsed.meanwhile
  have later := effect.orderly orderly (glimpsed.within start)
  have ledger := glimpsed.meanwhile.ledger
  obtain ⟨less, more⟩ := start.committed_asides_le glimpsed.meanwhile direction medium
  by_cases grants : ∃ requisition ∈ after.queue direction, requisition.serviced = true ∧
      before.controller.ledger.isServiced direction requisition.slot = false ∧
      0 < requisition.need medium
  case neg =>
    refine (effect.committed_le_of_none orderly later ?_).trans (less.trans within)
    intro requisition queued serviced pending some
    rw [ledger] at pending
    exact grants ⟨requisition, queued, serviced, pending, some⟩
  obtain ⟨front, granted, back, split, ⟨serviced, pending, needs⟩, last⟩ :=
    exists_last_of_mem grants
  have behind : ∀ requisition ∈ back, requisition.serviced = true →
      requisition.slot ∉ before.storedSlots direction → requisition.need medium = 0 := by
    intro requisition inBack isServiced unstored
    have queued : requisition ∈ after.queue direction := by
      rw [split]
      exact List.mem_append_right _ (List.mem_cons_of_mem _ inBack)
    have nonneg := later.valid direction requisition queued medium
    by_contra nonzero
    cases was : before.controller.ledger.isServiced direction requisition.slot with
    | false => exact last requisition inBack ⟨isServiced, was, by omega⟩
    | true =>
        exact keeps ⟨front, granted, back, split, serviced, pending, needs, requisition, inBack,
          was, unstored, by omega⟩
  have inAfter : ∀ requisition ∈ front, requisition ∈ after.queue direction := by
    intro requisition inFront
    rw [split]
    exact List.mem_append_left _ inFront
  obtain ⟨moment, earlier, rest, fits⟩ := effect.granted_within glimpsed start split serviced
    (ledger ▸ pending) needs (draws granted (by simp [split]) serviced pending)
  have shift : between.occupancy direction medium +
        reserved (between.storedSlots direction) front medium ≤
      moment.occupancy direction medium + reserved [] front medium := by
    refine effect.occupancy_shift orderly (start.asides earlier) rest
      (start.committed_asides_le earlier direction medium).2 ?_
      fun requisition inFront => later.valid direction requisition (inAfter _ inFront) medium
    intro requisition queued isServiced was unstored nonzero
    rw [split] at queued
    rcases List.mem_append.mp queued with inFront | inRest
    · exact inFront
    · rcases List.mem_cons.mp inRest with rfl | inBack
      · rw [ledger, pending] at was
        cases was
      · exact absurd (behind requisition inBack isServiced unstored) nonzero
  have nothing : reserved (between.storedSlots direction) back medium = 0 :=
    reserved_eq_zero fun requisition inBack isServiced unstored =>
      behind requisition inBack isServiced fun was => unstored (more _ was)
  unfold Traffic.committed Traffic.occupancy
  rw [effect.objects, effect.reserved_stored orderly direction (fun _ member => member), split,
    reserved_append, reserved_cons, nothing]
  unfold Traffic.occupancy at shift fits
  split <;> omega

end TurnEffect

/-! ## Steps -/

/-- A step that does not overtake leaves committed space within a bound that is kept by the
budgets from which it grants. -/
theorem Orderly.committed_step_le (orderly : Orderly limits before) (step : Step before after)
    {bound : Int} (within : before.committed direction medium ≤ bound)
    (draws : ∀ requisition ∈ after.queue direction, requisition.serviced = true →
      before.controller.ledger.isServiced direction requisition.slot = false →
      (if requisition.blocking then limits direction medium / 2 else limits direction medium) ≤
        bound)
    (keeps : ¬ Overtakes before after direction medium) :
    after.committed direction medium ≤ bound := by
  cases step with
  | aside aside => exact (orderly.committed_aside_le aside direction medium).1.trans within
  | turn glimpsed turn =>
      obtain ⟨handledDirection, came, gone, effect⟩ := turn.effect
      by_cases here : direction = handledDirection
      · subst here
        exact effect.committed_le glimpsed orderly within draws keeps
      · rw [effect.committed_of_ne (orderly.asides glimpsed.meanwhile) here]
        exact (orderly.committed_asides_le glimpsed.meanwhile direction medium).1.trans within

end Committed

end Admission
