import Admission.Proofs.Traffic.Orderly

/-!
# What asides do

An aside leaves orderly traffic orderly, and what it does to the store is one of three things
(`Restocked`): the objects take what they took before, a serviced creation stores its object,
which takes what was reserved for it, or an object is removed, which leaves its direction to be
scanned.
-/

namespace Admission

/-- Where neither call has stored its object, it makes no difference that one becomes the
other. -/
theorem Traffic.storedSlots_become {σ : Type} {traffic : Traffic σ} {call next : Call}
    (was : call.storedTicket? = none) (is : next.storedTicket? = none) (direction : Direction)
    (slot : SlotId) :
    slot ∈ (traffic.become call (some next)).storedSlots direction ↔
      slot ∈ traffic.storedSlots direction := by
  have none_left : (some next).bind Call.storedTicket? = none := is
  refine mem_storedSlots_become ?_ none_left direction
  rw [was]
  rintro ticket ⟨⟩

section Restocking

variable {σ : Type} [Store σ] [Accounted σ]

/-- What the objects of a direction take on a medium. -/
def Traffic.occupancy (traffic : Traffic σ) (direction : Direction) (medium : Medium) : Int :=
  occupied traffic.objects direction medium

/-- What an aside does to the store, and to what is known of it. -/
inductive Restocked (before after : Traffic σ) : Prop where
  | kept :
      after.occupancy = before.occupancy →
      (∀ direction slot,
        slot ∈ after.storedSlots direction ↔ slot ∈ before.storedSlots direction) →
      after.removals = before.removals → Restocked before after
  | stored (ticket : Ticket) (requisition : Requisition) :
      ticket ∈ after.held →
      requisition ∈ before.queue ticket.direction → requisition.slot = ticket.slot →
      requisition.serviced = true →
      ticket.slot ∉ before.storedSlots ticket.direction →
      (∀ direction medium, after.occupancy direction medium =
        before.occupancy direction medium +
          if ticket.direction = direction then requisition.need medium else 0) →
      (∀ direction slot, slot ∈ after.storedSlots direction ↔
        slot ∈ before.storedSlots direction ∨
          direction = ticket.direction ∧ slot = ticket.slot) →
      after.removals = before.removals → Restocked before after
  | removed (removal : Removal) :
      (∀ medium, after.occupancy removal.direction medium ≤
        before.occupancy removal.direction medium) →
      (∀ direction, direction ≠ removal.direction →
        after.occupancy direction = before.occupancy direction) →
      (∀ direction slot,
        slot ∈ after.storedSlots direction ↔ slot ∈ before.storedSlots direction) →
      after.removals = removal :: before.removals → Restocked before after

variable {limits : Direction → Medium → Int} {before after traffic : Traffic σ}

/-- Two calls never hold tickets of the same slot. -/
theorem Orderly.call_unique (orderly : Orderly limits traffic) {call other : Call}
    {ticket another : Ticket} (present : call ∈ traffic.calls)
    (otherPresent : other ∈ traffic.calls) (holds : call.ticket? = some ticket)
    (otherHolds : other.ticket? = some another) (same : ticket.slot = another.slot) :
    call = other :=
  Traffic.call_unique orderly.distinct present otherPresent holds otherHolds same

namespace Orderly

theorem store_same (orderly : Orderly limits before) {controller : Controller σ}
    (store : controller.store = before.controller.store)
    (ledger : controller.ledger = before.controller.ledger) :
    Orderly limits (before.acted controller) ∧ Restocked before (before.acted controller) := by
  refine ⟨orderly.aside_acted store ledger, .kept ?_ (fun _ _ => Iff.rfl) rfl⟩
  unfold Traffic.occupancy Traffic.objects Traffic.acted
  rw [store]

/-- What a new object does that a creation asked for. -/
theorem create (orderly : Orderly limits traffic) {object : NewObject} {id : ObjectId}
    {controller : Controller σ} (fresh : id ∉ traffic.named)
    (done : Action.tryChange (fun store => Store.create store id object) traffic.controller =
      .ok (.ok ()) controller)
    (within : ∀ extents, object.source.resolve traffic.objects = some extents →
      ∀ medium, Extent.amount extents medium ≤ max 0 (limits object.direction medium)) :
    ∃ extents, object.source.resolve traffic.objects = some extents ∧
      Accounted.objects controller.store =
        traffic.objects ++ [⟨id, object.direction, extents, object.provisional⟩] ∧
      Orderly limits { traffic.acted controller with named := id :: traffic.named } := by
  obtain ⟨result, rfl⟩ := Action.tryChange_eq_ok done
  have unused : ∀ other ∈ Accounted.objects traffic.controller.store, other.id ≠ id := by
    rintro other member rfl
    exact fresh (orderly.named other member)
  obtain ⟨extents, resolved, objects, fixed, sound⟩ :=
    Accounted.create_ok orderly.sound unused result
  refine ⟨extents, resolved, objects, orderly.restock rfl ?_ ?_ ?_ ?_ ?_⟩
  · refine sound ?_
    rw [orderly.fixed]
    exact within extents resolved
  · exact fixed.trans orderly.fixed
  · intro other member
    rw [Controller.record, objects, List.mem_append] at member
    rcases member with old | new
    · exact List.mem_cons_of_mem id (orderly.named other old)
    · rw [List.mem_singleton.mp new]
      exact List.mem_cons_self
  · rw [Controller.record, objects, List.map_append, List.nodup_append]
    refine ⟨orderly.unique, List.nodup_singleton _, ?_⟩
    intro name old other new same
    obtain ⟨object, member, rfl⟩ := List.mem_map.mp old
    rw [List.map_singleton, List.mem_singleton] at new
    exact unused object member (same.trans new)
  · intro source needed measured
    rw [Controller.record, objects]
    exact measured.concat fresh

/-- What a refused creation leaves. -/
theorem create_refused (orderly : Orderly limits traffic) {object : NewObject} {id : ObjectId}
    {error : StoreError} {controller : Controller σ}
    (done : Action.tryChange (fun store => Store.create store id object) traffic.controller =
      .ok (.error error) controller) :
    controller.store = traffic.controller.store ∧
      controller.ledger = traffic.controller.ledger := by
  obtain ⟨result, rfl⟩ := Action.tryChange_eq_ok done
  exact ⟨Accounted.create_refused orderly.sound result, rfl⟩

/-- A new object that nothing is asked for has no extents. -/
theorem create_empty (orderly : Orderly limits traffic) {object : NewObject} {id : ObjectId}
    {controller : Controller σ} (isEmpty : object.source.location = none)
    (fresh : id ∉ traffic.named)
    (done : Action.tryChange (fun store => Store.create store id object) traffic.controller =
      .ok (.ok ()) controller) :
    Accounted.objects controller.store =
        traffic.objects ++ [⟨id, object.direction, [], object.provisional⟩] ∧
      Orderly limits { traffic.acted controller with named := id :: traffic.named } := by
  have nothing : ∀ extents, object.source.resolve traffic.objects = some extents →
      extents = [] := by
    intro extents resolved
    simp only [Source.resolve, isEmpty, Option.some.injEq] at resolved
    exact resolved.symm
  obtain ⟨extents, resolved, objects, later⟩ := orderly.create fresh done (by
    intro extents resolved medium
    rw [nothing extents resolved]
    exact le_max_left 0 _)
  rw [nothing extents resolved] at objects
  exact ⟨objects, later⟩

/-- A new object of a serviced creation has what its requisition asked for. -/
theorem create_cleared (orderly : Orderly limits traffic) {creation : PendingCreation}
    {id : ObjectId} {controller : Controller σ} (isCleared : .cleared creation ∈ traffic.calls)
    (fresh : id ∉ traffic.named)
    (done : Action.tryChange (fun store => Store.create store id creation.object)
      traffic.controller = .ok (.ok ()) controller) :
    ∃ requisition extents,
      Backing traffic.objects traffic.named traffic.controller.ledger creation requisition ∧
      requisition.serviced = true ∧
      (∀ medium, requisition.need medium = Extent.amount extents medium) ∧
      creation.object.source.resolve traffic.objects = some extents ∧
      Accounted.objects controller.store = traffic.objects ++
        [⟨id, creation.object.direction, extents, creation.object.provisional⟩] ∧
      Orderly limits { traffic.acted controller with named := id :: traffic.named } := by
  obtain ⟨requisition, backing, serviced⟩ := orderly.backed _ isCleared
  have exact := backing.measured.exact
  obtain ⟨extents, resolved, objects, later⟩ := orderly.create fresh done (by
    intro extents resolved medium
    rw [← exact extents resolved medium, backing.direction]
    exact orderly.bounded _ requisition backing.queued serviced medium)
  exact ⟨requisition, extents, backing, serviced, exact extents resolved, resolved, objects,
    later⟩

/-- An object without extents takes nothing. -/
theorem createEmpty (orderly : Orderly limits traffic) {object : NewObject} {id : ObjectId}
    {controller : Controller σ} (isEmpty : object.source.location = none)
    (fresh : id ∉ traffic.named)
    (done : Action.tryChange (fun store => Store.create store id object) traffic.controller =
      .ok (.ok ()) controller) :
    Orderly limits { traffic.acted controller with named := id :: traffic.named } ∧
      Restocked traffic { traffic.acted controller with named := id :: traffic.named } := by
  obtain ⟨objects, later⟩ := orderly.create_empty isEmpty fresh done
  refine ⟨later, .kept ?_ (fun _ _ => Iff.rfl) rfl⟩
  funext direction medium
  refine (congrArg (occupied · direction medium) objects).trans ?_
  rw [occupied_concat]
  simp [Extent.amount, Traffic.occupancy]

/-- A serviced creation stores its object, for which its requisition was queued. -/
theorem store (orderly : Orderly limits traffic) {creation : PendingCreation} {id : ObjectId}
    {controller : Controller σ} (isCleared : .cleared creation ∈ traffic.calls)
    (fresh : id ∉ traffic.named)
    (done : Action.tryChange (fun store => Store.create store id creation.object)
      traffic.controller = .ok (.ok ()) controller) :
    Orderly limits (Traffic.become
        { traffic.acted controller with named := id :: traffic.named }
        (.cleared creation) (some (.stored creation id))) ∧
      Restocked traffic (Traffic.become
        { traffic.acted controller with named := id :: traffic.named }
        (.cleared creation) (some (.stored creation id))) := by
  obtain ⟨requisition, extents, backing, serviced, exact, -, objects, later⟩ :=
    orderly.create_cleared isCleared fresh done
  have kept : (Call.stored creation id).Backed (Accounted.objects controller.store)
      (id :: traffic.named) controller.ledger :=
    later.backed (.cleared creation) isCleared
  refine ⟨later.become isCleared rfl kept, .stored creation.ticket requisition
    ?_ backing.queued backing.slot serviced ?_ ?_ ?_ rfl⟩
  · exact Traffic.mem_held_of_call (Traffic.mem_become_next rfl) rfl
  · intro already
    obtain ⟨other, otherId, isStored, -, same⟩ := Traffic.mem_storedSlots.mp already
    cases orderly.call_unique isCleared isStored rfl rfl same.symm
  · intro direction medium
    refine (congrArg (occupied · direction medium) objects).trans ?_
    rw [occupied_concat, backing.direction, ← exact medium]
    rfl
  · intro direction slot
    simp only [Traffic.mem_storedSlots]
    constructor
    · rintro ⟨other, otherId, member, isDirection, isSlot⟩
      rcases Traffic.mem_become member with isNext | old
      · cases isNext
        exact Or.inr ⟨isDirection.symm, isSlot.symm⟩
      · exact Or.inl ⟨other, otherId, old, isDirection, isSlot⟩
    · rintro (⟨other, otherId, member, rest⟩ | ⟨rfl, rfl⟩)
      · exact ⟨other, otherId, Traffic.mem_become_of_ne member (by simp), rest⟩
      · exact ⟨creation, id, Traffic.mem_become_next rfl, rfl, rfl⟩

/-- An object is removed, which leaves its direction to be scanned. -/
theorem remove (orderly : Orderly limits traffic) {id : ObjectId} {direction : Direction}
    {controller : Controller σ}
    (done : Action.tryChange (fun store => Store.destroy store id) traffic.controller =
      .ok (.ok direction) controller) :
    Orderly limits { traffic.acted controller with
        removals := ⟨id, direction⟩ :: traffic.removals } ∧
      Restocked traffic { traffic.acted controller with
        removals := ⟨id, direction⟩ :: traffic.removals } := by
  obtain ⟨result, rfl⟩ := Action.tryChange_eq_ok done
  obtain ⟨object, stored, rfl, rfl, objects, fixed, sound⟩ :=
    Accounted.destroy_ok orderly.sound result
  constructor
  · refine Orderly.withRemovals
      (orderly.restock ?_ sound (fixed.trans orderly.fixed) ?_ ?_ ?_) _
    · rfl
    · intro other member
      rw [objects] at member
      exact orderly.named other (List.mem_filter.mp member).1
    · rw [objects]
      exact orderly.unique.sublist (List.filter_sublist.map StoredObject.id)
    · intro source needed measured
      rw [objects]
      exact measured.filter object.id
  · refine .removed ⟨object.id, object.direction⟩ ?_ ?_ (fun _ _ => Iff.rfl) rfl
    · intro medium
      refine (congrArg (occupied · object.direction medium) objects).trans_le ?_
      exact occupied_filter_le _ _ _ _
    · intro direction different
      funext medium
      refine (congrArg (occupied · direction medium) objects).trans ?_
      refine occupied_filter_of_ne ?_ different medium
      intro other member leaves
      have same : other.id = object.id := by simpa using leaves
      rw [List.inj_on_of_nodup_map orderly.unique member stored same]

/-- An aside leaves the traffic orderly, and restocks in one of three ways. -/
theorem aside (orderly : Orderly limits before) (aside : Aside before after) :
    Orderly limits after ∧ Restocked before after := by
  cases aside with
  | attend attendants remarks => exact orderly.store_same rfl rfl
  | size isLocation nonempty sized =>
      exact ⟨orderly.enter (orderly.measured_of_spaceNeeded isLocation sized),
        .kept rfl (fun _ _ => Iff.rfl) rfl⟩
  | createEmpty isEmpty fresh done => exact orderly.createEmpty isEmpty fresh done
  | createRefused done =>
      obtain ⟨store, ledger⟩ := orderly.create_refused done
      exact orderly.store_same store ledger
  | clear waits isServiced =>
      obtain ⟨requisition, backing⟩ := orderly.backed _ waits
      obtain ⟨other, queued, same, serviced⟩ := orderly.ledger.isServiced_iff.mp isServiced
      have equal := orderly.ledger.requisition_unique queued backing.queued
        (same.trans backing.slot.symm)
      exact ⟨orderly.become waits rfl ⟨requisition, backing, equal ▸ serviced⟩,
        .kept rfl (Traffic.storedSlots_become rfl rfl) rfl⟩
  | interrupt waits ended =>
      refine ⟨Orderly.become (orderly.aside_acted ?_ ?_) waits rfl trivial,
        .kept rfl (Traffic.storedSlots_become rfl rfl) rfl⟩ <;> rfl
  | abandon waits =>
      exact ⟨orderly.become waits rfl trivial,
        .kept rfl (Traffic.storedSlots_become rfl rfl) rfl⟩
  | store isCleared fresh done => exact orderly.store isCleared fresh done
  | storeRefused isCleared done =>
      obtain ⟨store, ledger⟩ := orderly.create_refused done
      refine ⟨Orderly.become (orderly.aside_acted ?_ ?_) isCleared rfl trivial, .kept ?_
        (Traffic.storedSlots_become rfl rfl) rfl⟩
      · exact store
      · exact ledger
      · unfold Traffic.occupancy Traffic.objects Traffic.become Traffic.acted
        rw [Controller.record, store]
  | remove done => exact orderly.remove done
  | removeRefused done =>
      obtain ⟨result, rfl⟩ := Action.tryChange_eq_ok done
      exact orderly.store_same (Accounted.destroy_refused orderly.sound result) rfl

end Orderly

end Restocking

end Admission
