import Admission.Proofs.Controller.Demands
import Admission.Proofs.Traffic.Tallied

/-!
# The directions do not interfere

Both directions share the slots of a controller and the objects of its store.  A demand of one
direction and a demand of the other can be met in either order all the same: each comes to the same,
and both directions are left the same, up to the names of slots and of new objects
(`directions_do_not_interfere`).

The demand that was met second is carried over to where the other one has not been met yet, and the
demand that was met first to where the other one has been met already (`Demand.transfer`).  What
lies between these places concerns the other direction only (`Controller.Beside`).
-/

namespace Admission

/-! ## What demands have to do with each other -/

/-- Two demands are of different directions, and neither destroys what the other one names. -/
structure Demand.Apart (shown : MemoryStore) (here there : Direction) (first second : Demand) :
    Prop where
  directions : there ≠ here
  owns : shown.Owns here first
  ownsToo : shown.Owns there second
  destroyed : ∀ id ∈ first.destroyed, id ∉ second.named
  destroyedToo : ∀ id ∈ second.destroyed, id ∉ first.named

/-- An identifier that chance gave: nothing is stored under it, and neither demand names it. -/
structure Demand.Unused (shown : MemoryStore) (first second : Demand) (id : ObjectId) : Prop where
  stored : ∀ object ∈ shown.objects, object.id ≠ id
  named : id ∉ first.named
  namedToo : id ∉ second.named

/-- Two controllers show the same under other names, which are still different where they were. -/
structure Controller.Renamed (slots : SlotId → SlotId) (ids : ObjectId → ObjectId)
    (first second : Controller MemoryStore) : Prop where
  distinct : Set.InjOn slots {slot | ∃ direction, slot ∈ (first.ledger.queue direction).map
    Requisition.slot}
  injective : Function.Injective ids
  queue : ∀ direction, second.ledger.queue direction =
    (first.ledger.queue direction).map (Requisition.relabel slots)
  objects : ∀ direction, second.store.ofDirection direction =
    (first.store.ofDirection direction).map (StoredObject.rename ids)
  occupancy : ∀ direction medium,
    Store.occupancy second.store direction medium = Store.occupancy first.store direction medium

namespace Demand

variable {demand : Demand} {id new : ObjectId}

theorem named_of_destroyed (isDestroyed : id ∈ demand.destroyed) : id ∈ demand.named := by
  cases demand <;> simp_all [destroyed, named]

theorem mem_changed (isChanged : id ∈ demand.changed new) : id = new ∨ id ∈ demand.destroyed := by
  cases demand <;> simp_all [changed, destroyed]

end Demand

/-- What a demand destroys is still of its own direction after a change of something else. -/
theorem MemoryStore.Owns.beside {before after : MemoryStore} {direction other : Direction}
    {changed : List ObjectId} {demand : Demand} (owns : before.Owns other demand)
    (beside : before.Beside direction changed after)
    (unchanged : ∀ id ∈ demand.destroyed, id ∉ changed) : after.Owns other demand := by
  intro id isDestroyed stored under
  rw [beside.kept id (unchanged id isDestroyed)] at under
  exact owns id isDestroyed stored under

/-! ## Names -/

/-- Two identifiers can be given two others, while all further ones keep theirs. -/
theorem ObjectId.exists_ids {first second firstToo secondToo : ObjectId}
    (distinct : first ≠ second) (distinctToo : firstToo ≠ secondToo) :
    ∃ ids : ObjectId → ObjectId, Function.Injective ids ∧ ids first = firstToo ∧
      ids second = secondToo ∧
      ∀ id, id ∉ [first, second, secondToo, firstToo] → ids id = id := by
  have apart : firstToo ≠ Equiv.swap first firstToo second := by
    intro same
    have moved := congrArg (Equiv.swap first firstToo) same
    rw [Equiv.swap_apply_right, Equiv.swap_apply_self] at moved
    exact distinct moved
  refine ⟨(Equiv.swap first firstToo).trans
    (Equiv.swap (Equiv.swap first firstToo second) secondToo), Equiv.injective _, ?_, ?_, ?_⟩
  · rw [Equiv.trans_apply, Equiv.swap_apply_left,
      Equiv.swap_apply_of_ne_of_ne apart distinctToo]
  · rw [Equiv.trans_apply, Equiv.swap_apply_left]
  · intro id other
    simp only [List.mem_cons, List.not_mem_nil, or_false, not_or] at other
    obtain ⟨notFirst, notSecond, notSecondToo, notFirstToo⟩ := other
    have stays := Equiv.swap_apply_of_ne_of_ne notFirst notFirstToo
    rw [Equiv.trans_apply, stays, Equiv.swap_apply_of_ne_of_ne ?_ notSecondToo]
    intro same
    exact notSecond ((Equiv.swap first firstToo).injective (stays.trans same))

/-- There are two directions. -/
theorem Direction.eq_or_eq {here there : Direction} (apart : there ≠ here)
    (direction : Direction) : direction = here ∨ direction = there := by
  cases direction <;> cases here <;> cases there <;> simp at apart ⊢

/-- Slots that are queued elsewhere have names of their own. -/
def SlotId.nameApart (elsewhere : List SlotId) (own others : SlotId → SlotId) (slot : SlotId) :
    SlotId :=
  if slot ∈ elsewhere then own slot else others slot

/-- Whatever names make a well-formed ledger of another one give different names to its slots. -/
theorem Ledger.WellFormed.injOn_of_relabeled {slots : SlotId → SlotId} {first second : Ledger}
    (wellFormed : second.WellFormed)
    (queue : ∀ direction, second.queue direction =
      (first.queue direction).map (Requisition.relabel slots)) :
    Set.InjOn slots {slot | ∃ direction, slot ∈ (first.queue direction).map Requisition.slot} := by
  have moved : ∀ direction, (second.queue direction).map Requisition.slot =
      ((first.queue direction).map Requisition.slot).map slots := fun direction => by
    rw [queue, Requisition.map_slot_relabel]
  have stands : ∀ direction, ∀ slot ∈ (first.queue direction).map Requisition.slot,
      slots slot ∈ (second.queue direction).map Requisition.slot := fun direction slot queued =>
    moved direction ▸ List.mem_map_of_mem queued
  rintro slot ⟨direction, queued⟩ other ⟨otherDirection, otherQueued⟩ same
  by_cases equal : otherDirection = direction
  · subst equal
    have distinct := wellFormed.queue_nodup otherDirection
    rw [moved] at distinct
    exact List.inj_on_of_nodup_map distinct queued otherQueued same
  · have elsewhere := stands otherDirection other otherQueued
    rw [← same] at elsewhere
    exact absurd elsewhere (wellFormed.disjoint equal (stands direction slot queued))

/-- Controllers that are alike in both directions are renamed, the slots of each queue by its own
names. -/
theorem Controller.Alike.renamed {here there : Direction} {ids : ObjectId → ObjectId}
    {hereSlots thereSlots : SlotId → SlotId} {first second : Controller MemoryStore}
    (apart : there ≠ here) (injective : Function.Injective ids)
    (wellFormed : first.ledger.WellFormed) (wellFormedToo : second.ledger.WellFormed)
    (alike : Alike hereSlots ids [] here first second)
    (alikeToo : Alike thereSlots ids [] there first second) :
    ∃ slots, first.Renamed slots ids second ∧
      (∀ slot ∈ (first.ledger.queue here).map Requisition.slot, slots slot = hereSlots slot) ∧
      ∀ slot ∈ (first.ledger.queue there).map Requisition.slot, slots slot = thereSlots slot := by
  let slots := SlotId.nameApart ((first.ledger.queue there).map Requisition.slot) thereSlots
    hereSlots
  have onHere : ∀ slot ∈ (first.ledger.queue here).map Requisition.slot,
      slots slot = hereSlots slot := fun slot queued =>
    if_neg (wellFormed.disjoint apart queued)
  have onThere : ∀ slot ∈ (first.ledger.queue there).map Requisition.slot,
      slots slot = thereSlots slot := fun slot queued => if_pos queued
  have both : ∀ direction, Alike slots ids [] direction first second := by
    intro direction
    rcases Direction.eq_or_eq apart direction with rfl | rfl
    · exact alike.relabel_congr onHere
    · exact alikeToo.relabel_congr onThere
  exact ⟨slots,
    { distinct := wellFormedToo.injOn_of_relabeled fun direction => (both direction).queue
      injective := injective
      queue := fun direction => (both direction).queue
      objects := fun direction => (both direction).store.objects
      occupancy := fun direction medium => (both direction).store.occupancy medium },
    onHere, onThere⟩

/-! ## Either order -/

namespace Demand

variable {shown : MemoryStore} {here there : Direction} {first second : Demand}
  {id new firstNew secondNew secondNewToo firstNewToo : ObjectId}

theorem Apart.symm (apart : Apart shown here there first second) :
    Apart shown there here second first :=
  ⟨apart.directions.symm, apart.ownsToo, apart.owns, apart.destroyedToo, apart.destroyed⟩

theorem Unused.symm (unused : Unused shown first second id) : Unused shown second first id :=
  ⟨unused.stored, unused.namedToo, unused.named⟩

/-- What the second demand names is left alone by the first. -/
theorem Apart.unchanged (apart : Apart shown here there first second)
    (unused : Unused shown first second new) : ∀ id ∈ second.named, id ∉ first.changed new := by
  intro id isNamed isChanged
  rcases mem_changed isChanged with rfl | isDestroyed
  · exact unused.namedToo isNamed
  · exact apart.destroyed id isDestroyed isNamed

/-- Demands of different directions can be met in either order.  The second demand is carried over
to where the first has not been yet, and the first to where the second has been already; each
direction is left as its own demand left it. -/
theorem commute {controller between final : Controller MemoryStore}
    {report reportToo : Except Refusal Report} (roomy : controller.ledger.Roomy 2)
    (apart : Apart controller.store here there first second)
    (unused : ∀ id ∈ [firstNew, secondNew, secondNewToo, firstNewToo],
      Unused controller.store first second id)
    (distinct : firstNew ≠ secondNew) (distinctToo : firstNewToo ≠ secondNewToo)
    (ended : Action.attempt (first.meet here firstNew) controller = .ok report between)
    (endedToo : Action.attempt (second.meet there secondNew) between = .ok reportToo final) :
    ∃ slots ids beside last,
      Action.attempt (second.meet there secondNewToo) controller =
        .ok (reportToo.map (Report.rename slots ids)) beside ∧
      Action.attempt (first.meet here firstNewToo) beside =
        .ok (report.map (Report.rename slots ids)) last ∧
      final.Renamed slots ids last ∧
      (∀ direction, ∀ slot ∈ (controller.ledger.queue direction).map Requisition.slot,
        slot ∈ (final.ledger.queue direction).map Requisition.slot → slots slot = slot) ∧
      ∀ object ∈ controller.store.objects, ids object.id = object.id := by
  obtain ⟨ids, injective, rfl, rfl, keeps⟩ := ObjectId.exists_ids distinct distinctToo
  have kept : ∀ object ∈ controller.store.objects, ids object.id = object.id := fun object stored =>
    keeps _ fun isNew => (unused _ isNew).stored object stored rfl
  have named : ∀ id ∈ first.named, ids id = id := fun id isNamed =>
    keeps _ fun isNew => (unused _ isNew).named isNamed
  have namedToo : ∀ id ∈ second.named, ids id = id := fun id isNamed =>
    keeps _ fun isNew => (unused _ isNew).namedToo isNamed
  have unusedFirst := unused firstNew (by simp)
  have unusedSecond := unused secondNew (by simp)
  have unusedSecondToo := unused (ids secondNew) (by simp)
  have unusedFirstToo := unused (ids firstNew) (by simp)
  have crossed := (Controller.Beside.refl roomy).meet apart.owns _ _ ended
  have unchanged := apart.unchanged unusedFirst
  have ownsToo : between.store.Owns there second := apart.ownsToo.beside crossed.store
    fun id isDestroyed => unchanged id (named_of_destroyed isDestroyed)
  have later := (Controller.Beside.refl crossed.ledger).meet ownsToo _ _ endedToo
  have storesThere : between.store.Alike ids second.named there controller.store :=
    crossed.store.symm.alike apart.directions unchanged fun object stored => by
      rw [crossed.store.objects there apart.directions] at stored
      exact kept object (List.mem_filter.mp stored).1
  obtain ⟨thereSlots, beside, besideEnded, alikeThere, fixedThere⟩ :=
    transfer crossed.ledger roomy.fewer (crossed.queue there apart.directions).symm storesThere
      injective namedToo unusedSecond.namedToo unusedSecondToo.namedToo ownsToo endedToo
  have crossedToo := (Controller.Beside.refl roomy).meet apart.ownsToo _ _ besideEnded
  have unchangedToo := apart.symm.unchanged unusedSecondToo.symm
  have owns : beside.store.Owns here first := apart.owns.beside crossedToo.store
    fun id isDestroyed => unchangedToo id (named_of_destroyed isDestroyed)
  have storesHere : controller.store.Alike ids first.named here beside.store :=
    crossedToo.store.alike apart.symm.directions unchangedToo fun object stored =>
      kept object (List.mem_filter.mp stored).1
  obtain ⟨hereSlots, last, lastEnded, alikeHere, fixedHere⟩ :=
    transfer roomy.fewer crossedToo.ledger (crossedToo.queue here apart.symm.directions) storesHere
      injective named unusedFirst.named unusedFirstToo.named apart.owns ended
  have laterToo := (Controller.Beside.refl crossedToo.ledger).meet owns _ _ lastEnded
  obtain ⟨slots, renamed, onHere, onThere⟩ := Controller.Alike.renamed apart.directions injective
    later.ledger.wellFormed laterToo.ledger.wellFormed
    (later.alike_left apart.symm.directions alikeHere)
    (laterToo.alike_right apart.directions alikeThere)
  have sameHere : report.map (Report.rename slots ids) = report.map (Report.rename hereSlots ids) :=
    report_congr roomy.fewer ended (by
      rw [← later.queue here apart.symm.directions]
      exact onHere) ids
  have sameThere :
      reportToo.map (Report.rename slots ids) = reportToo.map (Report.rename thereSlots ids) :=
    report_congr crossed.ledger endedToo onThere ids
  refine ⟨slots, ids, beside, last, sameThere ▸ besideEnded, sameHere ▸ lastEnded, renamed, ?_,
    kept⟩
  intro direction slot queued stands
  rcases Direction.eq_or_eq apart.directions direction with rfl | rfl
  · exact (onHere slot stands).trans (fixedHere slot queued)
  · rw [← crossed.queue direction apart.directions] at queued
    exact (onThere slot stands).trans (fixedThere slot queued)

end Demand

/-- The directions do not interfere.  In whatever state traffic is in any weather with two slots
left, and whatever a store in memory shows then: if a demand of one direction and after it one of
the other are met without an overflow, they are met as well the other way round.  Both come to the
same and leave the same queues with the same marks, the same objects and the same occupancies, up to
the names of the slots that they took and of the objects that they made.  They may even share an
attendant. -/
theorem directions_do_not_interfere {σ : Type} [Store σ] {store : σ} {slots : Nat}
    {later : Traffic σ} (reached : (Weather.any σ).Reaches (Traffic.start store slots) later)
    (vacant : later.controller.ledger.pool.Vacant 2) {shown : MemoryStore}
    {here there : Direction} {first second : Demand}
    (apart : Demand.Apart shown here there first second)
    {firstNew secondNew secondNewToo firstNewToo : ObjectId}
    (unused : ∀ id ∈ [firstNew, secondNew, secondNewToo, firstNewToo],
      Demand.Unused shown first second id)
    (distinct : firstNew ≠ secondNew) (distinctToo : firstNewToo ≠ secondNewToo)
    {report reportToo : Except Refusal Demand.Report} {between final : Controller MemoryStore}
    (ended : Action.attempt (first.meet here firstNew) (later.controller.withStore shown) =
      .ok report between)
    (endedToo : Action.attempt (second.meet there secondNew) between = .ok reportToo final) :
    ∃ names ids beside last,
      Action.attempt (second.meet there secondNewToo) (later.controller.withStore shown) =
        .ok (reportToo.map (Demand.Report.rename names ids)) beside ∧
      Action.attempt (first.meet here firstNewToo) beside =
        .ok (report.map (Demand.Report.rename names ids)) last ∧
      final.Renamed names ids last ∧
      (∀ direction, ∀ slot ∈ (later.controller.ledger.queue direction).map Requisition.slot,
        slot ∈ (final.ledger.queue direction).map Requisition.slot → names slot = slot) ∧
      ∀ object ∈ shown.objects, ids object.id = object.id := by
  have wellFormed : (later.controller.withStore shown).ledger.WellFormed :=
    ((Tallied.start store slots).reaches reached).ledger
  exact Demand.commute ⟨wellFormed, vacant⟩ apart unused distinct distinctToo ended endedToo

/-- Someone comes to wait for twenty bytes of inbound files. -/
def Demand.inboundTwenty : Demand := .request (.ofFile 20) ⟨1, 0⟩ (some ⟨1⟩)

/-- An object of ten bytes is made. -/
def Demand.tenBytes : Demand := .create ⟨some (.handle .file 1), 0, 10⟩ ⟨2, 0⟩

/-- While a requester waits in vain, someone comes to wait for inbound space, and an outbound object
is made.  If the object is made before, the index of the one that comes is in use a second time. -/
theorem directions_waitingInVain :
    ∃ waits ∈ Traffic.hundred.replay waitingInVain,
      waits.held = [⟨.outbound, .ofParts 1 1, some ⟨0⟩⟩] ∧
      ∃ between final names ids beside last,
        Action.attempt (Demand.inboundTwenty.meet .inbound (.ofNat 5))
          (waits.controller.withStore (MemoryStore.ofFileLimit 100)) =
            .ok (.ok (.answered (.queued ⟨.inbound, .ofParts 2 1, some ⟨1⟩⟩))) between ∧
        Action.attempt (Demand.tenBytes.meet .outbound (.ofNat 6)) between =
          .ok (.ok (.created (.finished (.created (.ofNat 6))))) final ∧
        Action.attempt (Demand.tenBytes.meet .outbound (.ofNat 5))
          (waits.controller.withStore (MemoryStore.ofFileLimit 100)) =
            .ok (.ok (.created (.finished (.created (ids (.ofNat 6)))))) beside ∧
        Action.attempt (Demand.inboundTwenty.meet .inbound (.ofNat 6)) beside =
          .ok (.ok (.answered (.queued ⟨.inbound, names (.ofParts 2 1), some ⟨1⟩⟩))) last ∧
        final.Renamed names ids last ∧ ids (.ofNat 6) = .ofNat 5 ∧
        names (.ofParts 2 1) = .ofParts 2 3 := by
  obtain ⟨waits, found, held, vacant, ⟨between, final, requested, created⟩,
      early, late, createdEarly, requestedLate⟩ :
      ∃ waits, (Traffic.hundred.replay waitingInVain)[1]? = some waits ∧
        waits.held = [⟨.outbound, .ofParts 1 1, some ⟨0⟩⟩] ∧
        waits.controller.ledger.pool.Vacant 2 ∧
        (∃ between final,
          Action.attempt (Demand.inboundTwenty.meet .inbound (.ofNat 5))
            (waits.controller.withStore (MemoryStore.ofFileLimit 100)) =
              .ok (.ok (.answered (.queued ⟨.inbound, .ofParts 2 1, some ⟨1⟩⟩))) between ∧
          Action.attempt (Demand.tenBytes.meet .outbound (.ofNat 6)) between =
            .ok (.ok (.created (.finished (.created (.ofNat 6))))) final) ∧
        ∃ early late,
          Action.attempt (Demand.tenBytes.meet .outbound (.ofNat 5))
            (waits.controller.withStore (MemoryStore.ofFileLimit 100)) =
              .ok (.ok (.created (.finished (.created (.ofNat 5))))) early ∧
          Action.attempt (Demand.inboundTwenty.meet .inbound (.ofNat 6)) early =
            .ok (.ok (.answered (.queued ⟨.inbound, .ofParts 2 3, some ⟨1⟩⟩))) late :=
    ⟨(Traffic.hundred.replay waitingInVain).getD 1 .hundred, rfl, rfl, by decide,
      ⟨_, _, rfl, rfl⟩, _, _, rfl, rfl⟩
  have inRun := List.mem_of_getElem? found
  have reached : (Weather.any MemoryStore).Reaches Traffic.hundred waits :=
    Run.inAny (Traffic.hundred.replay_run waitingInVain) waits (List.mem_cons_of_mem _ inRun)
  have apart : Demand.Apart (MemoryStore.ofFileLimit 100) .inbound .outbound Demand.inboundTwenty
      Demand.tenBytes :=
    ⟨by decide, by rintro id ⟨⟩, by rintro id ⟨⟩, by rintro id ⟨⟩, by rintro id ⟨⟩⟩
  have unused : ∀ id ∈ [ObjectId.ofNat 5, .ofNat 6, .ofNat 5, .ofNat 6],
      Demand.Unused (MemoryStore.ofFileLimit 100) Demand.inboundTwenty Demand.tenBytes id :=
    fun id _ => ⟨by rintro object ⟨⟩, by rintro ⟨⟩, by rintro ⟨⟩⟩
  obtain ⟨names, ids, beside, last, createdToo, requestedToo, renamed, -⟩ :=
    directions_do_not_interfere reached vacant apart unused (by decide) (by decide) requested
      created
  obtain ⟨sameReport, rfl⟩ := EStateM.Result.ok.inj (createdEarly.symm.trans createdToo)
  obtain ⟨sameAnswer, -⟩ := EStateM.Result.ok.inj (requestedLate.symm.trans requestedToo)
  simp only [Except.map, Demand.Report.rename, Creation.rename, Except.ok.injEq,
    Demand.Report.created.injEq, Progress.finished.injEq, Creation.created.injEq] at sameReport
  simp only [Except.map, Demand.Report.rename, Answer.relabel, Ticket.relabel, Except.ok.injEq,
    Demand.Report.answered.injEq, Answer.queued.injEq, Ticket.mk.injEq, true_and,
    and_true] at sameAnswer
  exact ⟨waits, inRun, held, between, final, names, ids, early, last, requested, created,
    createdToo, requestedToo, renamed, sameReport.symm, sameAnswer.symm⟩

end Admission
