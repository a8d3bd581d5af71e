import Admission.Arena
import Admission.Proofs.Controller.Handled
import Admission.Proofs.Queue.Arrivals
import Mathlib.Data.List.TakeWhile

/-!
# What arenas stand for

An arena is `WellFormed` if every slot that is held stores one requisition, and is queued once.
What it stands for is a well-formed ledger then (`Arena.WellFormed.ledger`), in which whatever is
looked up in the arena is found (`Arena.WellFormed.find?`).

What is done to the arena is done to the ledger: a requisition is queued
(`Arena.WellFormed.ledger_submitted`), a slot is shredded (`Arena.WellFormed.ledger_shredded`), a
queue is scanned (`Arena.WellFormed.ledger_scanned`).  The place of a requisition is searched from
the tail in the one and from the head in the other, which comes to the same in a queue that is in
order (`Requisition.insertFromTail_eq`).
-/

namespace Admission

/-! ## The place of a requisition -/

/-- Puts a requisition behind the last one that is not of lower priority. -/
def Requisition.insertFromTail (requisition : Requisition) (queue : List Requisition) :
    List Requisition :=
  let isLower (other : Requisition) : Bool := other.priority < requisition.priority
  (queue.reverse.dropWhile isLower).reverse ++
    requisition :: (queue.reverse.takeWhile isLower).reverse

/-- In a queue that is in order the last one of no lower priority is right before the first one of
lower priority. -/
theorem Requisition.insertFromTail_eq (requisition : Requisition) {queue : List Requisition}
    (order : (queue.map arrival).Pairwise fun first second => first.mayPrecede second = true) :
    requisition.insertFromTail queue = requisition.insert queue := by
  obtain ⟨front, back, rfl, inserted, notLower, lower⟩ := requisition.insert_sorted order
  let isLower (other : Requisition) : Bool := other.priority < requisition.priority
  have passed : ∀ other ∈ back.reverse, isLower other = true := by
    simpa [isLower] using lower
  have stops : ∀ other ∈ front.reverse, ¬ isLower other = true := by
    simpa [isLower] using notLower
  have ahead : front.reverse.dropWhile isLower = front.reverse :=
    List.dropWhile_eq_self_iff.mpr fun some => stops _ (List.getElem_mem some)
  have between : front.reverse.takeWhile isLower = [] :=
    List.takeWhile_eq_nil_iff.mpr fun some => stops _ (List.get_mem _ _)
  rw [inserted, insertFromTail, List.reverse_append, List.dropWhile_append_of_pos passed,
    List.takeWhile_append_of_pos passed, ahead, between, List.append_nil, List.reverse_reverse,
    List.reverse_reverse]

/-- The requisitions of either direction are by descending priority. -/
def Ledger.Ordered (ledger : Ledger) : Prop :=
  ∀ direction, ((ledger.queue direction).map Requisition.arrival).Pairwise
    fun first second => first.mayPrecede second = true

theorem Ledger.eq_of_parts {first second : Ledger} (pool : first.pool = second.pool)
    (queues : ∀ direction, first.queue direction = second.queue direction) : first = second := by
  have inbound : first.inbound = second.inbound := queues .inbound
  have outbound : first.outbound = second.outbound := queues .outbound
  cases first
  cases second
  simp_all

/-- A requisition is found by its slot if no other one has it. -/
theorem Requisition.find?_slot {requisition : Requisition} {queue : List Requisition}
    (distinct : (queue.map slot).Nodup) (member : requisition ∈ queue) :
    (queue.find? fun other => other.slot = requisition.slot) = some requisition := by
  have found : (queue.find? fun other => other.slot = requisition.slot).isSome = true :=
    List.find?_isSome.mpr ⟨requisition, member, by simp⟩
  obtain ⟨other, isOther⟩ := Option.isSome_iff_exists.mp found
  have same : other.slot = requisition.slot := by simpa using List.find?_some isOther
  rw [isOther, List.inj_on_of_nodup_map distinct (List.mem_of_find?_eq_some isOther) member same]

/-! ## The parts of an arena -/

namespace Arena

variable {arena next : Arena} {direction other : Direction} {slot another : SlotId}
  {requisition : Requisition} {taken : SlotPool} {slots : List SlotId}

@[simp] theorem order_setOrder_self (arena : Arena) (direction : Direction)
    (order : List SlotId) : (arena.setOrder direction order).order direction = order := by
  cases direction <;> rfl

theorem order_setOrder_of_ne (arena : Arena) (order : List SlotId)
    (different : other ≠ direction) :
    (arena.setOrder direction order).order other = arena.order other := by
  cases direction <;> cases other <;> first | rfl | exact absurd rfl different

@[simp] theorem pool_setOrder (arena : Arena) (direction : Direction) (order : List SlotId) :
    (arena.setOrder direction order).pool = arena.pool := by
  cases direction <;> rfl

@[simp] theorem stored_setOrder (arena : Arena) (direction : Direction) (order : List SlotId) :
    (arena.setOrder direction order).stored = arena.stored := by
  cases direction <;> rfl

@[simp] theorem get?_setOrder (arena : Arena) (direction : Direction) (order : List SlotId) :
    (arena.setOrder direction order).get? = arena.get? := by
  cases direction <;> rfl

@[simp] theorem queue_ledger (arena : Arena) (direction : Direction) :
    arena.ledger.queue direction = (arena.order direction).filterMap arena.get? := by
  cases direction <;> rfl

theorem slot_of_get? (found : arena.get? slot = some requisition) : requisition.slot = slot := by
  simpa using List.find?_some found

theorem get?_store (arena : Arena) (requisition : Requisition) (taken : SlotPool)
    (slot : SlotId) :
    (arena.store requisition taken).get? slot =
      if requisition.slot = slot then some requisition else arena.get? slot := by
  rw [get?, store, List.find?_cons]
  split <;> simp_all [get?]

theorem get?_free (arena : Arena) (slot another : SlotId) :
    (arena.free slot).get? another = if another = slot then none else arena.get? another := by
  rw [get?, free, List.find?_filter]
  split
  · next same =>
      subst same
      simp
  · next different =>
      rw [get?]
      congr 1
      funext requisition
      by_cases here : requisition.slot = another <;> simp [here, different]

theorem get?_service (arena : Arena) (slot another : SlotId) :
    (arena.service slot).get? another =
      if another = slot then (arena.get? another).map Requisition.granted
      else arena.get? another := by
  let mark (requisition : Requisition) : Requisition :=
    if requisition.slot = slot then { requisition with serviced := true } else requisition
  have keepsSlot : (fun requisition => decide (requisition.slot = another)) ∘ mark =
      fun requisition => decide (requisition.slot = another) := by
    funext requisition
    simp only [Function.comp, mark]
    split <;> rfl
  have found : (arena.service slot).get? another = (arena.get? another).map mark := by
    rw [get?, service, List.find?_map, keepsSlot, get?]
  rw [found]
  cases isFound : arena.get? another with
  | none => simp
  | some requisition =>
      have own := slot_of_get? isFound
      split
      · next same => simp only [Option.map_some, mark, own, if_pos same, Requisition.granted]
      · next different => simp only [Option.map_some, mark, own, if_neg different]

/-! ## Well-formed arenas -/

/-- Every slot that is held stores one requisition, and is queued once. -/
structure WellFormed (arena : Arena) : Prop where
  pool : arena.pool.WellFormed
  stored : (arena.stored.map Requisition.slot).Perm arena.pool.held
  queued : (arena.inbound ++ arena.outbound).Perm arena.pool.held

theorem wellFormed_ofLimit (limit : Nat) : (ofLimit limit).WellFormed :=
  ⟨SlotPool.wellFormed_ofLimit limit, .refl _, .refl _⟩

/-- The slots beside those of a direction. -/
def otherOrder (arena : Arena) : Direction → List SlotId
  | .inbound => arena.outbound
  | .outbound => arena.inbound

theorem order_of_ne (arena : Arena) (different : other ≠ direction) :
    arena.order other = arena.otherOrder direction := by
  cases direction <;> cases other <;> first | rfl | exact absurd rfl different

theorem otherOrder_setOrder (arena : Arena) (direction : Direction) (order : List SlotId) :
    (arena.setOrder direction order).otherOrder direction = arena.otherOrder direction := by
  cases direction <;> rfl

namespace WellFormed

/-- The slots of both directions are those that are held. -/
theorem order_perm (wellFormed : arena.WellFormed) (direction : Direction) :
    (arena.order direction ++ arena.otherOrder direction).Perm arena.pool.held := by
  cases direction with
  | inbound => exact wellFormed.queued
  | outbound => exact List.perm_append_comm.trans wellFormed.queued

/-- An arena is well-formed if the slots of both directions are those that are held. -/
theorem of_order (direction : Direction) (pool : arena.pool.WellFormed)
    (stored : (arena.stored.map Requisition.slot).Perm arena.pool.held)
    (queued : (arena.order direction ++ arena.otherOrder direction).Perm arena.pool.held) :
    arena.WellFormed := by
  cases direction with
  | inbound => exact ⟨pool, stored, queued⟩
  | outbound => exact ⟨pool, stored, List.perm_append_comm.trans queued⟩

theorem order_nodup (wellFormed : arena.WellFormed) (direction : Direction) :
    (arena.order direction ++ arena.otherOrder direction).Nodup :=
  (wellFormed.order_perm direction).nodup_iff.mpr wellFormed.pool.held_nodup

/-- There is a requisition in a slot exactly if it is held. -/
theorem isSome_get?_iff (wellFormed : arena.WellFormed) :
    (arena.get? slot).isSome = true ↔ slot ∈ arena.pool.held := by
  rw [get?, List.find?_isSome, ← wellFormed.stored.mem_iff, List.mem_map]
  simp

/-- The slots of a queue are those that are ordered. -/
theorem map_slot_queue (wellFormed : arena.WellFormed) (direction : Direction) :
    (arena.ledger.queue direction).map Requisition.slot = arena.order direction := by
  have stores : ∀ slot ∈ arena.order direction,
      (arena.get? slot).map Requisition.slot = some slot := by
    intro slot queued
    have held := (wellFormed.order_perm direction).mem_iff.mp (List.mem_append_left _ queued)
    obtain ⟨requisition, found⟩ :=
      Option.isSome_iff_exists.mp (wellFormed.isSome_get?_iff.mpr held)
    rw [found, Option.map_some, slot_of_get? found]
  rw [queue_ledger, List.map_filterMap, List.filterMap_congr stores, List.filterMap_some]

theorem otherSlots_ledger (wellFormed : arena.WellFormed) (direction : Direction) :
    arena.ledger.otherSlots direction = arena.otherOrder direction := by
  cases direction with
  | inbound => exact wellFormed.map_slot_queue .outbound
  | outbound => exact wellFormed.map_slot_queue .inbound

/-- What a well-formed arena stands for is well-formed. -/
theorem ledger (wellFormed : arena.WellFormed) : arena.ledger.WellFormed where
  pool := wellFormed.pool
  held := by
    have slots := arena.ledger.slots_perm .inbound
    rw [wellFormed.map_slot_queue, wellFormed.otherSlots_ledger] at slots
    exact slots.trans wellFormed.queued

/-- What is found in a slot that is not of the other direction is found in the ledger. -/
theorem find? (wellFormed : arena.WellFormed) (elsewhere : slot ∉ arena.otherOrder direction) :
    arena.ledger.find? direction slot = arena.get? slot := by
  cases found : arena.get? slot with
  | none =>
      refine List.find?_eq_none.mpr fun requisition queued same => ?_
      have stands := List.mem_map_of_mem (f := Requisition.slot) queued
      rw [wellFormed.map_slot_queue, of_decide_eq_true same] at stands
      have held := (wellFormed.order_perm direction).mem_iff.mp (List.mem_append_left _ stands)
      rw [← wellFormed.isSome_get?_iff, found] at held
      cases held
  | some requisition =>
      have held := wellFormed.isSome_get?_iff.mp (Option.isSome_iff_exists.mpr ⟨_, found⟩)
      have ordered : slot ∈ arena.order direction :=
        (List.mem_append.mp ((wellFormed.order_perm direction).mem_iff.mpr held)).resolve_right
          elsewhere
      have queued : requisition ∈ arena.ledger.queue direction := by
        rw [queue_ledger]
        exact List.mem_filterMap.mpr ⟨slot, ordered, found⟩
      have alone := Requisition.find?_slot (wellFormed.ledger.queue_nodup direction) queued
      rwa [slot_of_get? found] at alone

end WellFormed

/-! ## A requisition is queued -/

/-- The search from the tail passes over what is not known, as if it were not there. -/
theorem queue_insert_self (arena : Arena) (direction : Direction)
    (found : arena.get? requisition.slot = some requisition) :
    (arena.insert direction requisition.slot requisition.priority).ledger.queue direction =
      requisition.insertFromTail (arena.ledger.queue direction) := by
  let isLower (other : Requisition) : Bool := other.priority < requisition.priority
  let backwards := (arena.order direction).reverse
  have same : (arena.ledger.queue direction).reverse = backwards.filterMap arena.get? := by
    rw [queue_ledger, List.filterMap_reverse]
  have ahead : (arena.ledger.queue direction).reverse.dropWhile isLower =
      (backwards.dropWhile (arena.yields requisition.priority)).filterMap arena.get? := by
    rw [same, List.dropWhile_filterMap]
    rfl
  have behind : (arena.ledger.queue direction).reverse.takeWhile isLower =
      (backwards.takeWhile (arena.yields requisition.priority)).filterMap arena.get? := by
    rw [same, List.takeWhile_filterMap]
    rfl
  rw [Requisition.insertFromTail, ahead, behind, ← List.filterMap_reverse,
    ← List.filterMap_reverse, queue_ledger, insert, order_setOrder_self, get?_setOrder,
    List.filterMap_append, List.filterMap_cons_some found]

/-- A slot is put somewhere between those of its direction. -/
theorem insert_eq (arena : Arena) (direction : Direction) (slot : SlotId) (priority : Priority) :
    ∃ front back, arena.order direction = front ++ back ∧
      arena.insert direction slot priority =
        arena.setOrder direction (front ++ slot :: back) := by
  let backwards := (arena.order direction).reverse
  refine ⟨(backwards.dropWhile (arena.yields priority)).reverse,
    (backwards.takeWhile (arena.yields priority)).reverse, ?_, rfl⟩
  rw [← List.reverse_append, List.takeWhile_append_dropWhile, List.reverse_reverse]

/-- A requisition is queued in a slot that was taken for it. -/
theorem WellFormed.submitted (wellFormed : arena.WellFormed) (spare : arena.pool.Spare)
    (took : arena.pool.take = some (requisition.slot, taken)) (direction : Direction)
    (priority : Priority) :
    ((arena.store requisition taken).insert direction requisition.slot priority).WellFormed := by
  obtain ⟨pool, held⟩ := wellFormed.pool.take spare took
  obtain ⟨front, back, split, inserted⟩ :=
    (arena.store requisition taken).insert_eq direction requisition.slot priority
  have order : arena.order direction = front ++ back := by
    rw [← split]
    cases direction <;> rfl
  have others : (arena.store requisition taken).otherOrder direction =
      arena.otherOrder direction := by
    cases direction <;> rfl
  rw [inserted]
  refine .of_order direction ?_ ?_ ?_
  · rw [pool_setOrder]
    exact pool
  · rw [pool_setOrder, stored_setOrder, store, held]
    exact wellFormed.stored.cons requisition.slot
  · have whole := wellFormed.order_perm direction
    rw [order] at whole
    rw [pool_setOrder, order_setOrder_self, otherOrder_setOrder, others, store, held]
    exact (List.perm_middle.append_right _).trans (whole.cons _)

/-- The ledger is joined by a requisition that is queued in the arena. -/
theorem WellFormed.ledger_submitted (wellFormed : arena.WellFormed)
    (ordered : arena.ledger.Ordered) (spare : arena.pool.Spare)
    (took : arena.pool.take = some (requisition.slot, taken)) (direction : Direction) :
    ((arena.store requisition taken).insert direction requisition.slot
      requisition.priority).ledger = arena.ledger.joined direction requisition taken := by
  obtain ⟨pool, held⟩ := wellFormed.pool.take spare took
  have fresh : requisition.slot ∉ arena.pool.held := by
    have distinct := pool.held_nodup
    rw [held, List.nodup_cons] at distinct
    exact distinct.1
  have queues : ∀ other, (arena.store requisition taken).ledger.queue other =
      arena.ledger.queue other := by
    intro other
    have order : (arena.store requisition taken).order other = arena.order other := by
      cases other <;> rfl
    rw [queue_ledger, queue_ledger, order]
    refine List.filterMap_congr fun slot queued => ?_
    have isHeld := (wellFormed.order_perm other).mem_iff.mp (List.mem_append_left _ queued)
    rw [get?_store, if_neg fun same : requisition.slot = slot => fresh (same ▸ isHeld)]
  have isStored : (arena.store requisition taken).get? requisition.slot = some requisition := by
    rw [get?_store, if_pos rfl]
  refine Ledger.eq_of_parts ?_ fun other => ?_
  · rw [Ledger.joined, Ledger.pool_enqueue]
    exact pool_setOrder _ _ _
  · by_cases here : other = direction
    · subst here
      rw [queue_insert_self _ _ isStored, Ledger.queue_joined_self, queues,
        requisition.insertFromTail_eq (ordered other)]
    · rw [Ledger.queue_joined_of_ne _ _ here, ← queues, queue_ledger, queue_ledger, insert,
        order_setOrder_of_ne _ _ here, get?_setOrder]

/-! ## A slot is shredded -/

/-- A slot is taken off, unless it is of the other direction. -/
theorem WellFormed.shredded (wellFormed : arena.WellFormed)
    (elsewhere : slot ∉ arena.otherOrder direction) :
    (arena.shred direction slot).2.WellFormed := by
  have released : (arena.pool.release slot).WellFormed ∧
      (arena.pool.release slot).held = arena.pool.held.erase slot := by
    by_cases held : slot ∈ arena.pool.held
    · exact wellFormed.pool.release held
    · rw [SlotPool.release, if_neg held, List.erase_of_not_mem held]
      exact ⟨wellFormed.pool, rfl⟩
  have isPool : (arena.shred direction slot).2.pool = arena.pool.release slot := by
    cases direction <;> rfl
  have isStored : (arena.shred direction slot).2.stored.map Requisition.slot =
      (arena.stored.map Requisition.slot).erase slot := by
    have distinct := wellFormed.stored.nodup_iff.mpr wellFormed.pool.held_nodup
    have test : (· != slot) ∘ Requisition.slot =
        fun requisition => decide (requisition.slot ≠ slot) := by
      funext requisition
      by_cases same : requisition.slot = slot <;> simp [same]
    rw [distinct.erase_eq_filter, List.filter_map, test]
    cases direction <;> rfl
  have isOrdered : (arena.shred direction slot).2.order direction ++
      (arena.shred direction slot).2.otherOrder direction =
        (arena.order direction ++ arena.otherOrder direction).erase slot := by
    rw [List.erase_append, List.erase_of_not_mem elsewhere]
    split
    · cases direction <;> rfl
    · next absent =>
        rw [← List.erase_of_not_mem absent]
        cases direction <;> rfl
  refine .of_order direction ?_ ?_ ?_
  · rw [isPool]
    exact released.1
  · rw [isPool, released.2, isStored]
    exact wellFormed.stored.erase slot
  · rw [isPool, released.2, isOrdered]
    exact (wellFormed.order_perm direction).erase slot

/-- What is shredded in the arena is removed from the ledger. -/
theorem WellFormed.ledger_shredded (wellFormed : arena.WellFormed)
    (elsewhere : slot ∉ arena.otherOrder direction) :
    (arena.shred direction slot).2.ledger = arena.ledger.remove direction slot := by
  have looked : ∀ another, (arena.shred direction slot).2.get? another =
      if another = slot then none else arena.get? another := by
    intro another
    rw [shred, get?_free, unqueue, get?_setOrder]
  refine Ledger.eq_of_parts ?_ fun other => ?_
  · cases direction <;> rfl
  · by_cases here : other = direction
    · subst here
      have erased : (arena.shred other slot).2.order other =
          (arena.order other).filter fun another => another != slot := by
        rw [← (List.nodup_append.mp (wellFormed.order_nodup other)).1.erase_eq_filter]
        cases other <;> rfl
      rw [Ledger.queue_remove_self, queue_ledger, queue_ledger, erased, List.filterMap_filter,
        List.filter_filterMap]
      refine List.filterMap_congr fun another _ => ?_
      rw [looked]
      cases found : arena.get? another with
      | none => simp
      | some requisition =>
          have own := slot_of_get? found
          by_cases same : another = slot <;> simp [Option.filter, own, same]
    · have kept : (arena.shred direction slot).2.order other = arena.order other := by
        cases direction <;> cases other <;> first | rfl | exact absurd rfl here
      rw [Ledger.queue_remove_of_ne _ _ here, queue_ledger, queue_ledger, kept]
      refine List.filterMap_congr fun another queued => ?_
      rw [looked, if_neg]
      rintro rfl
      rw [arena.order_of_ne here] at queued
      exact elsewhere queued

/-! ## A queue is scanned -/

/-- One arena is another one but for requisitions that were marked as serviced. -/
structure Marked (arena next : Arena) : Prop where
  pool : next.pool = arena.pool
  inbound : next.inbound = arena.inbound
  outbound : next.outbound = arena.outbound
  stored : next.stored.map Requisition.slot = arena.stored.map Requisition.slot

/-- A pass over slots comes to what a walk over their requisitions comes to, and leaves what is in
other slots as it is. -/
structure Pass.Follows (arena : Arena) (slots : List SlotId) (pass : Pass) (walk : Walk) :
    Prop where
  marked : arena.Marked pass.arena
  queue : slots.filterMap pass.arena.get? = walk.queue
  granted : pass.granted = walk.granted
  stopped : pass.stopped = walk.stopped
  others : ∀ other ∉ slots, pass.arena.get? other = arena.get? other

theorem Marked.refl (arena : Arena) : arena.Marked arena := ⟨rfl, rfl, rfl, rfl⟩

theorem Marked.trans {first second third : Arena} (earlier : first.Marked second)
    (later : second.Marked third) : first.Marked third :=
  ⟨later.pool.trans earlier.pool, later.inbound.trans earlier.inbound,
    later.outbound.trans earlier.outbound, later.stored.trans earlier.stored⟩

theorem marked_service (arena : Arena) (slot : SlotId) : arena.Marked (arena.service slot) where
  pool := rfl
  inbound := rfl
  outbound := rfl
  stored := by
    rw [service, List.map_map]
    refine List.map_congr_left fun requisition _ => ?_
    simp only [Function.comp]
    split <;> rfl

/-- What is marked in a slot is not seen from others. -/
theorem filterMap_service (arena : Arena) (absent : slot ∉ slots) :
    slots.filterMap (arena.service slot).get? = slots.filterMap arena.get? := by
  refine List.filterMap_congr fun another member => ?_
  rw [get?_service, if_neg]
  rintro rfl
  exact absent member

namespace Pass.Follows

variable {pass : Pass} {walk : Walk}

/-- A pass that is stopped leaves the rest as it is. -/
theorem stop (arena : Arena) (slots : List SlotId) (kind : Overflow) :
    Follows arena slots ⟨arena, [], some kind⟩ (.stop kind (slots.filterMap arena.get?)) :=
  ⟨.refl _, rfl, rfl, rfl, fun _ _ => rfl⟩

theorem unknown (follows : Follows arena slots pass walk) (absent : slot ∉ slots)
    (missing : arena.get? slot = none) : Follows arena (slot :: slots) pass walk where
  marked := follows.marked
  queue := by
    rw [List.filterMap_cons_none ((follows.others slot absent).trans missing)]
    exact follows.queue
  granted := follows.granted
  stopped := follows.stopped
  others := fun other beside => follows.others other fun member =>
    beside (List.mem_cons_of_mem _ member)

/-- A requisition is passed. -/
theorem passes (follows : Follows arena slots pass walk) (absent : slot ∉ slots)
    (found : arena.get? slot = some requisition) :
    Follows arena (slot :: slots) pass (walk.pass requisition) where
  marked := follows.marked
  queue := by
    rw [List.filterMap_cons_some ((follows.others slot absent).trans found), follows.queue]
    rfl
  granted := follows.granted
  stopped := follows.stopped
  others := fun other beside => follows.others other fun member =>
    beside (List.mem_cons_of_mem _ member)

/-- A requisition is granted. -/
theorem grants (follows : Follows (arena.service slot) slots pass walk) (absent : slot ∉ slots)
    (found : arena.get? slot = some requisition) :
    Follows arena (slot :: slots)
      { pass with granted := { requisition with serviced := true } :: pass.granted }
      (walk.grant { requisition with serviced := true }) where
  marked := (arena.marked_service slot).trans follows.marked
  queue := by
    have isGranted := follows.others slot absent
    rw [get?_service, if_pos rfl, found] at isGranted
    rw [List.filterMap_cons_some isGranted, follows.queue]
    rfl
  granted := congrArg _ follows.granted
  stopped := follows.stopped
  others := by
    intro other beside
    rw [List.mem_cons, not_or] at beside
    rw [follows.others other beside.2, get?_service, if_neg beside.1]

end Pass.Follows

/-- A pass comes to what the walk comes to, slot by slot. -/
theorem along_follows (arena : Arena) (budget : Budget) (distinct : slots.Nodup) :
    (arena.along budget slots).Follows arena slots
      (Walk.along budget (slots.filterMap arena.get?)) := by
  induction slots generalizing arena budget with
  | nil => exact ⟨.refl _, rfl, rfl, rfl, fun _ _ => rfl⟩
  | cons slot rest induction =>
      obtain ⟨absent, restDistinct⟩ := List.nodup_cons.mp distinct
      rw [along]
      cases found : arena.get? slot with
      | none =>
          rw [List.filterMap_cons_none found]
          exact (induction arena budget restDistinct).unknown absent found
      | some requisition =>
          rw [List.filterMap_cons_some found, Walk.along]
          simp only
          split
          · cases budget.charge requisition.needed with
            | ok left => exact (induction arena left restDistinct).passes absent found
            | error kind => exact (Pass.Follows.stop arena rest kind).passes absent found
          · split
            · cases budget.charge requisition.needed with
              | ok left =>
                  have later := induction (arena.service slot) left restDistinct
                  rw [arena.filterMap_service absent] at later
                  exact later.grants absent found
              | error kind =>
                  have stops := Pass.Follows.stop (arena.service slot) rest kind
                  rw [arena.filterMap_service absent] at stops
                  exact stops.grants absent found
            · exact (induction arena budget restDistinct).passes absent found

namespace WellFormed

theorem marked (wellFormed : arena.WellFormed) (marked : arena.Marked next) : next.WellFormed where
  pool := marked.pool ▸ wellFormed.pool
  stored := by
    rw [marked.pool, marked.stored]
    exact wellFormed.stored
  queued := by
    rw [marked.pool, marked.inbound, marked.outbound]
    exact wellFormed.queued

/-- A scan of an arena comes to what the walk over the queue of the ledger comes to. -/
theorem scan_follows (wellFormed : arena.WellFormed) (direction : Direction) (budget : Budget) :
    (arena.scan direction budget).Follows arena (arena.order direction)
      (Walk.along budget (arena.ledger.queue direction)) := by
  rw [queue_ledger]
  exact arena.along_follows budget (List.nodup_append.mp (wellFormed.order_nodup direction)).1

/-- What is granted in the arena is granted in the ledger. -/
theorem ledger_scanned (wellFormed : arena.WellFormed) (direction : Direction)
    (budget : Budget) :
    (arena.scan direction budget).arena.ledger = arena.ledger.setQueue direction
      (Walk.along budget (arena.ledger.queue direction)).queue := by
  have follows := wellFormed.scan_follows direction budget
  have order : ∀ other, (arena.scan direction budget).arena.order other = arena.order other := by
    rintro (_ | _)
    · exact follows.marked.inbound
    · exact follows.marked.outbound
  refine Ledger.eq_of_parts ?_ fun other => ?_
  · rw [Ledger.pool_setQueue]
    exact follows.marked.pool
  · by_cases here : other = direction
    · subst here
      rw [Ledger.queue_setQueue_self, queue_ledger, order]
      exact follows.queue
    · rw [Ledger.queue_setQueue_of_ne _ _ here, queue_ledger, queue_ledger, order]
      refine List.filterMap_congr fun slot queued => follows.others slot fun also => ?_
      have distinct := wellFormed.order_nodup direction
      rw [arena.order_of_ne here] at queued
      exact (List.nodup_append.mp distinct).2.2 slot also slot queued rfl

end WellFormed

end Arena

end Admission
