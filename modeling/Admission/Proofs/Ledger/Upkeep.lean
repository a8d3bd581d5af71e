import Admission.Proofs.Controller.Submission
import Admission.Proofs.Ledger.Arena

/-!
# The upkeep of arenas

A controller queues requisitions, goes over queues and shreds slots.  `Upkeep` is what it does so to
its ledger, and what can be done to an arena in the same way.

An arena `Represents` a ledger if it is well-formed and stands for that ledger, whose queues are in
order.  Each well-formed ledger with queues in order is represented (`Ledger.represented`).
Whatever is done to an arena is done to the ledger that it represents, and leaves queues in order
(`Arena.Represents.keep`).

`Arena.keepAll_represents` is the main statement: it is about any number of things that are done one
after the other.
-/

namespace Admission

/-! ## Queues stay in order -/

/-- A walk leaves everything but the marks as it is. -/
theorem Walk.map_arrival_along (budget : Budget) (queue : List Requisition) :
    (along budget queue).queue.map Requisition.arrival = queue.map Requisition.arrival := by
  fun_induction along budget queue with
  | case1 => rfl
  | case2 budget head rest serviced left charged induction =>
      exact congrArg (head.arrival :: ·) induction
  | case3 => rfl
  | case4 budget head rest pending fits granted left charged induction =>
      exact congrArg (head.arrival :: ·) induction
  | case5 => rfl
  | case6 budget head rest pending unfit induction =>
      exact congrArg (head.arrival :: ·) induction

namespace Ledger

variable {ledger next : Ledger} {direction : Direction}

theorem ordered_ofLimit (limit : Nat) : (ofLimit limit).Ordered := by
  rintro (_ | _) <;> exact List.Pairwise.nil

namespace Ordered

/-- Queues are in order if one of them is, and the other one was before. -/
theorem of_queue (ordered : ledger.Ordered)
    (own : ((next.queue direction).map Requisition.arrival).Pairwise
      fun first second => first.mayPrecede second = true)
    (others : ∀ other, other ≠ direction → next.queue other = ledger.queue other) :
    next.Ordered := by
  intro other
  by_cases here : other = direction
  · exact here ▸ own
  · exact others other here ▸ ordered other

/-- What is queued goes between what is not lower and what is. -/
theorem joined (ordered : ledger.Ordered) (direction : Direction) (requisition : Requisition)
    (taken : SlotPool) : (ledger.joined direction requisition taken).Ordered := by
  refine ordered.of_queue ?_ fun other here => queue_joined_of_ne requisition taken here
  obtain ⟨front, back, split, inserted, notLower, lower⟩ :=
    requisition.insert_sorted (ordered direction)
  have before := ordered direction
  rw [split, List.map_append, List.pairwise_append] at before
  obtain ⟨frontOrder, backOrder, across⟩ := before
  rw [queue_joined_self, inserted, List.map_append, List.map_cons, List.pairwise_append,
    List.pairwise_cons]
  have behind : ∀ other ∈ back.map Requisition.arrival,
      requisition.arrival.mayPrecede other = true := by
    intro other member
    obtain ⟨lowerOne, inBack, rfl⟩ := List.mem_map.mp member
    exact Arrival.mayPrecede_iff.mpr
      ((Priority.not_lt_total _ _).resolve_right fun higher => higher (lower lowerOne inBack))
  refine ⟨frontOrder, ⟨behind, backOrder⟩, fun first isFirst second isSecond => ?_⟩
  rcases List.mem_cons.mp isSecond with rfl | inBack
  · obtain ⟨aheadOne, inFront, rfl⟩ := List.mem_map.mp isFirst
    exact Arrival.mayPrecede_iff.mpr (notLower aheadOne inFront)
  · exact across first isFirst second inBack

theorem remove (ordered : ledger.Ordered) (direction : Direction) (slot : SlotId) :
    (ledger.remove direction slot).Ordered := by
  refine ordered.of_queue ?_ fun other here => queue_remove_of_ne ledger slot here
  rw [queue_remove_self]
  exact (ordered direction).sublist (List.filter_sublist.map _)

theorem walked (ordered : ledger.Ordered) (direction : Direction) (budget : Budget) :
    (ledger.setQueue direction (Walk.along budget (ledger.queue direction)).queue).Ordered := by
  refine ordered.of_queue ?_ fun other here => queue_setQueue_of_ne _ _ here
  rw [queue_setQueue_self, Walk.map_arrival_along]
  exact ordered direction

end Ordered

end Ledger

/-! ## What is done to a ledger -/

/-- One thing that is done to an arena, or to a ledger. -/
inductive Upkeep where
  | submit (direction : Direction) (needed : Space) (priority : Priority)
      (attendant : Option AttendantId)
  | scan (direction : Direction) (budget : Budget)
  | shred (direction : Direction) (slot : SlotId)

namespace Ledger

variable {ledger : Ledger} {direction : Direction} {slot : SlotId}

/-- The ledger after something was done to it. -/
def keep (ledger : Ledger) : Upkeep → Ledger
  | .submit direction needed priority attendant =>
    match ledger.pool.take with
    | none => ledger
    | some (slot, taken) => ledger.joined direction ⟨slot, needed, priority, attendant, false⟩ taken
  | .scan direction budget =>
    ledger.setQueue direction (Walk.along budget (ledger.queue direction)).queue
  | .shred direction slot => ledger.remove direction slot

/-- The ledger after some things were done to it, one after the other. -/
def keepAll (ledger : Ledger) (upkeeps : List Upkeep) : Ledger := upkeeps.foldl keep ledger

/-- There is an index left for what is submitted, and what is shredded is not of the other
direction. -/
def Permits (ledger : Ledger) : Upkeep → Prop
  | .submit .. => ledger.pool.Spare
  | .scan .. => True
  | .shred direction slot => slot ∉ ledger.otherSlots direction

/-- Some things can be done one after the other. -/
def PermitsAll (ledger : Ledger) : List Upkeep → Prop
  | [] => True
  | upkeep :: rest => ledger.Permits upkeep ∧ (ledger.keep upkeep).PermitsAll rest

/-- What is queued may be shredded. -/
theorem WellFormed.permits_shred (wellFormed : ledger.WellFormed)
    (queued : slot ∈ (ledger.queue direction).map Requisition.slot) :
    ledger.Permits (.shred direction slot) := by
  have distinct := (ledger.slots_perm direction).nodup_iff.mp wellFormed.slots_nodup
  exact fun also => (List.nodup_append.mp distinct).2.2 slot queued slot also rfl

end Ledger

namespace Controller

variable {σ : Type} {controller : Controller σ} {direction : Direction} {slot : SlotId}
  {needed : Space} {priority : Priority} {attendant : Option AttendantId} {taken : SlotPool}

/-- A request that is given a slot is submitted. -/
theorem queuing_keeps (took : controller.ledger.pool.take = some (slot, taken)) :
    (controller.queuing direction ⟨slot, needed, priority, attendant, false⟩ taken).ledger =
      controller.ledger.keep (.submit direction needed priority attendant) := by
  rw [Ledger.keep, took]
  rfl

theorem walked_keeps (controller : Controller σ) (direction : Direction) (budget : Budget) :
    (controller.walked direction
      (Walk.along budget (controller.ledger.queue direction))).ledger =
      controller.ledger.keep (.scan direction budget) := rfl

theorem shredded_keeps (controller : Controller σ) (direction : Direction) (slot : SlotId) :
    (controller.shredded direction slot).ledger =
      controller.ledger.keep (.shred direction slot) := rfl

end Controller

/-! ## What is done to an arena -/

/-- An arena for a ledger. -/
def Ledger.arena (ledger : Ledger) : Arena :=
  ⟨ledger.pool, ledger.inbound ++ ledger.outbound, ledger.inbound.map Requisition.slot,
    ledger.outbound.map Requisition.slot⟩

namespace Arena

variable {arena : Arena} {ledger : Ledger} {direction : Direction} {slot : SlotId}
  {upkeep : Upkeep} {upkeeps : List Upkeep}

/-- The arena after something was done to it. -/
def keep (arena : Arena) : Upkeep → Arena
  | .submit direction needed priority attendant =>
    ((arena.submit direction needed priority attendant).map Prod.snd).getD arena
  | .scan direction budget => (arena.scan direction budget).arena
  | .shred direction slot => (arena.shred direction slot).2

/-- The arena after some things were done to it, one after the other. -/
def keepAll (arena : Arena) (upkeeps : List Upkeep) : Arena := upkeeps.foldl keep arena

/-- An arena stands for a ledger whose queues are in order. -/
structure Represents (arena : Arena) (ledger : Ledger) : Prop where
  wellFormed : arena.WellFormed
  same : arena.ledger = ledger
  ordered : ledger.Ordered

namespace Represents

/-- What is looked up in a slot is found in the queue of its direction. -/
theorem find? (represents : arena.Represents ledger)
    (elsewhere : slot ∉ ledger.otherSlots direction) :
    arena.get? slot = ledger.find? direction slot := by
  obtain ⟨wellFormed, rfl, -⟩ := represents
  rw [wellFormed.otherSlots_ledger] at elsewhere
  exact (wellFormed.find? elsewhere).symm

/-- A slot alone tells whether what is in it is serviced. -/
theorem isServiced (represents : arena.Represents ledger)
    (elsewhere : slot ∉ ledger.otherSlots direction) :
    arena.isServiced slot = ledger.isServiced direction slot := by
  rw [Arena.isServiced, represents.find? elsewhere, Ledger.isServiced]

/-- What is done to an arena is done to the ledger for which it stands. -/
theorem keep (represents : arena.Represents ledger) (permits : ledger.Permits upkeep) :
    (arena.keep upkeep).Represents (ledger.keep upkeep) := by
  obtain ⟨wellFormed, rfl, ordered⟩ := represents
  cases upkeep with
  | submit direction needed priority attendant =>
      cases took : arena.pool.take with
      | none =>
          have full : arena.ledger.pool.take = none := took
          rw [Arena.keep, submit, took, Ledger.keep, full]
          exact ⟨wellFormed, rfl, ordered⟩
      | some found =>
          obtain ⟨slot, taken⟩ := found
          have same : arena.ledger.pool.take = some (slot, taken) := took
          let requisition : Requisition := ⟨slot, needed, priority, attendant, false⟩
          have isTaken : arena.pool.take = some (requisition.slot, taken) := took
          rw [Arena.keep, submit, took, Ledger.keep, same]
          exact ⟨wellFormed.submitted permits isTaken direction priority,
            wellFormed.ledger_submitted ordered permits isTaken direction,
            ordered.joined direction requisition taken⟩
  | scan direction budget =>
      exact ⟨wellFormed.marked (wellFormed.scan_follows direction budget).marked,
        wellFormed.ledger_scanned direction budget, ordered.walked direction budget⟩
  | shred direction slot =>
      have elsewhere : slot ∉ arena.otherOrder direction :=
        wellFormed.otherSlots_ledger direction ▸ permits
      exact ⟨wellFormed.shredded elsewhere, wellFormed.ledger_shredded elsewhere,
        ordered.remove direction slot⟩

end Represents

/-- An arena in which nothing is stored represents a ledger without requisitions. -/
theorem represents_ofLimit (limit : Nat) : (ofLimit limit).Represents (.ofLimit limit) :=
  ⟨wellFormed_ofLimit limit, rfl, Ledger.ordered_ofLimit limit⟩

/-- Whatever is done to an arena, one thing after the other, is done to the ledger that it
represents. -/
theorem keepAll_represents (represents : arena.Represents ledger)
    (permits : ledger.PermitsAll upkeeps) :
    (arena.keepAll upkeeps).Represents (ledger.keepAll upkeeps) := by
  induction upkeeps generalizing arena ledger with
  | nil => exact represents
  | cons upkeep rest induction => exact induction (represents.keep permits.1) permits.2

end Arena

/-- Each well-formed ledger whose queues are in order is represented by an arena. -/
theorem Ledger.represented {ledger : Ledger} (wellFormed : ledger.WellFormed)
    (ordered : ledger.Ordered) : ledger.arena.Represents ledger := by
  have whole : ((ledger.inbound ++ ledger.outbound).map Requisition.slot).Nodup := by
    rw [List.map_append]
    exact wellFormed.slots_nodup
  have found : ∀ queue ⊆ ledger.inbound ++ ledger.outbound,
      (queue.map Requisition.slot).filterMap ledger.arena.get? = queue := by
    intro queue inside
    have looked : ∀ requisition ∈ queue,
        (ledger.arena.get? ∘ Requisition.slot) requisition = some requisition :=
      fun requisition member => Requisition.find?_slot whole (inside member)
    rw [List.filterMap_map, List.filterMap_congr looked, List.filterMap_some]
  refine ⟨⟨wellFormed.pool, ?_, wellFormed.held⟩, Ledger.eq_of_parts rfl ?_, ordered⟩
  · rw [arena, List.map_append]
    exact wellFormed.held
  · rintro (_ | _)
    · exact found _ (List.subset_append_left _ _)
    · exact found _ (List.subset_append_right _ _)

end Admission
