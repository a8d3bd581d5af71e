import Admission.Proofs.Queue.Greedy

/-!
# Arrivals in the order of their priority

A queue is kept in order by putting each new requisition at its place.  `Arrival.sorted` is what
that must come to: all that arrived and is still there, sorted by descending priority with equals
in the order in which they came.  It is `List.mergeSort`, which is stable.

A list in order is determined by what it has of each priority (`Arrival.eq_of_classes`).  From
there on two facts are used: a new arrival goes behind everything that is not lower and before
everything that is (`Arrival.sorted_concat`), and what leaves leaves the rest in order
(`Arrival.sorted_filter`).
-/

namespace Admission

/-! ## Priorities -/

namespace Priority

variable {first second third : Priority}

theorem lt_iff : first < second ↔ first.coarse.toNat < second.coarse.toNat ∨
    first.coarse.toNat = second.coarse.toNat ∧ first.fine.toNat < second.fine.toNat := by
  rw [UInt8.toNat_inj]
  exact Iff.rfl

theorem not_lt_trans (low : ¬ first < second) (high : ¬ second < third) : ¬ first < third := by
  rw [lt_iff] at low high ⊢
  omega

theorem not_lt_total (first second : Priority) : ¬ first < second ∨ ¬ second < first := by
  rw [lt_iff, lt_iff]
  omega

theorem eq_of_not_lt (low : ¬ first < second) (high : ¬ second < first) : first = second := by
  rw [lt_iff] at low high
  have coarse : first.coarse = second.coarse := UInt8.toNat_inj.mp (by omega)
  have fine : first.fine = second.fine := UInt8.toNat_inj.mp (by omega)
  exact congrArg₂ Priority.mk coarse fine

end Priority

/-! ## What arrives -/

/-- What is known of a requisition from its arrival on. -/
structure Arrival where
  slot : SlotId
  priority : Priority
  needed : Space
  deriving DecidableEq

namespace Requisition

/-- What was known of a requisition when it arrived. -/
def arrival (requisition : Requisition) : Arrival :=
  ⟨requisition.slot, requisition.priority, requisition.needed⟩

/-- The requisition as it was asked for, whether or not it is serviced by now. -/
def asked (requisition : Requisition) : Requisition := { requisition with serviced := false }

@[simp] theorem slot_arrival (requisition : Requisition) :
    requisition.arrival.slot = requisition.slot := rfl

@[simp] theorem priority_arrival (requisition : Requisition) :
    requisition.arrival.priority = requisition.priority := rfl

@[simp] theorem slot_asked (requisition : Requisition) :
    requisition.asked.slot = requisition.slot := rfl

@[simp] theorem priority_asked (requisition : Requisition) :
    requisition.asked.priority = requisition.priority := rfl

@[simp] theorem asked_granted (requisition : Requisition) :
    requisition.granted.asked = requisition.asked := rfl

@[simp] theorem arrival_asked (requisition : Requisition) :
    requisition.asked.arrival = requisition.arrival := rfl

/-- What is put into a queue goes behind a front that is not lower, directly before the first
one that is. -/
theorem insert_split (requisition : Requisition) (queue : List Requisition) :
    ∃ front back, queue = front ++ back ∧
      requisition.insert queue = front ++ requisition :: back ∧
      (∀ other ∈ front, ¬ other.priority < requisition.priority) ∧
      ∀ other ∈ back.head?, other.priority < requisition.priority := by
  induction queue with
  | nil => exact ⟨[], [], rfl, rfl, by simp, by simp⟩
  | cons head rest induction =>
      by_cases lower : head.priority < requisition.priority
      · refine ⟨[], head :: rest, rfl, ?_, by simp, by simpa using lower⟩
        rw [insert, if_pos lower, List.nil_append]
      · obtain ⟨front, back, rfl, inserted, notLower, isLower⟩ := induction
        refine ⟨head :: front, back, rfl, ?_, ?_, isLower⟩
        · rw [insert, if_neg lower, inserted, List.cons_append]
        · simpa [lower] using notLower

theorem map_asked_filter (slot : SlotId) (queue : List Requisition) :
    (queue.filter fun requisition => requisition.slot ≠ slot).map asked =
      (queue.map asked).filter fun requisition => requisition.slot ≠ slot := by
  rw [List.filter_map]
  rfl

theorem map_arrival_filter (slot : SlotId) (queue : List Requisition) :
    (queue.filter fun requisition => requisition.slot ≠ slot).map arrival =
      (queue.map arrival).filter fun arrival => arrival.slot ≠ slot := by
  rw [List.filter_map]
  rfl

end Requisition

/-- Whoever goes over a queue leaves it as it was asked for. -/
theorem map_asked_grantAll (share : Share) (queue : List Requisition) :
    (grantAll share queue).map Requisition.asked = queue.map Requisition.asked := by
  induction queue generalizing share with
  | nil => rfl
  | cons head rest induction =>
      rcases grantAll_cons_cases share head rest with ⟨-, equation⟩ | ⟨-, -, equation⟩ <;>
        simp [equation, induction]

theorem map_arrival_of_asked {first second : List Requisition}
    (same : first.map Requisition.asked = second.map Requisition.asked) :
    first.map Requisition.arrival = second.map Requisition.arrival := by
  have arrivals := congrArg (List.map Requisition.arrival) same
  rwa [List.map_map, List.map_map] at arrivals

section Asked

variable {first second : List Requisition}

theorem map_slot_of_asked (same : first.map Requisition.asked = second.map Requisition.asked) :
    first.map Requisition.slot = second.map Requisition.slot := by
  have slots := congrArg (List.map Requisition.slot) same
  rwa [List.map_map, List.map_map] at slots

/-- What is in one of two queues that were asked for alike has its like in the other. -/
theorem exists_of_asked (same : first.map Requisition.asked = second.map Requisition.asked)
    {requisition : Requisition} (member : requisition ∈ first) :
    ∃ other ∈ second, other.slot = requisition.slot ∧ other.priority = requisition.priority := by
  have inside := List.mem_map_of_mem (f := Requisition.asked) member
  rw [same] at inside
  obtain ⟨other, isOther, equal⟩ := List.mem_map.mp inside
  have slots : other.asked.slot = requisition.asked.slot := by rw [equal]
  have priorities : other.asked.priority = requisition.asked.priority := by rw [equal]
  exact ⟨other, isOther, slots, priorities⟩

/-- Queues that were asked for alike have alike requisitions in some slots. -/
theorem filter_of_asked (same : first.map Requisition.asked = second.map Requisition.asked)
    (slots : List SlotId) :
    (first.filter fun requisition => requisition.slot ∈ slots).map Requisition.asked =
      (second.filter fun requisition => requisition.slot ∈ slots).map Requisition.asked := by
  have parts := congrArg (List.filter fun requisition => requisition.slot ∈ slots) same
  rwa [List.filter_map, List.filter_map] at parts

end Asked

/-! ## The order -/

namespace Arrival

/-- Whether an arrival may stand before another one. -/
def mayPrecede (first second : Arrival) : Bool := !decide (first.priority < second.priority)

theorem mayPrecede_iff {first second : Arrival} :
    first.mayPrecede second = true ↔ ¬ first.priority < second.priority := by
  simp [mayPrecede]

/-- By descending priority, equals in the order in which they came. -/
def sorted (arrivals : List Arrival) : List Arrival := arrivals.mergeSort mayPrecede

theorem mayPrecede_trans (first second third : Arrival) (before : first.mayPrecede second = true)
    (after : second.mayPrecede third = true) : first.mayPrecede third = true :=
  mayPrecede_iff.mpr
    (Priority.not_lt_trans (mayPrecede_iff.mp before) (mayPrecede_iff.mp after))

theorem mayPrecede_total (first second : Arrival) :
    (first.mayPrecede second || second.mayPrecede first) = true := by
  rw [Bool.or_eq_true, mayPrecede_iff, mayPrecede_iff]
  exact Priority.not_lt_total _ _

theorem pairwise_sorted (arrivals : List Arrival) :
    (sorted arrivals).Pairwise fun first second => first.mayPrecede second = true :=
  List.pairwise_mergeSort mayPrecede_trans mayPrecede_total arrivals

/-- What there is of a priority keeps its order. -/
theorem filter_sorted (arrivals : List Arrival) (priority : Priority) :
    (sorted arrivals).filter (fun arrival => arrival.priority = priority) =
      arrivals.filter fun arrival => arrival.priority = priority := by
  have same : ((sorted arrivals).filter fun arrival => arrival.priority = priority).Perm
      (arrivals.filter fun arrival => arrival.priority = priority) :=
    (List.mergeSort_perm arrivals mayPrecede).filter _
  have equals : (arrivals.filter fun arrival => arrival.priority = priority).Pairwise
      fun first second => first.mayPrecede second = true := by
    refine List.pairwise_of_forall_mem_list fun first isFirst second isSecond => ?_
    have firstPriority : first.priority = priority := by simpa using (List.mem_filter.mp isFirst).2
    have secondPriority : second.priority = priority := by
      simpa using (List.mem_filter.mp isSecond).2
    rw [mayPrecede_iff, firstPriority, secondPriority]
    exact (Priority.not_lt_total priority priority).elim id id
  have inside : (arrivals.filter fun arrival => arrival.priority = priority).Sublist
      (sorted arrivals) :=
    List.sublist_mergeSort mayPrecede_trans mayPrecede_total equals List.filter_sublist
  have again := inside.filter fun arrival => decide (arrival.priority = priority)
  rw [List.filter_filter] at again
  simp only [Bool.and_self] at again
  exact (again.eq_of_length same.length_eq.symm).symm

theorem mem_iff_of_classes {first second : List Arrival}
    (classes : ∀ priority, first.filter (fun arrival => arrival.priority = priority) =
      second.filter fun arrival => arrival.priority = priority) (arrival : Arrival) :
    arrival ∈ first ↔ arrival ∈ second := by
  have own := congrArg (arrival ∈ ·) (classes arrival.priority)
  simpa [List.mem_filter] using own

/-- Lists in order are the same if they have the same of every priority.  Either head may precede
the other one, so they are of one priority, of which each is the first. -/
theorem eq_of_classes {first second : List Arrival}
    (firstOrder : first.Pairwise fun left right => left.mayPrecede right = true)
    (secondOrder : second.Pairwise fun left right => left.mayPrecede right = true)
    (classes : ∀ priority, first.filter (fun arrival => arrival.priority = priority) =
      second.filter fun arrival => arrival.priority = priority) : first = second := by
  induction first generalizing second with
  | nil =>
      cases second with
      | nil => rfl
      | cons head rest =>
          exact absurd ((mem_iff_of_classes classes head).mpr List.mem_cons_self)
            List.not_mem_nil
  | cons head rest induction =>
      have headIn := (mem_iff_of_classes classes head).mp List.mem_cons_self
      cases second with
      | nil => exact absurd headIn List.not_mem_nil
      | cons other others =>
          have otherIn := (mem_iff_of_classes classes other).mpr List.mem_cons_self
          obtain ⟨headFirst, restOrder⟩ := List.pairwise_cons.mp firstOrder
          obtain ⟨otherFirst, othersOrder⟩ := List.pairwise_cons.mp secondOrder
          have samePriority : head.priority = other.priority := by
            rcases List.mem_cons.mp headIn with same | inOthers
            · rw [same]
            · rcases List.mem_cons.mp otherIn with same | inRest
              · rw [same]
              · exact Priority.eq_of_not_lt (mayPrecede_iff.mp (headFirst other inRest))
                  (mayPrecede_iff.mp (otherFirst head inOthers))
          have own := classes head.priority
          rw [List.filter_cons_of_pos (by simp), List.filter_cons_of_pos (by simp [samePriority]),
            List.cons.injEq] at own
          obtain ⟨rfl, -⟩ := own
          have restClasses : ∀ priority,
              rest.filter (fun arrival => arrival.priority = priority) =
                others.filter fun arrival => arrival.priority = priority := by
            intro priority
            have whole := classes priority
            rw [List.filter_cons, List.filter_cons] at whole
            split at whole
            · exact (List.cons.inj whole).2
            · exact whole
          rw [induction restOrder othersOrder restClasses]

/-- A list in order with the same of every priority is the sorted list. -/
theorem eq_sorted {queue arrivals : List Arrival}
    (order : queue.Pairwise fun first second => first.mayPrecede second = true)
    (classes : ∀ priority, queue.filter (fun arrival => arrival.priority = priority) =
      arrivals.filter fun arrival => arrival.priority = priority) : queue = sorted arrivals :=
  eq_of_classes order (pairwise_sorted arrivals) fun priority =>
    (classes priority).trans (filter_sorted arrivals priority).symm

/-- What leaves leaves the rest in order. -/
theorem sorted_filter (arrivals : List Arrival) (keeps : Arrival → Bool) :
    (sorted arrivals).filter keeps = sorted (arrivals.filter keeps) := by
  refine eq_sorted ((pairwise_sorted arrivals).filter keeps) fun priority => ?_
  rw [List.filter_comm, filter_sorted, List.filter_comm]

/-- In a list in order everything is lower behind the first one that is. -/
theorem lower_of_head? {back : List Arrival} {arrival : Arrival}
    (order : back.Pairwise fun first second => first.mayPrecede second = true)
    (lower : ∀ other ∈ back.head?, other.priority < arrival.priority) :
    ∀ other ∈ back, other.priority < arrival.priority := by
  cases back with
  | nil => simp
  | cons head rest =>
      have headLower := lower head rfl
      intro other member
      rcases List.mem_cons.mp member with rfl | inRest
      · exact headLower
      · by_contra notLower
        exact Priority.not_lt_trans
          (mayPrecede_iff.mp ((List.pairwise_cons.mp order).1 other inRest)) notLower headLower

/-- A new arrival goes behind everything that is not lower and before everything that is. -/
theorem sorted_concat {arrivals front back : List Arrival} {arrival : Arrival}
    (split : sorted arrivals = front ++ back)
    (notLower : ∀ other ∈ front, ¬ other.priority < arrival.priority)
    (lower : ∀ other ∈ back, other.priority < arrival.priority) :
    front ++ arrival :: back = sorted (arrivals ++ [arrival]) := by
  have order := pairwise_sorted arrivals
  rw [split, List.pairwise_append] at order
  obtain ⟨frontOrder, backOrder, across⟩ := order
  have higher : ∀ other ∈ back, ¬ arrival.priority < other.priority := fun other member =>
    (Priority.not_lt_total _ _).resolve_right (not_not_intro (lower other member))
  refine eq_sorted ?_ fun priority => ?_
  · refine List.pairwise_append.mpr ⟨frontOrder, List.pairwise_cons.mpr
      ⟨fun other member => mayPrecede_iff.mpr (higher other member), backOrder⟩, ?_⟩
    intro other isFront next isNext
    rcases List.mem_cons.mp isNext with rfl | isBack
    · exact mayPrecede_iff.mpr (notLower other isFront)
    · exact across other isFront next isBack
  · have classes := filter_sorted arrivals priority
    rw [split, List.filter_append] at classes
    rw [List.filter_append, List.filter_append, ← classes]
    by_cases own : arrival.priority = priority
    · have none : back.filter (fun other => other.priority = priority) = [] := by
        refine List.filter_eq_nil_iff.mpr fun other member same => ?_
        have isLower := lower other member
        rw [own, of_decide_eq_true same] at isLower
        exact (Priority.not_lt_total priority priority).elim (· isLower) (· isLower)
      rw [List.filter_cons_of_pos (by simpa using own), none, List.append_nil,
        List.filter_cons_of_pos (by simpa using own), List.filter_nil]
    · rw [List.filter_cons_of_neg (by simpa using own),
        List.filter_cons_of_neg (by simpa using own), List.filter_nil, List.append_nil]

end Arrival

/-- In a queue in order, a requisition is put behind everything that is not lower and before
everything that is. -/
theorem Requisition.insert_sorted (requisition : Requisition) {queue : List Requisition}
    (order : (queue.map arrival).Pairwise
      fun first second => first.mayPrecede second = true) :
    ∃ front back, queue = front ++ back ∧
      requisition.insert queue = front ++ requisition :: back ∧
      (∀ other ∈ front, ¬ other.priority < requisition.priority) ∧
      ∀ other ∈ back, other.priority < requisition.priority := by
  obtain ⟨front, back, rfl, inserted, notLower, isLower⟩ := requisition.insert_split queue
  have headLower : ∀ other ∈ (back.map arrival).head?,
      other.priority < requisition.arrival.priority := by
    intro head isHead
    rw [List.head?_map] at isHead
    obtain ⟨first, isFirst, rfl⟩ := Option.map_eq_some_iff.mp isHead
    exact isLower first isFirst
  rw [List.map_append, List.pairwise_append] at order
  refine ⟨front, back, rfl, inserted, notLower, fun other member => ?_⟩
  exact Arrival.lower_of_head? order.2.1 headLower other.arrival (List.mem_map_of_mem member)

end Admission
