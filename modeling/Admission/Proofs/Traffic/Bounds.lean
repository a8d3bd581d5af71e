import Admission.Proofs.Traffic.Committed
import Admission.Proofs.Traffic.Replay

/-!
# Bounds of committed space

A scan grants no more than what the reserved space ahead of a requisition leaves, and reserved
space further back does not count for it.  So committed space stays within the capacity, and
within half of it as long as only requesters that wait are granted any, in exactly those runs
in which every step that overtakes leaves it there (`committed_within_capacity_iff`,
`committed_within_half_iff`).

There are steps that overtake and do not.  A requisition of high priority is granted all that
is not occupied, although a serviced one behind it has a part of that reserved, and a large
pending one is granted when space is freed, although a smaller one behind it was before.
-/

namespace Admission

section Bounds

variable {σ : Type} [Store σ] [Accounted σ] {limits : Direction → Medium → Int}
  {first : Traffic σ} {run : List (Traffic σ)} {direction : Direction} {medium : Medium}

/-- The second of two neighbours is not the first of all. -/
theorem mem_tail_of_neighbours {α : Type} {before after head : α} {rest : List α}
    (neighbours : [before, after] <:+: head :: rest) : after ∈ rest := by
  obtain ⟨front, back, split⟩ := neighbours
  cases front with
  | nil =>
      simp only [List.nil_append, List.cons_append, List.cons.injEq] at split
      rw [← split.2]
      exact List.mem_cons_self
  | cons other front =>
      simp only [List.cons_append, List.cons.injEq] at split
      rw [← split.2]
      simp

/-- Along a run committed space stays within a bound that is kept by the budgets of what is
granted, as long as it does where a step overtakes. -/
theorem Orderly.committed_le_of_overtaking (orderly : Orderly limits first)
    (steps : Run first run) {bound : Int} (within : first.committed direction medium ≤ bound)
    (draws : ∀ later ∈ run, ∀ requisition ∈ later.queue direction,
      requisition.serviced = true →
      (if requisition.blocking then limits direction medium / 2 else limits direction medium) ≤
        bound)
    (overtaking : ∀ before after, [before, after] <:+: first :: run →
      Overtakes before after direction medium → after.committed direction medium ≤ bound) :
    ∀ later ∈ run, later.committed direction medium ≤ bound := by
  induction run generalizing first with
  | nil =>
      rintro later ⟨⟩
  | cons next rest induction =>
      obtain ⟨step, others⟩ := List.isChain_cons_cons.mp steps
      have nextWithin : next.committed direction medium ≤ bound := by
        by_cases overtakes : Overtakes first next direction medium
        · exact overtaking first next ⟨[], rest, rfl⟩ overtakes
        · exact orderly.committed_step_le step within
            (fun requisition queued serviced _ =>
              draws next List.mem_cons_self requisition queued serviced) overtakes
      intro later member
      rcases List.mem_cons.mp member with rfl | inRest
      · exact nextWithin
      · refine induction (orderly.step step) others nextWithin ?_ ?_ later inRest
        · exact fun found inside => draws found (List.mem_cons_of_mem _ inside)
        · exact fun before after neighbours =>
            overtaking before after (neighbours.trans (List.infix_cons (List.infix_refl _)))

/-- Nothing is committed when nobody has used a controller in front of an empty store. -/
theorem Traffic.committed_start {store : σ} (empty : Accounted.objects store = [])
    (slots : Nat) (direction : Direction) (medium : Medium) :
    (Traffic.start store slots).committed direction medium = 0 := by
  have noObjects : (Traffic.start store slots).objects = [] := empty
  rw [committed, occupancy, noObjects, occupied_nil]
  cases direction <;> rfl

/-- Committed space stays within the capacity of a direction and medium in exactly those runs in
which it does whenever a step overtakes.  A run begins with an empty store and nobody there. -/
theorem committed_within_capacity_iff {store : σ} {slots : Nat}
    (sound : Accounted.Sound store) (empty : Accounted.objects store = [])
    (steps : Run (Traffic.start store slots) run)
    (valid : 0 ≤ Accounted.limit store direction medium) :
    (∀ later ∈ run,
        later.committed direction medium ≤ Accounted.limit store direction medium) ↔
      ∀ before after, [before, after] <:+: Traffic.start store slots :: run →
        Overtakes before after direction medium →
          after.committed direction medium ≤ Accounted.limit store direction medium := by
  constructor
  · exact fun within before after neighbours _ => within after (mem_tail_of_neighbours neighbours)
  · refine (Orderly.start sound empty slots).committed_le_of_overtaking steps ?_ ?_
    · rw [Traffic.committed_start empty]
      exact valid
    · intro later _ requisition _ _
      split <;> omega

/-- An object is destroyed for which a requester has waited, and the next creation overtakes
that one. -/
def overcommitting : List Move :=
  Move.createFile 1 80 ⟨1, 0⟩ none (.ofParts 1 1) (.ofNat 1) ++
  [.makeAttendant, .request .outbound (.ofFile 40) ⟨1, 0⟩ (some ⟨0⟩)] ++
  Move.destroyOutbound (.ofNat 1) ++
  Move.createFile 2 70 ⟨9, 0⟩ none (.ofParts 2 1) (.ofNat 2)

theorem ofFileLimit_hundred_valid (direction : Direction) (medium : Medium) :
    0 ≤ Accounted.limit (MemoryStore.ofFileLimit 100) direction medium := by
  cases direction <;> cases medium <;> decide

theorem overcommitting_exceeds :
    ∃ later ∈ Traffic.hundred.replay overcommitting,
      Accounted.limit (MemoryStore.ofFileLimit 100) .outbound .file <
        later.committed .outbound .file := by
  decide +kernel

/-- Committed space does not stay within every capacity in every run. -/
theorem committed_beyond_capacity :
    ¬ ∀ (store : MemoryStore) (slots : Nat) (run : List (Traffic MemoryStore)),
      store.objects = [] → Run (Traffic.start store slots) run →
      (∀ direction medium, 0 ≤ Accounted.limit store direction medium) →
      ∀ later ∈ run, ∀ direction medium,
        later.committed direction medium ≤ Accounted.limit store direction medium := by
  intro within
  obtain ⟨later, inRun, exceeds⟩ := overcommitting_exceeds
  have less := within (.ofFileLimit 100) 1024 _ rfl (Traffic.replay_run _ overcommitting)
    ofFileLimit_hundred_valid later inRun .outbound .file
  omega

/-- A step overtakes where a run leaves the capacity. -/
theorem overcommitting_overtakes :
    ∃ before after,
      [before, after] <:+: Traffic.hundred :: Traffic.hundred.replay overcommitting ∧
      Overtakes before after .outbound .file ∧
      Accounted.limit (MemoryStore.ofFileLimit 100) .outbound .file <
        after.committed .outbound .file := by
  by_contra nowhere
  have within := (committed_within_capacity_iff trivial rfl
    (Traffic.replay_run _ overcommitting) (ofFileLimit_hundred_valid .outbound .file)).mpr (by
      intro before after neighbours overtakes
      by_contra exceeds
      exact nowhere ⟨before, after, neighbours, overtakes, Int.not_le.mp exceeds⟩)
  obtain ⟨later, inRun, exceeds⟩ := overcommitting_exceeds
  have less := within later inRun
  omega

/-! ## What is kept for requesters that do not wait -/

/-- A requisition that is not serviced by a pass did not fit beside what the pass serviced ahead
of it, which is all still in the queue when it is gone. -/
theorem exists_front_of_pending {share : Share} {queue : List Requisition}
    {requisition : Requisition}
    (fresh : requisition.slot ∉ queue.map Requisition.slot)
    (pending : ∀ other ∈ grantAll share (requisition.insert queue),
      other.slot = requisition.slot → other.serviced = false) :
    ∃ front, front.Sublist ((grantAll share (requisition.insert queue)).filter
        fun other => other.slot ≠ requisition.slot) ∧
      requisition.fits (share.less (reserved [] front)) = false := by
  obtain ⟨front, back, rfl, inserted⟩ := requisition.insert_eq queue
  rw [inserted, grantAll_append] at pending ⊢
  rcases grantAll_cons_cases (share.less (reserved [] (grantAll share front))) requisition back
    with ⟨-, equation⟩ | ⟨-, unfit, -⟩
  · rw [equation] at pending
    have serviced := pending requisition.granted
      (List.mem_append_right _ List.mem_cons_self) rfl
    cases serviced
  · refine ⟨grantAll share front, ?_, unfit⟩
    have stays : ∀ other ∈ grantAll share front,
        decide (other.slot ≠ requisition.slot) = true := by
      intro other member
      refine decide_eq_true fun same => fresh ?_
      have listed : other.slot ∈ (grantAll share front).map Requisition.slot :=
        List.mem_map_of_mem member
      rw [map_slot_grantAll, same] at listed
      rw [List.map_append]
      exact List.mem_append_left _ listed
    rw [List.filter_append, List.filter_eq_self.mpr stays]
    exact List.sublist_append_left _ _

/-- A requester that does not wait and is turned away found too little on some medium. -/
theorem Orderly.exists_short_of_pending {traffic : Traffic σ} (orderly : Orderly limits traffic)
    {requisition : Requisition} {taken : SlotPool} {share : Share}
    (joins : Joins traffic.controller.ledger requisition taken)
    (alone : requisition.attendant = none)
    (offers : Budget.Offers traffic.controller.store direction share)
    (pending : ((traffic.controller.ledger.joined direction requisition taken).granting direction
      share).isServiced direction requisition.slot = false) :
    ∃ medium, limits direction medium - traffic.occupancy direction medium -
        reserved [] ((((traffic.controller.ledger.joined direction requisition taken).granting
          direction share).remove direction requisition.slot).queue direction) medium <
      requisition.need medium := by
  have passed := (orderly.ledger.joined joins direction).granting direction share
  have stillPending : ∀ other ∈ grantAll share (requisition.insert (traffic.queue direction)),
      other.slot = requisition.slot → other.serviced = false := by
    intro other member same
    by_contra serviced
    have inPassed : other ∈ ((traffic.controller.ledger.joined direction requisition
        taken).granting direction share).queue direction := by
      rwa [Ledger.queue_granting_self, Ledger.queue_joined_self]
    rw [passed.isServiced_iff.mpr ⟨other, inPassed, same, by simpa using serviced⟩] at pending
    cases pending
  obtain ⟨front, part, unfit⟩ := exists_front_of_pending
    (orderly.ledger.fresh_of_take joins.spare joins.took direction) stillPending
  have nonneg : ∀ medium, ∀ other ∈ (grantAll share (requisition.insert
      (traffic.queue direction))).filter (fun other => other.slot ≠ requisition.slot),
      0 ≤ other.need medium := by
    intro medium other member
    refine nonneg_grantAll (fun found inside => ?_) other (List.mem_filter.mp member).1
    rcases Requisition.mem_insert.mp inside with rfl | queued
    · exact (Space.valid_iff _).mp joins.valid medium
    · exact orderly.valid direction found queued medium
  obtain ⟨medium, short⟩ := (Requisition.fits_eq_false_iff _ _).mp unfit
  have less : reserved [] front medium ≤ reserved [] _ medium :=
    reserved_sublist_le (nonneg medium) part fun _ member => member
  have whole : requisition.blocking = false := by simp [Requisition.blocking, alone]
  rw [Share.less_apply, orderly.share_eq offers, Traffic.share, Share.of_apply, whole,
    if_neg Bool.false_ne_true] at short
  refine ⟨medium, ?_⟩
  rw [Ledger.queue_remove_self, Ledger.queue_granting_self, Ledger.queue_joined_self]
  unfold Traffic.queue at less
  omega

/-- A requester that does not wait is granted what the upper half of each capacity has, if its
request leaves no more than the lower half committed. -/
theorem Orderly.granted_of_within_half {traffic : Traffic σ} (orderly : Orderly limits traffic)
    (nobodyStores : traffic.storedSlots direction = []) {needed : Space}
    (valid : needed.valid = true)
    (room : ∀ medium, (needed.get medium).value ≤
      limits direction medium - limits direction medium / 2)
    (free : traffic.controller.ledger.pool.inUse < traffic.controller.ledger.pool.limit)
    (spare : traffic.controller.ledger.pool.Spare)
    (answers : ¬ Unanswered traffic.controller.store direction) {priority : Priority}
    {answer : Except Refusal Answer} {final : Controller σ}
    (ended : Action.attempt (Action.request direction needed priority none)
      traffic.controller = .ok answer final)
    (within : ∀ medium, (traffic.acted final).committed direction medium ≤
      limits direction medium / 2) :
    answer = .ok .granted := by
  cases Action.submission_of_attempt ended with
  | invalid invalid =>
      rw [valid] at invalid
      cases invalid
  | exhausted _ full =>
      unfold SlotPool.take at full
      rw [if_neg (by omega)] at full
      split at full <;> cases full
  | @unanswered slot taken error medium _ took stopped =>
      exact absurd ⟨error, medium, stopped⟩ answers
  | granted _ took offers isScanned serviced released => rfl
  | queued _ took offers isScanned outcome =>
      rcases outcome with ⟨-, impossible⟩ | ⟨-, impossible⟩ <;> cases impossible
  | @notServiceable slot taken share scanned _ took offers isScanned pending alone =>
      subst isScanned
      have joins : Joins traffic.controller.ledger ⟨slot, needed, priority, none, false⟩ taken :=
        ⟨valid, rfl, spare, took⟩
      obtain ⟨medium, short⟩ : ∃ medium, limits direction medium -
          traffic.occupancy direction medium - reserved [] (((traffic.controller.ledger.joined
            direction ⟨slot, needed, priority, none, false⟩ taken).granting direction
              share).remove direction slot |>.queue direction) medium <
          (needed.get medium).value :=
        orderly.exists_short_of_pending joins rfl offers pending
      have half : traffic.occupancy direction medium + reserved (traffic.storedSlots direction)
          (((traffic.controller.ledger.joined direction ⟨slot, needed, priority, none, false⟩
            taken).granting direction share).remove direction slot |>.queue direction) medium ≤
          limits direction medium / 2 := within medium
      have own := room medium
      rw [nobodyStores] at half
      omega

/-- As long as only requesters that wait are granted space of a direction, committed space stays
within half of the capacity in exactly those runs in which it does whenever a step overtakes.
In such a run a requester that does not wait is granted what the upper half of each capacity
has, at any priority and whatever is queued, unless a creation that has stored its object still
holds its ticket, no slot is free or the store does not answer. -/
theorem committed_within_half_iff {store : σ} {slots : Nat} (sound : Accounted.Sound store)
    (empty : Accounted.objects store = []) (steps : Run (Traffic.start store slots) run)
    (valid : ∀ medium, 0 ≤ Accounted.limit store direction medium)
    (blocking : ∀ later ∈ run, ∀ requisition ∈ later.queue direction,
      requisition.serviced = true → requisition.blocking = true) :
    (∀ medium, (∀ later ∈ run, later.committed direction medium ≤
        Accounted.limit store direction medium / 2) ↔
      ∀ before after, [before, after] <:+: Traffic.start store slots :: run →
        Overtakes before after direction medium →
          after.committed direction medium ≤ Accounted.limit store direction medium / 2) ∧
    ((∀ medium, ∀ later ∈ run, later.committed direction medium ≤
        Accounted.limit store direction medium / 2) →
      ∀ before, ∀ needed priority answer final,
        [before, before.acted final] <:+: Traffic.start store slots :: run →
        Action.attempt (Action.request direction needed priority none) before.controller =
          .ok answer final →
        needed.valid = true →
        (∀ medium, (needed.get medium).value ≤ Accounted.limit store direction medium -
          Accounted.limit store direction medium / 2) →
        before.storedSlots direction = [] →
        before.controller.ledger.pool.inUse < before.controller.ledger.pool.limit →
        before.controller.ledger.pool.Spare →
        ¬ Unanswered before.controller.store direction →
        answer = .ok .granted) := by
  have start := Orderly.start sound empty slots
  constructor
  · intro medium
    constructor
    · exact fun within before after neighbours _ => within after (mem_tail_of_neighbours neighbours)
    · refine start.committed_le_of_overtaking steps ?_ ?_
      · rw [Traffic.committed_start empty]
        have := valid medium
        omega
      · intro later member requisition queued serviced
        rw [if_pos (blocking later member requisition queued serviced)]
  · intro within before needed priority answer final neighbours ended isValid room nobodyStores
      free spare answers
    have orderly : Orderly (Accounted.limit store) before := by
      have member : before ∈ Traffic.start store slots :: run :=
        neighbours.subset List.mem_cons_self
      rcases List.mem_cons.mp member with rfl | inRun
      · exact start
      · exact start.run steps before inRun
    exact orderly.granted_of_within_half nobodyStores isValid room free spare answers ended
      fun medium => within medium _ (mem_tail_of_neighbours neighbours)

/-- Two objects of which one waits for each are destroyed in turn, and what is freed goes to the
requester with less need first. -/
def halfExceeding : List Move :=
  [.makeAttendant] ++
  Move.createFile 1 20 ⟨1, 0⟩ (some ⟨0⟩) (.ofParts 1 1) (.ofNat 1) ++
  Move.createFile 2 20 ⟨1, 0⟩ (some ⟨0⟩) (.ofParts 1 3) (.ofNat 2) ++
  [.makeAttendant, .makeAttendant, .request .outbound (.ofFile 40) ⟨1, 0⟩ (some ⟨1⟩),
    .request .outbound (.ofFile 25) ⟨1, 0⟩ (some ⟨2⟩)] ++
  Move.destroyOutbound (.ofNat 1) ++ Move.destroyOutbound (.ofNat 2)

/-- Committed space does not stay within half of every capacity, even in runs in which only
requesters that wait are granted any. -/
theorem committed_beyond_half :
    ¬ ∀ (store : MemoryStore) (slots : Nat) (run : List (Traffic MemoryStore)),
      store.objects = [] → Run (Traffic.start store slots) run →
      (∀ direction medium, 0 ≤ Accounted.limit store direction medium) →
      (∀ later ∈ run, ∀ direction, ∀ requisition ∈ later.queue direction,
        requisition.serviced = true → requisition.blocking = true) →
      ∀ later ∈ run, ∀ direction medium,
        later.committed direction medium ≤ Accounted.limit store direction medium / 2 := by
  intro within
  have blocking : ∀ later ∈ Traffic.hundred.replay halfExceeding, ∀ direction,
      ∀ requisition ∈ later.queue direction,
        requisition.serviced = true → requisition.blocking = true := by
    intro later inRun direction
    revert later
    cases direction <;> decide +kernel
  have exceeded : ∃ later ∈ Traffic.hundred.replay halfExceeding,
      Accounted.limit (MemoryStore.ofFileLimit 100) .outbound .file / 2 <
        later.committed .outbound .file := by
    decide +kernel
  obtain ⟨later, inRun, exceeds⟩ := exceeded
  have less := within (.ofFileLimit 100) 1024 _ rfl (Traffic.replay_run _ halfExceeding)
    ofFileLimit_hundred_valid blocking later inRun .outbound .file
  omega

/-- An object is created for a requester that waits, and one that does not wait asks for the
upper half. -/
def halfKept : List Move :=
  .makeAttendant :: Move.createFile 1 40 ⟨1, 0⟩ (some ⟨0⟩) (.ofParts 1 1) (.ofNat 1) ++
  [.request .outbound (.ofFile 50) ⟨0, 0⟩ none]

/-- Half of the capacity is kept by that run, and the upper half is granted. -/
theorem halfKept_granted :
    (∀ before after,
      [before, after] <:+: Traffic.hundred :: Traffic.hundred.replay halfKept →
      Overtakes before after .outbound .file →
      after.committed .outbound .file ≤
        Accounted.limit (MemoryStore.ofFileLimit 100) .outbound .file / 2) ∧
    ∃ before final,
      [before, before.acted final] <:+: Traffic.hundred :: Traffic.hundred.replay halfKept ∧
      Action.attempt (Action.request .outbound (.ofFile 50) ⟨0, 0⟩ none) before.controller =
        .ok (.ok .granted) final := by
  have blocking : ∀ later ∈ Traffic.hundred.replay halfKept,
      ∀ requisition ∈ later.queue .outbound,
        requisition.serviced = true → requisition.blocking = true := by
    decide +kernel
  have within : ∀ medium, ∀ later ∈ Traffic.hundred.replay halfKept,
      later.committed .outbound medium ≤
        Accounted.limit (MemoryStore.ofFileLimit 100) .outbound medium / 2 := by
    intro medium
    cases medium <;> decide +kernel
  have room : ∀ medium, ((Space.ofFile 50).get medium).value ≤
      Accounted.limit (MemoryStore.ofFileLimit 100) .outbound medium -
        Accounted.limit (MemoryStore.ofFileLimit 100) .outbound medium / 2 := by
    intro medium
    cases medium <;> decide
  have bounds := committed_within_half_iff trivial rfl (Traffic.replay_run _ halfKept)
    (ofFileLimit_hundred_valid .outbound) blocking
  refine ⟨(bounds.1 .file).mp (within .file), ?_⟩
  obtain ⟨before, answer, final, neighbours, ended, nobodyStores, free, spare⟩ :
      ∃ before answer final,
        [before, before.acted final] <:+: Traffic.hundred :: Traffic.hundred.replay halfKept ∧
        Action.attempt (Action.request .outbound (.ofFile 50) ⟨0, 0⟩ none) before.controller =
          .ok answer final ∧
        before.storedSlots .outbound = [] ∧
        before.controller.ledger.pool.inUse < before.controller.ledger.pool.limit ∧
        before.controller.ledger.pool.Spare :=
    ⟨(Traffic.hundred.replay halfKept).getD 5 .hundred, _, _,
      ⟨Traffic.hundred :: (Traffic.hundred.replay halfKept).take 5, [], rfl⟩,
      rfl, by decide +kernel, by decide +kernel, by decide +kernel⟩
  have granted := bounds.2 within before _ _ answer final neighbours ended (by decide) room
    nobodyStores free spare (MemoryStore.answers _ _)
  exact ⟨before, final, neighbours, granted ▸ ended⟩

end Bounds

end Admission
