import Admission.Proofs.Traffic.Replay
import Admission.Proofs.Traffic.Runs

/-!
# Nobody is parked who fits

A queue is settled for what its direction has left unless an object was removed and the scan
that follows has not come yet.  Turns settle the queue that they go over, for what they saw; what
objects take only grows from then on, and what leaves without a scan has reserved nothing.

`no_requisition_parked_that_fits` states this for runs in front of the store in memory, which
answers every question of a scan.
-/

namespace Admission

/-! ## Handling a settled queue -/

/-- Of the requisitions with different slots, taking one off by its slot leaves the others. -/
theorem filter_slot_of_nodup {front back : List Requisition} {requisition : Requisition}
    (distinct : ((front ++ requisition :: back).map Requisition.slot).Nodup) :
    (front ++ requisition :: back).filter (fun other => other.slot ≠ requisition.slot) =
      front ++ back := by
  have others : ∀ other ∈ front ++ back, decide (other.slot ≠ requisition.slot) = true := by
    intro other member
    have apart := (List.perm_middle.map Requisition.slot).nodup_iff.mp distinct
    rw [List.map_cons, List.nodup_cons] at apart
    exact decide_eq_true fun same => apart.1 (List.mem_map.mpr ⟨other, member, same⟩)
  rw [List.filter_append, List.filter_cons_of_neg (by simp), ← List.filter_append,
    List.filter_eq_self.mpr others]

/-- Who is pending in a settled queue needs more of some medium than is left of the budget. -/
theorem Settled.exists_short {capacity occupancy : Medium → Int}
    {queue front back : List Requisition} {requisition : Requisition}
    (settled : Settled (.of capacity occupancy) queue)
    (split : queue = front ++ requisition :: back)
    (pending : requisition.serviced = false) :
    ∃ medium, max 0 ((if requisition.blocking then capacity medium / 2 else capacity medium) -
        occupancy medium - reserved [] front medium) < requisition.need medium := by
  have unfit := (settled_iff _ _).mp settled front requisition back split pending
  obtain ⟨medium, short⟩ := (Requisition.fits_eq_false_iff _ _).mp unfit
  rw [Share.less_apply, Share.of_apply] at short
  exact ⟨medium, short⟩

/-- A scan of a settled queue services nothing and leaves everything as it is. -/
theorem Action.scan_of_settled {σ : Type} [Store σ] {controller : Controller σ}
    {direction : Direction} (answers : ¬ Unanswered controller.store direction)
    (settled : ∀ share, Budget.Offers controller.store direction share →
      Settled share (controller.ledger.queue direction))
    (exact : ∀ kind final, scan direction controller ≠ .error (.overflow kind) final) :
    scan direction controller = .ok 0 (controller.record
      [.note (.scanStarted direction (controller.ledger.queue direction).length)]) := by
  cases outcome : scan direction controller with
  | error failure final =>
      cases failure with
      | overflow kind => exact absurd outcome (exact kind final)
      | refused refusal =>
          obtain ⟨-, error, medium, -, stopped⟩ := scan_eq_refused outcome
          exact absurd ⟨error, medium, stopped⟩ answers
  | ok serviced final =>
      obtain ⟨share, offers, rfl, rfl⟩ := scan_eq_ok outcome
      have same : grantAll share (controller.ledger.queue direction) =
          controller.ledger.queue direction := settled share offers
      rw [Controller.scanned, same, turnedOn_self, Controller.walked_settled]
      rfl

/-- Handling a settled queue leaves it settled for all that was seen and everything less. -/
theorem Handled.settled {offers : Share → Prop} {unanswered : Prop} {direction : Direction}
    {ledger after : Ledger} {came : Option Requisition} {gone : Option SlotId}
    {share later : Share}
    (handled : Handled offers unanswered direction ledger came gone after)
    (wellFormed : ledger.WellFormed) (answered : ¬ unanswered)
    (seen : ∀ found, offers found → ∀ blocking medium,
      found blocking medium ≤ share blocking medium ∧
        later blocking medium ≤ found blocking medium)
    (shrunk : ∀ blocking medium, later blocking medium ≤ share blocking medium)
    (settled : Settled share (ledger.queue direction)) :
    Settled later (after.queue direction) := by
  have passes : ∀ {found : Share}, offers found → ∀ queue, Settled later (grantAll found queue) :=
    fun offered queue => (settled_grantAll _ queue).mono fun blocking medium =>
      (seen _ offered blocking medium).2
  cases handled with
  | same => exact settled.mono shrunk
  | absent missing => exact settled.mono shrunk
  | unscanned stopped => exact absurd stopped answered
  | scanned offered =>
      rw [Ledger.queue_granting_self]
      exact passes offered _
  | withdrawn stopped joins => exact absurd stopped answered
  | @passed requisition taken found offered joins =>
      have fresh := wellFormed.fresh_of_take joins.spare joins.took direction
      have own : Settled found (ledger.queue direction) :=
        settled.mono fun blocking medium => (seen found offered blocking medium).1
      have nonneg := (Space.valid_iff _).mp joins.valid
      have distinct := (wellFormed.joined joins direction).queue_nodup direction
      rw [Ledger.queue_joined_self] at distinct
      rw [Ledger.queue_remove_self, Ledger.queue_granting_self, Ledger.queue_joined_self]
      obtain ⟨front, back, split, inserted⟩ := requisition.insert_eq (ledger.queue direction)
      rw [split] at own settled
      rw [inserted] at distinct ⊢
      have rest : (grantAll found (front ++ requisition :: back)).filter
          (fun other => other.slot ≠ requisition.slot) = front ++ back := by
        have same : ((front ++ { requisition with
            serviced := requisition.fits (found.less (reserved [] front)) } :: back).map
              Requisition.slot).Nodup := by
          simpa using distinct
        rw [own.grantAll_insert nonneg joins.pending]
        exact filter_slot_of_nodup same
      rw [rest]
      exact settled.mono shrunk
  | queued offered joins =>
      rw [Ledger.queue_granting_self]
      exact passes offered _
  | @left slot requisition found pending =>
      have isSlot : requisition.slot = slot := by simpa using List.find?_some found
      subst isSlot
      obtain ⟨front, back, split⟩ := List.append_of_mem (List.mem_of_find?_eq_some found)
      have distinct := wellFormed.queue_nodup direction
      rw [Ledger.queue_remove_self]
      rw [split] at distinct settled ⊢
      rw [filter_slot_of_nodup distinct]
      exact (settled.remove_pending pending).mono shrunk
  | leftUnscanned stopped found serviced => exact absurd stopped answered
  | leftScanned offered found serviced =>
      rw [Ledger.queue_granting_self]
      exact passes offered _

/-! ## Runs -/

/-- A turn leaves the removals as they were, or it is the scan after one of them. -/
theorem Turn.removals {σ : Type} [Store σ] {before between after : Traffic σ}
    {see : Glimpses σ} (turn : Turn before between see after) :
    after.removals = between.removals ∨
      ∃ removal ∈ before.removals, removal ∈ between.removals ∧
        after.removals = between.removals.erase removal ∧
        (Unanswered see removal.direction ∨ ∃ share,
          Budget.Offers see removal.direction share ∧
          after.queue removal.direction = grantAll share (between.queue removal.direction)) := by
  cases turn with
  | @rescan removal outcome final remarks wasRemoved isRemoved ended =>
      refine Or.inr ⟨removal, wasRemoved, isRemoved, rfl, ?_⟩
      rcases Action.rescan_of_attempt ended with ⟨share, offers, isScanned⟩ | ⟨-, stopped⟩
      · refine Or.inr ⟨share, offers, ?_⟩
        subst isScanned
        exact Ledger.queue_setQueue_self _ _ _
      · exact Or.inl stopped
  | _ => exact Or.inl rfl

/-- A scan is answered if every store answers. -/
theorem Glimpses.answered {σ : Type} [Store σ]
    (answers : ∀ (store : σ) (direction : Direction), ¬ Unanswered store direction)
    (see : Glimpses σ) (direction : Direction) : ¬ Unanswered see direction := by
  rintro ⟨error, medium, stopped | stopped⟩
  · exact answers (see.capacityAt medium) direction ⟨error, medium, Or.inl stopped⟩
  · exact answers (see.occupancyAt medium) direction ⟨error, medium, Or.inr stopped⟩

section Parked

variable {σ : Type} [Store σ] [Accounted σ] {limits : Direction → Medium → Int}
  {before between after traffic : Traffic σ} {see : Glimpses σ} {direction : Direction}

/-- No object of a direction was removed without a scan after it. -/
def Traffic.Scanned (traffic : Traffic σ) (direction : Direction) : Prop :=
  ∀ removal ∈ traffic.removals, removal.direction ≠ direction

theorem Share.of_anti {capacity occupancy less : Medium → Int} {medium : Medium}
    (smaller : less medium ≤ occupancy medium) (blocking : Bool) :
    Share.of capacity occupancy blocking medium ≤ Share.of capacity less blocking medium := by
  unfold Share.of
  split <;> omega

/-- Where nothing was removed, asides only add to what objects take. -/
theorem Orderly.occupancy_mono (orderly : Orderly limits before) (asides : Asides before after) :
    ∃ removed, after.removals = removed ++ before.removals ∧
      ∀ direction, (∀ removal ∈ removed, removal.direction ≠ direction) →
        ∀ medium, before.occupancy direction medium ≤ after.occupancy direction medium := by
  induction asides with
  | refl => exact ⟨[], rfl, fun direction _ medium => Int.le_refl _⟩
  | @tail moment last earlier aside induction =>
      obtain ⟨removed, removals, grows⟩ := induction
      have moments := orderly.asides earlier
      cases (moments.aside aside).2 with
      | kept occupancy stored sameRemovals =>
          refine ⟨removed, sameRemovals.trans removals, fun direction none_there medium => ?_⟩
          rw [occupancy]
          exact grows direction none_there medium
      | stored ticket requisition held queued same serviced unstored occupancy stored
          sameRemovals =>
          refine ⟨removed, sameRemovals.trans removals, fun direction none_there medium => ?_⟩
          have nonneg := moments.valid ticket.direction requisition queued medium
          have less := grows direction none_there medium
          rw [occupancy]
          split <;> omega
      | removed removal less others stored moreRemovals =>
          refine ⟨removal :: removed, by rw [moreRemovals, removals, List.cons_append],
            fun direction none_there medium => ?_⟩
          have elsewhere : direction ≠ removal.direction :=
            (none_there removal List.mem_cons_self).symm
          rw [others direction elsewhere]
          exact grows direction
            (fun other member => none_there other (List.mem_cons_of_mem _ member)) medium

/-- A scan finds no more than what was left when its turn began, and no less than what is left
when it ends, if nothing was removed meanwhile. -/
theorem Glimpsed.share_between (glimpsed : Glimpsed before between see)
    (orderly : Orderly limits before) {removed : List Removal}
    (removals : between.removals = removed ++ before.removals)
    (nothing : ∀ removal ∈ removed, removal.direction ≠ direction) {share : Share}
    (offers : Budget.Offers see direction share) (blocking : Bool) (medium : Medium) :
    share blocking medium ≤ before.share limits direction blocking medium ∧
      between.share limits direction blocking medium ≤ share blocking medium := by
  obtain ⟨occupancy, rfl, moments⟩ := glimpsed.share_eq orderly offers
  obtain ⟨moment, earlier, later, isMoment⟩ := moments medium
  obtain ⟨first, firstRemovals, firstGrows⟩ := orderly.occupancy_mono earlier
  obtain ⟨second, secondRemovals, secondGrows⟩ := (orderly.asides earlier).occupancy_mono later
  have parts : removed = second ++ first := by
    rw [secondRemovals, firstRemovals, ← List.append_assoc] at removals
    exact (List.append_cancel_right removals).symm
  rw [parts] at nothing
  refine ⟨Share.of_anti ?_ blocking, Share.of_anti ?_ blocking⟩
  · rw [isMoment]
    exact firstGrows direction
      (fun removal member => nothing removal (List.mem_append_right _ member)) medium
  · rw [isMoment]
    exact secondGrows direction
      (fun removal member => nothing removal (List.mem_append_left _ member)) medium

/-- What is left shrinks as long as nothing is removed. -/
theorem Orderly.share_anti (orderly : Orderly limits before) (asides : Asides before after)
    (scanned : after.Scanned direction) :
    before.Scanned direction ∧ ∀ blocking medium,
      after.share limits direction blocking medium ≤
        before.share limits direction blocking medium := by
  obtain ⟨removed, removals, grows⟩ := orderly.occupancy_mono asides
  unfold Traffic.Scanned at scanned ⊢
  rw [removals] at scanned
  refine ⟨fun removal member => scanned removal (List.mem_append_right _ member),
    fun blocking medium => Share.of_anti ?_ blocking⟩
  exact grows direction
    (fun removal member => scanned removal (List.mem_append_left _ member)) medium

namespace TurnEffect

variable {came : Option Requisition} {gone : Option Ticket} {handledDirection : Direction}

theorem share_eq (effect : TurnEffect before between see handledDirection came gone after)
    (direction : Direction) : after.share limits direction = between.share limits direction := by
  unfold Traffic.share
  congr 1
  funext medium
  rw [Traffic.occupancy, effect.objects, Traffic.occupancy]

/-- A turn during which nothing was removed leaves a settled queue settled. -/
theorem settled (effect : TurnEffect before between see handledDirection came gone after)
    (glimpsed : Glimpsed before between see) (orderly : Orderly limits before)
    (answered : ¬ Unanswered see handledDirection)
    (settled : before.Scanned direction →
      Settled (before.share limits direction) (before.queue direction))
    (scanned : between.Scanned direction) :
    Settled (after.share limits direction) (after.queue direction) := by
  obtain ⟨was, shrunk⟩ := orderly.share_anti glimpsed.meanwhile scanned
  have own := settled was
  rw [← glimpsed.meanwhile.queue] at own
  rw [effect.share_eq]
  by_cases here : direction = handledDirection
  · subst here
    obtain ⟨removed, removals, -⟩ := orderly.occupancy_mono glimpsed.meanwhile
    have nothing : ∀ removal ∈ removed, removal.direction ≠ direction := by
      intro removal member
      refine scanned removal ?_
      rw [removals]
      exact List.mem_append_left _ member
    exact effect.handled.settled (orderly.asides glimpsed.meanwhile).ledger answered
      (fun found offers => glimpsed.share_between orderly removals nothing offers) shrunk own
  · have same : after.queue direction = between.queue direction :=
      effect.handled.queue_of_ne here
    rw [same]
    exact own.mono shrunk

end TurnEffect

/-- Where the store answers every question, a step leaves settled what is scanned.  After the scan
of a removal nothing else is removed in that direction, or it would be still to be scanned. -/
theorem Orderly.settled_step (orderly : Orderly limits before) (step : Step before after)
    (answers : ∀ (store : σ) (direction : Direction), ¬ Unanswered store direction)
    (settled : before.Scanned direction →
      Settled (before.share limits direction) (before.queue direction))
    (scanned : after.Scanned direction) :
    Settled (after.share limits direction) (after.queue direction) := by
  cases step with
  | aside aside =>
      obtain ⟨was, shrunk⟩ := orderly.share_anti (.single aside) scanned
      rw [Asides.queue (.single aside)]
      exact (settled was).mono shrunk
  | @turn _ between see glimpsed turn =>
      obtain ⟨handledDirection, came, gone, effect⟩ := turn.effect
      have answered := Glimpses.answered answers see
      rcases turn.removals with same | ⟨removal, wasRemoved, isRemoved, erased, stopped | scans⟩
      · unfold Traffic.Scanned at scanned
        rw [same] at scanned
        exact effect.settled glimpsed orderly (answered _) settled scanned
      · exact absurd stopped (answered _)
      · by_cases here : direction = removal.direction
        · subst here
          obtain ⟨share, offers, passed⟩ := scans
          obtain ⟨removed, removals, -⟩ := orderly.occupancy_mono glimpsed.meanwhile
          have nothing : ∀ other ∈ removed, other.direction ≠ removal.direction := by
            intro other member
            refine scanned other ?_
            rw [erased, removals]
            by_cases same : other = removal
            · subst same
              rw [List.erase_append_left _ member]
              exact List.mem_append_right _ wasRemoved
            · exact (List.mem_erase_of_ne same).mpr (List.mem_append_left _ member)
          rw [passed, effect.share_eq]
          exact (settled_grantAll share _).mono fun blocking medium =>
            (glimpsed.share_between orderly removals nothing offers blocking medium).2
        · refine effect.settled glimpsed orderly (answered _) settled fun other member => ?_
          by_cases same : other = removal
          · rw [same]
            exact fun there => here there.symm
          · refine scanned other ?_
            rw [erased]
            exact (List.mem_erase_of_ne same).mpr member

/-- Where the store answers every question, what is scanned is settled in every state of a
run. -/
theorem Orderly.settled_run {run : List (Traffic σ)} (orderly : Orderly limits traffic)
    (steps : Run traffic run)
    (answers : ∀ (store : σ) (direction : Direction), ¬ Unanswered store direction)
    (settled : traffic.Scanned direction →
      Settled (traffic.share limits direction) (traffic.queue direction)) :
    ∀ later ∈ run, later.Scanned direction →
      Settled (later.share limits direction) (later.queue direction) := by
  induction run generalizing traffic with
  | nil =>
      rintro later ⟨⟩
  | cons next rest induction =>
      obtain ⟨step, others⟩ := List.isChain_cons_cons.mp steps
      intro later member
      have nextSettled := fun scanned => orderly.settled_step step answers settled scanned
      rcases List.mem_cons.mp member with rfl | inRest
      · exact nextSettled
      · exact induction (orderly.step step) others nextSettled later inRest

end Parked

/-! ## The store in memory -/

/-- Nobody waits who fits.  In every state of a run in front of the store in memory, a pending
requisition of a direction needs more of some medium than its budget leaves beside the serviced
ones ahead of it, unless an object of the direction was removed and the scan after that has not
come yet.  So a scan would service nothing and leave everything as it is. -/
theorem no_requisition_parked_that_fits {store : MemoryStore} {slots : Nat}
    {run : List (Traffic MemoryStore)} (empty : store.objects = [])
    (steps : Run (Traffic.start store slots) run) :
    ∀ later ∈ Traffic.start store slots :: run, ∀ direction,
      (∀ removal ∈ later.removals, removal.direction ≠ direction) →
      (∀ front requisition back, later.queue direction = front ++ requisition :: back →
        requisition.serviced = false →
        ∃ medium, max 0 ((if requisition.blocking then
            ((store.limits direction).get medium).value / 2
          else ((store.limits direction).get medium).value) -
            later.occupancy direction medium - reserved [] front medium) <
          requisition.need medium) ∧
      ((∀ kind final, Action.scan direction later.controller ≠ .error (.overflow kind) final) →
        Action.scan direction later.controller = .ok 0 (later.controller.record
          [.note (.scanStarted direction (later.queue direction).length)])) := by
  have start : Orderly (Accounted.limit store) (Traffic.start store slots) :=
    Orderly.start trivial empty slots
  have nobody : ∀ direction, Settled ((Traffic.start store slots).share
      (Accounted.limit store) direction) ((Traffic.start store slots).queue direction) := by
    intro direction
    cases direction <;> exact settled_nil _
  intro later member direction scanned
  have orderly : Orderly (Accounted.limit store) later := by
    rcases List.mem_cons.mp member with rfl | inRun
    · exact start
    · exact start.run steps later inRun
  have settled : Settled (later.share (Accounted.limit store) direction)
      (later.queue direction) := by
    rcases List.mem_cons.mp member with rfl | inRun
    · exact nobody direction
    · exact start.settled_run steps MemoryStore.answers (fun _ => nobody direction) later inRun
        scanned
  constructor
  · intro front requisition back split pending
    exact settled.exists_short split pending
  · refine Action.scan_of_settled (MemoryStore.answers _ _) fun share offers => ?_
    rw [orderly.share_eq offers]
    exact settled

/-- An object is created, and then a requester waits for more than what half of the capacity has
beside that. -/
def waitingBeside : List Move :=
  .makeAttendant :: Move.createFile 1 40 ⟨1, 0⟩ (some ⟨0⟩) (.ofParts 1 1) (.ofNat 1) ++
  [.request .outbound (.ofFile 30) ⟨1, 0⟩ (some ⟨0⟩)]

/-- The requester of that run does not fit, and a scan services nobody. -/
theorem waitingBeside_parked :
    ∃ later ∈ Traffic.hundred.replay waitingBeside,
      ∃ requisition final, later.queue .outbound = [requisition] ∧
        requisition.serviced = false ∧
        (∃ medium, max 0 ((if requisition.blocking then
            (((MemoryStore.ofFileLimit 100).limits .outbound).get medium).value / 2
          else (((MemoryStore.ofFileLimit 100).limits .outbound).get medium).value) -
            later.occupancy .outbound medium - reserved [] [] medium) <
          requisition.need medium) ∧
        Action.scan .outbound later.controller = .ok 0 final := by
  obtain ⟨later, found, requisition, alone, pending, scanned, serviced, final, scans⟩ :
      ∃ later, (Traffic.hundred.replay waitingBeside)[6]? = some later ∧
        ∃ requisition, later.queue .outbound = [requisition] ∧
          requisition.serviced = false ∧
          (∀ removal ∈ later.removals, removal.direction ≠ .outbound) ∧
          ∃ serviced final, Action.scan .outbound later.controller = .ok serviced final :=
    ⟨(Traffic.hundred.replay waitingBeside).getD 6 .hundred,
      rfl, _, rfl, rfl, by decide +kernel, _, _, rfl⟩
  have inRun := List.mem_of_getElem? found
  obtain ⟨unfit, still⟩ := no_requisition_parked_that_fits rfl
    (Traffic.replay_run _ waitingBeside) later (List.mem_cons_of_mem _ inRun) .outbound scanned
  refine ⟨later, inRun, requisition, _, alone, pending, unfit [] requisition [] alone pending,
    still ?_⟩
  intro kind other overflows
  cases scans.symm.trans overflows

end Admission
