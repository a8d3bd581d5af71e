import Admission.Proofs.Controller.Lives
import Admission.Proofs.Traffic.Tallied

/-!
# What watchers see

In any weather, what the journal tells about a slot is the life of one requisition, as far as it
has come (`events_tell_lives`).  `Chronicled` is the invariant: the ledger tallies, the journal
tells of it, and no creation that still waits was told to be interrupted.  `Chronicled.step` says
that each step restores it.

A slot would be given out anew after it has gone through all 32-bit versions.
`Weather.ReachesUnworn` is what traffic comes to before that happens.
-/

namespace Admission

section Weather

variable {σ : Type} [Store σ] {weather : Weather σ} {before between after traffic : Traffic σ}
  {see : Glimpses σ} {slots : Nat}

/-! ## Before slots are worn -/

/-- What traffic comes to while no slot goes through all its versions. -/
abbrev Weather.ReachesUnworn (weather : Weather σ) : Traffic σ → Traffic σ → Prop :=
  Relation.ReflTransGen fun before after =>
    weather.Step before after ∧ after.controller.ledger.pool.Unworn

theorem Asides.unworn (asides : Asides before after)
    (unworn : before.controller.ledger.pool.Unworn) : weather.ReachesUnworn before after := by
  induction asides with
  | refl => exact .refl
  | tail earlier last induction =>
      refine .tail induction ⟨.aside last, ?_⟩
      rw [last.ledger, Asides.ledger earlier]
      exact unworn

/-- Every state of a run is reached unworn if all are. -/
theorem Run.reachesUnworn {run : List (Traffic σ)} (steps : Run traffic run)
    (unworn : ∀ state ∈ traffic :: run, state.controller.ledger.pool.Unworn) :
    ∀ later ∈ traffic :: run, (Weather.any σ).ReachesUnworn traffic later := by
  induction run generalizing traffic with
  | nil =>
      intro later member
      rw [List.mem_singleton.mp member]
  | cons next rest induction =>
      obtain ⟨first, others⟩ := List.isChain_cons_cons.mp steps
      have nextUnworn := unworn next (List.mem_cons_of_mem _ List.mem_cons_self)
      have reachesNext : (Weather.any σ).ReachesUnworn traffic next := by
        cases first with
        | aside aside => exact .single ⟨.aside aside, nextUnworn⟩
        | turn glimpsed turn =>
            exact (Asides.unworn glimpsed.meanwhile (unworn traffic List.mem_cons_self)).tail
              ⟨.turn trivial turn.late, nextUnworn⟩
      intro later member
      rcases List.mem_cons.mp member with rfl | inRest
      · exact .refl
      · exact reachesNext.trans (induction others
          (fun state inside => unworn state (List.mem_cons_of_mem _ inside)) later inRest)

/-! ## The invariant -/

/-- The journal tells the lives of the requisitions that the tickets are good for. -/
structure Chronicled {σ : Type} (slots : Nat) (traffic : Traffic σ) : Prop where
  tallied : Tallied slots traffic
  telling : traffic.controller.books.Telling
  waiting : ∀ creation, .waiting creation ∈ traffic.calls →
    creation.ticket.direction = creation.object.direction ∧
      ¬ traffic.controller.journal.Interrupted creation.ticket.slot

/-- What an aside tells: notes, or that the wait of a creation was cancelled. -/
theorem Aside.tells (aside : Aside before after) :
    (∃ notes : List Note,
      after.controller.books = before.controller.books.record (notes.map .note) ∧
      ∀ creation, .waiting creation ∈ after.calls → .waiting creation ∈ before.calls) ∨
    ∃ creation, .waiting creation ∈ before.calls ∧
      (creation.ticket.attendant.any before.controller.attendants.isEnded = true ∨
        creation.ticket.attendant = none ∧ before.controller.ledger.isServiced
          creation.ticket.direction creation.ticket.slot = false) ∧
      after.controller.books = (before.controller.books.record
        ([Note.creationInterrupted creation.object.direction].map .note)).record
        (Journal.telling creation.object.direction creation.ticket.slot [.interrupted]) ∧
      .leaving creation ∈ after.calls ∧
      ∀ other, .waiting other ∈ after.calls → .waiting other ∈ before.calls := by
  have became : ∀ {traffic : Traffic σ} {call next : Call} {creation : PendingCreation},
      (∀ creation, next ≠ .waiting creation) →
      .waiting creation ∈ (traffic.become call (some next)).calls →
      .waiting creation ∈ traffic.calls := by
    intro traffic call next creation different member
    rcases Traffic.mem_become member with isNext | old
    · exact absurd (Option.some.inj isNext) (different creation)
    · exact old
  have silent : before.controller.books = before.controller.books.record
      (([] : List Note).map .note) := by
    rw [List.map_nil, Books.record, List.append_nil]
  cases aside with
  | attend attendants remarks => exact Or.inl ⟨remarks, rfl, fun _ member => member⟩
  | size isLocation nonempty sized =>
      refine Or.inl ⟨[], silent, fun creation member => ?_⟩
      rcases List.mem_cons.mp member with impossible | old
      · cases impossible
      · exact old
  | createEmpty isEmpty fresh done =>
      obtain ⟨-, rfl⟩ := Action.tryChange_eq_ok done
      exact Or.inl ⟨_, rfl, fun _ member => member⟩
  | createRefused done =>
      obtain ⟨-, rfl⟩ := Action.tryChange_eq_ok done
      exact Or.inl ⟨_, rfl, fun _ member => member⟩
  | clear waits isServiced =>
      exact Or.inl ⟨[], silent, fun creation member => became (by simp) member⟩
  | @interrupt creation waits ended =>
      refine Or.inr ⟨creation, waits, ended, ?_, Traffic.mem_become_next rfl,
        fun other member => became (by simp) member⟩
      rw [Books.record, Books.record, List.append_assoc]
      rfl
  | abandon waits =>
      exact Or.inl ⟨[], silent, fun creation member => became (by simp) member⟩
  | store isCleared fresh done =>
      obtain ⟨-, rfl⟩ := Action.tryChange_eq_ok done
      exact Or.inl ⟨_, rfl, fun creation member => became (by simp) member⟩
  | @storeRefused creation id error controller isCleared done =>
      obtain ⟨-, rfl⟩ := Action.tryChange_eq_ok done
      refine Or.inl ⟨(Store.create before.controller.store id creation.object).notes ++
        [.creationFailed creation.object.direction error], ?_,
        fun other member => became (by simp) member⟩
      rw [List.map_append, Books.record, ← List.append_assoc]
      rfl
  | remove done =>
      obtain ⟨-, rfl⟩ := Action.tryChange_eq_ok done
      exact Or.inl ⟨_, rfl, fun _ member => member⟩
  | removeRefused done =>
      obtain ⟨-, rfl⟩ := Action.tryChange_eq_ok done
      exact Or.inl ⟨_, rfl, fun _ member => member⟩

/-- What has come to stay has a slot that was taken for it. -/
theorem Handled.joins {offers : Share → Prop} {unanswered : Prop} {direction : Direction}
    {ledger final : Ledger} {came : Option Requisition} {gone : Option SlotId}
    (handled : Handled offers unanswered direction ledger came gone final)
    {requisition : Requisition} (isCame : came = some requisition) :
    ∃ taken, Joins ledger requisition taken := by
  cases handled with
  | queued offered joins =>
      cases isCame
      exact ⟨_, joins⟩
  | _ => cases isCame

namespace Chronicled

omit [Store σ] in
theorem start (store : σ) (slots : Nat) : Chronicled slots (Traffic.start store slots) where
  tallied := .start store slots
  telling := {
    live := by rintro (_ | _) requisition ⟨⟩
    past := fun slot _ => Or.inl rfl
    issued := fun slot told => absurd rfl told }
  waiting := by rintro creation ⟨⟩

theorem aside (chronicled : Chronicled slots before) (aside : Aside before after) :
    Chronicled slots after := by
  have tallied := chronicled.tallied.of_same aside.ledger aside.held
  rcases aside.tells with
    ⟨notes, books, waited⟩ | ⟨creation, waits, ended, books, isLeaving, waited⟩
  · refine ⟨tallied, books ▸ chronicled.telling.remarks notes, fun creation waits => ?_⟩
    obtain ⟨sameDirection, first⟩ := chronicled.waiting creation (waited creation waits)
    refine ⟨sameDirection, ?_⟩
    rw [show after.controller.journal = _ from congrArg Books.journal books, Books.record,
      Journal.interrupted_append]
    exact fun told => told.elim first (Journal.not_interrupted_notes notes _)
  · have held : creation.ticket ∈ before.held := Traffic.mem_held_of_call waits rfl
    obtain ⟨requisition, stood, sameSlot, sameAttendant⟩ :=
      chronicled.tallied.requisition_of_held held
    obtain ⟨sameDirection, first⟩ := chronicled.waiting creation waits
    have attends : creation.ticket.attendant ≠ none := by
      intro alone
      rcases ended with isEnded | ⟨-, pending⟩
      · rw [alone] at isEnded
        cases isEnded
      · rw [chronicled.tallied.serviced_of_unattended held alone] at pending
        cases pending
    have noted := chronicled.telling.remarks [.creationInterrupted creation.object.direction]
    refine ⟨tallied, ?_, fun other otherWaits => ?_⟩
    · have told := noted.interrupt chronicled.tallied.ledger stood (sameAttendant ▸ attends) (by
        rw [Books.record, Journal.interrupted_append, sameSlot]
        exact fun told => told.elim first (Journal.not_interrupted_notes _ _))
      rw [sameSlot, sameDirection] at told
      exact books ▸ told
    · obtain ⟨otherDirection, otherFirst⟩ := chronicled.waiting other (waited other otherWaits)
      refine ⟨otherDirection, ?_⟩
      have apart : ¬ creation.ticket.slot = other.ticket.slot := by
        intro same
        cases Traffic.call_unique tallied.distinct isLeaving otherWaits rfl rfl same
      rw [show after.controller.journal = _ from congrArg Books.journal books]
      simpa [Books.record, Controller.books, Journal.interrupted_append, Journal.telling,
        apart] using otherFirst

theorem turn (chronicled : Chronicled slots between) (turn : Turn before between see after)
    (unworn : after.controller.ledger.pool.Unworn) : Chronicled slots after := by
  obtain ⟨direction, came, gone, effect⟩ := turn.effect
  obtain ⟨final, remarks, deed, isAfter⟩ := turn.deed
  have journal : after.controller.journal = final.journal ++ remarks.map .note := by
    rw [isAfter]
    rfl
  have quiet : ∀ slot, ¬ between.controller.journal.Interrupted slot →
      ¬ after.controller.journal.Interrupted slot := by
    intro slot first
    rw [journal, Journal.interrupted_append]
    exact fun told => told.elim (deed.not_interrupted first)
      (Journal.not_interrupted_notes remarks slot)
  refine ⟨chronicled.tallied.turn turn, ?_, fun creation waits => ?_⟩
  · rw [isAfter] at unworn ⊢
    exact (deed.telling chronicled.tallied.ledger chronicled.telling unworn).remarks remarks
  · rcases effect.calls _ waits with old | ⟨object, priority, requisition, isCame, here, -, new⟩
    · exact (chronicled.waiting creation old).imp_right (quiet _)
    · cases new
      refine ⟨here.symm, quiet _ fun told => ?_⟩
      obtain ⟨taken, joins⟩ := effect.handled.joins isCame
      obtain ⟨told, member⟩ := told
      have about : ⟨told, requisition.slot, .interrupted⟩ ∈
          between.controller.books.journal.about requisition.slot :=
        Journal.mem_about.mpr ⟨Journal.mem_events.mpr member, rfl⟩
      rw [chronicled.telling.about_fresh chronicled.tallied.ledger joins] at about
      cases about

/-- Each step goes on telling the lives of requisitions. -/
theorem step (chronicled : Chronicled slots before) (step : weather.Step before after)
    (unworn : after.controller.ledger.pool.Unworn) : Chronicled slots after := by
  cases step with
  | aside aside => exact chronicled.aside aside
  | turn shows turn => exact chronicled.turn turn unworn
  | change changes =>
      exact ⟨chronicled.tallied.of_same rfl (List.Perm.refl _), chronicled.telling,
        chronicled.waiting⟩

theorem reaches (chronicled : Chronicled slots before)
    (reached : weather.ReachesUnworn before after) : Chronicled slots after := by
  induction reached with
  | refl => exact chronicled
  | tail earlier last induction => exact induction.step last.1 last.2

end Chronicled

/-- Watchers see lives.  In any weather, whatever traffic comes to before a slot has gone through
all its versions: the events about a slot are all of one direction, and are the beginning of a
life.  It is queued once and first, then serviced at most once and turned away or interrupted at
most once, turned away only if it was not serviced, and shredded once and last.  A slot is queued
in a direction exactly if it was told to be and not told to be shredded, and is serviced exactly
if it was also told to be. -/
theorem events_tell_lives (weather : Weather σ) {store : σ} {slots : Nat} {later : Traffic σ}
    (reached : weather.ReachesUnworn (Traffic.start store slots) later) (slot : SlotId) :
    (∃ direction life, Life life ∧
      later.controller.journal.about slot <+: life.map (Event.mk direction slot)) ∧
    ∀ direction,
      (slot ∈ (later.queue direction).map Requisition.slot ↔
        (∃ priority needed,
          ⟨direction, slot, .queued priority needed⟩ ∈ later.controller.journal.events) ∧
        ⟨direction, slot, .shredded⟩ ∉ later.controller.journal.events) ∧
      (later.controller.ledger.isServiced direction slot = true ↔
        ((∃ priority needed,
          ⟨direction, slot, .queued priority needed⟩ ∈ later.controller.journal.events) ∧
        ⟨direction, slot, .shredded⟩ ∉ later.controller.journal.events) ∧
        ⟨direction, slot, .serviced⟩ ∈ later.controller.journal.events) := by
  obtain ⟨tallied, telling, -⟩ := (Chronicled.start store slots).reaches reached
  exact ⟨telling.lives slot, fun direction => ⟨telling.queued_iff,
    (telling.isServiced_iff tallied.ledger).trans (and_congr_left' telling.queued_iff)⟩⟩

end Weather

/-- A requester is served at once, and another one then waits in the same place for more than
half of the capacity. -/
def servedThenWaiting : List Move :=
  [.makeAttendant, .request .outbound (.ofFile 30) ⟨1, 0⟩ (some ⟨0⟩),
    .request .outbound (.ofFile 60) ⟨1, 0⟩ (some ⟨0⟩)]

/-- The life of the first is over, and that of the second has begun. -/
theorem servedThenWaiting_told :
    ∃ later ∈ Traffic.hundred.replay servedThenWaiting,
      later.controller.journal.about (.ofParts 1 1) =
        [.queued ⟨1, 0⟩ (.ofFile 30), .serviced, .shredded].map
          (Event.mk .outbound (.ofParts 1 1)) ∧
      later.controller.journal.about (.ofParts 1 3) =
        [.queued ⟨1, 0⟩ (.ofFile 60)].map (Event.mk .outbound (.ofParts 1 3)) ∧
      SlotId.ofParts 1 1 ∉ (later.queue .outbound).map Requisition.slot ∧
      SlotId.ofParts 1 3 ∈ (later.queue .outbound).map Requisition.slot ∧
      later.controller.ledger.isServiced .outbound (.ofParts 1 3) = false := by
  obtain ⟨later, found, first, second, shredded, queued, pending⟩ :
      ∃ later, (Traffic.hundred.replay servedThenWaiting)[2]? = some later ∧
        later.controller.journal.about (.ofParts 1 1) =
          [.queued ⟨1, 0⟩ (.ofFile 30), .serviced, .shredded].map
            (Event.mk .outbound (.ofParts 1 1)) ∧
        later.controller.journal.about (.ofParts 1 3) =
          [.queued ⟨1, 0⟩ (.ofFile 60)].map (Event.mk .outbound (.ofParts 1 3)) ∧
        ⟨.outbound, .ofParts 1 1, .shredded⟩ ∈ later.controller.journal.events ∧
        (⟨.outbound, .ofParts 1 3, .queued ⟨1, 0⟩ (.ofFile 60)⟩ ∈
            later.controller.journal.events ∧
          ⟨.outbound, .ofParts 1 3, .shredded⟩ ∉ later.controller.journal.events) ∧
        ⟨.outbound, .ofParts 1 3, .serviced⟩ ∉ later.controller.journal.events :=
    ⟨(Traffic.hundred.replay servedThenWaiting).getD 2 .hundred, rfl, rfl, rfl, by decide,
      by decide, by decide⟩
  have inRun := List.mem_of_getElem? found
  have unworn : ∀ state ∈ Traffic.hundred :: Traffic.hundred.replay servedThenWaiting,
      state.controller.ledger.pool.Unworn := by decide
  have reached := Run.reachesUnworn (Traffic.hundred.replay_run servedThenWaiting) unworn later
    (List.mem_cons_of_mem _ inRun)
  obtain ⟨-, ofFirst⟩ := events_tell_lives (.any _) reached (.ofParts 1 1)
  obtain ⟨-, ofSecond⟩ := events_tell_lives (.any _) reached (.ofParts 1 3)
  refine ⟨later, inRun, first, second, ?_, ?_, ?_⟩
  · rw [(ofFirst .outbound).1]
    exact fun stillThere => stillThere.2 shredded
  · rw [(ofSecond .outbound).1]
    exact ⟨⟨_, _, queued.1⟩, queued.2⟩
  · rw [← Bool.not_eq_true, (ofSecond .outbound).2]
    exact fun serviced => pending serviced.2

end Admission
