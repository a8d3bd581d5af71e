import Admission.Proofs.Controller.Chores
import Admission.Proofs.Traffic.Turns

/-!
# Traffic in any weather

What holds of the ledger holds in front of any store, one that fails or contradicts itself
included.  `Weather` says what a store may do beside what is asked of it: what the questions of a
scan may find, and how the store may change while nobody uses it.  In `Weather.any` nothing is
excluded, so that every call of the store may fail or not, each time anew.

A step in a weather is an aside, a turn, or a change of the weather.  Whatever traffic comes to
that keeps the answers of its own store, it comes to in `Weather.any` (`Run.inAny`).
`Weather.Step.chores` says what any step does to the books.
-/

namespace Admission

/-- What a store may do beside what is asked of it. -/
structure Weather (σ : Type) where
  /-- What the questions of a scan may find. -/
  shows : Glimpses σ → Prop
  /-- How the store may change while nobody uses it. -/
  changes : σ → σ → Prop

namespace Weather

/-- Nothing is excluded. -/
def any (σ : Type) : Weather σ := ⟨fun _ => True, fun _ _ => True⟩

/-- One step of the traffic in a weather. -/
inductive Step {σ : Type} [Store σ] (weather : Weather σ) : Traffic σ → Traffic σ → Prop where
  | aside {before after : Traffic σ} : Aside before after → Step weather before after
  | turn {before after : Traffic σ} {see : Glimpses σ} :
      weather.shows see → Turn before before see after → Step weather before after
  | change {traffic : Traffic σ} {store : σ} :
      weather.changes traffic.controller.store store →
      Step weather traffic (traffic.acted { traffic.controller with store := store })

/-- What traffic comes to in any number of steps. -/
abbrev Reaches {σ : Type} [Store σ] (weather : Weather σ) : Traffic σ → Traffic σ → Prop :=
  Relation.ReflTransGen weather.Step

end Weather

section Weather

variable {σ : Type} [Store σ] {weather : Weather σ} {before between after traffic : Traffic σ}
  {see : Glimpses σ}

/-- A turn only needs what is there at its end. -/
theorem Turn.late (turn : Turn before between see after) : Turn between between see after := by
  cases turn with
  | request spare ended => exact .request spare ended
  | submit wasSized isSized spare ended => exact .submit isSized isSized spare ended
  | drop wasHeld isHeld ended => exact .drop isHeld isHeld ended
  | finish wasStored isStored ended => exact .finish isStored isStored ended
  | leave wasLeaving isLeaving ended => exact .leave isLeaving isLeaving ended
  | scan ended => exact .scan ended
  | rescan wasRemoved isRemoved ended => exact .rescan isRemoved isRemoved ended

theorem Asides.inWeather (asides : Asides before after) : weather.Reaches before after :=
  asides.lift id fun _ _ aside => .aside aside

/-- A step in front of a store that keeps its answers is one in any weather. -/
theorem Step.inAny (step : Step before after) : (Weather.any σ).Reaches before after := by
  cases step with
  | aside aside => exact .single (.aside aside)
  | turn glimpsed turn =>
      exact (Asides.inWeather glimpsed.meanwhile).tail (.turn trivial turn.late)

/-- Every state of a run is reached in any weather. -/
theorem Run.inAny {run : List (Traffic σ)} (steps : Run traffic run) :
    ∀ later ∈ traffic :: run, (Weather.any σ).Reaches traffic later := by
  induction run generalizing traffic with
  | nil =>
      intro later member
      rw [List.mem_singleton.mp member]
  | cons next rest induction =>
      obtain ⟨first, others⟩ := List.isChain_cons_cons.mp steps
      intro later member
      rcases List.mem_cons.mp member with rfl | inRest
      · exact .refl
      · exact first.inAny.trans (induction others later inRest)

/-! ## Books -/

/-- A turn is the deed of whoever has the ledger, which may note something afterwards. -/
theorem Turn.deed (turn : Turn before between see after) :
    ∃ (final : Controller (Glimpses σ)) (remarks : List Note),
      Deed (between.controller.withStore see) final ∧
      after.controller = (final.record (remarks.map .note)).withStore
        between.controller.store := by
  cases turn with
  | @request direction needed priority attendant answer final spare ended =>
      refine ⟨final, [], .submission spare (Action.submission_of_attempt ended), ?_⟩
      rw [List.map_nil, Controller.record_nil]
      rfl
  | @submit object priority attendant needed answer final wasSized isSized spare ended =>
      refine ⟨final, [], .submission spare (Action.submission_of_attempt ended), ?_⟩
      rw [List.map_nil, Controller.record_nil]
      rfl
  | @drop ticket outcome final wasHeld isHeld ended =>
      refine ⟨final, [], .release (Action.release_of_attempt ended), ?_⟩
      rw [List.map_nil, Controller.record_nil]
      rfl
  | @finish creation id outcome final wasStored isStored ended =>
      refine ⟨final, [], .release (Action.release_of_attempt ended), ?_⟩
      rw [List.map_nil, Controller.record_nil]
      rfl
  | @leave creation outcome final wasLeaving isLeaving ended =>
      refine ⟨final, [], .release (Action.release_of_attempt ended), ?_⟩
      rw [List.map_nil, Controller.record_nil]
      rfl
  | @scan direction outcome final ended =>
      refine ⟨final, [], .ofScan ended, ?_⟩
      rw [List.map_nil, Controller.record_nil]
      rfl
  | @rescan removal outcome final remarks wasRemoved isRemoved ended =>
      exact ⟨final, remarks, .ofScan ended, rfl⟩

theorem Turn.chores (turn : Turn before between see after) :
    Chores between.controller.books after.controller.books := by
  obtain ⟨final, remarks, deed, isAfter⟩ := turn.deed
  rw [isAfter]
  exact deed.chores.trans (Chores.remarks final.books remarks)

omit [Store σ] in
/-- A change of the store that was tried leaves notes. -/
theorem Action.chores_of_tryChange {α : Type} {change : σ → Change σ StoreError α}
    {outcome : Except StoreError α} {controller final : Controller σ}
    (ended : tryChange change controller = .ok outcome final) :
    Chores controller.books final.books := by
  obtain ⟨-, rfl⟩ := tryChange_eq_ok ended
  exact Chores.remarks controller.books _

theorem Aside.chores (aside : Aside before after) :
    Chores before.controller.books after.controller.books := by
  cases aside with
  | attend attendants remarks => exact Chores.remarks before.controller.books remarks
  | size isLocation nonempty sized => exact .refl
  | createEmpty isEmpty fresh done => exact Action.chores_of_tryChange done
  | createRefused done => exact Action.chores_of_tryChange done
  | clear waits isServiced => exact .refl
  | @interrupt creation waits ended =>
      have noted : Chore before.controller.books (before.controller.books.record
        [.note (.creationInterrupted creation.object.direction)]) := .remark _
      have told : Chore (before.controller.books.record
          [.note (.creationInterrupted creation.object.direction)]) _ :=
        .interrupt creation.object.direction creation.ticket.slot
      rw [Books.record, Books.record, List.append_assoc] at told
      exact .tail (.single noted) told
  | abandon waits => exact .refl
  | store isCleared fresh done => exact Action.chores_of_tryChange done
  | storeRefused isCleared done =>
      exact (Action.chores_of_tryChange done).tail (.remark _)
  | remove done => exact Action.chores_of_tryChange done
  | removeRefused done => exact Action.chores_of_tryChange done

theorem Weather.Step.chores (step : weather.Step before after) :
    Chores before.controller.books after.controller.books := by
  cases step with
  | aside aside => exact aside.chores
  | turn shows turn => exact turn.chores
  | change changes => exact .refl

end Weather

end Admission
