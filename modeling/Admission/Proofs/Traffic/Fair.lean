import Admission.Proofs.Store.Failing
import Admission.Proofs.Traffic.Runs
import Admission.Proofs.Traffic.Weather

/-!
# Fair weather

In fair weather every call of a store may fail or not, each time anew, but the store keeps exact
account: what is answered is true, what is done is done exactly, and nothing happens to the
objects beside what is asked for.  Whatever traffic comes to at such a store is orderly
(`Orderly.reaches`), and runs at a store that keeps its answers are among that
(`Run.inFair`).
-/

namespace Admission

section Fair

variable {σ : Type} [Store σ] [Accounted σ] {limits : Direction → Medium → Int}
  {before after traffic : Traffic σ} {see : Glimpses σ}

/-- The store keeps its objects and its capacities, whatever calls of it fail. -/
def Weather.fair (σ : Type) [Store σ] [Accounted σ] (limits : Direction → Medium → Int) :
    Weather σ where
  shows see := ∀ medium, Accounted.Sound (see.occupancyAt medium) ∧
    Accounted.Sound (see.capacityAt medium) ∧ Accounted.limit (see.capacityAt medium) = limits
  changes store later := Accounted.Sound later ∧
    Accounted.objects later = Accounted.objects store ∧
    Accounted.limit later = Accounted.limit store

/-- Which calls of a store fail may change at any time. -/
theorem Unreliable.setFailing_changes {unreliable : Unreliable σ}
    (sound : Accounted.Sound unreliable) (call : StoreCall) (fails : Bool) :
    (Weather.fair (Unreliable σ) limits).changes unreliable (unreliable.setFailing call fails) :=
  ⟨sound, rfl, rfl⟩

theorem Weather.within_of_shows (shows : (Weather.fair σ limits).shows see) :
    see.Within limits := by
  rintro direction share ⟨capacity, occupancy, capacities, occupancies, rfl⟩ blocking medium
  have most : Share.of (fun medium => (capacity medium).value)
      (fun medium => (occupancy medium).value) blocking medium ≤ max 0 (capacity medium).value :=
    Share.of_le (fun other => by
      rw [Accounted.occupancy_value (shows other).1 (occupancies other)]
      exact occupied_nonneg _ _ _) blocking medium
  have exact : (capacity medium).value = limits direction medium := by
    rw [Accounted.capacity_value (shows medium).2.1 (capacities medium), (shows medium).2.2]
  rwa [exact] at most

/-- What a scan sees that nobody disturbs. -/
theorem Orderly.shows_still (orderly : Orderly limits traffic) :
    (Weather.fair σ limits).shows (.still traffic.controller.store) :=
  fun _ => ⟨orderly.sound, orderly.sound, orderly.fixed⟩

namespace Orderly

/-- A step in fair weather leaves the traffic orderly. -/
theorem fair_step (orderly : Orderly limits before)
    (step : (Weather.fair σ limits).Step before after) : Orderly limits after := by
  cases step with
  | aside aside => exact (orderly.aside aside).1
  | turn shows turn =>
      obtain ⟨direction, came, gone, effect⟩ := turn.effect
      exact effect.orderly orderly (Weather.within_of_shows shows)
  | change changes =>
      obtain ⟨sound, objects, fixed⟩ := changes
      refine orderly.restock rfl sound (fixed.trans orderly.fixed) ?_ ?_ ?_
      · rw [objects]
        exact orderly.named
      · rw [objects]
        exact orderly.unique
      · rw [objects]
        exact fun source needed measured => measured

theorem reaches (orderly : Orderly limits before)
    (reached : (Weather.fair σ limits).Reaches before after) : Orderly limits after := by
  induction reached with
  | refl => exact orderly
  | tail earlier last induction => exact induction.fair_step last

end Orderly

/-- A step at a store that keeps its answers is one in fair weather. -/
theorem Step.inFair (orderly : Orderly limits before) (step : Step before after) :
    (Weather.fair σ limits).Reaches before after := by
  cases step with
  | aside aside => exact .single (.aside aside)
  | turn glimpsed turn =>
      refine (Asides.inWeather glimpsed.meanwhile).tail (.turn (fun medium => ?_) turn.late)
      obtain ⟨moment, earlier, -, isMoment⟩ := glimpsed.occupancyAt medium
      obtain ⟨other, previous, -, isOther⟩ := glimpsed.capacityAt medium
      have occupancies := orderly.asides earlier
      have capacities := orderly.asides previous
      rw [isMoment, isOther]
      exact ⟨occupancies.sound, capacities.sound, capacities.fixed⟩

/-- Every state of a run is reached in fair weather. -/
theorem Run.inFair {run : List (Traffic σ)} (orderly : Orderly limits traffic)
    (steps : Run traffic run) :
    ∀ later ∈ traffic :: run, (Weather.fair σ limits).Reaches traffic later := by
  induction run generalizing traffic with
  | nil =>
      intro later member
      rw [List.mem_singleton.mp member]
  | cons next rest induction =>
      obtain ⟨first, others⟩ := List.isChain_cons_cons.mp steps
      intro later member
      rcases List.mem_cons.mp member with rfl | inRest
      · exact .refl
      · exact (first.inFair orderly).trans
          (induction (orderly.step first) others later inRest)

end Fair

end Admission
