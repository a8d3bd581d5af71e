import Admission.Proofs.Controller.Arrived
import Admission.Proofs.Traffic.Tallied

/-!
# Queues are sorted

In any weather a queue is the stable sort of who arrived and is still there
(`queue_stably_sorted`): the books stay sorted from chore to chore, and every step handles a
queue or leaves it as it is (`Weather.Step.queue_cases`).
-/

namespace Admission

section Weather

variable {σ : Type} [Store σ] {weather : Weather σ} {before after : Traffic σ}

/-- A step leaves a queue as it is, or handles it. -/
theorem Weather.Step.queue_cases (step : weather.Step before after) (direction : Direction) :
    after.queue direction = before.queue direction ∨
      ∃ offers unanswered came gone, Handled offers unanswered direction
        before.controller.ledger came gone after.controller.ledger := by
  cases step with
  | aside aside =>
      left
      rw [Traffic.queue, aside.ledger, Traffic.queue]
  | turn shows turn =>
      obtain ⟨turned, came, gone, effect⟩ := turn.effect
      by_cases here : direction = turned
      · subst here
        exact Or.inr ⟨_, _, _, _, effect.handled⟩
      · exact Or.inl (effect.handled.queue_of_ne here)
  | change changes => exact Or.inl rfl

omit [Store σ] in
/-- The books of a start tell of nobody. -/
theorem Books.sorted_start (store : σ) (slots : Nat) :
    (Traffic.start store slots).controller.books.Sorted := by
  intro direction
  cases direction <;> exact List.mergeSort_nil.symm

/-- Whatever traffic comes to, its books are sorted. -/
theorem Weather.Reaches.sorted {store : σ} {slots : Nat} {later : Traffic σ}
    (reached : weather.Reaches (Traffic.start store slots) later) :
    later.controller.books.Sorted := by
  induction reached with
  | refl => exact Books.sorted_start store slots
  | tail earlier last induction => exact induction.chores last.chores

/-- A queue is the stable sort of its arrivals.  In any weather, whatever traffic comes to, a
queue is what the journal tells to be there, by descending priority and in order of arrival among
equals.  A step puts a requisition that was not there before behind everything that is not lower
and before everything that is, and leaves those that stay in their order, with all but the mark
of being serviced. -/
theorem queue_stably_sorted (weather : Weather σ) {store : σ} {slots : Nat} {later : Traffic σ}
    (reached : weather.Reaches (Traffic.start store slots) later) (direction : Direction) :
    (later.queue direction).map Requisition.arrival =
      Arrival.sorted (later.controller.journal.live direction) ∧
    ∀ next, weather.Step later next →
      (∀ requisition ∈ next.queue direction,
        requisition.slot ∉ (later.queue direction).map Requisition.slot →
        ∃ front back, next.queue direction = front ++ requisition :: back ∧
          (∀ other ∈ front, ¬ other.priority < requisition.priority) ∧
          ∀ other ∈ back, other.priority < requisition.priority) ∧
      ((next.queue direction).filter fun requisition =>
        requisition.slot ∈ (later.queue direction).map Requisition.slot).map Requisition.asked =
      ((later.queue direction).filter fun requisition =>
        requisition.slot ∈ (next.queue direction).map Requisition.slot).map
          Requisition.asked := by
  have sorted := reached.sorted
  have wellFormed := ((Tallied.start store slots).reaches reached).ledger
  refine ⟨sorted direction, fun next step => ?_⟩
  rcases step.queue_cases direction with same | ⟨offers, unanswered, came, gone, handled⟩
  · rw [same]
    exact ⟨fun requisition queued new => absurd (List.mem_map_of_mem queued) new, rfl⟩
  · exact ⟨fun requisition queued new => handled.arrives wellFormed
      (sorted.pairwise direction) queued new, handled.stays wellFormed⟩

end Weather

/-- Three requesters wait for more than half of the capacity, the second at a higher priority. -/
def waitingByPriority : List Move :=
  [.makeAttendant, .makeAttendant, .makeAttendant,
    .request .outbound (.ofFile 60) ⟨1, 0⟩ (some ⟨0⟩),
    .request .outbound (.ofFile 70) ⟨2, 0⟩ (some ⟨1⟩),
    .request .outbound (.ofFile 80) ⟨1, 0⟩ (some ⟨2⟩)]

/-- The second of them is first in the queue, before the other two in order of arrival. -/
theorem waitingByPriority_sorted :
    ∃ later ∈ Traffic.hundred.replay waitingByPriority,
      (later.queue .outbound).map Requisition.arrival =
        Arrival.sorted (later.controller.journal.live .outbound) ∧
      later.controller.journal.live .outbound =
        [⟨.ofParts 1 1, ⟨1, 0⟩, .ofFile 60⟩, ⟨.ofParts 2 1, ⟨2, 0⟩, .ofFile 70⟩,
          ⟨.ofParts 3 1, ⟨1, 0⟩, .ofFile 80⟩] ∧
      (later.queue .outbound).map Requisition.slot =
        [.ofParts 2 1, .ofParts 1 1, .ofParts 3 1] := by
  obtain ⟨later, found, live, slots⟩ :
      ∃ later, (Traffic.hundred.replay waitingByPriority)[5]? = some later ∧
        later.controller.journal.live .outbound =
          [⟨.ofParts 1 1, ⟨1, 0⟩, .ofFile 60⟩, ⟨.ofParts 2 1, ⟨2, 0⟩, .ofFile 70⟩,
            ⟨.ofParts 3 1, ⟨1, 0⟩, .ofFile 80⟩] ∧
        (later.queue .outbound).map Requisition.slot =
          [.ofParts 2 1, .ofParts 1 1, .ofParts 3 1] :=
    ⟨(Traffic.hundred.replay waitingByPriority).getD 5 .hundred, rfl, rfl, rfl⟩
  have inRun := List.mem_of_getElem? found
  have reached := Run.inAny (Traffic.hundred.replay_run waitingByPriority) later
    (List.mem_cons_of_mem _ inRun)
  exact ⟨later, inRun, (queue_stably_sorted (.any _) reached .outbound).1, live, slots⟩

end Admission
