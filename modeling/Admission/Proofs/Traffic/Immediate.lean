import Admission.Proofs.Controller.Immediate
import Admission.Proofs.Traffic.Parked
import Admission.Proofs.Traffic.Redeemed

/-!
# Immediate answers leave no trace

In front of a store that answers every question whatever is scanned is settled for what the store
offers (`Orderly.settled_offers`).  So a request that is answered at once changes nothing for
anybody, and is answered in the same way as often as it is made (`immediate_answers_pass`).
-/

namespace Admission

/-- Every state of a run that begins with empty queues is orderly, and what is scanned in it is
settled for what the store offers. -/
theorem Orderly.settled_offers {σ : Type} [Store σ] [Accounted σ]
    {limits : Direction → Medium → Int} {first : Traffic σ} {run : List (Traffic σ)}
    (orderly : Orderly limits first) (nobody : ∀ direction, first.queue direction = [])
    (steps : Run first run)
    (answers : ∀ (store : σ) (direction : Direction), ¬ Unanswered store direction) :
    ∀ later ∈ first :: run, Orderly limits later ∧
      ∀ direction, later.Scanned direction →
        ∀ share, Budget.Offers later.controller.store direction share →
          Settled share (later.queue direction) := by
  have settled : ∀ direction,
      Settled (first.share limits direction) (first.queue direction) := by
    intro direction
    rw [nobody direction]
    exact settled_nil _
  intro later member
  rcases List.mem_cons.mp member with rfl | inRun
  · refine ⟨orderly, fun direction scanned share offers => ?_⟩
    rw [orderly.share_eq offers]
    exact settled direction
  · have laterOrderly := orderly.run steps later inRun
    refine ⟨laterOrderly, fun direction scanned share offers => ?_⟩
    rw [laterOrderly.share_eq offers]
    exact orderly.settled_run steps answers (fun _ => settled direction) later inRun scanned

/-- Immediate answers leave no trace.  In every state of a run in front of the store in memory in
which no object of the direction was removed without the scan after that: a request that is
granted, or told that it is not serviceable, leaves both queues with all their requisitions, the
slots that are taken and the store as they were, and services and signals nobody else meanwhile.
As often as it is made again, it is answered in the same way. -/
theorem immediate_answers_pass {store : MemoryStore} {slots : Nat}
    {run : List (Traffic MemoryStore)} (unique : (store.objects.map StoredObject.id).Nodup)
    (steps : Run (Traffic.stocked store slots) run) :
    ∀ later ∈ Traffic.stocked store slots :: run, ∀ direction, later.Scanned direction →
      ∀ needed priority attendant fits final,
        Action.request direction needed priority attendant later.controller =
          .ok (.immediate fits) final →
        (∃ slot, Immediate direction ⟨slot, needed, priority, attendant, false⟩ fits
          later.controller final) ∧
        ∀ count, ∃ told last,
          Action.times (Action.request direction needed priority attendant) (count + 1)
            later.controller = .ok (List.replicate (count + 1) (.immediate fits)) last ∧
          Restored attendant told later.controller last := by
  intro later member direction scanned needed priority attendant fits final done
  have start : Orderly (Accounted.limit store) (Traffic.stocked store slots) :=
    Orderly.stocked trivial unique slots
  have nobody : ∀ direction, (Traffic.stocked store slots).queue direction = [] := by
    rintro (_ | _) <;> rfl
  obtain ⟨orderly, settled⟩ :=
    start.settled_offers nobody steps MemoryStore.answers later member
  have ready := orderly.ledger.ready
  obtain ⟨immediate, -⟩ := Action.immediate_of_request ready (settled direction scanned) done
  exact ⟨immediate, Action.request_times ready (settled direction scanned) done⟩

/-- An object takes forty bytes and a requester waits for thirty more than are restricted.  Others
that do not wait are granted twenty bytes ahead of it, and refused seventy, as often as they
ask. -/
theorem askingAhead_passes :
    ∃ later ∈ Traffic.hundred.replay waitingBeside,
      ∃ requisition, later.queue .outbound = [requisition] ∧ requisition.serviced = false ∧
      (∃ final slot, Action.request .outbound (.ofFile 20) ⟨2, 0⟩ none later.controller =
          .ok .granted final ∧
        Immediate .outbound ⟨slot, .ofFile 20, ⟨2, 0⟩, none, false⟩ true later.controller final ∧
        ∀ count, ∃ last, Action.times (Action.request .outbound (.ofFile 20) ⟨2, 0⟩ none)
          (count + 1) later.controller = .ok (List.replicate (count + 1) .granted) last) ∧
      ∃ final slot, Action.request .outbound (.ofFile 70) ⟨2, 0⟩ none later.controller =
          .ok .notServiceable final ∧
        Immediate .outbound ⟨slot, .ofFile 70, ⟨2, 0⟩, none, false⟩ false later.controller
          final ∧
        ∀ count, ∃ last, Action.times (Action.request .outbound (.ofFile 70) ⟨2, 0⟩ none)
          (count + 1) later.controller = .ok (List.replicate (count + 1) .notServiceable) last := by
  obtain ⟨later, found, requisition, alone, pending, scanned, ⟨granted, grants⟩, refused,
      refuses⟩ :
      ∃ later, (Traffic.hundred.replay waitingBeside)[6]? = some later ∧
        ∃ requisition, later.queue .outbound = [requisition] ∧ requisition.serviced = false ∧
          later.removals = [] ∧
          (∃ final, Action.request .outbound (.ofFile 20) ⟨2, 0⟩ none later.controller =
            .ok (.immediate true) final) ∧
          ∃ final, Action.request .outbound (.ofFile 70) ⟨2, 0⟩ none later.controller =
            .ok (.immediate false) final :=
    ⟨(Traffic.hundred.replay waitingBeside).getD 6 .hundred, rfl, _, rfl, rfl, rfl, ⟨_, rfl⟩, _,
      rfl⟩
  have inRun := List.mem_of_getElem? found
  have unique : ((MemoryStore.ofFileLimit 100).objects.map StoredObject.id).Nodup :=
    List.nodup_nil
  have steps : Run (Traffic.stocked (MemoryStore.ofFileLimit 100) 1024)
      (Traffic.hundred.replay waitingBeside) := Traffic.replay_run _ waitingBeside
  have passes := immediate_answers_pass unique steps later (List.mem_cons_of_mem _ inRun)
    .outbound (by simp [Traffic.Scanned, scanned])
  obtain ⟨⟨slot, once⟩, always⟩ := passes _ _ _ _ _ grants
  obtain ⟨⟨other, onceMore⟩, never⟩ := passes _ _ _ _ _ refuses
  refine ⟨later, inRun, requisition, alone, pending, ⟨granted, slot, grants, once, ?_⟩, refused,
    other, refuses, onceMore, ?_⟩
  · intro count
    obtain ⟨-, last, same, -⟩ := always count
    exact ⟨last, same⟩
  · intro count
    obtain ⟨-, last, same, -⟩ := never count
    exact ⟨last, same⟩

end Admission
