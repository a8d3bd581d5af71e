import Admission.Proofs.Traffic.Fair
import Admission.Proofs.Traffic.Redeemed

/-!
# Destructions that are refused

A destruction removes the object from the store and then scans its direction, and either of the
two can be refused.  A scan that is refused changes nothing, but the object is gone then.  So a
destruction that is refused has changed nothing exactly if it was the store that refused to
remove the object (`refused_destruction_undone_iff`).
-/

namespace Admission

namespace Action

variable {σ : Type} [Store σ] {controller final : Controller σ} {id : ObjectId}
  {refusal : Refusal}

/-- A destruction that is refused leaves what the store has made of it.  Either the store refused
to remove the object, or it removed the object and refused a question of the scan. -/
theorem destroy_eq_refused
    (refused : destroy id controller = .error (.refused refusal) final) :
    final = { controller with store := (Store.destroy controller.store id).store }.record
      ((Store.destroy controller.store id).notes.map .note) ∧
    ∃ error, refusal = .store error ∧
      ((Store.destroy controller.store id).result = .error (.refused error) ∨
        ∃ direction medium, (Store.destroy controller.store id).result = .ok direction ∧
          (Store.capacity (Store.destroy controller.store id).store direction medium =
              .error (.refused error) ∨
            Store.occupancy (Store.destroy controller.store id).store direction medium =
              .error (.refused error))) := by
  rw [destroy, change, bind_assoc, bind_run] at refused
  cases tried : tryChange (fun store => Store.destroy store id) controller with
  | error failure between =>
      rw [tried] at refused
      cases refused
      exact absurd tried tryChange_ne_refused
  | ok outcome between =>
      obtain ⟨result, isBetween⟩ := tryChange_eq_ok tried
      rw [tried] at refused
      cases outcome with
      | error error =>
          simp only [orRefuse, bind_run, refuse_run] at refused
          cases refused
          exact ⟨isBetween, error, rfl, Or.inl result⟩
      | ok direction =>
          simp only [orRefuse, bind_run, pure_run] at refused
          cases scans : scan direction between with
          | ok serviced scanned =>
              rw [scans] at refused
              cases refused
          | error failure scanned =>
              rw [scans] at refused
              cases refused
              obtain ⟨rfl, error, medium, isError, stopped⟩ := scan_eq_refused scans
              rw [isBetween] at stopped
              exact ⟨isBetween, error, isError, Or.inr ⟨direction, medium, result, stopped⟩⟩

end Action

/-- A destruction that is refused is undone only if the store refused it.  In fair weather, from
whatever traffic has come to over sound objects, and whichever calls of the store fail: a
destruction that is refused leaves the ledger, the attendants and the events as they were.  It
leaves the objects as they were exactly if the store refused to remove the object.  Otherwise the
object is gone, what it took is free, and it was a question of the scan that the store refused. -/
theorem refused_destruction_undone_iff {σ : Type} [Store σ] [Accounted σ] {store : σ}
    (sound : Accounted.Sound store)
    (unique : ((Accounted.objects store).map StoredObject.id).Nodup) {slots : Nat}
    {later : Traffic σ}
    (reached : (Weather.fair σ (Accounted.limit store)).Reaches (Traffic.stocked store slots)
      later)
    {see : Glimpses σ} (isNow : see.now = later.controller.store) {id : ObjectId}
    {refusal : Refusal} {final : Controller (Glimpses σ)}
    (refused : Action.destroy id (later.controller.withStore see) =
      .error (.refused refusal) final) :
    final.ledger = later.controller.ledger ∧
    final.attendants = later.controller.attendants ∧
    final.journal.events = later.controller.journal.events ∧
    (Accounted.objects final.store.now = later.objects ↔
      ∃ error, (Store.destroy later.controller.store id).result = .error (.refused error)) ∧
    (Accounted.objects final.store.now ≠ later.objects →
      ∃ object ∈ later.objects, object.id = id ∧ Unanswered see object.direction ∧
        Accounted.objects final.store.now = later.objects.filter (fun kept => kept.id ≠ id) ∧
        ∀ direction medium,
          occupied (Accounted.objects final.store.now) direction medium =
            later.occupancy direction medium -
              if object.direction = direction then Extent.amount object.extents medium
              else 0) := by
  have orderly := (Orderly.stocked sound unique slots).reaches reached
  obtain ⟨isFinal, error, -, outcome⟩ := Action.destroy_eq_refused refused
  have change : Store.destroy (later.controller.withStore see).store id =
      see.changeNow fun store => Store.destroy store id := rfl
  have notes : ∀ remarks : List Note, Journal.events (remarks.map .note) = [] := by
    intro remarks
    simp [Journal.events, List.filterMap_map, Function.comp_def, Journal.event?]
  have now : final.store.now = (Store.destroy later.controller.store id).store := by
    rw [isFinal, ← isNow]
    rfl
  refine ⟨by rw [isFinal]; rfl, by rw [isFinal]; rfl, ?_, ?_⟩
  · rw [isFinal, Controller.record, Journal.events_append, notes, List.append_nil]
    rfl
  · rw [change] at outcome
    simp only [Glimpses.changeNow, isNow] at outcome
    rw [now]
    rcases outcome with result | ⟨direction, medium, result, stopped⟩
    · have same : Accounted.objects (Store.destroy later.controller.store id).store =
          later.objects :=
        congrArg Accounted.objects (Accounted.destroy_refused orderly.sound result)
      exact ⟨iff_of_true same ⟨error, result⟩, fun different => absurd same different⟩
    · obtain ⟨object, stored, rfl, rfl, objects, -⟩ := Accounted.destroy_ok orderly.sound result
      have gone : Accounted.objects (Store.destroy later.controller.store object.id).store ≠
          later.objects := by
        intro same
        have still : object ∈ later.objects := stored
        rw [← same, objects] at still
        simp at still
      refine ⟨iff_of_false gone ?_, fun _ => ⟨object, stored, rfl, ⟨error, medium, stopped⟩,
        objects, fun direction medium => ?_⟩⟩
      · rintro ⟨other, refuses⟩
        cases result.symm.trans refuses
      · rw [objects]
        exact occupied_filter_id orderly.unique stored direction medium

/-- An outbound file of eighty bytes is stored. -/
def storing : List Move := Move.createFile 1 80 ⟨1, 0⟩ none (.ofParts 1 1) (.ofNat 1)

/-- There is room for a hundred bytes of outbound files, and no call of the store fails yet. -/
def Unreliable.hundred : Unreliable MemoryStore := ⟨.ofFileLimit 100, []⟩

theorem Unreliable.hundred_unique :
    ((Accounted.objects Unreliable.hundred).map StoredObject.id).Nodup := List.nodup_nil

/-- What traffic comes to in front of that store when calls of it fail after something else. -/
theorem failing_reached {call : StoreCall} {moves : List Move}
    {later : Traffic (Unreliable MemoryStore)}
    (member : later ∈ (Traffic.stocked Unreliable.hundred 1024).replay moves) :
    (Weather.fair _ (Accounted.limit Unreliable.hundred)).Reaches
      (.stocked Unreliable.hundred 1024)
      (later.acted { later.controller with
        store := later.controller.store.setFailing call true }) := by
  have orderly : Orderly (Accounted.limit Unreliable.hundred)
      (Traffic.stocked Unreliable.hundred 1024) :=
    Orderly.stocked trivial Unreliable.hundred_unique 1024
  have steps := Traffic.replay_run (Traffic.stocked Unreliable.hundred 1024) moves
  exact (Run.inFair orderly steps later (List.mem_cons_of_mem _ member)).tail
    (.change (Unreliable.setFailing_changes trivial call true))

/-- When the store fails to destroy that file, everything is left as it was. -/
theorem storing_kept :
    ∃ later ∈ (Traffic.stocked Unreliable.hundred 1024).replay storing,
      later.objects = [⟨.ofNat 1, .outbound, [⟨.file, 80⟩], false⟩] ∧
      ∃ refusal final, Action.destroy (.ofNat 1) (later.controller.withStore
          (Glimpses.still (later.controller.store.setFailing .destroy true))) =
          .error (.refused refusal) final ∧
        final.ledger = later.controller.ledger ∧
        Accounted.objects final.store.now = later.objects := by
  obtain ⟨later, found, objects, refusal, final, refused⟩ :
      ∃ later, ((Traffic.stocked Unreliable.hundred 1024).replay storing)[4]? = some later ∧
        later.objects = [⟨.ofNat 1, .outbound, [⟨.file, 80⟩], false⟩] ∧
        ∃ refusal final, Action.destroy (.ofNat 1) (later.controller.withStore
          (Glimpses.still (later.controller.store.setFailing .destroy true))) =
          .error (.refused refusal) final :=
    ⟨((Traffic.stocked Unreliable.hundred 1024).replay storing).getD 4 (.stocked .hundred 1024),
      rfl, rfl, _, _, rfl⟩
  have inRun := List.mem_of_getElem? found
  obtain ⟨ledger, -, -, same, -⟩ :=
    refused_destruction_undone_iff trivial Unreliable.hundred_unique (failing_reached inRun) rfl
      refused
  exact ⟨later, inRun, objects, refusal, final, refused, ledger, same.mpr ⟨_, rfl⟩⟩

/-- When the store does not tell what is occupied, the destruction of that file is refused as
well, but the file is gone. -/
theorem storing_gone :
    ∃ later, (Weather.fair _ (Accounted.limit Unreliable.hundred)).Reaches
        (.stocked Unreliable.hundred 1024) later ∧
      later.objects = [⟨.ofNat 1, .outbound, [⟨.file, 80⟩], false⟩] ∧
      later.occupancy .outbound .file = 80 ∧
      ∃ refusal final, Action.destroy (.ofNat 1) later.controller =
          .error (.refused refusal) final ∧
        Accounted.objects final.store = [] ∧
        occupied (Accounted.objects final.store) .outbound .file = 0 := by
  obtain ⟨later, found, objects, occupancy, refused⟩ :
      ∃ later, ((Traffic.stocked Unreliable.hundred 1024).replay storing)[4]? = some later ∧
        later.objects = [⟨.ofNat 1, .outbound, [⟨.file, 80⟩], false⟩] ∧
        later.occupancy .outbound .file = 80 ∧
        ∃ refusal final, Action.destroy (.ofNat 1) { later.controller with
            store := later.controller.store.setFailing .occupancy true } =
            .error (.refused refusal) final ∧
          Accounted.objects final.store = [] ∧
          occupied (Accounted.objects final.store) .outbound .file = 0 :=
    ⟨((Traffic.stocked Unreliable.hundred 1024).replay storing).getD 4 (.stocked .hundred 1024),
      rfl, rfl, rfl, _, _, rfl, rfl, rfl⟩
  exact ⟨_, failing_reached (List.mem_of_getElem? found), objects, occupancy, refused⟩

end Admission
