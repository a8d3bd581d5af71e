import Admission.Proofs.Store.Accounted
import Admission.Store.Unreliable

/-!
# A failing store keeps exact account

What a store answers that fails on demand, and what it changes, is what the store behind it
answers and changes.  A call that fails is refused, and a refused change is none.
-/

namespace Admission

namespace Unreliable

section Guarded

variable {σ α : Type} {unreliable : Unreliable σ} {call : StoreCall}

/-- What is answered is the answer of the store behind. -/
theorem of_guarded {answer : σ → Checked StoreError α} {value : α}
    (answered : unreliable.guarded call answer = .ok value) :
    answer unreliable.store = .ok value := by
  unfold guarded at answered
  split at answered
  · cases answered
  · exact answered

/-- What is done is done by the store behind. -/
theorem of_guardedChange {change : σ → Change σ StoreError α} {value : α}
    (done : (unreliable.guardedChange call change).result = .ok value) :
    (change unreliable.store).result = .ok value ∧
      (unreliable.guardedChange call change).store =
        { unreliable with store := (change unreliable.store).store } := by
  unfold guardedChange at done ⊢
  split at done
  · cases done
  · next works =>
      rw [if_neg works]
      exact ⟨done, rfl⟩

/-- What is refused changes nothing, if it changes nothing in the store behind. -/
theorem guardedChange_refused {change : σ → Change σ StoreError α} {error : StoreError}
    (keeps : (change unreliable.store).result = .error (.refused error) →
      (change unreliable.store).store = unreliable.store)
    (refused : (unreliable.guardedChange call change).result = .error (.refused error)) :
    (unreliable.guardedChange call change).store = unreliable := by
  unfold guardedChange at refused ⊢
  split at refused
  · next fails => rw [if_pos fails, Change.none]
  · next works =>
      rw [if_neg works]
      exact congrArg (fun store : σ => { unreliable with store := store }) (keeps refused)

end Guarded

variable {σ : Type} [Store σ] [Accounted σ]

instance : Accounted (Unreliable σ) where
  objects unreliable := Accounted.objects unreliable.store
  limit unreliable := Accounted.limit unreliable.store
  Sound unreliable := Accounted.Sound unreliable.store
  capacity_value := fun sound answered => Accounted.capacity_value sound (of_guarded answered)
  occupancy_value := fun sound answered => Accounted.occupancy_value sound (of_guarded answered)
  sliceSpace_ok := fun sound answered => Accounted.sliceSpace_ok sound (of_guarded answered)
  create_ok := by
    intro unreliable id object sound fresh done
    obtain ⟨result, store⟩ := of_guardedChange done
    obtain ⟨extents, resolved, objects, limit, stays⟩ := Accounted.create_ok sound fresh result
    refine ⟨extents, resolved, ?_, ?_, ?_⟩ <;> simp only [Store.create, store]
    · exact objects
    · exact limit
    · exact stays
  create_refused := fun sound refused =>
    guardedChange_refused (Accounted.create_refused sound) refused
  destroy_ok := by
    intro unreliable id direction sound done
    obtain ⟨result, store⟩ := of_guardedChange done
    obtain ⟨object, stored, named, same, objects, limit, stays⟩ :=
      Accounted.destroy_ok sound result
    refine ⟨object, stored, named, same, ?_, ?_, ?_⟩ <;> simp only [Store.destroy, store]
    · exact objects
    · exact limit
    · exact stays
  destroy_refused := fun sound refused =>
    guardedChange_refused (Accounted.destroy_refused sound) refused

end Unreliable

end Admission
