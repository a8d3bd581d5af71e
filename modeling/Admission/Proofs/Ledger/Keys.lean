import Admission.Proofs.Ledger.Slots

/-!
# Slots are given out once

A slot that is freed comes back under a later version, so that it is never given out again.
Versions are 32-bit words, and after the last one comes the first again: `SlotPool.Unworn` says
that this has not happened to a slot that is free now.

`SlotPool.Issued` is what is known of a slot that was given out at some time.  Its index is still
held under its own version or a later one, or is free under a later one.  Nothing that happens to
the pool takes that away, and the slot that is taken next is none of those.
-/

namespace Admission

namespace SlotPool

/-- No free slot has gone through all versions, which is when it would be given out again. -/
def Unworn (pool : SlotPool) : Prop := ∀ slot ∈ pool.free, slot.version ≠ 1

instance (pool : SlotPool) : Decidable pool.Unworn := inferInstanceAs (Decidable (∀ _ ∈ _, _))

/-- The slot was given out, now or earlier. -/
inductive Issued (pool : SlotPool) (slot : SlotId) : Prop where
  | held {current : SlotId} :
      current ∈ pool.held → current.index = slot.index → slot.version ≤ current.version →
      Issued pool slot
  | freed {current : SlotId} :
      current ∈ pool.free → current.index = slot.index → slot.version < current.version →
      Issued pool slot

end SlotPool

/-- The version of a slot that is freed grows, unless it starts again. -/
theorem SlotId.version_lt_renew {slot : SlotId} (unworn : slot.renew.version ≠ 1) :
    slot.version < slot.renew.version := by
  have odd := slot.odd
  have small := slot.version.toNat_lt
  have different : slot.renew.version.toNat ≠ 1 := fun same => unworn (UInt32.toNat_inj.mp same)
  simp only [renew, ofParts, oddVersion, UInt32.toNat_add, UInt32.toNat_mul, UInt32.toNat_div,
    UInt32.reduceToNat] at different
  simp only [UInt32.lt_iff_toNat_lt, renew, ofParts, oddVersion, UInt32.toNat_add,
    UInt32.toNat_mul, UInt32.toNat_div, UInt32.reduceToNat]
  omega

namespace SlotPool

variable {pool taken : SlotPool} {slot other : SlotId}

namespace WellFormed

theorem index_ne_of_held_of_free (wellFormed : pool.WellFormed) (held : slot ∈ pool.held)
    (free : other ∈ pool.free) : slot.index ≠ other.index := by
  have distinct := wellFormed.distinct
  rw [List.map_append, List.nodup_append] at distinct
  exact distinct.2.2 _ (List.mem_map_of_mem held) _ (List.mem_map_of_mem free)

end WellFormed

namespace Issued

/-- A slot that is taken was not given out before, and what was given out before still was. -/
theorem take (issued : pool.Issued other) (wellFormed : pool.WellFormed) (spare : pool.Spare)
    (took : pool.take = some (slot, taken)) : taken.Issued other ∧ other ≠ slot := by
  have counted := wellFormed.counted
  unfold SlotPool.take at took
  split at took
  · cases took
  · split at took
    case h_1 first free isFree =>
      simp only [Option.some.injEq, Prod.mk.injEq] at took
      obtain ⟨rfl, rfl⟩ := took
      have firstFree : first ∈ pool.free := isFree ▸ List.mem_cons_self
      cases issued with
      | @held current isHeld sameIndex older =>
          refine ⟨.held (List.mem_cons_of_mem _ isHeld) sameIndex older, ?_⟩
          rintro rfl
          exact wellFormed.index_ne_of_held_of_free isHeld firstFree sameIndex
      | @freed current stillFree sameIndex older =>
          rw [isFree] at stillFree
          rcases List.mem_cons.mp stillFree with rfl | inRest
          · refine ⟨.held List.mem_cons_self sameIndex (UInt32.le_of_lt older), ?_⟩
            rintro rfl
            exact UInt32.lt_irrefl _ older
          · refine ⟨.freed inRest sameIndex older, ?_⟩
            rintro rfl
            have distinct := wellFormed.distinct
            rw [isFree, List.map_append, List.nodup_append, List.map_cons, List.nodup_cons]
              at distinct
            exact distinct.2.1.1 (sameIndex ▸ List.mem_map_of_mem inRest)
    case h_2 noneFree =>
      simp only [Option.some.injEq, Prod.mk.injEq] at took
      obtain ⟨rfl, rfl⟩ := took
      cases issued with
      | @held current isHeld sameIndex older =>
          refine ⟨.held (List.mem_cons_of_mem _ isHeld) sameIndex older, ?_⟩
          rintro rfl
          have known := wellFormed.known current (List.mem_append_left _ isHeld)
          have room : pool.opened + 1 < 4294967295 := by
            rw [noneFree, List.length_nil, Nat.add_zero] at counted
            exact counted ▸ spare
          rw [sameIndex, SlotId.ofParts,
            UInt32.toNat_ofNat_of_lt' (by simp only [UInt32.size]; omega)] at known
          omega
      | freed stillFree sameIndex older =>
          rw [noneFree] at stillFree
          cases stillFree

/-- A slot that is freed was given out, as was everything before. -/
theorem release (issued : pool.Issued other) (held : slot ∈ pool.held)
    (unworn : (pool.release slot).Unworn) : (pool.release slot).Issued other := by
  rw [SlotPool.release, if_pos held] at unworn ⊢
  cases issued with
  | @held current isHeld sameIndex older =>
      by_cases goes : current = slot
      · subst goes
        have grown := SlotId.version_lt_renew (unworn _ List.mem_cons_self)
        exact .freed List.mem_cons_self sameIndex (UInt32.lt_of_le_of_lt older grown)
      · exact .held ((List.mem_erase_of_ne goes).mpr isHeld) sameIndex older
  | freed isFree sameIndex older =>
      exact .freed (List.mem_cons_of_mem _ isFree) sameIndex older

end Issued

/-- A slot that is held was given out. -/
theorem issued_of_held (held : slot ∈ pool.held) : pool.Issued slot :=
  .held held rfl (UInt32.le_refl _)

end SlotPool

end Admission
