import Admission.Proofs.Store.Computed

/-!
# Bytes of extents

Extents stand for a sequence of bytes, each on a medium (`Extent.media`).  Their lengths add up to
the number of these bytes (`Extent.bytes`), and what they take on a medium is how often it occurs
among them (`Extent.amount_eq_count`).

The sums of a sequence of extents are computed if its bytes can be counted by a word: the number of
bytes (`Extent.total_eq_ok`) and the space that they take (`Extent.aggregate_finishes`).
-/

namespace Admission.Extent

variable {extents : List Extent}

/-! ## Numbers of bytes -/

/-- The number of bytes of a sequence of extents. -/
def bytes (extents : List Extent) : Nat := (extents.map fun extent => extent.length.toNat).sum

@[simp] theorem bytes_nil : bytes [] = 0 := rfl

@[simp] theorem bytes_cons (extent : Extent) (rest : List Extent) :
    bytes (extent :: rest) = extent.length.toNat + bytes rest := rfl

theorem amount_le_bytes (extents : List Extent) (medium : Medium) :
    amount extents medium ≤ bytes extents := by
  induction extents with
  | nil => exact Int.le_refl 0
  | cons extent rest induction =>
      rw [amount_cons, bytes_cons]
      split <;> omega

/-- Every byte is on one of the media. -/
theorem amount_add_amount (extents : List Extent) :
    amount extents .file + amount extents .bulk + amount extents .heap = bytes extents := by
  induction extents with
  | nil => rfl
  | cons extent rest induction =>
      simp only [amount_cons, bytes_cons]
      cases extent.medium <;> simp only [reduceCtorEq, if_true, if_false] <;> omega

/-! ## Media of bytes -/

/-- The medium of every byte. -/
def media (extents : List Extent) : List Medium :=
  extents.flatMap fun extent => List.replicate extent.length.toNat extent.medium

@[simp] theorem media_nil : media [] = [] := rfl

@[simp] theorem media_cons (extent : Extent) (rest : List Extent) :
    media (extent :: rest) = List.replicate extent.length.toNat extent.medium ++ media rest := by
  simp [media]

@[simp] theorem media_append (front rest : List Extent) :
    media (front ++ rest) = media front ++ media rest := by
  simp [media]

@[simp] theorem length_media (extents : List Extent) : (media extents).length = bytes extents := by
  induction extents with
  | nil => rfl
  | cons extent rest induction =>
      rw [media_cons, List.length_append, List.length_replicate, induction, bytes_cons]

/-- What extents take on a medium are the bytes that are on it. -/
theorem amount_eq_count (extents : List Extent) (medium : Medium) :
    amount extents medium = (media extents).count medium := by
  induction extents with
  | nil => rfl
  | cons extent rest induction =>
      rw [amount_cons, media_cons, List.count_append, List.count_replicate, induction]
      by_cases same : extent.medium = medium <;> simp [same]

theorem amount_append (front back : List Extent) (medium : Medium) :
    amount (front ++ back) medium = amount front medium + amount back medium := by
  rw [amount_eq_count, amount_eq_count, amount_eq_count, media_append, List.count_append]
  exact Nat.cast_add _ _

/-! ## Sums -/

theorem totalFrom_eq_ok (sum : UInt64) (small : sum.toNat + bytes extents < 18446744073709551616) :
    ∃ counted, totalFrom sum extents = .ok counted ∧
      counted.toNat = sum.toNat + bytes extents := by
  induction extents generalizing sum with
  | nil => exact ⟨sum, rfl, rfl⟩
  | cons extent rest induction =>
      rw [bytes_cons] at small
      have own : sum.toNat + extent.length.toNat < 18446744073709551616 := by omega
      have exact : (sum + extent.length).toNat = sum.toNat + extent.length.toNat := by
        rw [UInt64.toNat_add]
        exact Nat.mod_eq_of_lt own
      obtain ⟨counted, isTotal, isCounted⟩ := induction (sum + extent.length) (by omega)
      refine ⟨counted, ?_, ?_⟩
      · rw [totalFrom, if_pos own, isTotal]
      · rw [isCounted, exact, bytes_cons, Nat.add_assoc]

/-- Bytes that a word can count are counted. -/
theorem total_eq_ok (small : bytes extents < 18446744073709551616) :
    ∃ counted, total extents = .ok counted ∧ counted.toNat = bytes extents := by
  obtain ⟨counted, isTotal, isCounted⟩ := totalFrom_eq_ok 0 (by simpa using small)
  exact ⟨counted, isTotal, by simpa using isCounted⟩

theorem aggregate_finishes (small : bytes extents < 18446744073709551616) :
    ∃ total, aggregate extents = .ok total := by
  obtain ⟨total, exact⟩ : ∃ total : Space, ∀ medium,
      (total.get medium).value = amount extents medium := by
    refine Space.exists_of_values fun medium => (Magnitude.exists_value_iff _).mpr ?_
    have nonneg := amount_nonneg extents medium
    have most := amount_le_bytes extents medium
    unfold FitsWord
    omega
  exact ⟨total, aggregate_eq_ok exact⟩

end Admission.Extent
