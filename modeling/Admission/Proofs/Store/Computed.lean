import Admission.Proofs.Store.Accounted

/-!
# Sums that are computed

A checked sum of amounts that are not negative is computed if there is a magnitude for the
total, since every sum on the way is between two magnitudes.  So the space of a sequence of
extents is computed if it is the value of some space (`Extent.aggregate_eq_ok`), and the store in
memory tells what is occupied as long as that is a magnitude (`MemoryStore.occupancy_answered`).
-/

namespace Admission

namespace Magnitude

/-- Every number between the values of two magnitudes is the value of one. -/
theorem exists_between (lower upper : Magnitude) {number : Int} (least : lower.value ≤ number)
    (most : number ≤ upper.value) : ∃ magnitude : Magnitude, magnitude.value = number := by
  have lowest := lower.high_fits
  have highest := upper.high_fits
  rw [high_eq] at lowest highest
  unfold FitsWord at lowest highest
  refine (exists_value_iff number).mpr ⟨?_, ?_⟩ <;> omega

/-- Adding what is not negative gives the magnitude of the sum, if there is one. -/
theorem add_eq_ok {magnitude increment total : Magnitude} (nonneg : 0 ≤ increment.value)
    (sum : total.value = magnitude.value + increment.value) :
    magnitude.add increment = .ok total := by
  have parts : increment.value = increment.high * 1000000000 + increment.low := rfl
  have high := high_eq increment
  obtain ⟨raised, isRaised⟩ : ∃ raised : Magnitude,
      raised.value = magnitude.value + increment.low := by
    refine exists_between magnitude total ?_ ?_ <;> omega
  unfold add
  rw [increaseBy_eq_ok_iff.mpr isRaised]
  refine addHigh_eq_ok_iff.mpr ?_
  omega

end Magnitude

namespace Space

/-- Spaces with the same values are the same. -/
theorem ext_value {left right : Space}
    (same : ∀ medium, (left.get medium).value = (right.get medium).value) : left = right := by
  have file := Magnitude.value_injective (same .file)
  have bulk := Magnitude.value_injective (same .bulk)
  have heap := Magnitude.value_injective (same .heap)
  cases left
  cases right
  simp only [get] at file bulk heap
  rw [file, bulk, heap]

theorem exists_of_values {values : Medium → Int}
    (exist : ∀ medium, ∃ magnitude : Magnitude, magnitude.value = values medium) :
    ∃ space : Space, ∀ medium, (space.get medium).value = values medium := by
  obtain ⟨file, isFile⟩ := exist .file
  obtain ⟨bulk, isBulk⟩ := exist .bulk
  obtain ⟨heap, isHeap⟩ := exist .heap
  refine ⟨⟨file, bulk, heap⟩, ?_⟩
  rintro (_ | _ | _)
  · exact isFile
  · exact isBulk
  · exact isHeap

theorem add_eq_ok {space increment total : Space}
    (nonneg : ∀ medium, 0 ≤ (increment.get medium).value)
    (sums : ∀ medium, (total.get medium).value =
      (space.get medium).value + (increment.get medium).value) :
    space.add increment = .ok total := by
  have file : space.file.add increment.file = .ok total.file :=
    Magnitude.add_eq_ok (nonneg .file) (sums .file)
  have bulk : space.bulk.add increment.bulk = .ok total.bulk :=
    Magnitude.add_eq_ok (nonneg .bulk) (sums .bulk)
  have heap : space.heap.add increment.heap = .ok total.heap :=
    Magnitude.add_eq_ok (nonneg .heap) (sums .heap)
  rw [add, file, bulk, heap]
  rfl

end Space

namespace Extent

theorem aggregateFrom_eq_ok {space total : Space} {extents : List Extent}
    (sums : ∀ medium, (total.get medium).value =
      (space.get medium).value + amount extents medium) :
    aggregateFrom space extents = .ok total := by
  induction extents generalizing space with
  | nil =>
      rw [aggregateFrom, Space.ext_value fun medium => (sums medium).trans (Int.add_zero _)]
  | cons extent rest induction =>
      obtain ⟨sum, isSum⟩ : ∃ sum : Magnitude,
          sum.value = (space.get extent.medium).value + extent.length.toNat := by
        have own := sums extent.medium
        have others := amount_nonneg rest extent.medium
        rw [amount_cons, if_pos rfl] at own
        refine Magnitude.exists_between (space.get extent.medium) (total.get extent.medium)
          ?_ ?_ <;> omega
      have added : (space.get extent.medium).add (.ofUInt64 extent.length) = .ok sum :=
        Magnitude.add_eq_ok (by simp) (by rw [isSum, Magnitude.value_ofUInt64])
      simp only [aggregateFrom, Checked.bind_eq_ok_iff]
      refine ⟨sum, added, induction fun medium => ?_⟩
      rw [sums medium, amount_cons]
      by_cases same : extent.medium = medium
      · subst same
        rw [Space.get_set_self, isSum, if_pos rfl]
        omega
      · rw [Space.get_set_of_ne _ _ (Ne.symm same), if_neg same]
        omega

/-- The space of extents is computed if it is the value of some space. -/
theorem aggregate_eq_ok {total : Space} {extents : List Extent}
    (exact : ∀ medium, (total.get medium).value = amount extents medium) :
    aggregate extents = .ok total := by
  refine aggregateFrom_eq_ok fun medium => ?_
  have zero : (Space.zero.get medium).value = 0 := by cases medium <;> rfl
  rw [zero, Int.zero_add, exact]

end Extent

namespace MemoryStore

/-- What each object takes, and the sum with it, are at most the total, so that they can be
computed. -/
theorem occupiedFrom_eq_ok {direction : Direction} {space total : Space}
    {objects : List StoredObject} (nonneg : ∀ medium, 0 ≤ (space.get medium).value)
    (sums : ∀ medium, (total.get medium).value =
      (space.get medium).value + Admission.occupied objects direction medium) :
    occupiedFrom direction space objects = .ok total := by
  induction objects generalizing space with
  | nil =>
      rw [occupiedFrom, Space.ext_value fun medium => (sums medium).trans (Int.add_zero _)]
  | cons object rest induction =>
      unfold occupiedFrom
      by_cases same : object.direction = direction
      · have parts : ∀ medium, (total.get medium).value = (space.get medium).value +
            Extent.amount object.extents medium + Admission.occupied rest direction medium := by
          intro medium
          rw [sums, occupied_cons, if_pos same, Int.add_assoc]
        have own := Extent.amount_nonneg object.extents
        have others := occupied_nonneg rest direction
        obtain ⟨used, isUsed⟩ : ∃ used : Space, ∀ medium,
            (used.get medium).value = Extent.amount object.extents medium := by
          refine Space.exists_of_values fun medium => ?_
          have part := parts medium
          have first := nonneg medium
          have last := others medium
          refine Magnitude.exists_between .zero (total.get medium) (own medium) ?_
          omega
        obtain ⟨sum, isSum⟩ : ∃ sum : Space, ∀ medium, (sum.get medium).value =
            (space.get medium).value + Extent.amount object.extents medium := by
          refine Space.exists_of_values fun medium => ?_
          have part := parts medium
          have middle := own medium
          have last := others medium
          refine Magnitude.exists_between (space.get medium) (total.get medium) ?_ ?_ <;> omega
        have added : space.add used = .ok sum :=
          Space.add_eq_ok (fun medium => (isUsed medium).symm ▸ own medium)
            fun medium => by rw [isSum, isUsed]
        rw [if_pos same]
        simp only [Checked.bind_eq_ok_iff]
        refine ⟨used, Extent.aggregate_eq_ok isUsed, sum, added, induction ?_ ?_⟩
        · intro medium
          rw [isSum]
          exact Int.add_nonneg (nonneg medium) (own medium)
        · intro medium
          rw [parts, isSum]
      · rw [if_neg same]
        refine induction nonneg fun medium => ?_
        rw [sums, occupied_cons, if_neg same, Int.zero_add]

/-- An occupancy is answered as long as every sum of the direction is a magnitude. -/
theorem occupancy_answered {store : MemoryStore} {direction : Direction}
    (fits : ∀ medium, Admission.occupied store.objects direction medium <
      9223372036854775808000000000) (medium : Medium) :
    ∃ occupancy, Store.occupancy store direction medium = .ok occupancy := by
  obtain ⟨total, isTotal⟩ : ∃ total : Space, ∀ medium,
      (total.get medium).value = Admission.occupied store.objects direction medium := by
    refine Space.exists_of_values fun medium => (Magnitude.exists_value_iff _).mpr ?_
    have nonneg := occupied_nonneg store.objects direction medium
    have most := fits medium
    unfold FitsWord
    omega
  have zero : ∀ medium, (Space.zero.get medium).value = 0 := by
    rintro (_ | _ | _) <;> rfl
  have computed : store.occupied direction = .ok total :=
    occupiedFrom_eq_ok (fun medium => Int.le_of_eq (zero medium).symm)
      fun medium => by rw [zero, Int.zero_add, isTotal]
  refine ⟨total.get medium, ?_⟩
  simp only [Store.occupancy, computed]
  rfl

end MemoryStore

end Admission
