import Admission.Proofs.Extents.Chains
import Admission.Proofs.Scan.Room
import Admission.Proofs.Store.Contents

/-!
# Changes of a store of records finish

A store of records tells words (`RecordStore.inWords`).  An object is made of no more bytes than a
word can count as long as that is true of all objects from which it may be cut
(`Source.bytes_resolve_lt`), and then neither a change of the store overflows
(`RecordStore.create_finishes`, `RecordStore.destroy_finishes`) nor the sum of a slice
(`RecordStore.sliceSpace_finishes`).
-/

namespace Admission

/-! ## Extents that can be counted -/

namespace Extent

variable {extents : List Extent}

/-- What is cut out of extents has no more bytes than they have. -/
theorem bytes_cut_le (extents : List Extent) (skip remaining : UInt64) :
    bytes (cut extents skip remaining) ≤ bytes extents := by
  rw [cut_eq_within, bytes_within]
  omega

theorem slice_finishes (small : bytes extents < 18446744073709551616) (offset length : UInt64) :
    (slice extents offset length).Finishes := by
  obtain ⟨counted, isTotal, isCounted⟩ := total_eq_ok small
  by_cases fits : offset.toNat + length.toNat ≤ bytes extents
  · rw [slice_eq_ok small fits]
    exact Checked.finishes_ok _
  · rw [slice_eq_refused isTotal (isCounted ▸ Nat.lt_of_not_le fits)]
    exact Checked.finishes_refuse _

end Extent

/-- The bytes of all objects can be counted. -/
def Countable (objects : List StoredObject) : Prop :=
  ∀ object ∈ objects, Extent.bytes object.extents < 18446744073709551616

/-- A source has no more bytes than can be counted if that is true of all objects. -/
theorem Source.bytes_resolve_lt {objects : List StoredObject} {source : Source}
    {extents : List Extent} (countable : Countable objects)
    (resolved : source.resolve objects = some extents) :
    Extent.bytes extents < 18446744073709551616 := by
  unfold resolve at resolved
  split at resolved
  · cases resolved
    decide
  · cases resolved
    have word := source.length.toNat_lt
    simpa using word
  · next id location =>
      obtain ⟨object, isFound, rfl⟩ := Option.map_eq_some_iff.mp resolved
      have whole := countable object (List.mem_of_find?_eq_some isFound)
      exact (Extent.bytes_cut_le _ _ _).trans_lt whole

/-! ## Answers and changes -/

namespace RecordStore

variable {store : RecordStore} {direction : Direction}

/-- All that a store of records tells is told in words. -/
theorem inWords (store : RecordStore) (direction : Direction) : Store.InWords store direction := by
  refine fun medium => ⟨?_, ?_⟩
  · change Checked.InWords (store.capacity direction medium)
    unfold capacity
    split
    · exact Or.inl ⟨.zero, rfl, by decide⟩
    · split
      · next capacity count unpacked =>
          have packable := Magnitude.packable_of_unpack unpacked
          exact Or.inl ⟨capacity, rfl, packable.1, packable.2.trans (by decide)⟩
      · exact Or.inr ⟨_, rfl⟩
  · change Checked.InWords (store.occupancy direction medium)
    unfold occupancy
    split
    · next sum computed =>
        refine Or.inl ⟨.ofInt64 sum, rfl, ?_⟩
        have least := sum.le_toInt
        have most := sum.toInt_lt
        rw [Magnitude.value_ofInt64]
        omega
    · exact Or.inr ⟨_, rfl⟩

theorem checkLimits_finishes (store : RecordStore) (direction : Direction) (needed : Space)
    (media : List Medium) : (store.checkLimits direction needed media).Finishes := by
  induction media with
  | nil => exact Checked.finishes_ok ()
  | cons medium rest induction =>
      obtain ⟨capacities, occupancies⟩ := store.inWords direction medium
      refine capacities.finishes.bind fun capacity isCapacity => ?_
      refine occupancies.finishes.bind fun occupancy isOccupancy => ?_
      obtain ⟨nonneg, word⟩ := capacities.bounds isCapacity
      obtain ⟨occupied, small⟩ := occupancies.bounds isOccupancy
      obtain ⟨available, isLeft⟩ : ∃ available : Magnitude,
          available.value = capacity.value - occupancy.value := by
        refine (Magnitude.exists_value_iff _).mpr ?_
        unfold FitsWord
        omega
      have lifted : (liftM (capacity.sub occupancy) : Checked StoreError Magnitude) =
          .ok available :=
        Checked.ofArithmetic_eq_ok_iff.mpr (Magnitude.sub_eq_ok occupied isLeft)
      refine Checked.Finishes.bind (lifted ▸ Checked.finishes_ok available) fun found _ => ?_
      split
      · exact induction
      · exact Checked.finishes_refuse _

/-- To look up the extents of a source finishes if all objects can be counted. -/
theorem extents_finishes (readable : store.Readable) (countable : Countable store.contents)
    (source : Source) : (source.extents store.extentsOf).Finishes := by
  unfold Source.extents
  split
  · exact Checked.finishes_ok _
  · exact Checked.finishes_ok _
  · next id location =>
      rw [extentsOf_contents readable]
      split
      · next object isFound =>
          exact Extent.slice_finishes (countable object (List.mem_of_find?_eq_some isFound)) _ _
      · exact Checked.Finishes.bind (Checked.finishes_refuse _) (by rintro value ⟨⟩)

/-- To create an object finishes if all objects before it can be counted. -/
theorem create_finishes (readable : store.Readable) (countable : Countable store.contents)
    (id : ObjectId) (object : NewObject) : (store.create id object).result.Finishes := by
  have admits : (store.admitted object).Finishes := by
    refine (extents_finishes readable countable object.source).bind fun extents found => ?_
    split
    · exact Checked.finishes_ok extents
    · have resolved := resolve_of_extents readable found
      obtain ⟨needed, totalled⟩ :=
        Extent.aggregate_finishes (Source.bytes_resolve_lt countable resolved)
      have lifted : (liftM (Extent.aggregate extents) : Checked StoreError Space) = .ok needed :=
        Checked.ofArithmetic_eq_ok_iff.mpr totalled
      refine Checked.Finishes.bind (lifted ▸ Checked.finishes_ok needed) fun space _ => ?_
      exact (store.checkLimits_finishes object.direction space Medium.all).bind fun _ _ =>
        Checked.finishes_ok extents
  unfold create
  cases admitted : store.admitted object with
  | ok extents => exact Checked.finishes_ok ()
  | error failure =>
      rintro kind ⟨⟩
      exact admits kind admitted

/-- To tell the space of a slice finishes if the object can be counted. -/
theorem sliceSpace_finishes (readable : store.Readable) (countable : Countable store.contents)
    (id : ObjectId) (offset length : UInt64) : (store.sliceSpace id offset length).Finishes := by
  unfold sliceSpace
  rw [extentsOf_contents readable]
  split
  · next object isFound =>
      have small := countable object (List.mem_of_find?_eq_some isFound)
      refine Checked.Finishes.bind (Checked.finishes_ok object.extents) fun whole isWhole => ?_
      cases isWhole
      refine (Extent.slice_finishes small offset length).bind fun cut sliced => ?_
      obtain ⟨space, totalled, -⟩ := Extent.aggregate_slice small sliced
      rw [totalled]
      exact Checked.finishes_ok space
  · exact Checked.Finishes.bind (Checked.finishes_refuse _) (by rintro value ⟨⟩)

/-- To destroy an object takes no reckoning. -/
theorem destroy_finishes (store : RecordStore) (id : ObjectId) :
    (store.destroy id).result.Finishes := by
  unfold destroy
  split
  · exact Checked.finishes_refuse _
  · unfold ObjectRow.parseDirection
    split
    · exact Checked.finishes_ok _
    · exact Checked.finishes_refuse _

end RecordStore

end Admission
