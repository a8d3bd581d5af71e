import Admission.Proofs.Store.Contents

/-!
# The store of records keeps exact account

A new object is read back with the extents that were written for it, and one that is removed
takes its rows along.  No packed capacity is so large that an extent within it wraps around, so
tables stay readable.  Hence the store of records is `Accounted`, like the one in memory.
-/

namespace Admission

namespace RecordStore

variable {store : RecordStore} {direction : Direction} {medium : Medium} {id : ObjectId}

/-! ## Changes -/

theorem extents_of_admitted {object : NewObject} {extents : List Extent}
    (admits : store.admitted object = .ok extents) :
    object.source.extents store.extentsOf = .ok extents := by
  simp only [admitted, Checked.bind_eq_ok_iff] at admits
  obtain ⟨found, resolved, admits⟩ := admits
  split at admits
  · cases admits
    exact resolved
  · simp only [Checked.bind_eq_ok_iff] at admits
    obtain ⟨-, -, -, -, assembled⟩ := admits
    cases assembled
    exact resolved

/-- Rows of other objects do not count for an object. -/
theorem readObject_append {object : ObjectRow} {rows more : List ExtentRow}
    (others : ∀ row ∈ more, row.object ≠ object.id) :
    readObject (rows ++ more) object = readObject rows object := by
  have none : more.filter (fun row => row.object = object.id) = [] :=
    List.filter_eq_nil_iff.mpr fun row member => by simpa using others row member
  rw [readObject, readObject, List.filter_append, none, List.append_nil]

theorem rows_of_own (id : ObjectId) (extents : List Extent) :
    (extents.map (ExtentRow.of id)).filter (fun row => row.object = id) =
      extents.map (ExtentRow.of id) := by
  refine List.filter_eq_self.mpr fun row member => ?_
  obtain ⟨extent, -, rfl⟩ := List.mem_map.mp member
  simp [ExtentRow.of]

/-- A new object is read back with the extents that were written for it. -/
theorem readObject_written {object : ObjectRow} {rows : List ExtentRow}
    (others : ∀ row ∈ rows, row.object ≠ object.id) (extents : List Extent) :
    readObject (rows ++ extents.map (ExtentRow.of object.id)) object =
      ⟨object.id, object.readDirection, extents, object.provisional⟩ := by
  have none : rows.filter (fun row => row.object = object.id) = [] :=
    List.filter_eq_nil_iff.mpr fun row member => by simpa using others row member
  rw [readObject, List.filter_append, none, rows_of_own, List.nil_append, List.map_map]
  congr 1
  exact (List.map_congr_left fun extent _ => ExtentRow.read_of object.id extent).trans
    (List.map_id extents)

/-- The tables after an object was written. -/
def written (store : RecordStore) (id : ObjectId) (object : NewObject)
    (extents : List Extent) : RecordStore :=
  { store with
    objects := store.objects ++ [⟨id, object.direction.name, object.provisional⟩]
    extents := store.extents ++ extents.map (ExtentRow.of id) }

theorem contents_written (readable : store.Readable)
    (fresh : ∀ row ∈ store.objects, row.id ≠ id) (object : NewObject)
    (extents : List Extent) :
    (store.written id object extents).contents =
      store.contents ++ [⟨id, object.direction, extents, object.provisional⟩] := by
  have others : ∀ row ∈ store.extents, row.object ≠ id := by
    intro row member same
    obtain ⟨owner, isOwner, owns⟩ := readable.owned row member
    exact fresh owner isOwner (owns.trans same)
  have old : store.objects.map (readObject (store.extents ++ extents.map (ExtentRow.of id))) =
      store.contents := by
    refine List.map_congr_left fun row isRow => readObject_append fun extent member => ?_
    obtain ⟨found, -, rfl⟩ := List.mem_map.mp member
    exact fun same => fresh row isRow same.symm
  have new : readObject (store.extents ++ extents.map (ExtentRow.of id))
      ⟨id, object.direction.name, object.provisional⟩ =
      ⟨id, _, extents, object.provisional⟩ := readObject_written others extents
  rw [ObjectRow.readDirection_of_name rfl] at new
  rw [contents, written, List.map_append, old, List.map_singleton]
  exact congrArg (fun added => store.contents ++ [added]) new

/-- Tables stay readable when an object is written whose lengths do not wrap around. -/
theorem Readable.written_of_short (readable : store.Readable)
    (fresh : ∀ row ∈ store.objects, row.id ≠ id) {object : NewObject} {extents : List Extent}
    (short : ∀ extent ∈ extents, extent.length.toNat < 9223372036854775808) :
    (store.written id object extents).Readable where
  directions := by
    intro row member
    rcases List.mem_append.mp member with old | new
    · exact readable.directions row old
    · rw [List.mem_singleton.mp new]
      exact ⟨object.direction, rfl⟩
  media := by
    intro row member
    rcases List.mem_append.mp member with old | new
    · exact readable.media row old
    · obtain ⟨extent, -, rfl⟩ := List.mem_map.mp new
      exact ⟨extent.medium, rfl⟩
  lengths := by
    intro row member
    rcases List.mem_append.mp member with old | new
    · exact readable.lengths row old
    · obtain ⟨extent, isExtent, rfl⟩ := List.mem_map.mp new
      exact toInt_toInt64_nonneg (short extent isExtent)
  owned := by
    intro row member
    rcases List.mem_append.mp member with old | new
    · obtain ⟨owner, isOwner, owns⟩ := readable.owned row old
      exact ⟨owner, List.mem_append_left _ isOwner, owns⟩
    · obtain ⟨extent, -, rfl⟩ := List.mem_map.mp new
      exact ⟨_, List.mem_append_right _ (List.mem_singleton_self _), rfl⟩
  unique := by
    rw [RecordStore.written, List.map_append, List.nodup_append]
    refine ⟨readable.unique, List.nodup_singleton _, ?_⟩
    intro name old other new same
    obtain ⟨row, member, rfl⟩ := List.mem_map.mp old
    rw [List.map_singleton, List.mem_singleton] at new
    exact fresh row member (same.trans new)

/-- No capacity is so large that an extent within it wraps around. -/
theorem Readable.written (readable : store.Readable)
    (fresh : ∀ row ∈ store.objects, row.id ≠ id) {object : NewObject} {extents : List Extent}
    (within : ∀ medium, Extent.amount extents medium ≤
      max 0 (store.limit object.direction medium)) :
    (store.written id object extents).Readable := by
  refine readable.written_of_short fresh fun extent isExtent => ?_
  have own := Extent.length_le_amount isExtent
  have bound := within extent.medium
  have small := store.limit_lt object.direction extent.medium
  omega

/-- The tables after an object was removed. -/
def erased (store : RecordStore) (id : ObjectId) : RecordStore :=
  { store with
    objects := store.objects.filter fun kept => kept.id ≠ id
    extents := store.extents.filter fun kept => kept.object ≠ id }

theorem contents_erased (store : RecordStore) (id : ObjectId) :
    (store.erased id).contents = store.contents.filter fun object => object.id ≠ id := by
  rw [contents, contents, erased, List.filter_map]
  refine List.map_congr_left fun row member => ?_
  have different : row.id ≠ id := by simpa using (List.mem_filter.mp member).2
  rw [readObject, readObject, List.filter_filter]
  congr 3
  funext extent
  by_cases belongs : extent.object = row.id <;> simp [belongs, different]

theorem Readable.erased (readable : store.Readable) (id : ObjectId) :
    (store.erased id).Readable where
  directions := fun row member => readable.directions row (List.mem_filter.mp member).1
  media := fun row member => readable.media row (List.mem_filter.mp member).1
  lengths := fun row member => readable.lengths row (List.mem_filter.mp member).1
  owned := by
    intro row member
    obtain ⟨isRow, stays⟩ := List.mem_filter.mp member
    obtain ⟨owner, isOwner, owns⟩ := readable.owned row isRow
    exact ⟨owner, List.mem_filter.mpr ⟨isOwner, by rw [owns]; exact stays⟩, owns⟩
  unique := (List.filter_sublist.map _).nodup readable.unique

/-- A store that refuses to create an object stays as it is. -/
theorem store_of_create_refused {object : NewObject} {error : StoreError}
    (refused : (store.create id object).result = .error (.refused error)) :
    (store.create id object).store = store := by
  unfold create at refused ⊢
  cases admits : store.admitted object with
  | error failure => rfl
  | ok extents =>
      rw [admits] at refused
      cases refused

instance : Accounted RecordStore where
  objects := contents
  limit := limit
  Sound := Readable
  capacity_value := by
    intro store direction medium capacity readable answered
    have unfolded : store.capacity direction medium = .ok capacity := answered
    rw [limit, unfolded]
  occupancy_value := fun readable answered => value_of_occupancy readable answered
  sliceSpace_ok := by
    intro store id offset length space readable answered
    have unfolded : store.sliceSpace id offset length = .ok space := answered
    simp only [sliceSpace, Checked.bind_eq_ok_iff, Checked.ofArithmetic_eq_ok_iff] at unfolded
    obtain ⟨extents, looked, cut, sliced, totalled⟩ := unfolded
    obtain ⟨object, isFound, rfl⟩ := extentsOf_eq readable looked
    refine ⟨object, isFound, fun medium => ?_⟩
    rw [Extent.value_of_aggregate totalled, MemoryStore.slice_eq_ok sliced]
  create_ok := by
    intro store id object readable fresh done
    have unfolded : (store.create id object).result = .ok () := done
    have isFresh : ∀ row ∈ store.objects, row.id ≠ id := fun row member =>
      fresh (readObject store.extents row) (List.mem_map_of_mem member)
    simp only [Store.create, create] at unfolded ⊢
    cases admits : store.admitted object with
    | error failure =>
        rw [admits] at unfolded
        cases unfolded
    | ok extents =>
        exact ⟨extents, resolve_of_extents readable (extents_of_admitted admits),
          contents_written readable isFresh object extents, rfl,
          fun within => readable.written isFresh within⟩
  create_refused := fun _ refused => store_of_create_refused refused
  destroy_ok := by
    intro store id direction readable done
    have unfolded : (store.destroy id).result = .ok direction := done
    simp only [Store.destroy, destroy] at unfolded ⊢
    cases found : store.find? id with
    | none =>
        rw [found] at unfolded
        cases unfolded
    | some row =>
        rw [found] at unfolded
        have isRow := List.mem_of_find?_eq_some found
        have named : row.id = id := by simpa using List.find?_some found
        obtain ⟨own, isOwn⟩ := readable.directions row isRow
        have outcome : row.parseDirection = .ok direction := unfolded
        rw [ObjectRow.parseDirection_eq isOwn] at outcome
        cases outcome
        exact ⟨readObject store.extents row, List.mem_map_of_mem isRow, named,
          ObjectRow.readDirection_of_name isOwn, contents_erased store id, rfl,
          readable.erased id⟩
  destroy_refused := by
    intro store id error readable refused
    have unfolded : (store.destroy id).result = .error (.refused error) := refused
    simp only [Store.destroy, destroy] at unfolded ⊢
    cases found : store.find? id with
    | none => rfl
    | some row =>
        rw [found] at unfolded
        obtain ⟨own, isOwn⟩ := readable.directions row (List.mem_of_find?_eq_some found)
        have outcome : row.parseDirection = .error (.refused error) := unfolded
        rw [ObjectRow.parseDirection_eq isOwn] at outcome
        cases outcome

/-! ## Opening -/

/-- Opening a store changes its capacities only. -/
theorem setLimits_keeps (limits : Limits) (store : RecordStore)
    (order : List (Direction × Medium)) :
    (setLimits limits store order).store.objects = store.objects ∧
      (setLimits limits store order).store.extents = store.extents := by
  induction order generalizing store with
  | nil => exact ⟨rfl, rfl⟩
  | cons first rest induction =>
      obtain ⟨direction, medium⟩ := first
      simp only [setLimits]
      split
      · exact ⟨rfl, rfl⟩
      · exact induction _

theorem Readable.openWith (readable : store.Readable) (path : String) (limits : Limits) :
    (store.openWith path limits).store.Readable := by
  obtain ⟨objects, extents⟩ := setLimits_keeps limits store limitOrder
  constructor <;>
    simp only [RecordStore.openWith, objects, extents]
  · exact readable.directions
  · exact readable.media
  · exact readable.lengths
  · exact readable.owned
  · exact readable.unique

/-- Opening a store leaves its objects as they are. -/
theorem contents_openWith (store : RecordStore) (path : String) (limits : Limits) :
    (store.openWith path limits).store.contents = store.contents := by
  obtain ⟨objects, extents⟩ := setLimits_keeps limits store limitOrder
  rw [contents, contents, ← objects, ← extents]
  rfl

theorem ids_openWith (store : RecordStore) (path : String) (limits : Limits) :
    (store.openWith path limits).store.contents.map StoredObject.id =
      store.objects.map ObjectRow.id := by
  rw [contents_openWith, map_id_contents]

theorem readable_empty : RecordStore.empty.Readable where
  directions := by simp [empty]
  media := by simp [empty]
  lengths := by simp [empty]
  owned := by simp [empty]
  unique := List.nodup_nil

end RecordStore

end Admission
