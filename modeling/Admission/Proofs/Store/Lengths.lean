import Admission.Proofs.Extents.Chains
import Admission.Proofs.Store.Recorded
import Admission.Proofs.Store.Wrapped

/-!
# Lengths that a store of records keeps

*Tables.*  Tables change through openings and calls (`RecordStore.Becomes`).  Every row of extents
belongs to an object that is there (`RecordStore.Owned`), so that an object under a new identifier
has no rows but its own (`RecordStore.wrote_written`).  These stay as they were written until the
object is destroyed (`RecordStore.Wrote.becomes`).

*Reads.*  What is told of an object is what comes back of its extents.  A store in memory that has
these extents tells the same exactly if no length goes beyond half of the range of a word: of the
space of a range (`RecordStore.Wrote.tellsSpaces_iff`) and of the extents of a copy
(`RecordStore.Wrote.tellsCopies_iff`, `RecordStore.Wrote.copies_iff`).

*Occupancies.*  An object adds its words to those of the others (`RecordStore.Wrote.signed_eq`).  An
occupancy grows by what a new object takes exactly in the cases of `Extent.Adds`
(`RecordStore.occupancy_grows_iff`), and exceeds by as much what it is without the object in the
same cases (`RecordStore.Wrote.occupancy_iff`).  Space that was not reserved is within a capacity,
which is less than an eighth of the range of a word (`RecordStore.fits_of_unreserved`).

`RecordStore.lengths_kept_iff` is the main statement.
-/

namespace Admission

namespace RecordStore

open Extent (amount bytes words reread Short Adds)

variable {store later : RecordStore} {id : ObjectId} {object : NewObject} {extents : List Extent}
  {direction : Direction} {medium : Medium}

/-! ## Uses of the tables -/

/-- What becomes of tables: they are opened, and called with identifiers for new objects that no
object has.  The spared objects are not destroyed. -/
inductive Becomes (store : RecordStore) (spared : List ObjectId) : RecordStore → Prop
  | same : Becomes store spared store
  | opened {later : RecordStore} (path : String) (limits : Limits) :
      Becomes store spared later → Becomes store spared (later.openWith path limits).store
  | called {later : RecordStore} {call : StoreCommand} :
      Becomes store spared later → (∀ id ∈ call.made?, later.find? id = none) →
      (∀ id ∈ spared, call ≠ .destroy id) → Becomes store spared (call.after later)

/-- An object that is created is written with the extents of its source. -/
theorem store_of_created (created : (store.create id object).result = .ok ()) :
    ∃ extents, store.admitted object = .ok extents ∧
      (store.create id object).store = store.written id object extents := by
  unfold create at created ⊢
  cases admits : store.admitted object with
  | error failure =>
      rw [admits] at created
      cases created
  | ok extents => exact ⟨extents, rfl, rfl⟩

/-- What a call makes of the tables: it leaves them, or writes an object, or removes one. -/
theorem after_cases (store : RecordStore) (call : StoreCommand) :
    call.after store = store ∨
      (∃ id object extents, call = .create id object ∧
        call.after store = store.written id object extents) ∨
      ∃ id, call = .destroy id ∧ call.after store = store.erased id := by
  cases call with
  | capacity | occupancy | sliceSpace => exact .inl rfl
  | create id object =>
      simp only [StoreCommand.after, Store.create, create]
      cases store.admitted object with
      | error failure => exact .inl rfl
      | ok extents => exact .inr (.inl ⟨id, object, extents, rfl, rfl⟩)
  | destroy id =>
      simp only [StoreCommand.after, Store.destroy, destroy]
      cases store.find? id with
      | none => exact .inl rfl
      | some row => exact .inr (.inr ⟨id, rfl, rfl⟩)

/-! ## Rows -/

theorem find?_written (store : RecordStore) (id : ObjectId) (object : NewObject)
    (extents : List Extent) (other : ObjectId) :
    (store.written id object extents).find? other = (store.find? other).or
      (if id = other then some ⟨id, object.direction.name, object.provisional⟩ else none) := by
  rw [find?, written, List.find?_append, List.find?_singleton, find?]
  simp

theorem find?_erased_of_ne {other : ObjectId} (different : other ≠ id) (store : RecordStore) :
    (store.erased other).find? id = store.find? id := by
  rw [find?, erased, List.find?_filter, find?]
  congr 1
  funext row
  by_cases same : row.id = id
  · simp [same, different.symm]
  · simp [same]

/-- Every row of extents belongs to an object that is there. -/
def Owned (store : RecordStore) : Prop := ∀ row ∈ store.extents, store.find? row.object ≠ none

namespace Owned

theorem written (owned : store.Owned) (id : ObjectId) (object : NewObject)
    (extents : List Extent) : (store.written id object extents).Owned := by
  intro row member
  rw [find?_written]
  rcases List.mem_append.mp member with old | new
  · rw [Ne, Option.or_eq_none_iff]
    exact fun nobody => owned row old nobody.1
  · obtain ⟨extent, -, rfl⟩ := List.mem_map.mp new
    simp [ExtentRow.of]

theorem erased (owned : store.Owned) (id : ObjectId) : (store.erased id).Owned := by
  intro row member
  obtain ⟨isRow, other⟩ := List.mem_filter.mp member
  rw [find?_erased_of_ne (by simpa using Ne.symm (of_decide_eq_true other))]
  exact owned row isRow

theorem openWith (owned : store.Owned) (path : String) (limits : Limits) :
    (store.openWith path limits).store.Owned := by
  obtain ⟨objects, rows⟩ := setLimits_keeps limits store limitOrder
  unfold Owned find?
  simp only [RecordStore.openWith, objects, rows]
  exact owned

theorem after (owned : store.Owned) (call : StoreCommand) : (call.after store).Owned := by
  rcases after_cases store call with same | ⟨id, object, extents, -, isWritten⟩ | ⟨id, -, isErased⟩
  · rw [same]
    exact owned
  · rw [isWritten]
    exact owned.written id object extents
  · rw [isErased]
    exact owned.erased id

theorem becomes {spared : List ObjectId} (owned : store.Owned)
    (becomes : store.Becomes spared later) : later.Owned := by
  induction becomes with
  | same => exact owned
  | opened path limits _ induction => exact induction.openWith path limits
  | called _ _ _ induction => exact induction.after _

/-- No row of extents belongs to an object that is not there. -/
theorem object_ne (owned : store.Owned) (fresh : store.find? id = none) {row : ExtentRow}
    (member : row ∈ store.extents) : row.object ≠ id :=
  fun same => owned row member (same ▸ fresh)

end Owned

theorem owned_empty : empty.Owned := by
  intro row member
  cases member

/-- An object of a direction is there, with the rows that were written for its extents. -/
structure Wrote (store : RecordStore) (id : ObjectId) (direction : Direction)
    (extents : List Extent) : Prop where
  there : (store.find? id).map ObjectRow.direction = some direction.name
  rows : store.rows id = extents.map (ExtentRow.of id)

theorem rows_of_other {other : ObjectId} (different : other ≠ id) (extents : List Extent) :
    (extents.map (ExtentRow.of other)).filter (fun row => row.object = id) = [] := by
  refine List.filter_eq_nil_iff.mpr fun row member => ?_
  obtain ⟨extent, -, rfl⟩ := List.mem_map.mp member
  simp [ExtentRow.of, different]

/-- A new object has no rows but its own. -/
theorem wrote_written (owned : store.Owned) (fresh : store.find? id = none) (object : NewObject)
    (extents : List Extent) :
    (store.written id object extents).Wrote id object.direction extents where
  there := by
    rw [find?_written, fresh]
    simp
  rows := by
    have others : store.extents.filter (fun row => row.object = id) = [] :=
      List.filter_eq_nil_iff.mpr fun row member => by simpa using owned.object_ne fresh member
    rw [rows, written, List.filter_append, others, rows_of_own, List.nil_append]

namespace Wrote

theorem exists_row (wrote : store.Wrote id direction extents) :
    ∃ row, store.find? id = some row ∧ row.direction = direction.name :=
  Option.map_eq_some_iff.mp wrote.there

theorem written (wrote : store.Wrote id direction extents) {other : ObjectId}
    (different : other ≠ id) (object : NewObject) (more : List Extent) :
    (store.written other object more).Wrote id direction extents where
  there := by
    obtain ⟨row, isRow, -⟩ := wrote.exists_row
    rw [find?_written, isRow, Option.some_or, ← isRow]
    exact wrote.there
  rows := by
    rw [RecordStore.rows, RecordStore.written, List.filter_append, rows_of_other different,
      List.append_nil]
    exact wrote.rows

theorem erased (wrote : store.Wrote id direction extents) {other : ObjectId}
    (different : other ≠ id) : (store.erased other).Wrote id direction extents where
  there := by
    rw [find?_erased_of_ne different]
    exact wrote.there
  rows := by
    rw [RecordStore.rows, RecordStore.erased, List.filter_filter, ← wrote.rows, RecordStore.rows]
    congr 1
    funext row
    by_cases same : row.object = id
    · simp [same, different.symm]
    · simp [same]

theorem openWith (wrote : store.Wrote id direction extents) (path : String) (limits : Limits) :
    (store.openWith path limits).store.Wrote id direction extents := by
  obtain ⟨objects, kept⟩ := setLimits_keeps limits store limitOrder
  constructor
  · unfold find?
    simp only [RecordStore.openWith, objects]
    exact wrote.there
  · unfold RecordStore.rows
    simp only [RecordStore.openWith, kept]
    exact wrote.rows

theorem after (wrote : store.Wrote id direction extents) {call : StoreCommand}
    (fresh : ∀ made ∈ call.made?, store.find? made = none) (stays : call ≠ .destroy id) :
    (call.after store).Wrote id direction extents := by
  rcases after_cases store call with
    same | ⟨other, object, more, rfl, isWritten⟩ | ⟨other, rfl, isErased⟩
  · rw [same]
    exact wrote
  · rw [isWritten]
    refine wrote.written (fun same => ?_) object more
    have nobody := fresh other rfl
    obtain ⟨row, isRow, -⟩ := wrote.exists_row
    rw [same, isRow] at nobody
    cases nobody
  · rw [isErased]
    exact wrote.erased fun same => stays (same ▸ rfl)

/-- The rows of an object stay as they were written until it is destroyed. -/
theorem becomes (wrote : store.Wrote id direction extents) (becomes : store.Becomes [id] later) :
    later.Wrote id direction extents := by
  induction becomes with
  | same => exact wrote
  | opened path limits _ induction => exact induction.openWith path limits
  | called _ fresh stays induction =>
      exact induction.after fresh (stays id (List.mem_singleton_self id))

/-- A destruction removes such an object. -/
theorem store_destroy (wrote : store.Wrote id direction extents) :
    (store.destroy id).store = store.erased id := by
  obtain ⟨row, isRow, -⟩ := wrote.exists_row
  rw [destroy, isRow]
  rfl

/-! ## Reads -/

/-- What is told of an object is what comes back of its extents. -/
theorem extentsOf (wrote : store.Wrote id direction extents) :
    store.extentsOf id = .ok (extents.map reread) := by
  have parsed : ∀ extents : List Extent,
      (extents.map (ExtentRow.of id)).mapM ExtentRow.parse = .ok (extents.map reread) := by
    intro extents
    induction extents with
    | nil => rfl
    | cons extent rest induction =>
        have first : (ExtentRow.of id extent).parse = .ok extent.reread := by
          simp only [ExtentRow.parse, ExtentRow.of, Medium.parse_name, reread]
        rw [List.map_cons, List.mapM_cons, first, induction]
        rfl
  obtain ⟨row, isRow, -⟩ := wrote.exists_row
  rw [RecordStore.extentsOf, isRow, wrote.rows]
  exact parsed extents

end Wrote

/-- The space of every range of an object is told as by a store in memory that has these extents. -/
def TellsSpaces (store : RecordStore) (id : ObjectId) (extents : List Extent) : Prop :=
  ∀ memory : MemoryStore, memory.extents id = .ok extents → ∀ offset length,
    store.sliceSpace id offset length = memory.sliceSpace id offset length

/-- A copy of every range of an object has the extents that it has in a store in memory where the
object has these extents. -/
def TellsCopies (store : RecordStore) (id : ObjectId) (extents : List Extent) : Prop :=
  ∀ memory : MemoryStore, memory.extents id = .ok extents → ∀ offset length,
    (⟨some (.object id), offset, length⟩ : Source).extents store.extentsOf =
      (⟨some (.object id), offset, length⟩ : Source).extents memory.extents

/-- A store in memory with a single object. -/
theorem exists_memory (id : ObjectId) (extents : List Extent) :
    ∃ memory : MemoryStore, memory.extents id = .ok extents :=
  ⟨⟨.zero, .zero, [⟨id, .inbound, extents, false⟩]⟩, by
    simp [MemoryStore.extents, MemoryStore.find?]⟩

/-- The extents of a copy of a range. -/
theorem extents_of_copy (told : store.extentsOf id = .ok extents) (offset length : UInt64) :
    (⟨some (.object id), offset, length⟩ : Source).extents store.extentsOf =
      Extent.slice extents offset length := by
  change (store.extentsOf id >>= fun found => Extent.slice found offset length) = _
  rw [told]
  rfl

namespace Wrote

variable (wrote : store.Wrote id direction extents) (small : bytes extents < 18446744073709551616)

include wrote

theorem extentsOf_of_short (short : Short extents) : store.extentsOf id = .ok extents := by
  rw [wrote.extentsOf, short.map_reread]

include small

theorem tellsSpaces_iff : store.TellsSpaces id extents ↔ Short extents := by
  constructor
  · intro tells
    by_contra long
    obtain ⟨memory, isMemory⟩ := exists_memory id extents
    obtain ⟨space, totalled, -⟩ := Extent.aggregate_slice small (Extent.slice_bytes small)
    have inMemory := MemoryStore.sliceSpace_eq_ok isMemory (Extent.slice_bytes small) totalled
    obtain ⟨error, refused⟩ := Extent.slice_reread_refused small long
    rw [← tells memory isMemory, sliceSpace, wrote.extentsOf] at inMemory
    simp only [Checked.bind_eq_ok_iff] at inMemory
    obtain ⟨found, isFound, cut, sliced, -⟩ := inMemory
    cases isFound
    rw [refused] at sliced
    cases sliced
  · intro short memory isMemory offset length
    rw [sliceSpace, MemoryStore.sliceSpace, wrote.extentsOf_of_short short, isMemory]

/-- The copy of a whole object has its extents but for those that are empty. -/
theorem copies_iff :
    (⟨some (.object id), 0, .ofNat (bytes extents)⟩ : Source).extents store.extentsOf =
        .ok (extents.filter fun extent => extent.length ≠ 0) ↔ Short extents := by
  rw [extents_of_copy wrote.extentsOf]
  constructor
  · intro copied
    by_contra long
    obtain ⟨error, refused⟩ := Extent.slice_reread_refused small long
    rw [refused] at copied
    cases copied
  · intro short
    rw [short.map_reread]
    exact Extent.slice_bytes small

theorem tellsCopies_iff : store.TellsCopies id extents ↔ Short extents := by
  constructor
  · intro tells
    obtain ⟨memory, isMemory⟩ := exists_memory id extents
    have copied := tells memory isMemory 0 (.ofNat (bytes extents))
    rw [MemoryStore.extents_of_slice isMemory rfl, Extent.slice_bytes small] at copied
    exact (wrote.copies_iff small).mp copied
  · intro short memory isMemory offset length
    rw [extents_of_copy (wrote.extentsOf_of_short short),
      MemoryStore.extents_of_slice isMemory rfl]

end Wrote

/-- The extents of a source have no more bytes than a word can count. -/
theorem bytes_of_source {lookup : ObjectId → Checked StoreError (List Extent)} {source : Source}
    (found : source.extents lookup = .ok extents) : bytes extents < 18446744073709551616 := by
  have word := source.length.toNat_lt
  unfold Source.extents at found
  split at found
  · cases found
    decide
  · cases found
    simpa using word
  · simp only [Checked.bind_eq_ok_iff] at found
    obtain ⟨whole, -, sliced⟩ := found
    rw [MemoryStore.slice_eq_ok sliced, Extent.cut_eq_within, Extent.bytes_within]
    omega

/-! ## Occupancies -/

/-- What the words that are stored for a direction and medium sum up to. -/
def signed (store : RecordStore) (direction : Direction) (medium : Medium) : Int :=
  ((store.lengths direction medium).map Int64.toInt).sum

/-- An occupancy that is answered is the sum of the stored words without its sign. -/
theorem occupancy_eq_ok {occupancy : Magnitude}
    (answered : store.occupancy direction medium = .ok occupancy) :
    ∃ sum : Int64, sumFrom 0 (store.lengths direction medium) = some sum ∧
      sum.toInt = store.signed direction medium ∧
      occupancy.value = (store.signed direction medium).natAbs := by
  unfold RecordStore.occupancy at answered
  split at answered
  · next sum computed =>
      cases answered
      have exact := toInt_of_sumFrom computed
      rw [Int64.toInt_zero, Int.zero_add] at exact
      exact ⟨sum, computed, exact, by rw [Magnitude.value_ofInt64, exact]; rfl⟩
  · cases answered

/-- Of the rows of an object, those on a medium are counted for its direction. -/
theorem filter_counts_of (there : (store.find? id).map ObjectRow.direction = some direction.name)
    (extents : List Extent) (medium : Medium) :
    ((extents.map (ExtentRow.of id)).filter (store.counts direction medium)).map
      ExtentRow.length = words extents medium := by
  obtain ⟨row, isRow, names⟩ := Option.map_eq_some_iff.mp there
  have counted : store.counts direction medium ∘ ExtentRow.of id =
      fun extent => decide (extent.medium = medium) := by
    funext extent
    simp only [Function.comp_apply, counts, ExtentRow.of, isRow, Option.any_some, names,
      Medium.name_beq, beq_self_eq_true, Bool.and_true]
  rw [List.filter_map, counted, List.map_map, words]
  rfl

/-- The words of a new object come after those that are there. -/
theorem lengths_written (owned : store.Owned) (fresh : store.find? id = none)
    (object : NewObject) (extents : List Extent) (medium : Medium) :
    (store.written id object extents).lengths object.direction medium =
      store.lengths object.direction medium ++ words extents medium := by
  have old : store.extents.filter
      ((store.written id object extents).counts object.direction medium) =
        store.extents.filter (store.counts object.direction medium) := by
    refine List.filter_congr fun row member => ?_
    obtain ⟨owner, isOwner⟩ := Option.ne_none_iff_exists'.mp (owned row member)
    rw [counts, counts, find?_written, isOwner, Option.some_or]
  have there := (wrote_written owned fresh object extents).there
  change List.map ExtentRow.length ((store.extents ++ extents.map (ExtentRow.of id)).filter _) = _
  rw [List.filter_append, old, List.map_append, filter_counts_of there, lengths]

/-- An object adds its words to those of the others. -/
theorem Wrote.signed_eq (wrote : store.Wrote id direction extents) (medium : Medium) :
    store.signed direction medium = (store.erased id).signed direction medium +
      ((words extents medium).map Int64.toInt).sum := by
  have own : ((store.extents.filter (store.counts direction medium)).filter fun row =>
      row.object = id).map ExtentRow.length = words extents medium := by
    rw [List.filter_comm, ← RecordStore.rows, wrote.rows, filter_counts_of wrote.there]
  have others : (store.extents.filter (store.counts direction medium)).filter
      (fun row => !decide (row.object = id)) =
        (store.erased id).extents.filter ((store.erased id).counts direction medium) := by
    have kept : (store.erased id).extents =
        store.extents.filter fun row => !decide (row.object = id) := by
      simp only [RecordStore.erased, ne_eq, decide_not]
    rw [List.filter_comm, kept]
    refine List.filter_congr fun row member => ?_
    have different : row.object ≠ id := by simpa using (List.mem_filter.mp member).2
    rw [counts, counts, find?_erased_of_ne different.symm]
  have split := ((List.filter_append_perm (fun row : ExtentRow => row.object = id)
    (store.extents.filter (store.counts direction medium))).map
      fun row => row.length.toInt).sum_eq
  rw [List.map_append, List.sum_append, others] at split
  rw [signed, lengths, signed, lengths, List.map_map, List.map_map, ← own, List.map_map]
  simp only [Function.comp_def] at split ⊢
  omega

/-- An occupancy that was answered grows by what a new object takes. -/
theorem occupancy_grows_iff (owned : store.Owned) (fresh : store.find? id = none)
    (small : bytes extents < 18446744073709551616) {before : Magnitude}
    (answered : store.occupancy object.direction medium = .ok before) :
    (∃ after, (store.written id object extents).occupancy object.direction medium = .ok after ∧
        after.value = before.value + amount extents medium) ↔
      Adds extents medium (store.signed object.direction medium) := by
  obtain ⟨sum, computed, isSum, value⟩ := occupancy_eq_ok answered
  have later : sumFrom 0 ((store.written id object extents).lengths object.direction medium) =
      sumFrom sum (words extents medium) := by
    rw [lengths_written owned fresh, sumFrom_append, computed, Option.bind_some]
  rw [← isSum, ← sum_grows_iff small, value, ← isSum]
  constructor
  · rintro ⟨after, told, grown⟩
    unfold occupancy at told
    rw [later] at told
    split at told
    · next total isTotal =>
        cases told
        exact ⟨total, isTotal, by rw [← grown, Magnitude.value_ofInt64]⟩
    · cases told
  · rintro ⟨total, isTotal, grown⟩
    refine ⟨.ofInt64 total, ?_, by rw [Magnitude.value_ofInt64, grown]⟩
    rw [occupancy, later, isTotal]

/-- As long as an object is there, an occupancy exceeds what it is without the object by what the
object takes exactly in the same cases. -/
theorem Wrote.occupancy_iff (wrote : store.Wrote id direction extents)
    (small : bytes extents < 18446744073709551616) {apart whole : Magnitude}
    (without : (store.erased id).occupancy direction medium = .ok apart)
    (answered : store.occupancy direction medium = .ok whole) :
    whole.value = apart.value + amount extents medium ↔
      Adds extents medium ((store.erased id).signed direction medium) := by
  obtain ⟨sum, -, isSum, value⟩ := occupancy_eq_ok without
  obtain ⟨total, -, isTotal, exact⟩ := occupancy_eq_ok answered
  rw [value, exact, ← isSum, ← isTotal]
  refine Extent.grows_iff small medium ?_ (fitsWord_toInt sum) (fitsWord_toInt total)
  rw [isTotal, isSum, wrote.signed_eq]

/-! ## Space that was not reserved -/

theorem needed_of_checkLimits {needed : Space} {media : List Medium}
    (passed : store.checkLimits direction needed media = .ok ()) (isOne : medium ∈ media) :
    (needed.get medium).value ≤
      max 0 (store.limit direction medium - (store.signed direction medium).natAbs) := by
  induction media with
  | nil => cases isOne
  | cons first rest induction =>
      simp only [checkLimits, Checked.bind_eq_ok_iff] at passed
      obtain ⟨capacity, isCapacity, occupancy, answered, available, left, passed⟩ := passed
      split at passed
      · next fits =>
          rcases List.mem_cons.mp isOne with rfl | inRest
          · obtain ⟨-, -, -, value⟩ := occupancy_eq_ok answered
            have limit : store.limit direction medium = capacity.value := by
              rw [RecordStore.limit, isCapacity]
            have rest := Magnitude.value_of_sub (Checked.ofArithmetic_eq_ok_iff.mp left)
            rw [Magnitude.le_iff_value_le, Magnitude.value_orZero] at fits
            split at fits <;> omega
          · exact induction passed inRest
      · cases passed

/-- An object whose space was not reserved takes nothing on a medium, or fits in a capacity. -/
theorem fits_of_unreserved (admits : store.admitted object = .ok extents)
    (unreserved : object.reservation = .unreserved) (medium : Medium) :
    amount extents medium = 0 ∨ (store.signed object.direction medium).natAbs +
      amount extents medium < 2305843009213693952 := by
  have nonneg := Extent.amount_nonneg extents medium
  have limit := store.limit_lt object.direction medium
  simp only [admitted, unreserved, Checked.bind_eq_ok_iff] at admits
  obtain ⟨found, -, needed, totalled, ⟨⟩, passed, result⟩ := admits
  cases result
  have fits := needed_of_checkLimits passed (show medium ∈ Medium.all by cases medium <;> decide)
  rw [Extent.value_of_aggregate (Checked.ofArithmetic_eq_ok_iff.mp totalled)] at fits
  omega

/-! ## All lengths -/

/-- An object that is created in tables that came about by openings and calls is made of the extents
of its source.  Until it is destroyed, the space of its ranges and the extents of its copies are
told as in memory exactly if no length goes beyond half of the range of a word.  By its creation an
occupancy of its direction grows by what it takes, and until it is destroyed it exceeds by as much
what it is after the destruction, exactly if the object takes nothing, or the other words that are
stored sum up to no less than zero and stay a signed word with it, or they sum up to zero and it has
a single extent of half the range of a word.  All this is so of an object whose space was not
reserved, as long as the words that are stored sum up to no less than zero. -/
theorem lengths_kept_iff (reached : empty.Becomes [] store) (fresh : store.find? id = none)
    (created : (store.create id object).result = .ok ()) :
    ∃ extents, object.source.extents store.extentsOf = .ok extents ∧
      (∀ later, (store.create id object).store.Becomes [id] later →
        (later.TellsSpaces id extents ↔ Short extents) ∧
        (later.TellsCopies id extents ↔ Short extents) ∧
        ((⟨some (.object id), 0, .ofNat (bytes extents)⟩ : Source).extents later.extentsOf =
            .ok (extents.filter fun extent => extent.length ≠ 0) ↔ Short extents) ∧
        ∀ medium apart whole,
          (later.destroy id).store.occupancy object.direction medium = .ok apart →
          later.occupancy object.direction medium = .ok whole →
          (whole.value = apart.value + amount extents medium ↔
            Adds extents medium ((later.destroy id).store.signed object.direction medium))) ∧
      (∀ medium before, store.occupancy object.direction medium = .ok before →
        ((∃ after, (store.create id object).store.occupancy object.direction medium = .ok after ∧
            after.value = before.value + amount extents medium) ↔
          Adds extents medium (store.signed object.direction medium))) ∧
      (object.reservation = .unreserved →
        Short extents ∧ ∀ medium, 0 ≤ store.signed object.direction medium →
          Adds extents medium (store.signed object.direction medium)) := by
  have owned : store.Owned := owned_empty.becomes reached
  obtain ⟨extents, admits, isWritten⟩ := store_of_created created
  have found := extents_of_admitted admits
  have small := bytes_of_source found
  rw [isWritten]
  refine ⟨extents, found, fun later becomes => ?_, fun medium before answered => ?_,
    fun unreserved => ⟨fun extent member => ?_, fun medium start => ?_⟩⟩
  · have wrote := (wrote_written owned fresh object extents).becomes becomes
    refine ⟨wrote.tellsSpaces_iff small, wrote.tellsCopies_iff small, wrote.copies_iff small, ?_⟩
    intro medium apart whole without answered
    rw [wrote.store_destroy] at without ⊢
    exact wrote.occupancy_iff small without answered
  · exact occupancy_grows_iff owned fresh small answered
  · have own := Extent.length_le_amount member
    have fits := fits_of_unreserved admits unreserved extent.medium
    omega
  · have fits := fits_of_unreserved admits unreserved medium
    unfold Extent.Adds
    omega

/-- Tables that were opened with the usual capacities. -/
def started : RecordStore := (empty.openWith "store" {}).store

/-- An outbound file whose space was reserved. -/
def reservedFile (length : UInt64) : NewObject :=
  ⟨.outbound, ⟨some (.handle .file 1), 0, length⟩, .reserved, false⟩

/-- The greatest length that is kept. -/
theorem half_range_kept :
    (∀ later, (started.create ⟨1⟩ (reservedFile 9223372036854775808)).store.Becomes [⟨1⟩] later →
      later.TellsSpaces ⟨1⟩ [⟨.file, 9223372036854775808⟩] ∧
        later.TellsCopies ⟨1⟩ [⟨.file, 9223372036854775808⟩]) ∧
    ∃ after, (started.create ⟨1⟩ (reservedFile 9223372036854775808)).store.occupancy .outbound
        .file = .ok after ∧ after.value = 9223372036854775808 := by
  have reached : empty.Becomes [] started := .opened "store" {} .same
  obtain ⟨extents, found, told, grows, -⟩ := lengths_kept_iff reached
    (show started.find? ⟨1⟩ = none by decide +kernel)
    (show (started.create ⟨1⟩ (reservedFile 9223372036854775808)).result = .ok () by decide +kernel)
  cases found
  have short : Short [⟨.file, 9223372036854775808⟩] := by
    unfold Short
    decide
  have nothing : started.occupancy .outbound .file = .ok .zero := by decide +kernel
  have adds : Adds [⟨.file, 9223372036854775808⟩] .file (started.signed .outbound .file) := by
    have zero : started.signed .outbound .file = 0 := by decide +kernel
    rw [zero]
    unfold Extent.Adds
    decide
  refine ⟨fun later becomes => ?_, ?_⟩
  · obtain ⟨spaces, copies, -⟩ := told later becomes
    exact ⟨spaces.mpr short, copies.mpr short⟩
  · obtain ⟨after, answered, value⟩ := (grows .file .zero nothing).mpr adds
    exact ⟨after, answered, value.trans (by decide)⟩

/-- A length that is accepted comes back as a single byte. -/
theorem full_range_lost :
    empty.Becomes [] started ∧ started.find? ⟨1⟩ = none ∧
    (started.create ⟨1⟩ (reservedFile 18446744073709551615)).result = .ok () ∧
    started.occupancy .outbound .file = .ok .zero ∧
    (started.create ⟨1⟩ (reservedFile 18446744073709551615)).store.occupancy .outbound .file =
      .ok (.ofUInt64 1) ∧
    (started.create ⟨1⟩ (reservedFile 18446744073709551615)).store.sliceSpace ⟨1⟩ 0
      18446744073709551615 = Checked.refuse (.outOfRange 0 18446744073709551615 1) :=
  ⟨.opened "store" {} .same, by decide +kernel, by decide +kernel, by decide +kernel,
    by decide +kernel, by decide +kernel⟩

end RecordStore

end Admission
