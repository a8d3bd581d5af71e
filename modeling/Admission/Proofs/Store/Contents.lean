import Admission.Proofs.Magnitude.Packed
import Admission.Proofs.Store.Accounted
import Admission.Store.Record
import Mathlib.Data.List.Nodup

/-!
# What the tables describe

`RecordStore.contents` are the objects that the tables of a store describe.  Tables that are
`Readable` hold what the store itself writes: directions and media by their names, lengths that
did not wrap around, extents of objects that are there, and no identifier twice.

Of such tables the store reads back what was written (`RecordStore.resolve_of_extents`), and a
sum over all rows of extents is the sum over the objects (`RecordStore.sum_counted`).  So an
occupancy that is answered is exact, and it is answered as long as it is a signed word
(`RecordStore.value_of_occupancy`, `RecordStore.occupancy_answered`).
-/

namespace Admission

/-! ## Words -/

/-- A signed word that is not negative is the unsigned word of the same bits. -/
theorem toNat_toUInt64_of_nonneg {word : Int64} (nonneg : 0 ≤ word.toInt) :
    (word.toUInt64.toNat : Int) = word.toInt := by
  have bits : word.toInt = word.toBitVec.toInt := rfl
  rw [bits, BitVec.toInt_eq_toNat_cond] at nonneg ⊢
  have same : word.toUInt64.toNat = word.toBitVec.toNat := rfl
  rw [same]
  split at nonneg <;> split <;> omega

/-- An unsigned word of less than 64 bits is not negative as a signed one. -/
theorem toInt_toInt64_nonneg {word : UInt64} (small : word.toNat < 9223372036854775808) :
    0 ≤ word.toInt64.toInt := by
  have bits : word.toInt64.toInt = word.toBitVec.toInt := rfl
  have same : word.toNat = word.toBitVec.toNat := rfl
  rw [bits, BitVec.toInt_eq_toNat_cond]
  split <;> omega

theorem Extent.length_le_amount {extents : List Extent} {extent : Extent}
    (member : extent ∈ extents) : (extent.length.toNat : Int) ≤ amount extents extent.medium := by
  induction extents with
  | nil => cases member
  | cons first rest induction =>
      have own := amount_nonneg rest extent.medium
      rw [amount_cons]
      rcases List.mem_cons.mp member with rfl | inRest
      · rw [if_pos rfl]
        omega
      · have later := induction inRest
        split <;> omega

/-! ## Reading rows -/

theorem Direction.parse_name (direction : Direction) :
    parse false direction.name = .ok direction := by
  cases direction <;> decide +kernel

theorem Medium.parse_name (medium : Medium) : parse false medium.name = .ok medium := by
  cases medium <;> decide +kernel

theorem Direction.name_beq (direction other : Direction) :
    (direction.name == other.name) = decide (direction = other) := by
  cases direction <;> cases other <;> decide +kernel

theorem Medium.name_beq (medium other : Medium) :
    (medium.name == other.name) = decide (medium = other) := by
  cases medium <;> cases other <;> decide +kernel

/-- The direction that a row names; what names none counts as inbound. -/
def ObjectRow.readDirection (row : ObjectRow) : Direction :=
  match Direction.parse false row.direction with
  | .ok direction => direction
  | .error _ => .inbound

/-- The extent whose bits a row holds; what names no medium counts as a file. -/
def ExtentRow.read (row : ExtentRow) : Extent :=
  match Medium.parse false row.medium with
  | .ok medium => ⟨medium, row.length.toUInt64⟩
  | .error _ => ⟨.file, row.length.toUInt64⟩

theorem ObjectRow.readDirection_of_name {row : ObjectRow} {direction : Direction}
    (names : row.direction = direction.name) : row.readDirection = direction := by
  rw [readDirection, names, Direction.parse_name]

theorem ObjectRow.parseDirection_eq {row : ObjectRow} {direction : Direction}
    (names : row.direction = direction.name) : row.parseDirection = .ok direction := by
  simp only [parseDirection, names, Direction.parse_name]

/-- What was written is read back. -/
theorem ExtentRow.read_of (object : ObjectId) (extent : Extent) :
    (of object extent).read = extent := by
  obtain ⟨medium, length⟩ := extent
  simp only [read, of, Medium.parse_name, UInt64.toUInt64_toInt64]

/-- A row with the name of a medium and a length that did not wrap around can be parsed. -/
theorem ExtentRow.parse_eq {row : ExtentRow} {medium : Medium} (names : row.medium = medium.name)
    (nonneg : 0 ≤ row.length.toInt) : row.parse = .ok row.read := by
  have length : UInt64.ofNat row.length.toInt.natAbs = row.length.toUInt64 := by
    have exact := toNat_toUInt64_of_nonneg nonneg
    rw [← UInt64.ofNat_toNat (x := row.length.toUInt64)]
    congr 1
    omega
  simp only [parse, read, names, Medium.parse_name, length]

namespace RecordStore

/-- Tables that hold what the store itself writes. -/
structure Readable (store : RecordStore) : Prop where
  directions : ∀ row ∈ store.objects, ∃ direction : Direction, row.direction = direction.name
  media : ∀ row ∈ store.extents, ∃ medium : Medium, row.medium = medium.name
  lengths : ∀ row ∈ store.extents, 0 ≤ row.length.toInt
  owned : ∀ row ∈ store.extents, ∃ object ∈ store.objects, object.id = row.object
  unique : (store.objects.map ObjectRow.id).Nodup

/-- The object that a row describes, with its rows among the given ones. -/
def readObject (extents : List ExtentRow) (row : ObjectRow) : StoredObject :=
  ⟨row.id, row.readDirection,
    (extents.filter fun extent => extent.object = row.id).map ExtentRow.read, row.provisional⟩

/-- The objects that the tables describe. -/
def contents (store : RecordStore) : List StoredObject :=
  store.objects.map (readObject store.extents)

/-- The capacity of a direction and medium, if it can be read. -/
def limit (store : RecordStore) (direction : Direction) (medium : Medium) : Int :=
  match store.capacity direction medium with
  | .ok capacity => capacity.value
  | .error _ => 0

variable {store : RecordStore} {direction : Direction} {medium : Medium} {id : ObjectId}

/-- A length within a capacity does not wrap around. -/
theorem limit_lt (store : RecordStore) (direction : Direction) (medium : Medium) :
    store.limit direction medium < 2305843009213693952 := by
  unfold limit capacity
  cases store.limitRecord? direction medium with
  | none => decide
  | some record =>
      simp only
      cases unpacked : Magnitude.unpack record with
      | error error => exact (by decide : (0 : Int) < 2305843009213693952)
      | ok found => exact (Magnitude.packable_of_unpack unpacked).2.trans (by decide)

theorem map_id_contents (store : RecordStore) :
    store.contents.map StoredObject.id = store.objects.map ObjectRow.id := by
  rw [contents, List.map_map]
  rfl

theorem find?_contents (store : RecordStore) (id : ObjectId) :
    store.contents.find? (fun object => object.id = id) =
      (store.find? id).map (readObject store.extents) := by
  rw [contents, List.find?_map, find?]
  rfl

/-! ## Extents -/

theorem mapM_parse {rows : List ExtentRow} (parses : ∀ row ∈ rows, row.parse = .ok row.read) :
    rows.mapM ExtentRow.parse = .ok (rows.map ExtentRow.read) := by
  induction rows with
  | nil => rfl
  | cons row rest induction =>
      rw [List.mapM_cons, parses row List.mem_cons_self,
        induction fun other member => parses other (List.mem_cons_of_mem _ member)]
      rfl

/-- The extents that are looked up are those of the object in the contents. -/
theorem extentsOf_contents (readable : store.Readable) (id : ObjectId) :
    store.extentsOf id =
      match store.contents.find? fun object => object.id = id with
      | some object => .ok object.extents
      | none => Checked.refuse (.notFound id) := by
  rw [find?_contents]
  unfold extentsOf
  cases isRow : store.find? id with
  | none => rfl
  | some row =>
      have named : row.id = id := by simpa using List.find?_some isRow
      have parses : ∀ extent ∈ store.rows id, extent.parse = .ok extent.read := by
        intro extent member
        have isExtent := (List.mem_filter.mp member).1
        obtain ⟨medium, names⟩ := readable.media extent isExtent
        exact ExtentRow.parse_eq names (readable.lengths extent isExtent)
      simp only [Option.map_some, readObject, named]
      exact mapM_parse parses

theorem extentsOf_eq (readable : store.Readable) {extents : List Extent}
    (found : store.extentsOf id = .ok extents) :
    ∃ object, store.contents.find? (fun object => object.id = id) = some object ∧
      object.extents = extents := by
  rw [extentsOf_contents readable] at found
  split at found
  · next object isObject =>
      cases found
      exact ⟨object, isObject, rfl⟩
  · cases found

/-- The extents of a source are those that the contents resolve it to. -/
theorem resolve_of_extents (readable : store.Readable) {source : Source} {extents : List Extent}
    (found : source.extents store.extentsOf = .ok extents) :
    source.resolve store.contents = some extents := by
  unfold Source.extents at found
  split at found
  · next location =>
      cases found
      rw [Source.resolve, location]
  · next medium number location =>
      cases found
      rw [Source.resolve, location]
  · next id location =>
      simp only [Checked.bind_eq_ok_iff] at found
      obtain ⟨whole, looked, sliced⟩ := found
      obtain ⟨object, present, rfl⟩ := extentsOf_eq readable looked
      rw [Source.resolve, location, MemoryStore.slice_eq_ok sliced]
      simp only [present, Option.map_some]

/-! ## Occupancies -/

theorem amount_read_cons {rows : List ExtentRow} {row : ExtentRow} {named : Medium}
    (names : row.medium = named.name) (nonneg : 0 ≤ row.length.toInt) (medium : Medium) :
    Extent.amount ((row :: rows).map ExtentRow.read) medium =
      (if named = medium then row.length.toInt else 0) +
        Extent.amount (rows.map ExtentRow.read) medium := by
  have isRead : row.read = ⟨named, row.length.toUInt64⟩ := by
    simp only [ExtentRow.read, names, Medium.parse_name]
  rw [List.map_cons, Extent.amount_cons, isRead, toNat_toUInt64_of_nonneg nonneg]

/-- One more row of extents adds its length to the object that it belongs to. -/
theorem occupied_readObject_cons {objects : List ObjectRow} {rows : List ExtentRow}
    {row : ExtentRow} {named : Medium} (unique : (objects.map ObjectRow.id).Nodup)
    (directions : ∀ object ∈ objects, ∃ direction : Direction,
      object.direction = direction.name)
    (names : row.medium = named.name) (nonneg : 0 ≤ row.length.toInt) :
    occupied (objects.map (readObject (row :: rows))) direction medium =
      (if named = medium ∧ (objects.find? fun object => object.id = row.object).any
          (fun object => object.direction == direction.name) = true then row.length.toInt
        else 0) + occupied (objects.map (readObject rows)) direction medium := by
  induction objects with
  | nil => simp
  | cons object rest induction =>
      obtain ⟨apart, restUnique⟩ := List.nodup_cons.mp unique
      have later := induction restUnique fun other member =>
        directions other (List.mem_cons_of_mem _ member)
      obtain ⟨own, isOwn⟩ := directions object List.mem_cons_self
      have reads := ObjectRow.readDirection_of_name isOwn
      rw [List.map_cons, List.map_cons, occupied_cons, occupied_cons, later]
      simp only [readObject, reads]
      by_cases belongs : object.id = row.object
      · have nobody : (rest.find? fun other => other.id = row.object) = none := by
          refine List.find?_eq_none.mpr fun other member => ?_
          simpa using fun same => apart (List.mem_map.mpr ⟨other, member, same.trans belongs.symm⟩)
        rw [List.filter_cons_of_pos (by simpa using belongs.symm),
          amount_read_cons names nonneg, List.find?_cons_of_pos (by simpa using belongs), nobody]
        simp only [Option.any_some, Option.any_none, isOwn, Direction.name_beq,
          decide_eq_true_eq, Bool.false_eq_true, and_false, if_false]
        by_cases here : own = direction
        · by_cases there : named = medium
          · simp only [here, there, and_self, if_true]
            omega
          · simp [here, there]
        · simp [here]
      · rw [List.filter_cons_of_neg (by simpa using fun same => belongs same.symm),
          List.find?_cons_of_neg (by simpa using belongs)]
        omega

/-- The lengths of the rows that are counted sum up to what the objects take. -/
theorem sum_counted (readable : store.Readable) {rows : List ExtentRow}
    (isPart : ∀ row ∈ rows, row ∈ store.extents) :
    ((rows.filter (store.counts direction medium)).map fun row => row.length.toInt).sum =
      occupied (store.objects.map (readObject rows)) direction medium := by
  induction rows with
  | nil =>
      have nothing : ∀ objects : List ObjectRow,
          occupied (objects.map (readObject [])) direction medium = 0 := by
        intro objects
        induction objects with
        | nil => rfl
        | cons object rest induction =>
            rw [List.map_cons, occupied_cons, induction]
            simp [readObject, Extent.amount]
      rw [nothing]
      rfl
  | cons row rest induction =>
      have isRow := isPart row List.mem_cons_self
      obtain ⟨named, names⟩ := readable.media row isRow
      rw [occupied_readObject_cons readable.unique readable.directions names
          (readable.lengths row isRow),
        ← induction fun other member => isPart other (List.mem_cons_of_mem _ member)]
      have counted : store.counts direction medium row =
          decide (named = medium ∧ (store.objects.find? fun object =>
            object.id = row.object).any (fun object => object.direction == direction.name) =
              true) := by
        rw [counts, names, Medium.name_beq, find?]
        simp
      by_cases counts : store.counts direction medium row = true
      · rw [List.filter_cons_of_pos counts, List.map_cons, List.sum_cons,
          if_pos (by simpa [counted] using counts)]
      · rw [List.filter_cons_of_neg counts, if_neg (by simpa [counted] using counts),
          Int.zero_add]

theorem toInt_add_of_fits {left right : Int64} (fits : FitsWord (left.toInt + right.toInt)) :
    (left + right).toInt = left.toInt + right.toInt := by
  rw [Int64.toInt_add]
  unfold FitsWord at fits
  exact Int.bmod_eq_of_le (by omega) (by omega)

/-- A sum that is computed is exact. -/
theorem toInt_of_sumFrom {sum total : Int64} {lengths : List Int64}
    (computed : sumFrom sum lengths = some total) :
    total.toInt = sum.toInt + (lengths.map Int64.toInt).sum := by
  induction lengths generalizing sum with
  | nil =>
      cases computed
      simp
  | cons length rest induction =>
      unfold sumFrom at computed
      split at computed
      · next fits =>
          rw [induction computed, toInt_add_of_fits fits, List.map_cons, List.sum_cons]
          omega
      · cases computed

/-- A sum of lengths is computed if it is a signed word. -/
theorem sumFrom_isSome {sum : Int64} {lengths : List Int64} (start : 0 ≤ sum.toInt)
    (nonneg : ∀ length ∈ lengths, 0 ≤ length.toInt)
    (fits : sum.toInt + (lengths.map Int64.toInt).sum < 9223372036854775808) :
    ∃ total, sumFrom sum lengths = some total := by
  induction lengths generalizing sum with
  | nil => exact ⟨sum, rfl⟩
  | cons length rest induction =>
      have own := nonneg length List.mem_cons_self
      have others : 0 ≤ (rest.map Int64.toInt).sum := by
        refine List.sum_nonneg fun other member => ?_
        obtain ⟨found, inRest, rfl⟩ := List.mem_map.mp member
        exact nonneg found (List.mem_cons_of_mem _ inRest)
      rw [List.map_cons, List.sum_cons] at fits
      have first : FitsWord (sum.toInt + length.toInt) := by
        unfold FitsWord
        omega
      have exact := toInt_add_of_fits first
      rw [sumFrom, if_pos first]
      refine induction ?_ (fun other member => nonneg other (List.mem_cons_of_mem _ member)) ?_
      · omega
      · omega

theorem sum_lengths (readable : store.Readable) (direction : Direction) (medium : Medium) :
    ((store.lengths direction medium).map Int64.toInt).sum =
      occupied store.contents direction medium := by
  rw [lengths, List.map_map]
  exact sum_counted readable fun row member => member

/-- An occupancy that is answered is exact. -/
theorem value_of_occupancy (readable : store.Readable) {occupancy : Magnitude}
    (answered : store.occupancy direction medium = .ok occupancy) :
    occupancy.value = occupied store.contents direction medium := by
  unfold RecordStore.occupancy at answered
  split at answered
  · next total computed =>
      cases answered
      have exact := toInt_of_sumFrom computed
      rw [sum_lengths readable] at exact
      have nonneg := occupied_nonneg store.contents direction medium
      have zero : (0 : Int64).toInt = 0 := rfl
      rw [Magnitude.value_ofInt64]
      omega
  · cases answered

/-- An occupancy is answered as long as it is a signed word. -/
theorem occupancy_answered (readable : store.Readable)
    (fits : occupied store.contents direction medium < 9223372036854775808) :
    ∃ occupancy, store.occupancy direction medium = .ok occupancy := by
  have zero : (0 : Int64).toInt = 0 := rfl
  obtain ⟨total, computed⟩ : ∃ total, sumFrom 0 (store.lengths direction medium) =
      some total := by
    refine sumFrom_isSome (by decide) ?_ ?_
    · intro length member
      obtain ⟨row, isRow, rfl⟩ := List.mem_map.mp member
      exact readable.lengths row (List.mem_filter.mp isRow).1
    · rw [sum_lengths readable, zero, Int.zero_add]
      exact fits
  exact ⟨.ofInt64 total, by rw [RecordStore.occupancy, computed]⟩

end RecordStore

end Admission
