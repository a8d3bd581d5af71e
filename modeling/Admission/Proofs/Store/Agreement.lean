import Admission.Proofs.Magnitude.Exact
import Admission.Proofs.Store.Computed
import Admission.Proofs.Store.Opened
import Admission.Proofs.Store.Recorded
import Admission.Proofs.Store.Renamed
import Mathlib.Data.List.Infix

/-!
# The two stores agree

The store in memory keeps objects as they are and adds magnitudes; the store of records keeps rows
of signed words, packed capacities, and sums words.  They are `Alike` if they have the same
capacities and the records describe the objects in memory, under other identifiers.  As long as all
sums of stored lengths are signed words, they then tell the same (`Alike.answer`), and are alike
after every call (`Alike.after`).

A store of records can be opened exactly if every capacity can be packed
(`RecordStore.openWith_iff`).  `stores_agree` is the main statement.
-/

namespace Admission

/-- The records describe what is in memory, under other identifiers, with the same capacities. -/
structure Alike (names : ObjectId → ObjectId) (limits : RecordStore.Limits)
    (memory : MemoryStore) (records : RecordStore) : Prop where
  opened : records.Opened limits
  readable : records.Readable
  limits : ∀ direction medium,
    (memory.limits direction).get medium = .ofUInt64 (limits.get direction medium)
  contents : records.contents = memory.objects.map (StoredObject.rename names)

/-- All sums of stored lengths are signed words. -/
def MemoryStore.Within (store : MemoryStore) : Prop :=
  ∀ direction medium, Admission.occupied store.objects direction medium < 9223372036854775808

instance (store : MemoryStore) : Decidable store.Within :=
  decidable_of_iff (∀ direction ∈ Direction.all, ∀ medium ∈ Medium.all,
    Admission.occupied store.objects direction medium < 9223372036854775808)
    ⟨fun all direction medium => all direction (by cases direction <;> decide) medium
      (by cases medium <;> decide), fun within direction _ medium _ => within direction medium⟩

namespace Alike

variable {names : ObjectId → ObjectId} {limits : RecordStore.Limits} {memory : MemoryStore}
  {records : RecordStore} {direction : Direction} {medium : Medium}

/-! ## Capacities and occupancies -/

theorem capacity (alike : Alike names limits memory records) (direction : Direction)
    (medium : Medium) :
    records.capacity direction medium = .ok ((memory.limits direction).get medium) := by
  rw [(alike.opened.capacity direction medium).1, alike.limits]

/-- What is occupied in memory is what the rows sum up to. -/
theorem occupancy (alike : Alike names limits memory records) (within : memory.Within)
    (direction : Direction) :
    ∃ total, memory.occupied direction = .ok total ∧
      ∀ medium, records.occupancy direction medium = .ok (total.get medium) ∧
        (total.get medium).value = occupied memory.objects direction medium := by
  have fits : ∀ medium, occupied memory.objects direction medium < 9223372036854775808000000000 :=
    fun medium => (within direction medium).trans (by decide)
  obtain ⟨first, told⟩ := MemoryStore.occupancy_answered fits .file
  obtain ⟨total, computed, -⟩ := Checked.bind_eq_ok_iff.mp told
  refine ⟨total, Checked.ofArithmetic_eq_ok_iff.mp computed, fun medium => ?_⟩
  have value : (total.get medium).value = occupied memory.objects direction medium :=
    MemoryStore.value_of_occupancy (Checked.bind_eq_ok_iff.mpr ⟨total, computed, rfl⟩)
  have same : occupied records.contents direction medium =
      occupied memory.objects direction medium := by
    rw [alike.contents, occupied_rename]
  obtain ⟨sum, summed⟩ := RecordStore.occupancy_answered alike.readable
    (same ▸ within direction medium)
  have exact := RecordStore.value_of_occupancy alike.readable summed
  rw [summed, Magnitude.value_injective (exact.trans (same.trans value.symm))]
  exact ⟨rfl, value⟩

/-! ## Extents -/

theorem extentsOf (alike : Alike names limits memory records)
    (injective : Function.Injective names) (id : ObjectId) :
    records.extentsOf (names id) = Checked.rename names (memory.extents id) := by
  rw [RecordStore.extentsOf_contents alike.readable, alike.contents, find?_rename injective,
    MemoryStore.extents, MemoryStore.find?]
  cases memory.objects.find? fun object => object.id = id <;> rfl

theorem sliceSpace (alike : Alike names limits memory records)
    (injective : Function.Injective names) (id : ObjectId) (offset length : UInt64) :
    records.sliceSpace (names id) offset length =
      Checked.rename names (memory.sliceSpace id offset length) := by
  rw [RecordStore.sliceSpace, MemoryStore.sliceSpace, alike.extentsOf injective]
  simp only [Checked.rename_bind, Extent.slice_rename, Checked.rename_ofArithmetic]

/-! ## Limits -/

/-- The records are checked medium by medium, as the first shortage is looked for in memory. -/
theorem checkLimits_eq {available occupied limits needed : Space}
    (capacities : ∀ medium, records.capacity direction medium = .ok (limits.get medium))
    (occupancies : ∀ medium, records.occupancy direction medium = .ok (occupied.get medium))
    (left : ∀ medium, (limits.get medium).sub (occupied.get medium) = .ok (available.get medium))
    (media : List Medium) :
    records.checkLimits direction needed media =
      match media.find? fun medium =>
        !decide (needed.get medium ≤ (available.get medium).orZero) with
      | some medium => Checked.refuse (.insufficient medium)
      | none => .ok () := by
  induction media with
  | nil => rfl
  | cons medium rest induction =>
      rw [RecordStore.checkLimits, capacities, occupancies]
      show (Checked.ofArithmetic ((limits.get medium).sub (occupied.get medium)) >>=
        fun available => _) = _
      rw [left]
      show (if needed.get medium ≤ (available.get medium).orZero then
        records.checkLimits direction needed rest else Checked.refuse (.insufficient medium)) = _
      by_cases fits : needed.get medium ≤ (available.get medium).orZero
      · rw [if_pos fits, induction, List.find?_cons_of_neg (by simpa using fits)]
      · rw [if_neg fits, List.find?_cons_of_pos (by simpa using fits)]

/-- What is left of the capacities is computed, in memory for all media at once. -/
theorem available (alike : Alike names limits memory records) {direction : Direction}
    {total : Space} (values : ∀ medium,
      0 ≤ (total.get medium).value ∧ (total.get medium).value < 9223372036854775808) :
    ∃ available, (memory.limits direction).sub total = .ok available ∧ ∀ medium,
      ((memory.limits direction).get medium).sub (total.get medium) =
        .ok (available.get medium) := by
  obtain ⟨available, isLeft⟩ : ∃ available : Space, ∀ medium, (available.get medium).value =
      ((memory.limits direction).get medium).value - (total.get medium).value := by
    refine Space.exists_of_values fun medium => (Magnitude.exists_value_iff _).mpr ?_
    have nonneg := (values medium).1
    have small := (values medium).2
    have word := (limits.get direction medium).toNat_lt
    rw [alike.limits, Magnitude.value_ofUInt64]
    unfold FitsWord
    omega
  exact ⟨available, Space.sub_eq_ok (fun medium => (values medium).1) isLeft,
    fun medium => Magnitude.sub_eq_ok (values medium).1 (isLeft medium)⟩

/-- Both refuse a new object for the same medium. -/
theorem checkLimits (alike : Alike names limits memory records) (within : memory.Within)
    (direction : Direction) (extents : List Extent) :
    (do
      let needed ← (Extent.aggregate extents : Except Overflow Space)
      records.checkLimits direction needed Medium.all) = memory.checkLimits direction extents := by
  obtain ⟨total, computed, told⟩ := alike.occupancy within direction
  have signed : ∀ medium,
      0 ≤ (total.get medium).value ∧ (total.get medium).value < 9223372036854775808 := by
    intro medium
    rw [(told medium).2]
    exact ⟨occupied_nonneg _ _ _, within direction medium⟩
  obtain ⟨available, left, each⟩ : ∃ available : Space,
      (memory.limits direction).sub total = .ok available ∧ ∀ medium,
        ((memory.limits direction).get medium).sub (total.get medium) =
          .ok (available.get medium) :=
    alike.available signed
  rw [MemoryStore.checkLimits, computed]
  show _ = (Checked.ofArithmetic ((memory.limits direction).sub total) >>= fun available => _)
  rw [left]
  refine bind_congr fun needed => ?_
  exact checkLimits_eq (alike.capacity direction) (fun medium => (told medium).1) each Medium.all

/-! ## Changes -/

/-- Limits are not checked against identifiers. -/
theorem checkLimits_rename (memory : MemoryStore) (direction : Direction)
    (extents : List Extent) :
    Checked.rename names (memory.checkLimits direction extents) =
      memory.checkLimits direction extents := by
  simp only [MemoryStore.checkLimits, Checked.rename_bind, Checked.rename_lift]
  refine bind_congr fun total => bind_congr fun available => bind_congr fun needed => ?_
  split <;> rfl

theorem admitted (alike : Alike names limits memory records)
    (injective : Function.Injective names) (within : memory.Within) (object : NewObject) :
    records.admitted (object.rename names) = Checked.rename names (memory.admitted object) := by
  rw [RecordStore.admitted, MemoryStore.admitted, Checked.rename_bind, NewObject.rename,
    Source.extents_rename (alike.extentsOf injective)]
  refine bind_congr fun extents => ?_
  obtain ⟨direction, source, reservation, provisional⟩ := object
  cases reservation with
  | reserved => rfl
  | unreserved =>
      simp only
      rw [← bind_assoc, alike.checkLimits within, Checked.rename_bind, checkLimits_rename]
      rfl

theorem create (alike : Alike names limits memory records)
    (injective : Function.Injective names) (within : memory.Within) (id : ObjectId)
    (object : NewObject) :
    (records.create (names id) (object.rename names)).result =
      Checked.rename names (memory.create id object).result := by
  rw [RecordStore.create, MemoryStore.create, alike.admitted injective within]
  cases memory.admitted object <;> rfl

/-- An object under a new identifier is described by the records like those before it. -/
theorem create_after (alike : Alike names limits memory records)
    (injective : Function.Injective names) (within : memory.Within) {id : ObjectId}
    {object : NewObject} (fresh : id ∉ memory.objects.map StoredObject.id)
    (later : (memory.create id object).store.Within) :
    Alike names limits (memory.create id object).store
      (records.create (names id) (object.rename names)).store := by
  have admits := alike.admitted injective within object
  rw [RecordStore.create, admits]
  unfold MemoryStore.create at later ⊢
  cases isAdmitted : memory.admitted object with
  | error failure => exact alike
  | ok extents =>
      rw [isAdmitted] at later
      have isFresh : ∀ row ∈ records.objects, row.id ≠ names id := by
        intro row member same
        have stored : names id ∈ records.contents.map StoredObject.id := by
          rw [RecordStore.map_id_contents]
          exact List.mem_map.mpr ⟨row, member, same⟩
        rw [alike.contents, List.map_map] at stored
        obtain ⟨found, isFound, isSame⟩ := List.mem_map.mp stored
        exact fresh (List.mem_map.mpr ⟨found, isFound, injective isSame⟩)
      have short : ∀ extent ∈ extents, extent.length.toNat < 9223372036854775808 := by
        intro extent member
        have sum := later object.direction extent.medium
        have others := occupied_nonneg memory.objects object.direction extent.medium
        have own := Extent.length_le_amount member
        rw [occupied_concat, if_pos rfl] at sum
        simp only at sum
        omega
      have written : (records.written (names id) (object.rename names) extents).Readable :=
        alike.readable.written_of_short isFresh short
      have described := RecordStore.contents_written alike.readable isFresh
        (object.rename names) extents
      refine ⟨alike.opened.of_limits rfl, written, alike.limits, described.trans ?_⟩
      rw [alike.contents, List.map_append]
      rfl

/-- An object is found in the records under its other identifier. -/
theorem find? (alike : Alike names limits memory records)
    (injective : Function.Injective names) (id : ObjectId) :
    (records.find? (names id)).map (RecordStore.readObject records.extents) =
      (memory.find? id).map (StoredObject.rename names) := by
  rw [← RecordStore.find?_contents, alike.contents, find?_rename injective]
  rfl

theorem destroy (alike : Alike names limits memory records)
    (injective : Function.Injective names) (id : ObjectId) :
    (records.destroy (names id)).result = Checked.rename names (memory.destroy id).result := by
  have found := alike.find? injective id
  rw [RecordStore.destroy, MemoryStore.destroy]
  cases isRow : records.find? (names id) with
  | none =>
      rw [isRow, Option.map_none, eq_comm, Option.map_eq_none_iff] at found
      rw [found]
      rfl
  | some row =>
      rw [isRow, Option.map_some, eq_comm, Option.map_eq_some_iff] at found
      obtain ⟨object, isObject, same⟩ := found
      obtain ⟨direction, named⟩ :=
        alike.readable.directions row (List.mem_of_find?_eq_some isRow)
      have own : object.direction = direction :=
        (congrArg StoredObject.direction same).trans (ObjectRow.readDirection_of_name named)
      rw [isObject]
      simp only [ObjectRow.parseDirection_eq named, own, Checked.rename_ok]

theorem destroy_after (alike : Alike names limits memory records)
    (injective : Function.Injective names) (id : ObjectId) :
    Alike names limits (memory.destroy id).store (records.destroy (names id)).store := by
  have found := alike.find? injective id
  rw [RecordStore.destroy, MemoryStore.destroy]
  cases isRow : records.find? (names id) with
  | none =>
      rw [isRow, Option.map_none, eq_comm, Option.map_eq_none_iff] at found
      rw [found]
      exact alike
  | some row =>
      rw [isRow, Option.map_some, eq_comm, Option.map_eq_some_iff] at found
      obtain ⟨object, isObject, -⟩ := found
      rw [isObject]
      refine ⟨alike.opened.of_limits rfl, alike.readable.erased (names id), alike.limits,
        (RecordStore.contents_erased records (names id)).trans ?_⟩
      rw [alike.contents, filter_rename injective]

/-! ## Calls -/

/-- Both stores tell the same at a call. -/
theorem answer (alike : Alike names limits memory records)
    (injective : Function.Injective names) (within : memory.Within) (call : StoreCommand) :
    (call.rename names).answer records = (call.answer memory).rename names := by
  cases call with
  | capacity direction medium =>
      exact congrArg StoreAnswer.amount (alike.capacity direction medium)
  | occupancy direction medium =>
      obtain ⟨total, computed, told⟩ := alike.occupancy within direction
      have inMemory : Store.occupancy memory direction medium = .ok (total.get medium) := by
        simp only [Store.occupancy, computed]
        rfl
      simp only [StoreCommand.rename, StoreCommand.answer, StoreAnswer.rename, inMemory]
      exact congrArg StoreAnswer.amount (told medium).1
  | sliceSpace id offset length =>
      exact congrArg StoreAnswer.space (alike.sliceSpace injective id offset length)
  | create id object =>
      exact congrArg StoreAnswer.created (alike.create injective within id object)
  | destroy id => exact congrArg StoreAnswer.destroyed (alike.destroy injective id)

/-- Both stores agree after a call, if a new object has a new identifier. -/
theorem after (alike : Alike names limits memory records)
    (injective : Function.Injective names) (within : memory.Within) {call : StoreCommand}
    (fresh : ∀ id ∈ call.made?, id ∉ memory.objects.map StoredObject.id)
    (later : (call.after memory).Within) :
    Alike names limits (call.after memory) ((call.rename names).after records) := by
  cases call with
  | capacity direction medium => exact alike
  | occupancy direction medium => exact alike
  | sliceSpace id offset length => exact alike
  | create id object => exact alike.create_after injective within (fresh id rfl) later
  | destroy id => exact alike.destroy_after injective id

end Alike

/-! ## Runs -/

/-- After a call there are no identifiers but those before it and the one that it gives. -/
theorem StoreCommand.ids_after (call : StoreCommand) (memory : MemoryStore) :
    ((call.after memory).objects.map StoredObject.id).Sublist
      (memory.objects.map StoredObject.id ++ call.made?.toList) := by
  cases call with
  | capacity direction medium => exact List.sublist_append_left _ _
  | occupancy direction medium => exact List.sublist_append_left _ _
  | sliceSpace id offset length => exact List.sublist_append_left _ _
  | create id object =>
      simp only [after, Store.create, MemoryStore.create]
      split
      · exact List.sublist_append_left _ _
      · rw [List.map_append]
        exact List.Sublist.refl _
  | destroy id =>
      refine List.Sublist.trans ?_ (List.sublist_append_left _ _)
      simp only [after, Store.destroy, MemoryStore.destroy]
      split
      · exact List.Sublist.refl _
      · exact List.filter_sublist.map _

theorem StoreCommand.made_cons (call : StoreCommand) (rest : List StoreCommand) :
    (call :: rest).filterMap made? = call.made?.toList ++ rest.filterMap made? := by
  cases made : call.made? with
  | none => rw [List.filterMap_cons_none made, Option.toList_none, List.nil_append]
  | some id => rw [List.filterMap_cons_some made, Option.toList_some, List.singleton_append]

/-- By induction on the calls: stores that agree tell the same at every call, as long as no
identifier is given twice and all sums are signed words. -/
theorem Alike.answers {names : ObjectId → ObjectId} {limits : RecordStore.Limits}
    {memory : MemoryStore} {records : RecordStore} (alike : Alike names limits memory records)
    (injective : Function.Injective names) {calls : List StoreCommand}
    (fresh : (memory.objects.map StoredObject.id ++ calls.filterMap StoreCommand.made?).Nodup)
    (within : ∀ front, front <+: calls → (StoreCommand.afterAll memory front).Within) :
    StoreCommand.answers records (calls.map (StoreCommand.rename names)) =
      (StoreCommand.answers memory calls).map (StoreAnswer.rename names) := by
  induction calls generalizing memory records with
  | nil => rfl
  | cons call rest induction =>
      have now : memory.Within := within [] List.nil_prefix
      have later : (call.after memory).Within := within [call] ⟨rest, rfl⟩
      rw [StoreCommand.made_cons, ← List.append_assoc] at fresh
      have isNew : ∀ id ∈ call.made?, id ∉ memory.objects.map StoredObject.id := by
        intro id isMade stored
        have apart := (List.nodup_append.mp (List.nodup_append.mp fresh).1).2.2
        exact apart id stored id (Option.mem_toList.mpr isMade) rfl
      have stillFresh := ((StoreCommand.ids_after call memory).append_right _).nodup fresh
      have rest := induction (alike.after injective now isNew later) stillFresh
        fun front begins => within (call :: front) ((List.prefix_cons_inj call).mpr begins)
      rw [List.map_cons, StoreCommand.answers, alike.answer injective now, rest]
      rfl

/-! ## Opening -/

theorem Magnitude.packable_ofUInt64 (number : UInt64) :
    (ofUInt64 number).Packable ↔ number.toNat ≤ 2147483647 * 1000000000 + 999999999 := by
  rw [Packable, value_ofUInt64]
  omega

namespace RecordStore

theorem setLimits_iff {limits : Limits} {order : List (Direction × Medium)}
    (store : RecordStore) : (setLimits limits store order).result = .ok () ↔
      ∀ place ∈ order, (Magnitude.ofUInt64 (limits.get place.1 place.2)).Packable := by
  induction order generalizing store with
  | nil => simp [setLimits]
  | cons first rest induction =>
      obtain ⟨direction, medium⟩ := first
      simp only [setLimits, List.forall_mem_cons]
      split
      · next error isError =>
          refine ⟨fun impossible => (by cases impossible), fun packable => ?_⟩
          rw [Magnitude.pack_eq_ok_iff.mpr ⟨packable.1, rfl⟩] at isError
          cases isError
      · next record isRecord =>
          have packable := (Magnitude.pack_eq_ok_iff.mp isRecord).1
          exact (induction _).trans ⟨fun others => ⟨packable, others⟩, And.right⟩

/-- A store is opened unless one of the capacities cannot be packed. -/
theorem openWith_iff (store : RecordStore) (path : String) (limits : Limits) :
    (store.openWith path limits).result = .ok () ↔ ∀ direction medium,
      (limits.get direction medium).toNat ≤ 2147483647 * 1000000000 + 999999999 := by
  simp only [← Magnitude.packable_ofUInt64]
  refine (setLimits_iff store).trans ⟨fun each direction medium => ?_, fun all place _ => ?_⟩
  · exact each (direction, medium) (mem_limitOrder direction medium)
  · exact all place.1 place.2

end RecordStore

/-- The empty store in memory with the given capacities. -/
def MemoryStore.ofLimits (limits : RecordStore.Limits) : MemoryStore :=
  RecordStore.limitOrder.foldl (fun store place =>
    store.setCapacity place.1 place.2 (.ofUInt64 (limits.get place.1 place.2))) .empty

theorem agrees_opened {path : String} {limits : RecordStore.Limits}
    (opened : (RecordStore.empty.openWith path limits).result = .ok ())
    (names : ObjectId → ObjectId) :
    Alike names limits (.ofLimits limits) (RecordStore.empty.openWith path limits).store where
  opened := RecordStore.opened_openWith opened
  readable := RecordStore.readable_empty.openWith path limits
  limits direction medium := by cases direction <;> cases medium <;> rfl
  contents := by
    have keeps := RecordStore.setLimits_keeps limits .empty RecordStore.limitOrder
    rw [RecordStore.contents, RecordStore.openWith]
    simp only [keeps.1]
    rfl

/-- A store of records is opened exactly if every capacity can be packed.  Then it tells the same at
every call as the store in memory with the same capacities, up to the identifiers that they give to
new objects, as long as no identifier is given twice and all sums of stored lengths, and with them
all stored lengths, are signed words. -/
theorem stores_agree (path : String) (limits : RecordStore.Limits) :
    ((RecordStore.empty.openWith path limits).result = .ok () ↔ ∀ direction medium,
      (limits.get direction medium).toNat ≤ 2147483647 * 1000000000 + 999999999) ∧
    ((RecordStore.empty.openWith path limits).result = .ok () →
      ∀ (names : ObjectId → ObjectId) (calls : List StoreCommand), Function.Injective names →
        (calls.filterMap StoreCommand.made?).Nodup →
        (∀ front, front <+: calls →
          (StoreCommand.afterAll (MemoryStore.ofLimits limits) front).Within) →
        StoreCommand.answers (RecordStore.empty.openWith path limits).store
            (calls.map (StoreCommand.rename names)) =
          (StoreCommand.answers (MemoryStore.ofLimits limits) calls).map
            (StoreAnswer.rename names)) := by
  refine ⟨RecordStore.openWith_iff .empty path limits, ?_⟩
  intro opened names calls injective fresh within
  exact (agrees_opened opened names).answers injective fresh within

/-- A file, a slice of it that spans ten bytes, one that does not fit, and what becomes of them. -/
def sampleCalls : List StoreCommand :=
  [.create ⟨1⟩ ⟨.inbound, ⟨some (.handle .file 7), 0, 999999990⟩, .unreserved, false⟩,
    .create ⟨2⟩ ⟨.inbound, ⟨some (.object ⟨1⟩), 5, 10⟩, .unreserved, true⟩,
    .create ⟨3⟩ ⟨.inbound, ⟨some (.object ⟨1⟩), 5, 10⟩, .unreserved, false⟩,
    .sliceSpace ⟨2⟩ 0 11, .destroy ⟨1⟩, .destroy ⟨1⟩, .occupancy .inbound .file,
    .create ⟨4⟩ ⟨.outbound, ⟨some (.object ⟨1⟩), 5, 10⟩, .reserved, false⟩]

theorem stores_agree_on_sample :
    StoreCommand.answers (RecordStore.empty.openWith "store" {}).store
        (sampleCalls.map (StoreCommand.rename fun id => ⟨~~~id.bits⟩)) =
      (StoreCommand.answers (MemoryStore.ofLimits {}) sampleCalls).map
        (StoreAnswer.rename fun id => ⟨~~~id.bits⟩) := by
  have injective : Function.Injective fun id : ObjectId => (⟨~~~id.bits⟩ : ObjectId) := by
    rintro ⟨left⟩ ⟨right⟩ same
    simpa using same
  have within : ∀ front ∈ sampleCalls.inits,
      (StoreCommand.afterAll (MemoryStore.ofLimits {}) front).Within := by decide +kernel
  exact (stores_agree "store" {}).2 rfl _ sampleCalls injective (by decide)
    fun front begins => within front ((List.mem_inits ..).mpr begins)

end Admission
