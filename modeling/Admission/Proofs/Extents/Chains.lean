import Admission.Proofs.Extents.Slices
import Admission.Proofs.Store.Renamed

/-!
# Slices of slices

*Composition.*  What lies within a range of what lies within a range is what lies within the range
that both have in common (`Extent.within_within`).  So a slice of a slice is one slice of the whole,
as a list of extents and not only in its bytes.

*Accounting.*  Two ranges that meet have the bytes of the range from the first to the last
(`Extent.amount_within_add`), so that what they take adds up on every medium.

*Chains.*  In a store in memory, an object that was made through slices of slices
(`MemoryStore.SlicedFrom`) has the extents of one slice of the first object, whatever became of the
others (`MemoryStore.SlicedFrom.exists_made`).

`Extent.slices_compose` is the main statement.
-/

namespace Admission.Extent

variable {extents : List Extent} {first last lower upper : Nat} {offset length : UInt64}

/-! ## Composition -/

/-- A range takes of a piece what it takes of the extent, as far as the piece goes. -/
theorem piece?_piece {extent : Extent} {taken : UInt64}
    (meets : first < min last extent.length.toNat)
    (isTaken : taken.toNat = min last extent.length.toNat - first) :
    piece? lower upper 0 ⟨extent.medium, taken⟩ =
      piece? (first + lower) (min last (first + upper)) 0 extent := by
  unfold piece?
  simp only [Nat.zero_add, isTaken]
  by_cases inside : max lower 0 < min upper (min last extent.length.toNat - first)
  · rw [if_pos inside, if_pos (by omega)]
    congr 3
    omega
  · rw [if_neg inside, if_neg (by omega)]

/-- What lies within a range of what lies within a range.  The first range takes a piece of an
extent, and the second one a piece of that; or the first takes nothing, as it begins behind the
extent or is empty. -/
theorem within_within (extents : List Extent) (first last lower upper : Nat) :
    within (within extents first last) lower upper =
      within extents (first + lower) (min last (first + upper)) := by
  induction extents generalizing first last lower upper with
  | nil => rfl
  | cons extent rest induction =>
      rw [within_cons extent rest, within_cons extent rest]
      by_cases meets : first < min last extent.length.toNat
      · obtain ⟨taken, isPiece, isTaken⟩ := exists_piece meets
        have measured : (Extent.mk extent.medium taken).length.toNat =
            min last extent.length.toNat - first := isTaken
        rw [isPiece, Option.toList_some, List.singleton_append, within_cons,
          piece?_piece meets isTaken, induction]
        congr 1
        rcases Nat.le_total last extent.length.toNat with ends | goesOn
        · rw [within_of_le (by omega), within_of_le (by omega)]
        · congr 1 <;> omega
      · rw [piece?, if_neg (by omega), piece?, if_neg (by omega), Option.toList_none,
          List.nil_append, List.nil_append, induction]
        rcases Nat.lt_or_ge first extent.length.toNat with inside | behind
        · rw [within_of_le (by omega), within_of_le (by omega)]
        · congr 1 <;> omega

/-- A slice of a slice is a slice of the whole. -/
theorem slice_slice (small : bytes extents < 18446744073709551616) {skip count : UInt64}
    {middle : List Extent} (sliced : slice extents offset length = .ok middle)
    (inside : skip.toNat + count.toNat ≤ length.toNat) :
    (offset + skip).toNat = offset.toNat + skip.toNat ∧
      ∃ inner, slice middle skip count = .ok inner ∧
        slice extents (offset + skip) count = .ok inner := by
  obtain ⟨fits, rfl⟩ := (slice_eq_ok_iff small).mp sliced
  have word : (offset + skip).toNat = offset.toNat + skip.toNat := by
    rw [UInt64.toNat_add]
    exact Nat.mod_eq_of_lt (by omega)
  have bytes := bytes_within extents offset.toNat (offset.toNat + length.toNat)
  refine ⟨word, _, slice_eq_ok (by omega) (by omega), (slice_eq_ok_iff small).mpr ⟨by omega, ?_⟩⟩
  rw [within_within, word]
  congr 1
  omega

/-! ## Accounting -/

/-- Two ranges that meet take together what the range from the first to the last takes. -/
theorem amount_within_add (extents : List Extent) (first front back : Nat) (medium : Medium) :
    amount (within extents first (first + front)) medium +
        amount (within extents (first + front) (first + front + back)) medium =
      amount (within extents first (first + front + back)) medium := by
  simp only [amount_eq_count, media_within]
  rw [← Nat.cast_add, ← List.count_append, ← List.drop_drop, Nat.add_sub_cancel_left,
    Nat.add_sub_cancel_left, Nat.add_assoc, Nat.add_sub_cancel_left, List.take_add]

/-- A slice is totalled, and has as many bytes as were asked for. -/
theorem aggregate_slice (small : bytes extents < 18446744073709551616) {result : List Extent}
    (sliced : slice extents offset length = .ok result) :
    ∃ space, aggregate result = .ok space ∧
      (space.get .file).value + (space.get .bulk).value + (space.get .heap).value =
        length.toNat := by
  obtain ⟨fits, rfl⟩ := (slice_eq_ok_iff small).mp sliced
  have counted := bytes_within extents offset.toNat (offset.toNat + length.toNat)
  have fewer : bytes (within extents offset.toNat (offset.toNat + length.toNat)) <
      18446744073709551616 := by
    omega
  obtain ⟨space, totalled⟩ := aggregate_finishes fewer
  refine ⟨space, totalled, ?_⟩
  rw [value_of_aggregate totalled, value_of_aggregate totalled, value_of_aggregate totalled,
    amount_add_amount]
  omega

/-- The space of two slices that meet adds up to that of the slice from the first to the last. -/
theorem aggregate_add (small : bytes extents < 18446744073709551616) {front back : UInt64}
    {whole : List Extent} (word : front.toNat + back.toNat < 18446744073709551616)
    (sliced : slice extents offset (front + back) = .ok whole) :
    ∃ left right, slice extents offset front = .ok left ∧
      slice extents (offset + front) back = .ok right ∧
      ∃ ahead behind total, aggregate left = .ok ahead ∧ aggregate right = .ok behind ∧
        aggregate whole = .ok total ∧ ahead.add behind = .ok total ∧
        ∀ medium, (ahead.get medium).value + (behind.get medium).value =
          (total.get medium).value := by
  obtain ⟨fits, rfl⟩ := (slice_eq_ok_iff small).mp sliced
  have sum : (front + back).toNat = front.toNat + back.toNat := by
    rw [UInt64.toNat_add]
    exact Nat.mod_eq_of_lt word
  have middle : (offset + front).toNat = offset.toNat + front.toNat := by
    rw [UInt64.toNat_add]
    exact Nat.mod_eq_of_lt (by omega)
  have first : slice extents offset front = .ok _ := slice_eq_ok small (by omega)
  have second : slice extents (offset + front) back = .ok _ := slice_eq_ok small (by omega)
  obtain ⟨ahead, isAhead, -⟩ := aggregate_slice small first
  obtain ⟨behind, isBehind, -⟩ := aggregate_slice small second
  obtain ⟨total, isTotal, -⟩ := aggregate_slice small sliced
  have values : ∀ medium, (ahead.get medium).value + (behind.get medium).value =
      (total.get medium).value := by
    intro medium
    rw [value_of_aggregate isAhead, value_of_aggregate isBehind, value_of_aggregate isTotal,
      middle, sum, ← Nat.add_assoc, amount_within_add]
  refine ⟨_, _, first, second, ahead, behind, total, isAhead, isBehind, isTotal,
    Space.add_eq_ok (fun medium => ?_) fun medium => (values medium).symm, values⟩
  rw [value_of_aggregate isBehind]
  exact amount_nonneg _ _

end Admission.Extent

namespace Admission.MemoryStore

open Extent (bytes within slice aggregate)

variable {store : MemoryStore} {id other first : ObjectId} {object : NewObject}
  {made : StoredObject} {extents : List Extent} {offset length : UInt64}

/-! ## Chains -/

/-- An object stays found when another one is made. -/
theorem find?_create_of_some (isFound : store.find? id = some made) (other : ObjectId)
    (object : NewObject) : (store.create other object).store.find? id = some made := by
  unfold create
  split
  · exact isFound
  · change List.find? _ (store.objects ++ [_]) = _
    rw [List.find?_append, show List.find? _ store.objects = _ from isFound]
    rfl

/-- An object stays found when another one is destroyed. -/
theorem find?_destroy_of_ne (different : other ≠ id) (store : MemoryStore) :
    (store.destroy other).store.find? id = store.find? id := by
  unfold destroy
  split
  · rfl
  · change List.find? _ (store.objects.filter _) = _
    rw [List.find?_filter]
    congr 1
    funext kept
    by_cases same : kept.id = id
    · simp [same, different.symm]
    · simp [same]

theorem find?_setCapacity (store : MemoryStore) (direction : Direction) (medium : Medium)
    (capacity : Magnitude) (id : ObjectId) :
    (store.setCapacity direction medium capacity).find? id = store.find? id := by
  cases direction <;> rfl

/-- A new object is found with the extents of its source. -/
theorem find?_create_of_ok (isNew : store.find? id = none)
    (done : (store.create id object).result = .ok ()) :
    ∃ made, (store.create id object).store.find? id = some made ∧
      object.source.extents store.extents = .ok made.extents := by
  unfold create at done ⊢
  split at done
  · cases done
  · next extents admits =>
      refine ⟨⟨id, object.direction, extents, object.provisional⟩, ?_,
        extents_of_admitted admits⟩
      change List.find? _ (store.objects ++ [_]) = _
      rw [List.find?_append, show List.find? _ store.objects = _ from isNew]
      simp

/-- In a store, the object `id` was made through slices of slices of the object `first`, which then
had `extents`: it has the `length` bytes of these that begin at `offset`.  In the meantime other
objects were made and destroyed, those that were sliced among them, and capacities were set. -/
inductive SlicedFrom (first : ObjectId) (extents : List Extent) :
    MemoryStore → ObjectId → UInt64 → UInt64 → Prop where
  | direct {store : MemoryStore} {id : ObjectId} {object : NewObject} {offset length : UInt64} :
      store.extents first = .ok extents → store.find? id = none →
      object.source = ⟨some (.object first), offset, length⟩ →
      (store.create id object).result = .ok () →
      SlicedFrom first extents (store.create id object).store id offset length
  | again {store : MemoryStore} {parent id : ObjectId} {object : NewObject}
      {offset length skip count : UInt64} :
      SlicedFrom first extents store parent offset length → store.find? id = none →
      object.source = ⟨some (.object parent), skip, count⟩ →
      (store.create id object).result = .ok () →
      SlicedFrom first extents (store.create id object).store id (offset + skip) count
  | meanwhile {store : MemoryStore} {id : ObjectId} {offset length : UInt64} {call : StoreCommand} :
      SlicedFrom first extents store id offset length →
      (∀ other, call.made? = some other → store.find? other = none) → call ≠ .destroy id →
      SlicedFrom first extents (call.after store) id offset length
  | resized {store : MemoryStore} {id : ObjectId} {offset length : UInt64} (direction : Direction)
      (medium : Medium) (capacity : Magnitude) :
      SlicedFrom first extents store id offset length →
      SlicedFrom first extents (store.setCapacity direction medium capacity) id offset length

/-- The extents of a slice of an object that is found. -/
theorem extents_of_slice {source : Source} (isFound : store.extents id = .ok extents)
    (isSlice : source = ⟨some (.object id), offset, length⟩) :
    source.extents store.extents = slice extents offset length := by
  subst isSlice
  change (store.extents id >>= fun found => slice found offset length) = _
  rw [isFound]
  rfl

theorem extents_of_find? (isFound : store.find? id = some made) :
    store.extents id = .ok made.extents := by
  rw [MemoryStore.extents, isFound]

/-- What was made through slices of slices is there, and has the extents of one slice.  Each object
ends within the one that it is a slice of. -/
theorem SlicedFrom.exists_made (small : bytes extents < 18446744073709551616)
    (sliced : SlicedFrom first extents store id offset length) :
    ∃ made, store.find? id = some made ∧ slice extents offset length = .ok made.extents := by
  induction sliced with
  | direct whole isNew isSlice done =>
      obtain ⟨made, isMade, resolved⟩ := find?_create_of_ok isNew done
      exact ⟨made, isMade, (extents_of_slice whole isSlice).symm.trans resolved⟩
  | @again store parent id object offset length skip count _ isNew isSlice done induction =>
      obtain ⟨middle, isMiddle, direct⟩ := induction
      obtain ⟨made, isMade, resolved⟩ := find?_create_of_ok isNew done
      rw [extents_of_slice (extents_of_find? isMiddle) isSlice] at resolved
      have inside : skip.toNat + count.toNat ≤ length.toNat := by
        obtain ⟨fits, isWithin⟩ := (Extent.slice_eq_ok_iff small).mp direct
        have counted := Extent.bytes_within extents offset.toNat (offset.toNat + length.toNat)
        rw [← isWithin] at counted
        have ends := ((Extent.slice_eq_ok_iff (by omega)).mp resolved).1
        omega
      obtain ⟨-, inner, isInner, whole⟩ := Extent.slice_slice small direct inside
      obtain rfl := Except.ok.inj (isInner.symm.trans resolved)
      exact ⟨made, isMade, whole⟩
  | @meanwhile store id offset length call _ _ stays induction =>
      obtain ⟨made, isMade, direct⟩ := induction
      refine ⟨made, ?_, direct⟩
      cases call with
      | capacity | occupancy | sliceSpace => exact isMade
      | create other object => exact find?_create_of_some isMade other object
      | destroy other =>
          have different : other ≠ id := fun same => stays (same ▸ rfl)
          exact (find?_destroy_of_ne different store).trans isMade
  | resized direction medium capacity _ induction =>
      obtain ⟨made, isMade, direct⟩ := induction
      exact ⟨made, (find?_setCapacity _ direction medium capacity _).trans isMade, direct⟩

/-- The space of a slice of an object that is found. -/
theorem sliceSpace_eq_ok {result : List Extent} {space : Space}
    (isFound : store.extents id = .ok extents) (sliced : slice extents offset length = .ok result)
    (totalled : aggregate result = .ok space) :
    store.sliceSpace id offset length = .ok space := by
  simp only [sliceSpace, Checked.bind_eq_ok_iff, Checked.ofArithmetic_eq_ok_iff]
  exact ⟨extents, isFound, result, sliced, totalled⟩

/-- What was made through slices of slices has the extents and the space of one slice of the first
object, in every store that has the first object as it was. -/
theorem SlicedFrom.exists_direct (small : bytes extents < 18446744073709551616)
    (sliced : SlicedFrom first extents store id offset length) :
    ∃ made space, store.find? id = some made ∧ slice extents offset length = .ok made.extents ∧
      aggregate made.extents = .ok space ∧ store.sliceSpace id 0 length = .ok space ∧
      ∀ start : MemoryStore, start.extents first = .ok extents →
        (⟨some (.object first), offset, length⟩ : Source).extents start.extents =
            .ok made.extents ∧
          start.sliceSpace first offset length = .ok space := by
  obtain ⟨made, isMade, direct⟩ := sliced.exists_made small
  obtain ⟨space, totalled, -⟩ := Extent.aggregate_slice small direct
  have whole : slice made.extents 0 length = .ok made.extents := by
    have inside : (0 : UInt64).toNat + length.toNat ≤ length.toNat := (Nat.zero_add _).le
    obtain ⟨-, inner, isInner, same⟩ := Extent.slice_slice small direct inside
    rw [UInt64.add_zero, direct] at same
    exact isInner.trans same.symm
  refine ⟨made, space, isMade, direct, totalled,
    sliceSpace_eq_ok (extents_of_find? isMade) whole totalled, fun start isFirst => ⟨?_, ?_⟩⟩
  · exact (extents_of_slice isFirst rfl).trans direct
  · exact sliceSpace_eq_ok isFirst direct totalled

end Admission.MemoryStore

namespace Admission.Extent

/-- Of extents whose bytes a word can count, a slice of a slice is one slice of the whole, the space
of two slices that meet adds up to that of the slice from the first to the last, and the space of a
slice has as many bytes as were asked for.  So in a store in memory, whatever was made through
slices of slices of an object with these extents has the extents and the space of one slice of it,
even after the objects in between were destroyed. -/
theorem slices_compose (extents : List Extent) (small : bytes extents < 18446744073709551616) :
    (∀ offset length skip count middle, slice extents offset length = .ok middle →
      skip.toNat + count.toNat ≤ length.toNat →
      (offset + skip).toNat = offset.toNat + skip.toNat ∧
        ∃ inner, slice middle skip count = .ok inner ∧
          slice extents (offset + skip) count = .ok inner) ∧
    (∀ offset front back whole, front.toNat + back.toNat < 18446744073709551616 →
      slice extents offset (front + back) = .ok whole →
      ∃ left right, slice extents offset front = .ok left ∧
        slice extents (offset + front) back = .ok right ∧
        ∃ ahead behind total, aggregate left = .ok ahead ∧ aggregate right = .ok behind ∧
          aggregate whole = .ok total ∧ ahead.add behind = .ok total ∧
          ∀ medium, (ahead.get medium).value + (behind.get medium).value =
            (total.get medium).value) ∧
    (∀ offset length result, slice extents offset length = .ok result →
      ∃ space, aggregate result = .ok space ∧
        (space.get .file).value + (space.get .bulk).value + (space.get .heap).value =
          length.toNat) ∧
    (∀ first store id offset length, MemoryStore.SlicedFrom first extents store id offset length →
      ∃ made space, store.find? id = some made ∧ slice extents offset length = .ok made.extents ∧
        aggregate made.extents = .ok space ∧ store.sliceSpace id 0 length = .ok space ∧
        ∀ start : MemoryStore, start.extents first = .ok extents →
          (⟨some (.object first), offset, length⟩ : Source).extents start.extents =
              .ok made.extents ∧
            start.sliceSpace first offset length = .ok space) :=
  ⟨fun _ _ _ _ _ => slice_slice small, fun _ _ _ _ => aggregate_add small,
    fun _ _ _ => aggregate_slice small, fun _ _ _ _ _ sliced => sliced.exists_direct small⟩

/-- Three runs, of which the first and the last are on one medium. -/
def mixed : List Extent := [⟨.file, 10⟩, ⟨.heap, 5⟩, ⟨.file, 20⟩]

/-- A slice of an object. -/
def cutting (parent : Nat) (offset length : UInt64) : NewObject :=
  ⟨.inbound, ⟨some (.object (.ofNat parent)), offset, length⟩, .reserved, false⟩

/-- A store that cuts ten bytes out of its only object. -/
def onceCut : MemoryStore :=
  let start : MemoryStore := { objects := [⟨.ofNat 1, .inbound, mixed, false⟩] }
  (start.create (.ofNat 2) (cutting 1 8 10)).store

/-- Then it cuts eight bytes out of these, and destroys the two objects that were cut. -/
def twiceCut : MemoryStore :=
  let twice := (onceCut.create (.ofNat 3) (cutting 2 1 8)).store
  ((twice.destroy (.ofNat 2)).store.destroy (.ofNat 1)).store

/-- The eight bytes are one slice of the three runs. -/
theorem twiceCut_direct : twiceCut.objects.length = 1 ∧
    ∃ made, twiceCut.find? (.ofNat 3) = some made ∧
      made.extents = [⟨.file, 1⟩, ⟨.heap, 5⟩, ⟨.file, 2⟩] ∧
      slice mixed 9 8 = .ok made.extents := by
  have once : MemoryStore.SlicedFrom (.ofNat 1) mixed onceCut (.ofNat 2) 8 10 :=
    .direct (by decide) (by decide) rfl (by decide)
  have twice : MemoryStore.SlicedFrom (.ofNat 1) mixed
      (onceCut.create (.ofNat 3) (cutting 2 1 8)).store (.ofNat 3) (8 + 1) 8 :=
    once.again (by decide) rfl (by decide)
  have between : MemoryStore.SlicedFrom (.ofNat 1) mixed ((StoreCommand.destroy (.ofNat 2)).after
      (onceCut.create (.ofNat 3) (cutting 2 1 8)).store) (.ofNat 3) 9 8 :=
    twice.meanwhile (by rintro other ⟨⟩) (by decide)
  have alone : MemoryStore.SlicedFrom (.ofNat 1) mixed
      ((StoreCommand.destroy (.ofNat 1)).after _) (.ofNat 3) 9 8 :=
    between.meanwhile (by rintro other ⟨⟩) (by decide)
  obtain ⟨-, -, -, chains⟩ := slices_compose mixed (by decide)
  obtain ⟨made, space, isMade, direct, -⟩ := chains _ _ _ _ _ alone
  have same : made.extents = [⟨.file, 1⟩, ⟨.heap, 5⟩, ⟨.file, 2⟩] :=
    Except.ok.inj (direct.symm.trans (by decide))
  exact ⟨by decide, made, isMade, same, direct⟩

end Admission.Extent
