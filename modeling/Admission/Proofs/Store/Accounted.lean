import Admission.Proofs.Scan.Exact
import Admission.Store.Memory

/-!
# Stores that keep exact account

`Accounted` says what a store answers and changes in terms of a list of objects: an occupancy
is the sum of what the objects of a direction take, a slice takes what its bytes take, a new
object is added to the list and a destroyed one is removed.  It promises nothing of a store
that refuses, apart from that a refused change is none.
-/

namespace Admission

/-! ## What extents and objects take -/

/-- The number of bytes of a sequence of extents on a medium. -/
def Extent.amount (extents : List Extent) (medium : Medium) : Int :=
  (extents.map fun extent =>
    if extent.medium = medium then (extent.length.toNat : Int) else 0).sum

/-- What the objects of a direction take on a medium. -/
def occupied (objects : List StoredObject) (direction : Direction) (medium : Medium) : Int :=
  (objects.map fun object =>
    if object.direction = direction then Extent.amount object.extents medium else 0).sum

/-- The extents that a source has among the given objects, if the one it slices is there. -/
def Source.resolve (objects : List StoredObject) (source : Source) : Option (List Extent) :=
  match source.location with
  | none => some []
  | some (.handle medium _) => some [⟨medium, source.length⟩]
  | some (.object id) =>
    (objects.find? fun object => object.id = id).map fun object =>
      Extent.cut object.extents source.offset source.length

theorem Extent.amount_cons (extent : Extent) (rest : List Extent) (medium : Medium) :
    amount (extent :: rest) medium =
      (if extent.medium = medium then (extent.length.toNat : Int) else 0) +
        amount rest medium := by
  simp [amount]

theorem Extent.amount_nonneg (extents : List Extent) (medium : Medium) :
    0 ≤ amount extents medium := by
  refine List.sum_nonneg ?_
  intro taken member
  obtain ⟨extent, -, rfl⟩ := List.mem_map.mp member
  split <;> omega

/-- What was totalled is exact. -/
theorem Extent.value_of_aggregateFrom {space total : Space} {extents : List Extent}
    (computed : aggregateFrom space extents = .ok total) (medium : Medium) :
    (total.get medium).value = (space.get medium).value + amount extents medium := by
  induction extents generalizing space with
  | nil =>
      cases computed
      simp [amount]
  | cons extent rest induction =>
      simp only [aggregateFrom, Checked.bind_eq_ok_iff] at computed
      obtain ⟨sum, added, computed⟩ := computed
      have exact := Magnitude.value_of_add added
      rw [Magnitude.value_ofUInt64] at exact
      rw [induction computed, amount_cons]
      by_cases same : extent.medium = medium
      · subst same
        rw [Space.get_set_self, exact, if_pos rfl]
        omega
      · rw [Space.get_set_of_ne _ _ (Ne.symm same), if_neg same]
        omega

theorem Extent.value_of_aggregate {total : Space} {extents : List Extent}
    (computed : aggregate extents = .ok total) (medium : Medium) :
    (total.get medium).value = amount extents medium := by
  have zero : (Space.zero.get medium).value = 0 := by cases medium <;> rfl
  rw [value_of_aggregateFrom computed, zero, Int.zero_add]

section Occupied

variable {objects rest : List StoredObject} {direction : Direction} {medium : Medium}

@[simp] theorem occupied_nil (direction : Direction) (medium : Medium) :
    occupied [] direction medium = 0 := rfl

theorem occupied_cons (object : StoredObject) (rest : List StoredObject) (direction : Direction)
    (medium : Medium) :
    occupied (object :: rest) direction medium =
      (if object.direction = direction then Extent.amount object.extents medium else 0) +
        occupied rest direction medium := by
  simp [occupied]

theorem occupied_append (front back : List StoredObject) (direction : Direction)
    (medium : Medium) :
    occupied (front ++ back) direction medium =
      occupied front direction medium + occupied back direction medium := by
  simp [occupied]

/-- One more object takes its extents, in its direction. -/
theorem occupied_concat (objects : List StoredObject) (added : StoredObject)
    (direction : Direction) (medium : Medium) :
    occupied (objects ++ [added]) direction medium =
      occupied objects direction medium +
        if added.direction = direction then Extent.amount added.extents medium else 0 := by
  rw [occupied_append, occupied_cons, occupied_nil, Int.add_zero]

theorem occupied_nonneg (objects : List StoredObject) (direction : Direction)
    (medium : Medium) : 0 ≤ occupied objects direction medium := by
  refine List.sum_nonneg ?_
  intro taken member
  obtain ⟨object, -, rfl⟩ := List.mem_map.mp member
  split
  · exact Extent.amount_nonneg _ _
  · exact Int.le_refl 0

/-- Fewer objects take no more. -/
theorem occupied_filter_le (objects : List StoredObject) (keeps : StoredObject → Bool)
    (direction : Direction) (medium : Medium) :
    occupied (objects.filter keeps) direction medium ≤ occupied objects direction medium := by
  refine (List.filter_sublist.map _).sum_le_sum ?_
  intro taken member
  obtain ⟨object, -, rfl⟩ := List.mem_map.mp member
  split
  · exact Extent.amount_nonneg _ _
  · exact Int.le_refl 0

/-- Objects of one direction take nothing in another. -/
theorem occupied_filter_of_ne {keeps : StoredObject → Bool} {other : Direction}
    (leaves : ∀ object ∈ objects, keeps object = false → object.direction = direction)
    (different : other ≠ direction) (medium : Medium) :
    occupied (objects.filter keeps) other medium = occupied objects other medium := by
  induction objects with
  | nil => rfl
  | cons object rest induction =>
      have later := induction fun found member =>
        leaves found (List.mem_cons_of_mem object member)
      cases kept : keeps object with
      | true => rw [List.filter_cons_of_pos kept, occupied_cons, occupied_cons, later]
      | false =>
          have elsewhere : object.direction ≠ other := fun same =>
            different (same.symm.trans (leaves object List.mem_cons_self kept))
          rw [List.filter_cons_of_neg (by simp [kept]), occupied_cons, later,
            if_neg elsewhere, Int.zero_add]

/-- Without one of several objects of different identifiers, the others take what they took. -/
theorem occupied_filter_id {object : StoredObject}
    (unique : (objects.map StoredObject.id).Nodup) (stored : object ∈ objects)
    (direction : Direction) (medium : Medium) :
    occupied (objects.filter fun kept => kept.id ≠ object.id) direction medium =
      occupied objects direction medium -
        if object.direction = direction then Extent.amount object.extents medium else 0 := by
  obtain ⟨front, back, rfl⟩ := List.append_of_mem stored
  have apart := (List.perm_middle.map StoredObject.id).nodup_iff.mp unique
  rw [List.map_cons, List.nodup_cons] at apart
  have others : ∀ kept ∈ front ++ back, decide (kept.id ≠ object.id) = true := fun kept member =>
    decide_eq_true fun same => apart.1 (List.mem_map.mpr ⟨kept, member, same⟩)
  rw [List.filter_append, List.filter_cons_of_neg (by simp), ← List.filter_append,
    List.filter_eq_self.mpr others, occupied_append, occupied_append, occupied_cons]
  omega

/-- A source has the same extents after an object was added that it does not slice. -/
theorem Source.resolve_concat {source : Source} {added : StoredObject}
    (different : source.slicedFrom? ≠ some added.id) :
    source.resolve (objects ++ [added]) = source.resolve objects := by
  unfold resolve
  split
  · rfl
  · rfl
  · next id location =>
      have other : added.id ≠ id := by
        rintro rfl
        exact different (by simp [slicedFrom?, location])
      simp [List.find?_append, other]

/-- After an object was removed a source has the extents that it had, or none. -/
theorem Source.resolve_filter {source : Source} {removed : ObjectId} {extents : List Extent}
    (found : source.resolve (objects.filter fun object => object.id ≠ removed) = some extents) :
    source.resolve objects = some extents := by
  unfold resolve at found ⊢
  split at found
  · exact found
  · exact found
  · next id location =>
      rw [List.find?_filter] at found
      by_cases same : id = removed
      · subst same
        have nothing : (objects.find? fun object =>
            decide (object.id ≠ id) = true ∧ decide (object.id = id) = true) = none := by
          simp
        simp only [nothing, Option.map_none, reduceCtorEq] at found
      · have kept : (fun object : StoredObject =>
            decide (decide (object.id ≠ removed) = true ∧ decide (object.id = id) = true)) =
            fun object => decide (object.id = id) := by
          funext object
          by_cases hit : object.id = id <;> simp [hit, same]
        rwa [kept] at found

end Occupied

/-! ## Accounted stores -/

/-- Stores whose answers and changes are exact. -/
class Accounted (σ : Type) [Store σ] where
  objects : σ → List StoredObject
  limit : σ → Direction → Medium → Int
  /-- What the store keeps true of itself. -/
  Sound : σ → Prop
  capacity_value {store : σ} {direction : Direction} {medium : Medium} {capacity : Magnitude} :
    Sound store → Store.capacity store direction medium = .ok capacity →
    capacity.value = limit store direction medium
  occupancy_value {store : σ} {direction : Direction} {medium : Medium}
      {occupancy : Magnitude} :
    Sound store → Store.occupancy store direction medium = .ok occupancy →
    occupancy.value = occupied (objects store) direction medium
  sliceSpace_ok {store : σ} {id : ObjectId} {offset length : UInt64} {space : Space} :
    Sound store → Store.sliceSpace store id offset length = .ok space →
    ∃ object, (objects store).find? (fun object => object.id = id) = some object ∧
      ∀ medium, (space.get medium).value =
        Extent.amount (Extent.cut object.extents offset length) medium
  /-- A new object has the extents of its source.  The store stays sound if they are within its
  capacity each, whatever else is stored. -/
  create_ok {store : σ} {id : ObjectId} {object : NewObject} :
    Sound store → (∀ other ∈ objects store, other.id ≠ id) →
    (Store.create store id object).result = .ok () →
    ∃ extents, object.source.resolve (objects store) = some extents ∧
      objects (Store.create store id object).store =
        objects store ++ [⟨id, object.direction, extents, object.provisional⟩] ∧
      limit (Store.create store id object).store = limit store ∧
      ((∀ medium, Extent.amount extents medium ≤
          max 0 (limit store object.direction medium)) →
        Sound (Store.create store id object).store)
  create_refused {store : σ} {id : ObjectId} {object : NewObject} {error : StoreError} :
    Sound store → (Store.create store id object).result = .error (.refused error) →
    (Store.create store id object).store = store
  destroy_ok {store : σ} {id : ObjectId} {direction : Direction} :
    Sound store → (Store.destroy store id).result = .ok direction →
    ∃ object ∈ objects store, object.id = id ∧ object.direction = direction ∧
      objects (Store.destroy store id).store =
        (objects store).filter (fun object => object.id ≠ id) ∧
      limit (Store.destroy store id).store = limit store ∧
      Sound (Store.destroy store id).store
  destroy_refused {store : σ} {id : ObjectId} {error : StoreError} :
    Sound store → (Store.destroy store id).result = .error (.refused error) →
    (Store.destroy store id).store = store

/-! ## The store in memory -/

namespace MemoryStore

theorem value_of_occupiedFrom {direction : Direction} {space total : Space}
    {objects : List StoredObject}
    (computed : occupiedFrom direction space objects = .ok total) (medium : Medium) :
    (total.get medium).value =
      (space.get medium).value + Admission.occupied objects direction medium := by
  induction objects generalizing space with
  | nil =>
      cases computed
      simp
  | cons object rest induction =>
      rw [occupied_cons]
      unfold occupiedFrom at computed
      split at computed
      · next same =>
          simp only [Checked.bind_eq_ok_iff] at computed
          obtain ⟨used, totalled, sum, added, computed⟩ := computed
          rw [induction computed, Space.value_of_add added,
            Extent.value_of_aggregate totalled, if_pos same]
          omega
      · next different =>
          rw [induction computed, if_neg different]
          omega

theorem value_of_occupancy {store : MemoryStore} {direction : Direction} {medium : Medium}
    {occupancy : Magnitude}
    (answered : Store.occupancy store direction medium = .ok occupancy) :
    occupancy.value = Admission.occupied store.objects direction medium := by
  have zero : (Space.zero.get medium).value = 0 := by cases medium <;> rfl
  simp only [Store.occupancy, Checked.bind_eq_ok_iff] at answered
  obtain ⟨total, computed, result⟩ := answered
  cases result
  rw [value_of_occupiedFrom (Checked.ofArithmetic_eq_ok_iff.mp computed), zero, Int.zero_add]

theorem slice_eq_ok {extents cut : List Extent} {offset length : UInt64}
    (sliced : Extent.slice extents offset length = .ok cut) :
    cut = Extent.cut extents offset length := by
  simp only [Extent.slice, Checked.bind_eq_ok_iff] at sliced
  obtain ⟨total, -, sliced⟩ := sliced
  split at sliced
  · cases sliced
    rfl
  · cases sliced

theorem extents_eq_ok {store : MemoryStore} {id : ObjectId} {extents : List Extent}
    (found : store.extents id = .ok extents) :
    ∃ object, store.find? id = some object ∧ object.extents = extents := by
  unfold MemoryStore.extents at found
  split at found
  · next object isFound =>
      cases found
      exact ⟨object, isFound, rfl⟩
  · cases found

/-- The extents of a source are those that the store resolves it to. -/
theorem resolve_of_extents {store : MemoryStore} {source : Source} {extents : List Extent}
    (found : source.extents store.extents = .ok extents) :
    source.resolve store.objects = some extents := by
  unfold Source.extents at found
  split at found
  · next location =>
      cases found
      rw [Source.resolve, location]
  · next medium number location =>
      cases found
      rw [Source.resolve, location]
  · next id location =>
      simp only [Checked.bind_eq_ok_iff] at found
      obtain ⟨whole, looked, sliced⟩ := found
      obtain ⟨object, isFound, rfl⟩ := extents_eq_ok looked
      have present : (store.objects.find? fun object => object.id = id) = some object := isFound
      rw [Source.resolve, location, slice_eq_ok sliced]
      simp only [present, Option.map_some]

theorem extents_of_admitted {store : MemoryStore} {object : NewObject} {extents : List Extent}
    (admits : store.admitted object = .ok extents) :
    object.source.extents store.extents = .ok extents := by
  simp only [admitted, Checked.bind_eq_ok_iff] at admits
  obtain ⟨found, resolved, admits⟩ := admits
  split at admits
  · cases admits
    exact resolved
  · simp only [Checked.bind_eq_ok_iff] at admits
    obtain ⟨-, -, assembled⟩ := admits
    cases assembled
    exact resolved

instance : Accounted MemoryStore where
  objects := objects
  limit store direction medium := ((store.limits direction).get medium).value
  Sound _ := True
  capacity_value := by
    rintro store direction medium capacity - answered
    cases answered
    rfl
  occupancy_value := by
    rintro store direction medium occupancy - answered
    exact value_of_occupancy answered
  sliceSpace_ok := by
    rintro store id offset length space - answered
    have unfolded : store.sliceSpace id offset length = .ok space := answered
    simp only [sliceSpace, Checked.bind_eq_ok_iff, Checked.ofArithmetic_eq_ok_iff] at unfolded
    obtain ⟨extents, looked, cut, sliced, totalled⟩ := unfolded
    obtain ⟨object, isFound, rfl⟩ := extents_eq_ok looked
    refine ⟨object, isFound, fun medium => ?_⟩
    rw [Extent.value_of_aggregate totalled, slice_eq_ok sliced]
  create_ok := by
    rintro store id object - - done
    have unfolded : (store.create id object).result = .ok () := done
    simp only [Store.create, create] at unfolded ⊢
    cases admits : store.admitted object with
    | error failure =>
        rw [admits] at unfolded
        cases unfolded
    | ok extents =>
        exact ⟨extents, resolve_of_extents (extents_of_admitted admits), rfl, rfl,
          fun _ => trivial⟩
  create_refused := by
    rintro store id object error - refused
    have unfolded : (store.create id object).result = .error (.refused error) := refused
    simp only [Store.create, create] at unfolded ⊢
    cases admits : store.admitted object with
    | error failure => rfl
    | ok extents =>
        rw [admits] at unfolded
        cases unfolded
  destroy_ok := by
    rintro store id direction - done
    have unfolded : (store.destroy id).result = .ok direction := done
    simp only [Store.destroy, destroy] at unfolded ⊢
    cases found : store.find? id with
    | none =>
        rw [found] at unfolded
        cases unfolded
    | some object =>
        rw [found] at unfolded
        cases unfolded
        have named : object.id = id := by simpa using List.find?_some found
        exact ⟨object, List.mem_of_find?_eq_some found, named, rfl, rfl, rfl, trivial⟩
  destroy_refused := by
    rintro store id error - refused
    have unfolded : (store.destroy id).result = .error (.refused error) := refused
    simp only [Store.destroy, destroy] at unfolded ⊢
    cases found : store.find? id with
    | none => rfl
    | some object =>
        rw [found] at unfolded
        cases unfolded

end MemoryStore

end Admission
