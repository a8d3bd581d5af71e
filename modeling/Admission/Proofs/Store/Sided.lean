import Admission.Proofs.Scan.Exact
import Admission.Proofs.Store.Renamed

/-!
# One direction of the store in memory

All objects are kept in one list.  What the store tells and changes for a direction depends on its
limits and the objects of that direction only, and on the objects that are named in the call; and
not on the identifiers of the others.

`MemoryStore.Alike` says that two stores agree in these, up to a renaming of identifiers.  Stores
that are alike answer in the same way and stay alike (`Alike.read`, `Alike.create`,
`Alike.destroy`).  `MemoryStore.Beside` says that a change leaves another direction as it was, and
all objects but certain ones.
-/

namespace Admission

namespace MemoryStore

/-- The objects of a direction. -/
def ofDirection (store : MemoryStore) (direction : Direction) : List StoredObject :=
  store.objects.filter fun object => object.direction = direction

/-- The objects under an identifier. -/
def under (store : MemoryStore) (id : ObjectId) : List StoredObject :=
  store.objects.filter fun object => object.id = id

theorem find?_eq_head? (store : MemoryStore) (id : ObjectId) :
    store.find? id = (store.under id).head? :=
  List.head?_filter.symm

/-! ## What is occupied -/

theorem occupiedFrom_ofDirection (direction : Direction) (space : Space)
    (objects : List StoredObject) :
    occupiedFrom direction space (objects.filter fun object => object.direction = direction) =
      occupiedFrom direction space objects := by
  induction objects generalizing space with
  | nil => rfl
  | cons object rest induction =>
      by_cases here : object.direction = direction
      · rw [List.filter_cons_of_pos (by simpa using here), occupiedFrom, occupiedFrom, if_pos here,
          if_pos here]
        simp only [induction]
      · rw [List.filter_cons_of_neg (by simpa using here), occupiedFrom, if_neg here, induction]

theorem occupiedFrom_rename (ids : ObjectId → ObjectId) (direction : Direction) (space : Space)
    (objects : List StoredObject) :
    occupiedFrom direction space (objects.map (StoredObject.rename ids)) =
      occupiedFrom direction space objects := by
  induction objects generalizing space with
  | nil => rfl
  | cons object rest induction =>
      simp only [List.map_cons, occupiedFrom, induction]
      rfl

/-! ## What is destroyed -/

/-- What is destroyed under an identifier is of the direction of the objects there. -/
theorem direction_of_destroy {store : MemoryStore} {id : ObjectId} {direction found : Direction}
    (own : ∀ object ∈ store.under id, object.direction = direction)
    (destroyed : (Store.destroy store id).result = .ok found) : found = direction := by
  simp only [Store.destroy, MemoryStore.destroy, find?_eq_head?] at destroyed
  cases first : (store.under id).head? with
  | none =>
      rw [first] at destroyed
      cases destroyed
  | some object =>
      rw [first] at destroyed
      cases destroyed
      exact own object (List.mem_of_mem_head? first)

/-! ## Stores that are alike in a direction -/

variable {ids : ObjectId → ObjectId} {known : List ObjectId} {direction : Direction}
  {first second : MemoryStore}

/-- Two stores agree in the limits and the objects of a direction, up to identifiers, and in all
objects that are known by name. -/
structure Alike (ids : ObjectId → ObjectId) (known : List ObjectId) (direction : Direction)
    (first second : MemoryStore) : Prop where
  limits : second.limits direction = first.limits direction
  objects : second.ofDirection direction =
    (first.ofDirection direction).map (StoredObject.rename ids)
  lookups : ∀ id ∈ known, second.under id = first.under id

namespace Alike

theorem occupied (alike : Alike ids known direction first second) :
    second.occupied direction = first.occupied direction := by
  unfold MemoryStore.occupied
  rw [← occupiedFrom_ofDirection, ← occupiedFrom_ofDirection direction _ first.objects]
  exact (congrArg _ alike.objects).trans (occupiedFrom_rename ids direction _ _)

theorem occupancy (alike : Alike ids known direction first second) (medium : Medium) :
    Store.occupancy second direction medium = Store.occupancy first direction medium := by
  simp only [Store.occupancy, alike.occupied]

/-- A scan finds the same budget. -/
theorem read (alike : Alike ids known direction first second) :
    Budget.read second direction = Budget.read first direction := by
  have capacities : ∀ medium,
      Store.capacity second direction medium = Store.capacity first direction medium := by
    intro medium
    simp only [Store.capacity, alike.limits]
  simp only [Budget.read, Budget.readFrom, Medium.all, capacities, alike.occupancy]

theorem find? (alike : Alike ids known direction first second) {id : ObjectId}
    (isKnown : id ∈ known) : second.find? id = first.find? id := by
  rw [find?_eq_head?, find?_eq_head?, alike.lookups id isKnown]

theorem extents (alike : Alike ids known direction first second) {id : ObjectId}
    (isKnown : id ∈ known) : second.extents id = first.extents id := by
  rw [MemoryStore.extents, MemoryStore.extents, alike.find? isKnown]

theorem sliceSpace (alike : Alike ids known direction first second) {id : ObjectId}
    (isKnown : id ∈ known) (offset length : UInt64) :
    Store.sliceSpace second id offset length = Store.sliceSpace first id offset length := by
  simp only [Store.sliceSpace, MemoryStore.sliceSpace, alike.extents isKnown]

/-- A source that slices a known object at most has the same extents. -/
theorem extents_source (alike : Alike ids known direction first second) {source : Source}
    (isKnown : ∀ id, source.slicedFrom? = some id → id ∈ known) :
    source.extents second.extents = source.extents first.extents := by
  obtain ⟨location, offset, length⟩ := source
  rcases location with _ | ⟨medium, number⟩ | ⟨id⟩
  · rfl
  · rfl
  · simp only [Source.extents, alike.extents (isKnown id rfl)]

theorem admitted (alike : Alike ids known direction first second) {object : NewObject}
    (same : object.direction = direction)
    (isKnown : ∀ id, object.source.slicedFrom? = some id → id ∈ known) :
    second.admitted object = first.admitted object := by
  simp only [MemoryStore.admitted, checkLimits, alike.extents_source isKnown, same,
    alike.occupied, alike.limits]

/-- The same object is made under either of its names, or refused for the same reason. -/
theorem create (alike : Alike ids known direction first second) {id : ObjectId}
    {object : NewObject} (same : object.direction = direction)
    (isKnown : ∀ id, object.source.slicedFrom? = some id → id ∈ known) (new : id ∉ known)
    (newToo : ids id ∉ known) :
    (Store.create second (ids id) object).result = (Store.create first id object).result ∧
      Alike ids known direction (Store.create first id object).store
        (Store.create second (ids id) object).store := by
  simp only [Store.create, MemoryStore.create, alike.admitted same isKnown]
  cases first.admitted object with
  | error failure => exact ⟨rfl, alike⟩
  | ok extents =>
      refine ⟨rfl, alike.limits, ?_, fun other isOther => ?_⟩
      · simp only [ofDirection, List.filter_append, List.map_append]
        congr 1
        · exact alike.objects
        · simp [same, StoredObject.rename]
      · have apart : id ≠ other := fun equal => new (equal ▸ isOther)
        have apartToo : ids id ≠ other := fun equal => newToo (equal ▸ isOther)
        simp only [under, List.filter_append]
        rw [List.filter_singleton, List.filter_singleton]
        simp only [apart, apartToo, decide_false, cond_false, List.append_nil]
        exact alike.lookups other isOther

/-- A known object is destroyed in both stores, or found in neither. -/
theorem destroy (alike : Alike ids known direction first second)
    (injective : Function.Injective ids) {id : ObjectId} (isKnown : id ∈ known)
    (fixed : ids id = id) :
    (Store.destroy second id).result = (Store.destroy first id).result ∧
      Alike ids known direction (Store.destroy first id).store
        (Store.destroy second id).store := by
  simp only [Store.destroy, MemoryStore.destroy, alike.find? isKnown]
  cases first.find? id with
  | none => exact ⟨rfl, alike⟩
  | some object =>
      refine ⟨rfl, alike.limits, ?_, fun other isOther => ?_⟩
      · have without : ∀ store : MemoryStore,
            (store.objects.filter fun kept => kept.id ≠ id).filter
                (fun object => object.direction = direction) =
              (store.ofDirection direction).filter fun kept => kept.id ≠ id := fun store =>
          List.filter_comm ..
        have renamed := filter_rename injective (first.ofDirection direction) id
        rw [fixed] at renamed
        exact (without second).trans ((congrArg _ alike.objects).trans
          (renamed.trans (congrArg _ (without first).symm)))
      · have without : ∀ store : MemoryStore,
            (store.objects.filter fun kept => kept.id ≠ id).filter (fun kept => kept.id = other) =
              (store.under other).filter fun kept => kept.id ≠ id := fun store =>
          List.filter_comm ..
        exact (without second).trans ((congrArg _ (alike.lookups other isOther)).trans
          (without first).symm)

end Alike

/-! ## Changes beside a direction -/

/-- A change for a direction: the limits stay, the objects of other directions, and all objects
under identifiers that are not `changed`. -/
structure Beside (direction : Direction) (changed : List ObjectId) (before after : MemoryStore) :
    Prop where
  limits : ∀ other, after.limits other = before.limits other
  objects : ∀ other, other ≠ direction → after.ofDirection other = before.ofDirection other
  kept : ∀ id, id ∉ changed → after.under id = before.under id

namespace Beside

variable {changed : List ObjectId} {before between after : MemoryStore} {other : Direction}

theorem refl (direction : Direction) (changed : List ObjectId) (store : MemoryStore) :
    Beside direction changed store store :=
  ⟨fun _ => rfl, fun _ _ => rfl, fun _ _ => rfl⟩

theorem symm (beside : Beside direction changed before after) :
    Beside direction changed after before :=
  ⟨fun other => (beside.limits other).symm, fun other apart => (beside.objects other apart).symm,
    fun id unchanged => (beside.kept id unchanged).symm⟩

theorem trans (earlier : Beside direction changed before between)
    (later : Beside direction changed between after) : Beside direction changed before after where
  limits other := (later.limits other).trans (earlier.limits other)
  objects other apart := (later.objects other apart).trans (earlier.objects other apart)
  kept id unchanged := (later.kept id unchanged).trans (earlier.kept id unchanged)

theorem create (store : MemoryStore) (id : ObjectId) (object : NewObject) :
    Beside object.direction [id] store (Store.create store id object).store := by
  simp only [Store.create, MemoryStore.create]
  cases store.admitted object with
  | error failure => exact refl _ _ _
  | ok extents =>
      refine ⟨fun _ => rfl, fun other apart => ?_, fun other unchanged => ?_⟩
      · simp [ofDirection, apart.symm]
      · have apart : id ≠ other := fun equal => unchanged (by simp [equal])
        simp [under, apart]

/-- An object is destroyed whose direction is known. -/
theorem destroy {store : MemoryStore} {id : ObjectId}
    (own : ∀ object ∈ store.under id, object.direction = direction) :
    Beside direction [id] store (Store.destroy store id).store := by
  simp only [Store.destroy, MemoryStore.destroy]
  cases store.find? id with
  | none => exact refl _ _ _
  | some object =>
      refine ⟨fun _ => rfl, fun other apart => ?_, fun other unchanged => ?_⟩
      · simp only [ofDirection, List.filter_filter]
        refine List.filter_congr fun kept member => ?_
        by_cases here : kept.id = id
        · have isOwn := own kept (List.mem_filter.mpr ⟨member, by simpa using here⟩)
          simp [isOwn, apart.symm]
        · simp [here]
      · have apart : other ≠ id := fun equal => unchanged (by simp [equal])
        simp only [under, List.filter_filter]
        refine List.filter_congr fun kept member => ?_
        by_cases here : kept.id = other <;> simp [here, apart]

/-- For another direction the stores before and after a change are alike. -/
theorem alike (beside : Beside direction changed before after) (apart : other ≠ direction)
    (unchanged : ∀ id ∈ known, id ∉ changed)
    (fixed : ∀ object ∈ before.ofDirection other, ids object.id = object.id) :
    Alike ids known other before after where
  limits := beside.limits other
  objects := by
    refine (beside.objects other apart).trans (Eq.symm ?_)
    refine (List.map_congr_left fun object member => ?_).trans (List.map_id _)
    rw [StoredObject.rename, fixed object member]
    rfl
  lookups := fun id isKnown => beside.kept id (unchanged id isKnown)

end Beside

end MemoryStore

end Admission
