import Admission.Proofs.Store.Agreement
import Admission.Proofs.Store.Finishing

/-!
# A store in memory within its capacities

As long as only objects are created whose space was not granted before, the objects of a store in
memory take no more than its capacities, and have no more bytes than can be counted
(`MemoryStore.Bounded`).  Then no sum of the store overflows.  What is occupied is told, and a new
object is refused exactly for the first medium that is short (`MemoryStore.Bounded.create_eq`).

Calls leave the store bounded (`MemoryStore.Bounded.after`), and an object stays what it was until
it is destroyed (`MemoryStore.find?_afterAll`).
-/

namespace Admission

/-- The first medium on which an object that needs so much does not fit in what is left of a
capacity. -/
def firstShort (capacity taken needed : Medium → Int) : Option Medium :=
  Medium.all.find? fun medium => decide (capacity medium < taken medium + needed medium)

theorem firstShort_eq_none_iff {capacity taken needed : Medium → Int} :
    firstShort capacity taken needed = none ↔
      ∀ medium, taken medium + needed medium ≤ capacity medium := by
  rw [firstShort, List.find?_eq_none]
  simp only [decide_eq_true_eq, Int.not_lt]
  exact ⟨fun each medium => each medium (by cases medium <;> decide),
    fun all medium _ => all medium⟩

namespace MemoryStore

variable {limits : Direction → Space} {store : MemoryStore} {id : ObjectId} {object : NewObject}
  {made : StoredObject} {direction : Direction} {extents : List Extent} {needed : Space}

/-- A store in memory has certain capacities, and objects within them whose bytes can be counted. -/
structure Bounded (limits : Direction → Space) (store : MemoryStore) : Prop where
  kept : ∀ direction, store.limits direction = limits direction
  countable : Countable store.objects
  within : ∀ direction medium,
    Admission.occupied store.objects direction medium ≤ ((limits direction).get medium).value

theorem bounded_of_empty (empty : store.objects = [])
    (valid : ∀ direction, (store.limits direction).valid = true) :
    Bounded store.limits store where
  kept _ := rfl
  countable := by
    rw [empty]
    rintro object ⟨⟩
  within direction medium := by
    rw [empty, occupied_nil]
    have each := List.all_eq_true.mp (valid direction) medium (by cases medium <;> decide)
    exact (Magnitude.valid_iff _).mp each

/-- An object whose source has no extents is not made. -/
theorem create_of_unresolved {failure : Failure StoreError}
    (unresolved : object.source.extents store.extents = .error failure) (id : ObjectId) :
    store.create id object = .none store failure := by
  rw [create, admitted, unresolved]
  rfl

namespace Bounded

/-! ## What is told -/

/-- What is occupied is told, since it is at most a capacity. -/
theorem occupied_eq_ok (bounded : Bounded limits store) (direction : Direction) :
    ∃ total, store.occupied direction = .ok total ∧ ∀ medium,
      (total.get medium).value = Admission.occupied store.objects direction medium := by
  obtain ⟨total, isTotal⟩ : ∃ total : Space, ∀ medium,
      (total.get medium).value = Admission.occupied store.objects direction medium :=
    Space.exists_of_values fun medium =>
      Magnitude.exists_between .zero ((limits direction).get medium)
        (occupied_nonneg store.objects direction medium) (bounded.within direction medium)
  have zero (medium : Medium) : (Space.zero.get medium).value = 0 := by cases medium <;> rfl
  exact ⟨total, occupiedFrom_eq_ok (fun medium => (zero medium).ge)
    fun medium => by rw [zero, Int.zero_add, isTotal], isTotal⟩

/-- A new object is refused exactly for the first medium that is short. -/
theorem checkLimits_eq (bounded : Bounded limits store) (direction : Direction)
    (totalled : Extent.aggregate extents = .ok needed) :
    store.checkLimits direction extents =
      match firstShort (fun medium => ((limits direction).get medium).value)
        (Admission.occupied store.objects direction) (fun medium => (needed.get medium).value) with
      | some medium => Checked.refuse (.insufficient medium)
      | none => .ok () := by
  obtain ⟨total, computed, isTotal⟩ := bounded.occupied_eq_ok direction
  obtain ⟨available, isLeft⟩ : ∃ available : Space, ∀ medium, (available.get medium).value =
      ((limits direction).get medium).value - (total.get medium).value := by
    refine Space.exists_of_values fun medium => ?_
    have nonneg := occupied_nonneg store.objects direction medium
    have most := bounded.within direction medium
    rw [isTotal]
    exact Magnitude.exists_between .zero ((limits direction).get medium)
      (Int.sub_nonneg_of_le most) (Int.sub_le_self _ nonneg)
  have left : (store.limits direction).sub total = .ok available := by
    rw [bounded.kept]
    refine Space.sub_eq_ok (fun medium => ?_) isLeft
    rw [isTotal]
    exact occupied_nonneg store.objects direction medium
  have short : shortage needed available =
      firstShort (fun medium => ((limits direction).get medium).value)
        (Admission.occupied store.objects direction) (fun medium => (needed.get medium).value) := by
    refine congrArg (List.find? · Medium.all) (funext fun medium => ?_)
    have value := isLeft medium
    have most := bounded.within direction medium
    rw [isTotal] at value
    rw [Bool.eq_iff_iff, Bool.not_eq_true', decide_eq_false_iff_not, decide_eq_true_iff,
      Magnitude.le_iff_value_le, Magnitude.value_orZero]
    beta_reduce
    split <;> omega
  rw [checkLimits, computed]
  change (Checked.ofArithmetic ((store.limits direction).sub total) >>= fun available =>
    Checked.ofArithmetic (Extent.aggregate extents) >>= fun needed => _) = _
  rw [left, totalled]
  change (match shortage needed available with
    | some medium => Checked.refuse (StoreError.insufficient medium)
    | none => Except.ok ()) = _
  rw [short]

/-! ## Sources -/

/-- To look up the extents of a source takes no sum that overflows. -/
theorem extents_finishes (bounded : Bounded limits store) (source : Source) :
    (source.extents store.extents).Finishes := by
  unfold Source.extents
  split
  · exact Checked.finishes_ok _
  · exact Checked.finishes_ok _
  · next id location =>
      unfold MemoryStore.extents
      split
      · next object isFound =>
          exact Extent.slice_finishes
            (bounded.countable object (List.mem_of_find?_eq_some isFound)) _ _
      · exact Checked.Finishes.bind (Checked.finishes_refuse _) (by rintro value ⟨⟩)

/-- The extents of a source have no more bytes than can be counted. -/
theorem bytes_lt (bounded : Bounded limits store) {source : Source}
    (found : source.extents store.extents = .ok extents) :
    Extent.bytes extents < 18446744073709551616 :=
  Source.bytes_resolve_lt bounded.countable (resolve_of_extents found)

/-! ## Creations -/

/-- A new object is added, or refused for the first medium that is short. -/
theorem create_eq (bounded : Bounded limits store) (isNew : object.reservation = .unreserved)
    (found : object.source.extents store.extents = .ok extents)
    (totalled : Extent.aggregate extents = .ok needed) (id : ObjectId) :
    store.create id object =
      match firstShort (fun medium => ((limits object.direction).get medium).value)
        (Admission.occupied store.objects object.direction)
        (fun medium => (needed.get medium).value) with
      | some medium => .none store (.refused (.insufficient medium))
      | none =>
        ⟨{ store with objects :=
            store.objects ++ [⟨id, object.direction, extents, object.provisional⟩] },
          [.objectCreated id object.direction extents], .ok ()⟩ := by
  have admits : store.admitted object = (store.checkLimits object.direction extents >>= fun _ =>
      .ok extents) := by
    rw [admitted, found]
    simp only [isNew]
    rfl
  rw [create, admits, bounded.checkLimits_eq object.direction totalled]
  cases firstShort _ _ _ <;> rfl

theorem create (bounded : Bounded limits store) (isNew : object.reservation = .unreserved)
    (id : ObjectId) : Bounded limits (store.create id object).store := by
  cases found : object.source.extents store.extents with
  | error failure =>
      rw [create_of_unresolved found]
      exact bounded
  | ok extents =>
      obtain ⟨needed, totalled⟩ := Extent.aggregate_finishes (bounded.bytes_lt found)
      rw [bounded.create_eq isNew found totalled]
      cases short : firstShort _ _ _ with
      | some medium => exact bounded
      | none =>
          have fits := firstShort_eq_none_iff.mp short
          have countable : Countable (store.objects ++
              [⟨id, object.direction, extents, object.provisional⟩]) :=
            List.forall_mem_append.mpr
              ⟨bounded.countable, List.forall_mem_singleton.mpr (bounded.bytes_lt found)⟩
          refine ⟨bounded.kept, countable, fun direction medium => ?_⟩
          rw [occupied_concat]
          have room := fits medium
          rw [Extent.value_of_aggregate totalled] at room
          split
          · next same => exact same ▸ room
          · rw [Int.add_zero]
            exact bounded.within direction medium

theorem destroy (bounded : Bounded limits store) (id : ObjectId) :
    Bounded limits (store.destroy id).store := by
  unfold MemoryStore.destroy
  split
  · exact bounded
  · refine ⟨bounded.kept, fun object member => ?_, fun direction medium => ?_⟩
    · exact bounded.countable object (List.mem_filter.mp member).1
    · exact (occupied_filter_le _ _ _ _).trans (bounded.within direction medium)

/-! ## Calls -/

/-- Calls leave a store bounded that create no object whose space was granted before. -/
theorem after (bounded : Bounded limits store) {call : StoreCommand}
    (isNew : ∀ id object, call = .create id object → object.reservation = .unreserved) :
    Bounded limits (call.after store) := by
  cases call with
  | capacity | occupancy | sliceSpace => exact bounded
  | create id object => exact bounded.create (isNew id object rfl) id
  | destroy id => exact bounded.destroy id

theorem afterAll (bounded : Bounded limits store) {calls : List StoreCommand}
    (areNew : ∀ id object, .create id object ∈ calls → object.reservation = .unreserved) :
    Bounded limits (StoreCommand.afterAll store calls) := by
  induction calls generalizing store with
  | nil => exact bounded
  | cons call rest induction =>
      have next : Bounded limits (call.after store) := bounded.after fun id object isCall =>
        areNew id object (isCall ▸ List.mem_cons_self)
      exact induction next fun id object member =>
        areNew id object (List.mem_cons_of_mem call member)

end Bounded

/-- An object stays what it was until it is destroyed. -/
theorem find?_afterAll {calls : List StoreCommand} (isFound : store.find? id = some made)
    (stays : .destroy id ∉ calls) : (StoreCommand.afterAll store calls).find? id = some made := by
  induction calls generalizing store with
  | nil => exact isFound
  | cons call rest induction =>
      rw [List.mem_cons, not_or] at stays
      obtain ⟨different, later⟩ := stays
      refine induction ?_ later
      cases call with
      | capacity | occupancy | sliceSpace => exact isFound
      | create other object => exact find?_create_of_some isFound other object
      | destroy other =>
          have other : other ≠ id := fun same => different (congrArg _ same.symm)
          exact (find?_destroy_of_ne other store).trans isFound

end MemoryStore

/-- After calls there are no identifiers but those before them and those that they give. -/
theorem StoreCommand.ids_afterAll (calls : List StoreCommand) (memory : MemoryStore) :
    ((afterAll memory calls).objects.map StoredObject.id).Sublist
      (memory.objects.map StoredObject.id ++ calls.filterMap made?) := by
  induction calls generalizing memory with
  | nil => exact List.sublist_append_left _ _
  | cons call rest induction =>
      rw [made_cons, ← List.append_assoc]
      exact (induction (call.after memory)).trans ((call.ids_after memory).append_right _)

end Admission
