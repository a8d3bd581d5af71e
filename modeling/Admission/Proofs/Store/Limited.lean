import Admission.Proofs.Store.Bounded
import Mathlib.Data.List.Induction

/-!
# Stores that keep their limits

Objects are created for space that was not granted before, and destroyed, from an empty store on
(`StoreCommand.Unreserved`).  What such a store then tells is stated of any store, by what it tells
alone (`KeepsLimits`): what is taken (`Store.taken`), which creations succeed (`Charged`) and what a
destruction gives back.

*Memory.*  The objects say what is taken, and they are bounded by the capacities
(`MemoryStore.keepsLimits`).

*Records.*  A store of records that was opened with capacities tells the same as a store in memory
with these capacities (`RecordStore.alike_afterAll`), since no sum of lengths within capacities that
can be packed leaves the signed words.  So it keeps its limits as well (`RecordStore.keepsLimits`).

`limits_kept` is the main statement.
-/

namespace Admission

open StoreCommand (afterAll made?)

/-- What objects of a direction take on a medium, as far as the store tells it. -/
def Store.taken {σ : Type} [Store σ] (store : σ) (direction : Direction) (medium : Medium) : Int :=
  match Store.occupancy store direction medium with
  | .ok occupancy => occupancy.value
  | .error _ => 0

/-- Objects are created for space that was not granted before, under different identifiers. -/
structure StoreCommand.Unreserved (calls : List StoreCommand) : Prop where
  reservations : ∀ id object, .create id object ∈ calls → object.reservation = .unreserved
  distinct : (calls.filterMap made?).Nodup

section Limits

variable {σ : Type} [Store σ]

/-- What the creation of an object comes to that needs so much space. -/
structure Charged (capacity : Direction → Medium → Magnitude) (store : σ) (id : ObjectId)
    (object : NewObject) (needed : Space) : Prop where
  /-- It succeeds exactly if the object fits on every medium. -/
  succeeds : (Store.create store id object).result = .ok () ↔ ∀ medium,
    Store.taken store object.direction medium + (needed.get medium).value ≤
      (capacity object.direction medium).value
  /-- Otherwise it is refused for the first medium that is short. -/
  refused : (Store.create store id object).result ≠ .ok () → ∃ medium,
    firstShort (fun medium => (capacity object.direction medium).value)
        (Store.taken store object.direction) (fun medium => (needed.get medium).value) =
      some medium ∧
    (Store.create store id object).result = Checked.refuse (.insufficient medium)
  /-- What the object needs is then taken, in its direction alone. -/
  takes : (Store.create store id object).result = .ok () → ∀ direction medium,
    Store.taken (Store.create store id object).store direction medium =
      Store.taken store direction medium +
        if object.direction = direction then (needed.get medium).value else 0

/-- After calls from `start` on, a store has kept its limits and keeps them at the next call.  The
extents of objects are told by `lookup`. -/
structure KeepsLimits (lookup : σ → ObjectId → Checked StoreError (List Extent))
    (capacity : Direction → Medium → Magnitude) (start : σ) (calls : List StoreCommand) :
    Prop where
  capacities : ∀ direction medium,
    Store.capacity (afterAll start calls) direction medium = .ok (capacity direction medium)
  answered : ∀ direction medium, ∃ occupancy,
    Store.occupancy (afterAll start calls) direction medium = .ok occupancy
  within : ∀ direction medium,
    Store.taken (afterAll start calls) direction medium ≤ (capacity direction medium).value
  /-- An object whose source cannot be resolved is refused for the same reason. -/
  unresolved : ∀ id object failure,
    object.source.extents (lookup (afterAll start calls)) = .error failure →
    (∃ reason, failure = .refused reason) ∧
      (Store.create (afterAll start calls) id object).result = .error failure
  charged : ∀ id object extents, StoreCommand.Unreserved (calls ++ [.create id object]) →
    object.source.extents (lookup (afterAll start calls)) = .ok extents →
    ∃ needed, Extent.aggregate extents = .ok needed ∧
      Charged capacity (afterAll start calls) id object needed
  /-- What an object took when it was created is given back when it is destroyed. -/
  returned : ∀ before id object between, calls = before ++ .create id object :: between →
    (Store.create (afterAll start before) id object).result = .ok () → .destroy id ∉ between →
    (Store.destroy (afterAll start calls) id).result = .ok object.direction ∧
      ∀ direction medium,
        Store.taken (afterAll start calls) direction medium -
            Store.taken (Store.destroy (afterAll start calls) id).store direction medium =
          Store.taken (Store.create (afterAll start before) id object).store direction medium -
            Store.taken (afterAll start before) direction medium
  uncreated : ∀ id object failure,
    (Store.create (afterAll start calls) id object).result = .error failure →
    Store.create (afterAll start calls) id object = .none (afterAll start calls) failure
  undestroyed : ∀ id failure,
    (Store.destroy (afterAll start calls) id).result = .error failure →
    Store.destroy (afterAll start calls) id = .none (afterAll start calls) failure

end Limits

/-! ## Runs -/

section Runs

variable {calls more : List StoreCommand}

theorem StoreCommand.Unreserved.front (unreserved : Unreserved (calls ++ more)) :
    Unreserved calls where
  reservations id object member :=
    unreserved.reservations id object (List.mem_append_left more member)
  distinct := by
    have distinct := unreserved.distinct
    rw [List.filterMap_append] at distinct
    exact (List.nodup_append.mp distinct).1

theorem StoreCommand.Unreserved.through {call : StoreCommand}
    (unreserved : Unreserved (calls ++ call :: more)) : Unreserved (calls ++ [call]) := by
  rw [List.append_cons] at unreserved
  exact unreserved.front

theorem StoreCommand.Unreserved.destroy (unreserved : Unreserved calls) (id : ObjectId) :
    Unreserved (calls ++ [.destroy id]) where
  reservations other object member :=
    unreserved.reservations other object (by simpa using member)
  distinct := by
    have distinct := unreserved.distinct
    rwa [List.filterMap_append, show [StoreCommand.destroy id].filterMap made? = [] from rfl,
      List.append_nil]

/-- An identifier that is given to a new object was not given before. -/
theorem StoreCommand.Unreserved.not_mem_made {call : StoreCommand} {id : ObjectId}
    (unreserved : Unreserved (calls ++ call :: more)) (made : call.made? = some id) :
    id ∉ calls.filterMap made? := by
  have distinct := unreserved.distinct
  rw [List.filterMap_append, List.filterMap_cons_some made] at distinct
  exact fun member => (List.nodup_append.mp distinct).2.2 id member id List.mem_cons_self rfl

theorem StoreCommand.afterAll_append {σ : Type} [Store σ] (store : σ)
    (calls more : List StoreCommand) :
    afterAll store (calls ++ more) = afterAll (afterAll store calls) more :=
  List.foldl_append

end Runs

namespace MemoryStore

variable {start store : MemoryStore} {limits : Direction → Space} {calls : List StoreCommand}
  {id : ObjectId} {object : NewObject}

/-! ## The store in memory -/

theorem Bounded.occupancy (bounded : Bounded limits store) (direction : Direction)
    (medium : Medium) : ∃ occupancy, Store.occupancy store direction medium = .ok occupancy ∧
      occupancy.value = Admission.occupied store.objects direction medium := by
  obtain ⟨total, computed, isTotal⟩ := bounded.occupied_eq_ok direction
  refine ⟨total.get medium, ?_, isTotal medium⟩
  simp only [Store.occupancy, computed]
  rfl

/-- What is taken is what the objects take. -/
theorem Bounded.taken (bounded : Bounded limits store) :
    Store.taken store = Admission.occupied store.objects := by
  funext direction medium
  obtain ⟨occupancy, told, value⟩ := bounded.occupancy direction medium
  rw [Store.taken, told]
  exact value

theorem Bounded.charged (bounded : Bounded limits store) {extents : List Extent}
    (isNew : object.reservation = .unreserved)
    (found : object.source.extents store.extents = .ok extents) :
    ∃ needed, Extent.aggregate extents = .ok needed ∧
      Charged (fun direction => (limits direction).get) store id object needed := by
  obtain ⟨needed, totalled⟩ := Extent.aggregate_finishes (bounded.bytes_lt found)
  have made := bounded.create_eq isNew found totalled id
  have later : Bounded limits (Store.create store id object).store := bounded.create isNew id
  rw [← bounded.taken] at made
  refine ⟨needed, totalled, ?_⟩
  cases short : firstShort (fun medium => ((limits object.direction).get medium).value)
    (Store.taken store object.direction) (fun medium => (needed.get medium).value) with
  | some medium =>
      rw [short] at made
      have result : (Store.create store id object).result =
        Checked.refuse (.insufficient medium) := congrArg Change.result made
      have failed : (Store.create store id object).result ≠ .ok () := by
        rw [result]
        rintro ⟨⟩
      refine ⟨⟨fun done => absurd done failed, fun fits => ?_⟩, fun _ => ⟨medium, short, result⟩,
        fun done => absurd done failed⟩
      rw [firstShort_eq_none_iff.mpr fits] at short
      cases short
  | none =>
      rw [short] at made
      have result : (Store.create store id object).result = .ok () := congrArg Change.result made
      refine ⟨⟨fun _ => firstShort_eq_none_iff.mp short, fun _ => result⟩,
        fun failed => absurd result failed, fun _ direction medium => ?_⟩
      have objects : (Store.create store id object).store.objects =
          store.objects ++ [⟨id, object.direction, extents, object.provisional⟩] :=
        congrArg (fun change => change.store.objects) made
      rw [later.taken, bounded.taken, objects, occupied_concat,
        Extent.value_of_aggregate totalled]

/-- What an object took when it was created is given back when it is destroyed. -/
theorem returned_of_created (bounded : Bounded limits store) {between : List StoreCommand}
    (areNew : ∀ other made, .create other made ∈ StoreCommand.create id object :: between →
      made.reservation = .unreserved)
    (isFree : store.find? id = none)
    (created : (Store.create store id object).result = .ok ())
    (stays : .destroy id ∉ between)
    (unique : ((afterAll store (.create id object :: between)).objects.map
      StoredObject.id).Nodup) :
    (Store.destroy (afterAll store (.create id object :: between)) id).result =
        .ok object.direction ∧
      ∀ direction medium,
        Store.taken (afterAll store (.create id object :: between)) direction medium -
            Store.taken (Store.destroy (afterAll store (.create id object :: between)) id).store
              direction medium =
          Store.taken (Store.create store id object).store direction medium -
            Store.taken store direction medium := by
  have made : Bounded limits (Store.create store id object).store :=
    bounded.create (areNew id object List.mem_cons_self) id
  have later := bounded.afterAll areNew
  generalize isLast : afterAll store (.create id object :: between) = last at unique later ⊢
  obtain ⟨extents, isCreated⟩ : ∃ extents, (Store.create store id object).store =
      { store with objects :=
          store.objects ++ [⟨id, object.direction, extents, object.provisional⟩] } := by
    simp only [Store.create, MemoryStore.create] at created ⊢
    split at created
    · cases created
    · next extents admits => exact ⟨extents, rfl⟩
  have isFound : last.find? id = some ⟨id, object.direction, extents, object.provisional⟩ := by
    rw [← isLast]
    change (afterAll (Store.create store id object).store between).find? id = _
    refine find?_afterAll ?_ stays
    rw [isCreated, find?, List.find?_append, ← find?, isFree]
    simp
  have member := List.mem_of_find?_eq_some isFound
  have isDestroyed : Store.destroy last id =
      ⟨{ last with objects := last.objects.filter fun kept => kept.id ≠ id },
        [.objectDestroyed id], .ok object.direction⟩ := by
    simp only [Store.destroy, MemoryStore.destroy, isFound]
  refine ⟨by rw [isDestroyed], fun direction medium => ?_⟩
  have left : Bounded limits (Store.destroy last id).store := later.destroy id
  have back := occupied_filter_id unique member direction medium
  rw [left.taken, later.taken, made.taken, bounded.taken, isDestroyed, back, isCreated,
    occupied_concat]
  omega

/-! ## Runs in memory -/

/-- The objects of a store that was empty have different identifiers, all of which were given. -/
theorem ids_of_empty (empty : start.objects = []) (calls : List StoreCommand) :
    ((afterAll start calls).objects.map StoredObject.id).Sublist (calls.filterMap made?) := by
  have sublist := StoreCommand.ids_afterAll calls start
  rwa [empty, List.map_nil, List.nil_append] at sublist

theorem find?_eq_none_of_fresh (empty : start.objects = [])
    (fresh : id ∉ calls.filterMap made?) : (afterAll start calls).find? id = none := by
  refine List.find?_eq_none.mpr fun object member => ?_
  have isGiven := (ids_of_empty empty calls).subset (List.mem_map_of_mem member)
  simpa using fun same : object.id = id => fresh (same ▸ isGiven)

/-- A store in memory keeps its limits, from an empty one with valid capacities on. -/
theorem keepsLimits (empty : start.objects = [])
    (valid : ∀ direction, (start.limits direction).valid = true)
    (unreserved : StoreCommand.Unreserved calls) :
    KeepsLimits MemoryStore.extents (fun direction => (start.limits direction).get) start
      calls := by
  have initial := bounded_of_empty empty valid
  have bounded := initial.afterAll unreserved.reservations
  constructor
  case capacities =>
    intro direction medium
    rw [← bounded.kept]
    rfl
  case answered =>
    intro direction medium
    obtain ⟨occupancy, told, -⟩ := bounded.occupancy direction medium
    exact ⟨occupancy, told⟩
  case within =>
    intro direction medium
    rw [bounded.taken]
    exact bounded.within direction medium
  case unresolved =>
    intro id object failure failed
    refine ⟨?_, congrArg Change.result (create_of_unresolved failed id)⟩
    cases failure with
    | overflow kind => exact absurd failed (bounded.extents_finishes object.source kind)
    | refused reason => exact ⟨reason, rfl⟩
  case charged =>
    intro id object extents more found
    exact bounded.charged (more.reservations id object (by simp)) found
  case returned =>
    rintro before id object between rfl created stays
    have earlier := initial.afterAll unreserved.front.reservations
    have isFree := find?_eq_none_of_fresh empty (unreserved.not_mem_made rfl)
    have unique := (ids_of_empty empty _).nodup unreserved.distinct
    rw [StoreCommand.afterAll_append] at unique ⊢
    exact returned_of_created earlier (fun other made member =>
      unreserved.reservations other made (List.mem_append_right before member)) isFree created
      stays unique
  case uncreated =>
    intro id object failure failed
    simp only [Store.create, create] at failed ⊢
    split at failed
    · cases failed
      rfl
    · cases failed
  case undestroyed =>
    intro id failure failed
    simp only [Store.destroy, destroy] at failed ⊢
    split at failed
    · cases failed
      rfl
    · cases failed

end MemoryStore

/-! ## Stores that tell the same -/

section Same

variable {σ τ : Type} [Store σ] [Store τ] {store : σ} {other : τ}

/-- Two stores tell the same at every call. -/
def TellsAlike (store : σ) (other : τ) : Prop :=
  ∀ call : StoreCommand, call.answer store = call.answer other

namespace TellsAlike

theorem capacity (alike : TellsAlike store other) (direction : Direction) (medium : Medium) :
    Store.capacity store direction medium = Store.capacity other direction medium :=
  StoreAnswer.amount.inj (alike (.capacity direction medium))

theorem occupancy (alike : TellsAlike store other) (direction : Direction) (medium : Medium) :
    Store.occupancy store direction medium = Store.occupancy other direction medium :=
  StoreAnswer.amount.inj (alike (.occupancy direction medium))

theorem created (alike : TellsAlike store other) (id : ObjectId) (object : NewObject) :
    (Store.create store id object).result = (Store.create other id object).result :=
  StoreAnswer.created.inj (alike (.create id object))

theorem destroyed (alike : TellsAlike store other) (id : ObjectId) :
    (Store.destroy store id).result = (Store.destroy other id).result :=
  StoreAnswer.destroyed.inj (alike (.destroy id))

theorem taken (alike : TellsAlike store other) : Store.taken store = Store.taken other := by
  funext direction medium
  rw [Store.taken, alike.occupancy]
  rfl

/-- A creation comes to the same. -/
theorem charged (alike : TellsAlike store other) {capacity : Direction → Medium → Magnitude}
    {id : ObjectId} {object : NewObject} {needed : Space}
    (later : TellsAlike (Store.create store id object).store (Store.create other id object).store)
    (charged : Charged capacity other id object needed) :
    Charged capacity store id object needed := by
  constructor
  case succeeds =>
    rw [alike.created, alike.taken]
    exact charged.succeeds
  case refused =>
    rw [alike.created, alike.taken]
    exact charged.refused
  case takes =>
    rw [alike.created, alike.taken, later.taken]
    exact charged.takes

end TellsAlike

end Same

/-! ## The store of records -/

theorem Alike.tellsAlike {limits : RecordStore.Limits} {memory : MemoryStore}
    {records : RecordStore} (alike : Alike id limits memory records) (within : memory.Within) :
    TellsAlike records memory := by
  intro call
  have answers := alike.answer Function.injective_id within call
  rwa [StoreCommand.rename_id, StoreAnswer.rename_id] at answers

namespace RecordStore

variable {path : String} {limits : Limits} {calls : List StoreCommand}

theorem valid_ofLimits (limits : Limits) (direction : Direction) :
    ((MemoryStore.ofLimits limits).limits direction).valid = true := by
  refine List.all_eq_true.mpr fun medium _ => (Magnitude.valid_iff _).mpr ?_
  have capacity : ((MemoryStore.ofLimits limits).limits direction).get medium =
      .ofUInt64 (limits.get direction medium) := by
    cases direction <;> cases medium <;> rfl
  rw [capacity, Magnitude.value_ofUInt64]
  exact Int.natCast_nonneg _

/-- Capacities that can be packed are signed words, and so are all sums of lengths within them. -/
theorem within_afterAll (opened : (RecordStore.empty.openWith path limits).result = .ok ())
    (unreserved : StoreCommand.Unreserved calls) :
    (afterAll (MemoryStore.ofLimits limits) calls).Within := by
  intro direction medium
  have initial : MemoryStore.Bounded _ (.ofLimits limits) :=
    MemoryStore.bounded_of_empty rfl (valid_ofLimits limits)
  have most := (initial.afterAll unreserved.reservations).within direction medium
  have packable := (openWith_iff .empty path limits).mp opened direction medium
  rw [(agrees_opened opened id).limits, Magnitude.value_ofUInt64] at most
  omega

/-- By induction on the calls: after them, a store of records tells the same as one in memory. -/
theorem alike_afterAll (opened : (RecordStore.empty.openWith path limits).result = .ok ())
    (unreserved : StoreCommand.Unreserved calls) :
    Alike id limits (afterAll (MemoryStore.ofLimits limits) calls)
      (afterAll (RecordStore.empty.openWith path limits).store calls) := by
  induction calls using List.reverseRecOn with
  | nil => exact agrees_opened opened id
  | append_singleton front call induction =>
      have alike := induction unreserved.front
      have within := within_afterAll opened unreserved
      rw [StoreCommand.afterAll_append] at within ⊢
      rw [StoreCommand.afterAll_append]
      have step := alike.after Function.injective_id (within_afterAll opened unreserved.front)
        (fun made isMade => ?_) within
      · rwa [StoreCommand.rename_id] at step
      · have fresh := unreserved.not_mem_made isMade
        exact fun member => fresh ((MemoryStore.ids_of_empty rfl front).subset member)

theorem tellsAlike_afterAll (opened : (RecordStore.empty.openWith path limits).result = .ok ())
    (unreserved : StoreCommand.Unreserved calls) :
    TellsAlike (afterAll (RecordStore.empty.openWith path limits).store calls)
      (afterAll (MemoryStore.ofLimits limits) calls) :=
  (alike_afterAll opened unreserved).tellsAlike (within_afterAll opened unreserved)

/-- The same after one more call. -/
theorem tellsAlike_afterAll_step {call : StoreCommand}
    (opened : (RecordStore.empty.openWith path limits).result = .ok ())
    (unreserved : StoreCommand.Unreserved (calls ++ [call])) :
    TellsAlike (call.after (afterAll (RecordStore.empty.openWith path limits).store calls))
      (call.after (afterAll (MemoryStore.ofLimits limits) calls)) := by
  have tells := tellsAlike_afterAll opened unreserved
  rwa [StoreCommand.afterAll_append, StoreCommand.afterAll_append] at tells

/-- A store of records that was opened with capacities keeps its limits, from an empty one on. -/
theorem keepsLimits (opened : (RecordStore.empty.openWith path limits).result = .ok ())
    (unreserved : StoreCommand.Unreserved calls) :
    KeepsLimits RecordStore.extentsOf
      (fun direction medium => .ofUInt64 (limits.get direction medium))
      (RecordStore.empty.openWith path limits).store calls := by
  have tells := tellsAlike_afterAll opened unreserved
  have alike := alike_afterAll opened unreserved
  have memory : KeepsLimits MemoryStore.extents
      (fun direction => ((MemoryStore.ofLimits limits).limits direction).get) (.ofLimits limits)
      calls := MemoryStore.keepsLimits rfl (valid_ofLimits limits) unreserved
  have capacities : (fun direction => ((MemoryStore.ofLimits limits).limits direction).get) =
      fun direction medium => .ofUInt64 (limits.get direction medium) := by
    funext direction medium
    exact (agrees_opened opened id).limits direction medium
  have looks : (afterAll (RecordStore.empty.openWith path limits).store calls).extentsOf =
      (afterAll (MemoryStore.ofLimits limits) calls).extents := by
    funext other
    have same := alike.extentsOf Function.injective_id other
    rwa [Checked.rename_id] at same
  rw [capacities] at memory
  constructor
  case capacities =>
    intro direction medium
    rw [tells.capacity]
    exact memory.capacities direction medium
  case answered =>
    intro direction medium
    rw [tells.occupancy]
    exact memory.answered direction medium
  case within =>
    rw [tells.taken]
    exact memory.within
  case unresolved =>
    intro made object failure failed
    rw [looks] at failed
    rw [tells.created]
    exact memory.unresolved made object failure failed
  case charged =>
    intro made object extents more found
    rw [looks] at found
    obtain ⟨needed, totalled, charged⟩ := memory.charged made object extents more found
    exact ⟨needed, totalled, tells.charged (tellsAlike_afterAll_step opened more) charged⟩
  case returned =>
    rintro before made object between rfl created stays
    have earlier := tellsAlike_afterAll opened unreserved.front
    have added : TellsAlike (Store.create _ made object).store (Store.create _ made object).store :=
      tellsAlike_afterAll_step opened unreserved.through
    have removed : TellsAlike (Store.destroy _ made).store (Store.destroy _ made).store :=
      tellsAlike_afterAll_step opened (unreserved.destroy made)
    rw [earlier.created] at created
    rw [tells.destroyed, tells.taken, earlier.taken, added.taken, removed.taken]
    exact memory.returned before made object between rfl created stays
  case uncreated =>
    intro made object failure failed
    simp only [Store.create, create] at failed ⊢
    split at failed
    · cases failed
      rfl
    · cases failed
  case undestroyed =>
    intro made failure failed
    rw [tells.destroyed] at failed
    have found := alike.find? Function.injective_id made
    simp only [Store.destroy, MemoryStore.destroy] at failed
    split at failed
    · next missing =>
        cases failed
        rw [missing, Option.map_none, Option.map_eq_none_iff] at found
        simp only [Store.destroy, destroy, show RecordStore.find? _ made = none from found]
    · cases failed

end RecordStore

/-- From an empty store on, a store in memory with valid capacities keeps its limits, and so does
a store of records with all capacities with which it can be opened, whatever objects are created for
space that was not granted before and destroyed.  No more is ever taken than the capacities.  An
object whose source can be resolved is made exactly if it fits on every medium, and takes what its
extents take, wherever they were copied from; else it is refused for the first medium that is short.
To destroy it gives back what its creation took, whatever was called in between.  A call that fails
changes nothing. -/
theorem limits_kept :
    (∀ (start : MemoryStore) (calls : List StoreCommand), start.objects = [] →
      (∀ direction, (start.limits direction).valid = true) → StoreCommand.Unreserved calls →
      KeepsLimits MemoryStore.extents (fun direction => (start.limits direction).get) start
        calls) ∧
    ∀ (path : String) (limits : RecordStore.Limits) (calls : List StoreCommand),
      (RecordStore.empty.openWith path limits).result = .ok () → StoreCommand.Unreserved calls →
      KeepsLimits RecordStore.extentsOf
        (fun direction medium => .ofUInt64 (limits.get direction medium))
        (RecordStore.empty.openWith path limits).store calls :=
  ⟨fun _ _ empty valid unreserved => MemoryStore.keepsLimits empty valid unreserved,
    fun _ _ _ opened unreserved => RecordStore.keepsLimits opened unreserved⟩

/-- An inbound object for which no space was granted before. -/
def asking (location : Location) (offset length : UInt64) : NewObject :=
  ⟨.inbound, ⟨some location, offset, length⟩, .unreserved, false⟩

/-- A file of sixty bytes, a copy of thirty of them, and a file of eleven, for which a hundred bytes
leave no room; then the first file goes. -/
def copying : List StoreCommand :=
  [.create ⟨1⟩ (asking (.handle .file 7) 0 60), .create ⟨2⟩ (asking (.object ⟨1⟩) 20 30),
    .create ⟨3⟩ (asking (.handle .file 8) 0 11), .destroy ⟨1⟩]

/-- Room for a hundred bytes of inbound files and nothing else. -/
def hundredBytes : RecordStore.Limits := ⟨100, 0, 0, 0, 0, 0⟩

/-- The store of records with that room. -/
def roomForHundred : RecordStore := (RecordStore.empty.openWith "store" hundredBytes).store

/-- The copy outlives the file, and both stores get its own thirty bytes back. -/
theorem copy_gives_back_its_own :
    (Store.destroy (afterAll (MemoryStore.ofLimits hundredBytes) copying) ⟨2⟩).result =
      .ok .inbound ∧
    Store.taken (afterAll roomForHundred copying) .inbound .file = 30 ∧
    (Store.destroy (afterAll roomForHundred copying) ⟨2⟩).result = .ok .inbound ∧
    Store.taken (Store.destroy (afterAll roomForHundred copying) ⟨2⟩).store .inbound .file = 0 := by
  have unreserved : StoreCommand.Unreserved copying := by
    refine ⟨fun id object member => ?_, by decide⟩
    simp only [copying, List.mem_cons, StoreCommand.create.injEq, reduceCtorEq,
      List.not_mem_nil, or_false] at member
    obtain ⟨-, rfl⟩ | ⟨-, rfl⟩ | ⟨-, rfl⟩ := member <;> rfl
  have memory := limits_kept.1 (.ofLimits hundredBytes) copying rfl
    (RecordStore.valid_ofLimits hundredBytes) unreserved
  have records := limits_kept.2 "store" hundredBytes copying rfl unreserved
  obtain ⟨inMemory, -⟩ := memory.returned [.create ⟨1⟩ _] ⟨2⟩ (asking (.object ⟨1⟩) 20 30)
    [.create ⟨3⟩ _, .destroy ⟨1⟩] rfl (by decide) (by decide)
  obtain ⟨inRecords, back⟩ := records.returned [.create ⟨1⟩ _] ⟨2⟩ (asking (.object ⟨1⟩) 20 30)
    [.create ⟨3⟩ _, .destroy ⟨1⟩] rfl (by decide) (by decide)
  have now : Store.taken (afterAll roomForHundred copying) .inbound .file = 30 := by decide
  refine ⟨inMemory, now, inRecords, ?_⟩
  have given : Store.taken (afterAll roomForHundred copying) .inbound .file -
      Store.taken (Store.destroy (afterAll roomForHundred copying) ⟨2⟩).store .inbound .file =
        90 - 60 := back .inbound .file
  omega

end Admission
