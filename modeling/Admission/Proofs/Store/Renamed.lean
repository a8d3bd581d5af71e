import Admission.Proofs.Store.Accounted

/-!
# Commands to a store, and other identifiers

What a store is told to do is a list of commands, and what it tells is a list of answers
(`StoreCommand.answers`).  Identifiers are made up anew for every store, so that two stores can only
be compared up to a renaming of identifiers, of the commands as well as of the answers.

A store that looks up renamed objects under their new identifiers resolves a renamed source to the
same extents, and refuses it with the renamed refusal (`Source.extents_rename`).
-/

namespace Admission

/-! ## Calls and answers -/

/-- What a store is called to do. -/
inductive StoreCommand where
  | capacity (direction : Direction) (medium : Medium)
  | occupancy (direction : Direction) (medium : Medium)
  | sliceSpace (id : ObjectId) (offset length : UInt64)
  | create (id : ObjectId) (object : NewObject)
  | destroy (id : ObjectId)
  deriving DecidableEq

/-- The result of a call. -/
inductive StoreAnswer where
  | amount (result : Checked StoreError Magnitude)
  | space (result : Checked StoreError Space)
  | created (result : Checked StoreError Unit)
  | destroyed (result : Checked StoreError Direction)

namespace StoreCommand

section Runs

variable {σ : Type} [Store σ]

/-- The store after a call. -/
def after (store : σ) : StoreCommand → σ
  | create id object => (Store.create store id object).store
  | destroy id => (Store.destroy store id).store
  | _ => store

/-- What a store tells when it is called. -/
def answer (store : σ) : StoreCommand → StoreAnswer
  | capacity direction medium => .amount (Store.capacity store direction medium)
  | occupancy direction medium => .amount (Store.occupancy store direction medium)
  | sliceSpace id offset length => .space (Store.sliceSpace store id offset length)
  | create id object => .created (Store.create store id object).result
  | destroy id => .destroyed (Store.destroy store id).result

/-- The store after calls that were made one after the other. -/
def afterAll (store : σ) (calls : List StoreCommand) : σ := calls.foldl after store

/-- What the store tells at each of the calls. -/
def answers (store : σ) : List StoreCommand → List StoreAnswer
  | [] => []
  | call :: rest => call.answer store :: answers (call.after store) rest

end Runs

/-- The identifier that a call gives to a new object. -/
def made? : StoreCommand → Option ObjectId
  | create id _ => some id
  | _ => none

end StoreCommand

/-! ## Renaming -/

variable {names : ObjectId → ObjectId}

/-- The same refusal of the object under its other name. -/
def StoreError.rename (names : ObjectId → ObjectId) : StoreError → StoreError
  | notFound id => notFound (names id)
  | error => error

/-- The same location; a slice is one of the object under its other name. -/
def Location.rename (names : ObjectId → ObjectId) : Location → Location
  | handle medium number => handle medium number
  | object id => object (names id)

/-- The same source, whose location is renamed. -/
def Source.rename (names : ObjectId → ObjectId) (source : Source) : Source :=
  { source with location := source.location.map (Location.rename names) }

/-- The same request for an object, whose source is renamed. -/
def NewObject.rename (names : ObjectId → ObjectId) (object : NewObject) : NewObject :=
  { object with source := object.source.rename names }

/-- The same object under its other name. -/
def StoredObject.rename (names : ObjectId → ObjectId) (object : StoredObject) : StoredObject :=
  { object with id := names object.id }

/-- The same call for the objects under their other names. -/
def StoreCommand.rename (names : ObjectId → ObjectId) : StoreCommand → StoreCommand
  | capacity direction medium => capacity direction medium
  | occupancy direction medium => occupancy direction medium
  | sliceSpace id offset length => sliceSpace (names id) offset length
  | create id object => create (names id) (object.rename names)
  | destroy id => destroy (names id)

/-- The same result with the refusal renamed. -/
def Checked.rename {α : Type} (names : ObjectId → ObjectId) (result : Checked StoreError α) :
    Checked StoreError α :=
  result.mapRefusal (StoreError.rename names)

/-- The same answer with the refusal renamed. -/
def StoreAnswer.rename (names : ObjectId → ObjectId) : StoreAnswer → StoreAnswer
  | amount result => amount (Checked.rename names result)
  | space result => space (Checked.rename names result)
  | created result => created (Checked.rename names result)
  | destroyed result => destroyed (Checked.rename names result)

namespace Checked

variable {α β : Type}

@[simp] theorem rename_ok (value : α) : Checked.rename names (.ok value) = .ok value := rfl

@[simp] theorem rename_ofArithmetic (computed : Except Overflow α) :
    Checked.rename names (ofArithmetic computed) = ofArithmetic computed := by
  cases computed <;> rfl

@[simp] theorem rename_lift (computed : Except Overflow α) :
    Checked.rename names (liftM computed) = liftM computed :=
  rename_ofArithmetic computed

/-- A computation in steps is renamed step by step. -/
theorem rename_bind (first : Checked StoreError α) (next : α → Checked StoreError β) :
    Checked.rename names (first >>= next) =
      Checked.rename names first >>= fun value => Checked.rename names (next value) := by
  cases first <;> rfl

end Checked

/-- A slice is not refused for an identifier. -/
theorem Extent.slice_rename (extents : List Extent) (offset length : UInt64) :
    Checked.rename names (slice extents offset length) = slice extents offset length := by
  unfold slice
  rw [Checked.rename_bind]
  rw [Checked.rename_lift]
  refine bind_congr fun total => ?_
  split <;> rfl

/-- A renamed source is resolved by a renamed lookup. -/
theorem Source.extents_rename {lookup other : ObjectId → Checked StoreError (List Extent)}
    (looks : ∀ id, other (names id) = Checked.rename names (lookup id)) (source : Source) :
    (source.rename names).extents other = Checked.rename names (source.extents lookup) := by
  obtain ⟨location, offset, length⟩ := source
  rcases location with _ | ⟨medium, number⟩ | ⟨id⟩
  · rfl
  · rfl
  · have sliced : Checked.rename names (lookup id >>= fun extents =>
        Extent.slice extents offset length) =
        Checked.rename names (lookup id) >>= fun extents =>
          Extent.slice extents offset length := by
      simp only [Checked.rename_bind, Extent.slice_rename]
    exact (congrArg (· >>= fun extents => Extent.slice extents offset length) (looks id)).trans
      sliced.symm

/-! ## Identifiers that stay -/

theorem StoreError.rename_id (error : StoreError) : error.rename id = error := by
  cases error <;> rfl

theorem Checked.rename_id {α : Type} (result : Checked StoreError α) :
    Checked.rename id result = result := by
  rcases result with (kind | reason) | value
  · rfl
  · exact congrArg Checked.refuse reason.rename_id
  · rfl

theorem NewObject.rename_id (object : NewObject) : object.rename id = object := by
  obtain ⟨direction, ⟨location, offset, length⟩, reservation, provisional⟩ := object
  rcases location with _ | _ | _ <;> rfl

theorem StoreCommand.rename_id (call : StoreCommand) : call.rename id = call := by
  cases call with
  | capacity | occupancy | sliceSpace | destroy => rfl
  | create other object => exact congrArg (create other) object.rename_id

theorem StoreAnswer.rename_id (answer : StoreAnswer) : answer.rename id = answer := by
  cases answer <;> exact congrArg _ (Checked.rename_id _)

/-! ## Renamed objects -/

/-- A renamed object is found under its new identifier. -/
theorem find?_rename (injective : Function.Injective names) (objects : List StoredObject)
    (id : ObjectId) :
    (objects.map (StoredObject.rename names)).find? (fun object => object.id = names id) =
      (objects.find? fun object => object.id = id).map (StoredObject.rename names) := by
  have same : (fun object : StoredObject => decide (object.id = names id)) ∘
      StoredObject.rename names = fun object => decide (object.id = id) := by
    funext object
    simp [StoredObject.rename, injective.eq_iff]
  rw [List.find?_map, same]

/-- What is left of renamed objects is what is left of them, renamed. -/
theorem filter_rename (injective : Function.Injective names) (objects : List StoredObject)
    (id : ObjectId) :
    (objects.map (StoredObject.rename names)).filter (fun object => object.id ≠ names id) =
      (objects.filter fun object => object.id ≠ id).map (StoredObject.rename names) := by
  have same : (fun object : StoredObject => decide (object.id ≠ names id)) ∘
      StoredObject.rename names = fun object => decide (object.id ≠ id) := by
    funext object
    simp [StoredObject.rename, injective.eq_iff]
  rw [List.filter_map, same]

/-- Renaming leaves the space that objects take. -/
theorem occupied_rename (objects : List StoredObject) (direction : Direction) (medium : Medium) :
    occupied (objects.map (StoredObject.rename names)) direction medium =
      occupied objects direction medium := by
  induction objects with
  | nil => rfl
  | cons object rest induction =>
      rw [List.map_cons, occupied_cons, occupied_cons, induction]
      rfl

end Admission
