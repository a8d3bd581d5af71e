import Admission.Store.Basic

/-!
# A store in memory

Objects are kept as they were described, in the order in which they came.  Every capacity
starts at zero.
-/

namespace Admission

/-- An object with its extents, in the order of its bytes. -/
structure StoredObject where
  id : ObjectId
  direction : Direction
  extents : List Extent
  provisional : Bool
  deriving DecidableEq

/-- The capacities of both directions, and the objects in the order in which they were created. -/
structure MemoryStore where
  inboundLimits : Space := .zero
  outboundLimits : Space := .zero
  objects : List StoredObject := []
  deriving DecidableEq

namespace MemoryStore

/-- A store without objects, which has no capacity. -/
def empty : MemoryStore := {}

/-- The capacities of a direction. -/
def limits (store : MemoryStore) : Direction → Space
  | .inbound => store.inboundLimits
  | .outbound => store.outboundLimits

/-- Replaces the capacity of a direction and medium, whatever is stored there. -/
def setCapacity (store : MemoryStore) (direction : Direction) (medium : Medium)
    (capacity : Magnitude) : MemoryStore :=
  match direction with
  | .inbound => { store with inboundLimits := store.inboundLimits.set medium capacity }
  | .outbound => { store with outboundLimits := store.outboundLimits.set medium capacity }

/-- The object with that identifier. -/
def find? (store : MemoryStore) (id : ObjectId) : Option StoredObject :=
  store.objects.find? fun object => object.id = id

/-- The extents of an object. -/
def extents (store : MemoryStore) (id : ObjectId) : Checked StoreError (List Extent) :=
  match store.find? id with
  | some object => .ok object.extents
  | none => Checked.refuse (.notFound id)

/-- Adds the space of those objects that belong to a direction. -/
def occupiedFrom (direction : Direction) (space : Space) :
    List StoredObject → Except Overflow Space
  | [] => .ok space
  | object :: rest =>
    if object.direction = direction then do
      let used ← Extent.aggregate object.extents
      let sum ← space.add used
      occupiedFrom direction sum rest
    else occupiedFrom direction space rest

/-- The space that objects of a direction take. -/
def occupied (store : MemoryStore) (direction : Direction) : Except Overflow Space :=
  occupiedFrom direction .zero store.objects

/-- The first medium on which more is needed than available. -/
def shortage (needed available : Space) : Option Medium :=
  Medium.all.find? fun medium => !decide (needed.get medium ≤ (available.get medium).orZero)

/-- Refuses a new object that does not fit in what is left of the capacities. -/
def checkLimits (store : MemoryStore) (direction : Direction) (extents : List Extent) :
    Checked StoreError Unit := do
  let occupied ← store.occupied direction
  let available ← (store.limits direction).sub occupied
  let needed ← Extent.aggregate extents
  match shortage needed available with
  | some medium => Checked.refuse (.insufficient medium)
  | none => return ()

/-- The extents of an object that can be added. -/
def admitted (store : MemoryStore) (object : NewObject) : Checked StoreError (List Extent) := do
  let extents ← object.source.extents store.extents
  match object.reservation with
  | .reserved => return extents
  | .unreserved => do
    store.checkLimits object.direction extents
    return extents

/-- Adds an object whose extents can be told, within the capacities unless its space is reserved. -/
def create (store : MemoryStore) (id : ObjectId) (object : NewObject) :
    Change MemoryStore StoreError Unit :=
  match store.admitted object with
  | .error failure => .none store failure
  | .ok extents =>
    let added : StoredObject := ⟨id, object.direction, extents, object.provisional⟩
    { store := { store with objects := store.objects ++ [added] }
      notes := [.objectCreated id object.direction extents]
      result := .ok () }

/-- Removes an object and tells of which direction it was. -/
def destroy (store : MemoryStore) (id : ObjectId) : Change MemoryStore StoreError Direction :=
  match store.find? id with
  | none => .none store (.refused (.notFound id))
  | some object =>
    { store := { store with objects := store.objects.filter fun kept => kept.id ≠ id }
      notes := [.objectDestroyed id]
      result := .ok object.direction }

/-- The space that a range of an object takes. -/
def sliceSpace (store : MemoryStore) (id : ObjectId) (offset length : UInt64) :
    Checked StoreError Space := do
  let extents ← store.extents id
  let cut ← Extent.slice extents offset length
  Checked.ofArithmetic (Extent.aggregate cut)

instance : Store MemoryStore where
  capacity store direction medium := .ok ((store.limits direction).get medium)
  occupancy store direction medium := do
    let occupied ← store.occupied direction
    return occupied.get medium
  sliceSpace := sliceSpace
  create := create
  destroy := destroy

end MemoryStore

end Admission
