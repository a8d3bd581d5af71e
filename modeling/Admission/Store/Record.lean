import Admission.Magnitude.Packed
import Admission.Store.Basic

/-!
# A store of records

Objects, extents and capacities are rows of three tables.  A row is made of texts,
octets and signed 64-bit integers: directions and media are stored by name, lengths wrap
around to signed integers, and capacities are packed magnitudes.  So a table can hold what
no object has, and reading it back is what may be refused.

An occupancy is the absolute value of the sum of the stored lengths, which must stay a
signed 64-bit integer at every row.
-/

namespace Admission

/-- An object as it is stored, with the direction by its name. -/
structure ObjectRow where
  id : ObjectId
  direction : String
  provisional : Bool
  deriving DecidableEq

/-- One extent of an object.  Rows of one object are in the order of its bytes. -/
structure ExtentRow where
  object : ObjectId
  medium : String
  length : Int64
  deriving DecidableEq

/-- The packed capacity of a direction and medium, which are stored by their names. -/
structure LimitRow where
  direction : String
  medium : String
  record : List UInt8
  deriving DecidableEq

/-- The tables, each in the order in which its rows were added. -/
structure RecordStore where
  objects : List ObjectRow := []
  extents : List ExtentRow := []
  limits : List LimitRow := []
  deriving DecidableEq

/-- Why the tables cannot be read. -/
inductive RecordFault where
  | capacity (error : Magnitude.UnpackError)
  | name (unknown : UnknownName)
  | sum
  deriving DecidableEq

/-- What is said of tables that cannot be read. -/
def RecordFault.message : RecordFault → String
  | capacity error => error.message
  | name unknown => unknown.message
  | sum => "integer overflow"

/-- The refusal of a store whose tables cannot be read. -/
def RecordFault.refusal (fault : RecordFault) : StoreError := .backend fault.message

/-! ## Rows -/

/-- The direction that a row names. -/
def ObjectRow.parseDirection (row : ObjectRow) : Checked StoreError Direction :=
  match Direction.parse false row.direction with
  | .ok direction => .ok direction
  | .error unknown => Checked.refuse (RecordFault.name unknown).refusal

/-- The row in which an extent is stored. -/
def ExtentRow.of (object : ObjectId) (extent : Extent) : ExtentRow :=
  ⟨object, extent.medium.name, extent.length.toInt64⟩

/-- The extent that a row describes. -/
def ExtentRow.parse (row : ExtentRow) : Checked StoreError Extent :=
  match Medium.parse false row.medium with
  | .ok medium => .ok ⟨medium, UInt64.ofNat row.length.toInt.natAbs⟩
  | .error unknown => Checked.refuse (RecordFault.name unknown).refusal

/-- Whether a row holds the capacity of a direction and medium. -/
def LimitRow.isOf (row : LimitRow) (direction : Direction) (medium : Medium) : Bool :=
  row.direction == direction.name && row.medium == medium.name

namespace RecordStore

/-- Tables without rows. -/
def empty : RecordStore := {}

/-! ## Capacities -/

/-- The capacities with which a store is opened, in bytes. -/
structure Limits where
  inboundFile : UInt64 := 1000000000
  inboundBulk : UInt64 := 1000000000
  inboundHeap : UInt64 := 100000000
  outboundFile : UInt64 := 1000000000
  outboundBulk : UInt64 := 1000000000
  outboundHeap : UInt64 := 100000000

/-- The capacity of a direction and medium. -/
def Limits.get (limits : Limits) : Direction → Medium → UInt64
  | .inbound, .file => limits.inboundFile
  | .inbound, .bulk => limits.inboundBulk
  | .inbound, .heap => limits.inboundHeap
  | .outbound, .file => limits.outboundFile
  | .outbound, .bulk => limits.outboundBulk
  | .outbound, .heap => limits.outboundHeap

/-- The packed capacity of a direction and medium. -/
def limitRecord? (store : RecordStore) (direction : Direction) (medium : Medium) :
    Option (List UInt8) :=
  (store.limits.find? fun row => row.isOf direction medium).map LimitRow.record

/-- Removes a packed capacity. -/
def deleteLimit (store : RecordStore) (direction : Direction) (medium : Medium) : RecordStore :=
  { store with limits := store.limits.filter fun row => !row.isOf direction medium }

/-- Stores a packed capacity in place of the one before. -/
def putLimit (store : RecordStore) (direction : Direction) (medium : Medium)
    (record : List UInt8) : RecordStore :=
  let store := store.deleteLimit direction medium
  { store with limits := store.limits ++ [⟨direction.name, medium.name, record⟩] }

/-- Every direction with every medium, in the order in which capacities are stored. -/
def limitOrder : List (Direction × Medium) :=
  Direction.all.flatMap fun direction => Medium.all.map fun medium => (direction, medium)

/-- Stores the capacities one by one, up to the first that has no packed form. -/
def setLimits (limits : Limits) (store : RecordStore) :
    List (Direction × Medium) → Change RecordStore Magnitude.PackError Unit
  | [] => ⟨store, [], .ok ()⟩
  | (direction, medium) :: rest =>
    let capacity := Magnitude.ofUInt64 (limits.get direction medium)
    let note := Note.capacitySet direction medium capacity
    match capacity.pack with
    | .error error => ⟨store, [note], .error (.refused error)⟩
    | .ok record =>
      let later := setLimits limits (store.putLimit direction medium record) rest
      { later with notes := note :: later.notes }

/-- Opens the store at `path`, whose tables may hold something already, with capacities that
replace the ones before. -/
def openWith (store : RecordStore) (path : String) (limits : Limits) :
    Change RecordStore Magnitude.PackError Unit :=
  let opened := setLimits limits store limitOrder
  { opened with notes := .storeOpened path :: opened.notes }

/-- A direction and medium without a packed capacity have none. -/
def capacity (store : RecordStore) (direction : Direction) (medium : Medium) :
    Checked StoreError Magnitude :=
  match store.limitRecord? direction medium with
  | none => .ok .zero
  | some record =>
    match Magnitude.unpack record with
    | .ok (capacity, _) => .ok capacity
    | .error error => Checked.refuse (RecordFault.capacity error).refusal

/-! ## Occupancies -/

/-- The row of an object. -/
def find? (store : RecordStore) (id : ObjectId) : Option ObjectRow :=
  store.objects.find? fun row => row.id = id

/-- Whether an extent lies on a medium and belongs to an object of a direction. -/
def counts (store : RecordStore) (direction : Direction) (medium : Medium) (row : ExtentRow) :
    Bool :=
  row.medium == medium.name &&
    (store.find? row.object).any fun object => object.direction == direction.name

/-- Adds lengths to `sum`, which must stay a signed 64-bit integer. -/
def sumFrom (sum : Int64) : List Int64 → Option Int64
  | [] => some sum
  | length :: rest =>
    if FitsWord (sum.toInt + length.toInt) then sumFrom (sum + length) rest else none

/-- The lengths stored for a direction and medium. -/
def lengths (store : RecordStore) (direction : Direction) (medium : Medium) : List Int64 :=
  (store.extents.filter (store.counts direction medium)).map ExtentRow.length

/-- What the extents on a medium take that belong to objects of a direction. -/
def occupancy (store : RecordStore) (direction : Direction) (medium : Medium) :
    Checked StoreError Magnitude :=
  match sumFrom 0 (store.lengths direction medium) with
  | some sum => .ok (.ofInt64 sum)
  | none => Checked.refuse RecordFault.sum.refusal

/-! ## Objects -/

/-- The rows of an object. -/
def rows (store : RecordStore) (id : ObjectId) : List ExtentRow :=
  store.extents.filter fun row => row.object = id

/-- The extents of an object. -/
def extentsOf (store : RecordStore) (id : ObjectId) : Checked StoreError (List Extent) :=
  match store.find? id with
  | none => Checked.refuse (.notFound id)
  | some _ => (store.rows id).mapM ExtentRow.parse

/-- Refuses a new object on the first medium whose capacity it exceeds. -/
def checkLimits (store : RecordStore) (direction : Direction) (needed : Space) :
    List Medium → Checked StoreError Unit
  | [] => .ok ()
  | medium :: rest => do
    let capacity ← store.capacity direction medium
    let occupancy ← store.occupancy direction medium
    let available ← capacity.sub occupancy
    if needed.get medium ≤ available.orZero then store.checkLimits direction needed rest
    else Checked.refuse (.insufficient medium)

/-- The extents of an object that can be added. -/
def admitted (store : RecordStore) (object : NewObject) : Checked StoreError (List Extent) := do
  let extents ← object.source.extents store.extentsOf
  match object.reservation with
  | .reserved => return extents
  | .unreserved => do
    let needed ← Extent.aggregate extents
    store.checkLimits object.direction needed Medium.all
    return extents

/-- Adds the rows of an object whose extents can be told, within the capacities unless its space is
reserved. -/
def create (store : RecordStore) (id : ObjectId) (object : NewObject) :
    Change RecordStore StoreError Unit :=
  match store.admitted object with
  | .error failure => .none store failure
  | .ok extents =>
    { store :=
        { store with
          objects := store.objects ++ [⟨id, object.direction.name, object.provisional⟩]
          extents := store.extents ++ extents.map (ExtentRow.of id) }
      notes := [.objectStored id object.direction extents]
      result := .ok () }

/-- Removes an object, whether or not its direction can be read afterwards. -/
def destroy (store : RecordStore) (id : ObjectId) : Change RecordStore StoreError Direction :=
  match store.find? id with
  | none => .none store (.refused (.notFound id))
  | some row =>
    { store :=
        { store with
          objects := store.objects.filter fun kept => kept.id ≠ id
          extents := store.extents.filter fun kept => kept.object ≠ id }
      notes := [.objectRemoved id]
      result := row.parseDirection }

/-- The space that a range of an object takes. -/
def sliceSpace (store : RecordStore) (id : ObjectId) (offset length : UInt64) :
    Checked StoreError Space := do
  let extents ← store.extentsOf id
  let cut ← Extent.slice extents offset length
  Checked.ofArithmetic (Extent.aggregate cut)

instance : Store RecordStore where
  capacity := capacity
  occupancy := occupancy
  sliceSpace := sliceSpace
  create := create
  destroy := destroy

/-! ## Editing the tables

Changes made past the store, each with the number of rows it touched. -/

/-- Replaces a packed capacity that is stored. -/
def overwriteLimit (store : RecordStore) (direction : Direction) (medium : Medium)
    (record : List UInt8) : Nat × RecordStore :=
  let touched := store.limits.countP fun row => row.isOf direction medium
  (touched,
    { store with
      limits := store.limits.map fun row =>
        if row.isOf direction medium then { row with record := record } else row })

/-- Removes a packed capacity. -/
def dropLimit (store : RecordStore) (direction : Direction) (medium : Medium) :
    Nat × RecordStore :=
  (store.limits.countP fun row => row.isOf direction medium,
    store.deleteLimit direction medium)

/-- Renames the medium of every extent of an object. -/
def renameMedium (store : RecordStore) (id : ObjectId) (medium : String) : Nat × RecordStore :=
  (store.extents.countP fun row => row.object = id,
    { store with
      extents := store.extents.map fun row =>
        if row.object = id then { row with medium := medium } else row })

/-- Renames the direction of an object. -/
def renameDirection (store : RecordStore) (id : ObjectId) (direction : String) :
    Nat × RecordStore :=
  (store.objects.countP fun row => row.id = id,
    { store with
      objects := store.objects.map fun row =>
        if row.id = id then { row with direction := direction } else row })

end RecordStore

end Admission
