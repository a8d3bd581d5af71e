import Admission.Direction
import Admission.Extent
import Admission.Failure

/-!
# Sources of new objects

The initial extent of an object lies on a medium, under a handle that only the medium
understands, or is a slice of an object that exists already and may then span media.
-/

namespace Admission

/-- Where an initial extent lies. -/
inductive Location where
  | handle (medium : Medium) (number : UInt64)
  | object (id : ObjectId)
  deriving DecidableEq

/-- The medium of a location, which a slice of an object does not have. -/
def Location.medium? : Location → Option Medium
  | handle medium _ => some medium
  | object _ => none

/-- The initial extent of a new object; without a location there is none. -/
structure Source where
  location : Option Location
  offset : UInt64
  length : UInt64
  deriving DecidableEq

namespace Source

/-- No initial extent. -/
def empty : Source := ⟨none, 0, 0⟩

/-- The object that the source is a slice of. -/
def slicedFrom? (source : Source) : Option ObjectId :=
  match source.location with
  | some (.object id) => some id
  | _ => none

/-- The extents that the new object will have.  `lookup` gives those of an existing object
and is asked only about the one the source is a slice of. -/
def extents (source : Source) (lookup : ObjectId → Checked StoreError (List Extent)) :
    Checked StoreError (List Extent) :=
  match source.location with
  | none => .ok []
  | some (.handle medium _) => .ok [⟨medium, source.length⟩]
  | some (.object id) => do Extent.slice (← lookup id) source.offset source.length

end Source

/-- Whether the space of a new object was granted before. -/
inductive Reservation where
  | reserved
  | unreserved
  deriving DecidableEq, Repr

/-- What a store needs to know to make an object. -/
structure NewObject where
  direction : Direction
  source : Source
  reservation : Reservation
  /-- Made for an inbound requester that would not wait. -/
  provisional : Bool
  deriving DecidableEq

end Admission
