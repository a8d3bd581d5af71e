import Admission.Controller.Ticket

/-!
# Creating and destroying objects

An object without initial extent is created right away, within the limits that the store
checks itself.  Any other one is created when the space of its extent has been granted.
The grant is held until the object is stored, which then accounts for the space.
-/

namespace Admission

/-- How a creation ended. -/
inductive Creation where
  | created (id : ObjectId)
  /-- There was no space for a requester that does not wait. -/
  | notCreated
  /-- The wait for space was cancelled. -/
  | interrupted
  deriving DecidableEq

/-- A creation that waits for its space. -/
structure PendingCreation where
  ticket : Ticket
  object : NewObject
  deriving DecidableEq

namespace Action

variable {σ : Type} [Store σ]

/-- The space that an initial extent takes. -/
def spaceNeeded (source : Source) (location : Location) : Action σ Space :=
  match location with
  | .handle medium _ => pure (.of medium (.ofUInt64 source.length))
  | .object id => query fun store => Store.sliceSpace store id source.offset source.length

/-- Stores the object of a creation whose space is granted, under the identifier `id`, and
then lets go of the grant. -/
def store (creation : PendingCreation) (id : ObjectId) : Action σ Creation := do
  let stored ← tryChange fun store => Store.create store id creation.object
  match stored with
  | .ok _ =>
    dropTicket creation.ticket
    return .created id
  | .error error =>
    note (.creationFailed creation.object.direction error)
    dropTicket creation.ticket
    refuse (.store error)

/-- Ends a creation whose wait was cancelled. -/
def interrupt (creation : PendingCreation) : Action σ Creation := do
  note (.creationInterrupted creation.object.direction)
  event creation.object.direction creation.ticket.slot .interrupted
  dropTicket creation.ticket
  return .interrupted

/-- Goes on as far as the wait of a creation allows. -/
def follow (creation : PendingCreation) (id : ObjectId) :
    Progress Ticket WaitOutcome → Action σ (Progress PendingCreation Creation)
  | .parked _ => return .parked creation
  | .finished .serviced => return .finished (← store creation id)
  | .finished .cancelled => return .finished (← interrupt creation)

/-- Goes on with a parked creation. -/
def resumeCreation (creation : PendingCreation) (id : ObjectId) :
    Action σ (Progress PendingCreation Creation) := do
  follow creation id (← resumeWait creation.ticket)

/-- Gives up a parked creation. -/
def abandonCreation (creation : PendingCreation) : Action σ Unit := dropTicket creation.ticket

/-- Creates an object under the identifier `id` once its space is granted.  An object is
provisional if it is inbound and its requester would not wait. -/
def create (direction : Direction) (source : Source) (priority : Priority)
    (attendant : Option AttendantId) (id : ObjectId) :
    Action σ (Progress PendingCreation Creation) := do
  let provisional := direction = .inbound && attendant.isNone
  match source.location with
  | none =>
    change fun store => Store.create store id ⟨direction, source, .unreserved, provisional⟩
    return .finished (.created id)
  | some location =>
    if source.length = 0 then refuse (.invalidArgument .emptyExtent)
    let needed ← spaceNeeded source location
    match ← submit direction needed priority attendant true with
    | .queued ticket =>
      follow ⟨ticket, direction, source, .reserved, provisional⟩ id (← wait ticket)
    | .granted | .notServiceable => return .finished .notCreated

/-- Destroys an object and scans the direction whose space it freed. -/
def destroy (id : ObjectId) : Action σ Direction := do
  let direction ← change fun store => Store.destroy store id
  let serviced ← scan direction
  note (.objectReleased id serviced direction)
  return direction

end Action

end Admission
