import Admission.Controller.Creation
import Admission.Proofs.Controller.Handled
import Admission.Proofs.Controller.Waiting
import Mathlib.Logic.Relation

/-!
# Traffic at a controller

A controller with everybody who uses it at the same time.  Requesters hold tickets, creations
are under way, and objects were removed whose direction is not scanned yet.

What happens comes in two kinds.  An `Aside` leaves the ledger as it is: an attendant changes,
a creation finds out what space it needs or whether it is serviced, an object is stored or
removed.  A `Turn` has the ledger to itself: a request, a scan or the drop of a ticket.  Only
the ledger is locked during a turn, not the store, so asides go on meanwhile, and each of the
six questions of the scan may be answered at a different moment of that stretch.  `Glimpses`
are the store as such a scan sees it.

A creation is cut into the parts between which others can act: it sizes its extent, submits,
waits, finds its requisition serviced, stores the object, and drops its ticket.  So is a
destruction: it removes the object, and then scans.  An overflow is the end of a run, so there
is no step for it.
-/

namespace Admission

/-! ## What a scan sees -/

/-- A store of which each question of a scan is answered at a moment of its own. -/
structure Glimpses (σ : Type) where
  capacityAt : Medium → σ
  occupancyAt : Medium → σ
  now : σ

namespace Glimpses

variable {σ : Type}

/-- A store that nobody changes meanwhile. -/
def still (store : σ) : Glimpses σ := ⟨fun _ => store, fun _ => store, store⟩

/-- A change of what the store is now. -/
def changeNow {ε α : Type} (see : Glimpses σ) (change : σ → Change σ ε α) :
    Change (Glimpses σ) ε α :=
  let changed := change see.now
  ⟨{ see with now := changed.store }, changed.notes, changed.result⟩

instance [Store σ] : Store (Glimpses σ) where
  capacity see direction medium := Store.capacity (see.capacityAt medium) direction medium
  occupancy see direction medium := Store.occupancy (see.occupancyAt medium) direction medium
  sliceSpace see id offset length := Store.sliceSpace see.now id offset length
  create see id object := see.changeNow fun store => Store.create store id object
  destroy see id := see.changeNow fun store => Store.destroy store id

end Glimpses

/-- The same controller over another store. -/
def Controller.withStore {σ τ : Type} (controller : Controller σ) (store : τ) : Controller τ :=
  ⟨store, controller.ledger, controller.attendants, controller.journal⟩

/-! ## Who is there -/

/-- A creation under way. -/
inductive Call where
  /-- It knows the space of its extent and has not asked for it. -/
  | sized (object : NewObject) (priority : Priority) (attendant : Option AttendantId)
      (needed : Space)
  | waiting (creation : PendingCreation)
  /-- It found its requisition serviced and will store the object next. -/
  | cleared (creation : PendingCreation)
  /-- The object is stored, and the ticket is still held. -/
  | stored (creation : PendingCreation) (id : ObjectId)
  /-- There will be no object, and the ticket is still held. -/
  | leaving (creation : PendingCreation)
  deriving DecidableEq

/-- The ticket that a creation holds. -/
def Call.ticket? : Call → Option Ticket
  | sized .. => none
  | waiting creation | cleared creation | stored creation _ | leaving creation =>
    some creation.ticket

/-- The ticket of a creation whose object is stored. -/
def Call.storedTicket? : Call → Option Ticket
  | stored creation _ => some creation.ticket
  | sized .. | waiting _ | cleared _ | leaving _ => none

/-- What a creation asks the store for.  The object is provisional if it is inbound and its
requester would not wait. -/
def NewObject.ofCreation (direction : Direction) (source : Source)
    (attendant : Option AttendantId) (reservation : Reservation) : NewObject :=
  ⟨direction, source, reservation, direction = .inbound && attendant.isNone⟩

/-- An object that was removed and whose direction is not scanned yet. -/
structure Removal where
  object : ObjectId
  direction : Direction
  deriving DecidableEq

/-- A controller, everything that is under way there, and who holds a ticket. -/
structure Traffic (σ : Type) where
  controller : Controller σ
  /-- The identifiers that objects were given so far. -/
  named : List ObjectId
  /-- The tickets of requesters. -/
  tickets : List Ticket
  calls : List Call
  removals : List Removal

namespace Traffic

variable {σ : Type}

/-- Nobody is there yet. -/
def start (store : σ) (slots : Nat) : Traffic σ := ⟨.start store slots, [], [], [], []⟩

/-- The requisitions of a direction, head first. -/
def queue (traffic : Traffic σ) (direction : Direction) : List Requisition :=
  traffic.controller.ledger.queue direction

/-- Every ticket that somebody holds. -/
def held (traffic : Traffic σ) : List Ticket :=
  traffic.tickets ++ traffic.calls.filterMap Call.ticket?

/-- The slots of a direction whose object is stored, so that it accounts for the space that the
requisition is still there for. -/
def storedSlots (traffic : Traffic σ) (direction : Direction) : List SlotId :=
  ((traffic.calls.filterMap Call.storedTicket?).filter fun ticket =>
    ticket.direction = direction).map Ticket.slot

/-- A call becomes another one, or ends. -/
def become (traffic : Traffic σ) (call : Call) (next : Option Call) : Traffic σ :=
  { traffic with calls := next.toList ++ traffic.calls.erase call }

/-- The controller acted. -/
def acted (traffic : Traffic σ) (controller : Controller σ) : Traffic σ :=
  { traffic with controller := controller }

end Traffic

/-! ## What happens beside the ledger -/

/-- What can happen while somebody else has the ledger. -/
inductive Aside {σ : Type} [Store σ] : Traffic σ → Traffic σ → Prop where
  /-- Attendants are signaled, reset, ended and resumed, and waits go on. -/
  | attend {traffic : Traffic σ} (attendants : Attendants) (remarks : List Note) :
      Aside traffic (traffic.acted (traffic.controller.attended attendants remarks))
  | size {traffic : Traffic σ} {direction : Direction} {source : Source} {location : Location}
      {priority : Priority} {attendant : Option AttendantId} {needed : Space} :
      source.location = some location → source.length ≠ 0 →
      Action.spaceNeeded source location traffic.controller = .ok needed traffic.controller →
      Aside traffic { traffic with
        calls := .sized (.ofCreation direction source attendant .reserved) priority attendant
          needed :: traffic.calls }
  | createEmpty {traffic : Traffic σ} {direction : Direction} {source : Source}
      {attendant : Option AttendantId} {id : ObjectId} {controller : Controller σ} :
      source.location = none → id ∉ traffic.named →
      Action.tryChange (fun store => Store.create store id
        (.ofCreation direction source attendant .unreserved)) traffic.controller =
        .ok (.ok ()) controller →
      Aside traffic { traffic.acted controller with named := id :: traffic.named }
  | createRefused {traffic : Traffic σ} {object : NewObject} {id : ObjectId}
      {error : StoreError} {controller : Controller σ} :
      Action.tryChange (fun store => Store.create store id object) traffic.controller =
        .ok (.error error) controller →
      Aside traffic (traffic.acted controller)
  | clear {traffic : Traffic σ} {creation : PendingCreation} :
      .waiting creation ∈ traffic.calls →
      traffic.controller.ledger.isServiced creation.ticket.direction creation.ticket.slot =
        true →
      Aside traffic (traffic.become (.waiting creation) (some (.cleared creation)))
  | interrupt {traffic : Traffic σ} {creation : PendingCreation} :
      .waiting creation ∈ traffic.calls →
      (creation.ticket.attendant.any traffic.controller.attendants.isEnded = true ∨
        creation.ticket.attendant = none ∧ traffic.controller.ledger.isServiced
          creation.ticket.direction creation.ticket.slot = false) →
      Aside traffic ((traffic.acted (traffic.controller.record
        [.note (.creationInterrupted creation.object.direction),
          .event ⟨creation.object.direction, creation.ticket.slot, .interrupted⟩])).become
        (.waiting creation) (some (.leaving creation)))
  /-- Whoever made the call does not go on with it. -/
  | abandon {traffic : Traffic σ} {creation : PendingCreation} :
      .waiting creation ∈ traffic.calls →
      Aside traffic (traffic.become (.waiting creation) (some (.leaving creation)))
  | store {traffic : Traffic σ} {creation : PendingCreation} {id : ObjectId}
      {controller : Controller σ} :
      .cleared creation ∈ traffic.calls → id ∉ traffic.named →
      Action.tryChange (fun store => Store.create store id creation.object)
        traffic.controller = .ok (.ok ()) controller →
      Aside traffic (Traffic.become
        { traffic.acted controller with named := id :: traffic.named }
        (.cleared creation) (some (.stored creation id)))
  | storeRefused {traffic : Traffic σ} {creation : PendingCreation} {id : ObjectId}
      {error : StoreError} {controller : Controller σ} :
      .cleared creation ∈ traffic.calls →
      Action.tryChange (fun store => Store.create store id creation.object)
        traffic.controller = .ok (.error error) controller →
      Aside traffic ((traffic.acted (controller.record
        [.note (.creationFailed creation.object.direction error)])).become
        (.cleared creation) (some (.leaving creation)))
  | remove {traffic : Traffic σ} {id : ObjectId} {direction : Direction}
      {controller : Controller σ} :
      Action.tryChange (fun store => Store.destroy store id) traffic.controller =
        .ok (.ok direction) controller →
      Aside traffic { traffic.acted controller with
        removals := ⟨id, direction⟩ :: traffic.removals }
  | removeRefused {traffic : Traffic σ} {id : ObjectId} {error : StoreError}
      {controller : Controller σ} :
      Action.tryChange (fun store => Store.destroy store id) traffic.controller =
        .ok (.error error) controller →
      Aside traffic (traffic.acted controller)

/-- Any number of asides, one after the other. -/
abbrev Asides {σ : Type} [Store σ] : Traffic σ → Traffic σ → Prop :=
  Relation.ReflTransGen Aside

/-- What a scan can see that begins at `before` and ends at `after`: each answer is that of some
moment between the two. -/
structure Glimpsed {σ : Type} [Store σ] (before after : Traffic σ) (see : Glimpses σ) :
    Prop where
  meanwhile : Asides before after
  capacityAt : ∀ medium, ∃ moment, Asides before moment ∧ Asides moment after ∧
    see.capacityAt medium = moment.controller.store
  occupancyAt : ∀ medium, ∃ moment, Asides before moment ∧ Asides moment after ∧
    see.occupancyAt medium = moment.controller.store
  now : see.now = after.controller.store

/-! ## What happens to the ledger -/

/-- What is done by who has the ledger from `before` to `between`, and has an effect at the end
of that stretch.  A ticket that is dropped, and the like, was there at its beginning. -/
inductive Turn {σ : Type} [Store σ] (before between : Traffic σ) (see : Glimpses σ) :
    Traffic σ → Prop where
  | request {direction : Direction} {needed : Space} {priority : Priority}
      {attendant : Option AttendantId} {answer : Except Refusal Answer}
      {final : Controller (Glimpses σ)} :
      between.controller.ledger.pool.Spare →
      Action.attempt (Action.request direction needed priority attendant)
        (between.controller.withStore see) = .ok answer final →
      Turn before between see
        { between.acted (final.withStore between.controller.store) with
          tickets := (Answer.ticket? answer).toList ++ between.tickets }
  | submit {object : NewObject} {priority : Priority} {attendant : Option AttendantId}
      {needed : Space} {answer : Except Refusal Answer} {final : Controller (Glimpses σ)} :
      .sized object priority attendant needed ∈ before.calls →
      .sized object priority attendant needed ∈ between.calls →
      between.controller.ledger.pool.Spare →
      Action.attempt (Action.submit object.direction needed priority attendant true)
        (between.controller.withStore see) = .ok answer final →
      Turn before between see
        ((between.acted (final.withStore between.controller.store)).become
          (.sized object priority attendant needed)
          ((Answer.ticket? answer).map fun ticket => .waiting ⟨ticket, object⟩))
  | drop {ticket : Ticket} {outcome : Except Refusal Unit} {final : Controller (Glimpses σ)} :
      ticket ∈ before.tickets → ticket ∈ between.tickets →
      Action.attempt (Action.dropTicket ticket) (between.controller.withStore see) =
        .ok outcome final →
      Turn before between see
        { between.acted (final.withStore between.controller.store) with
          tickets := between.tickets.erase ticket }
  | finish {creation : PendingCreation} {id : ObjectId} {outcome : Except Refusal Unit}
      {final : Controller (Glimpses σ)} :
      .stored creation id ∈ before.calls → .stored creation id ∈ between.calls →
      Action.attempt (Action.dropTicket creation.ticket) (between.controller.withStore see) =
        .ok outcome final →
      Turn before between see
        ((between.acted (final.withStore between.controller.store)).become
          (.stored creation id) none)
  | leave {creation : PendingCreation} {outcome : Except Refusal Unit}
      {final : Controller (Glimpses σ)} :
      .leaving creation ∈ before.calls → .leaving creation ∈ between.calls →
      Action.attempt (Action.dropTicket creation.ticket) (between.controller.withStore see) =
        .ok outcome final →
      Turn before between see
        ((between.acted (final.withStore between.controller.store)).become
          (.leaving creation) none)
  | scan {direction : Direction} {outcome : Except Refusal Nat}
      {final : Controller (Glimpses σ)} :
      Action.attempt (Action.scan direction) (between.controller.withStore see) =
        .ok outcome final →
      Turn before between see (between.acted (final.withStore between.controller.store))
  | rescan {removal : Removal} {outcome : Except Refusal Nat}
      {final : Controller (Glimpses σ)} {remarks : List Note} :
      removal ∈ before.removals → removal ∈ between.removals →
      Action.attempt (Action.scan removal.direction) (between.controller.withStore see) =
        .ok outcome final →
      Turn before between see
        { between.acted ((final.record (remarks.map .note)).withStore
            between.controller.store) with
          removals := between.removals.erase removal }

/-- One step of the traffic. -/
inductive Step {σ : Type} [Store σ] : Traffic σ → Traffic σ → Prop where
  | aside {before after : Traffic σ} : Aside before after → Step before after
  | turn {before between after : Traffic σ} {see : Glimpses σ} :
      Glimpsed before between see → Turn before between see after → Step before after

/-- A run: what the traffic comes to, step by step, after `first`. -/
abbrev Run {σ : Type} [Store σ] (first : Traffic σ) (later : List (Traffic σ)) : Prop :=
  List.IsChain Step (first :: later)

end Admission
