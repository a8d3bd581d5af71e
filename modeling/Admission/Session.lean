import Admission.Controller.Creation
import Admission.Controller.Observe
import Admission.IdSupply

/-!
# Sessions

A session is a controller together with those who use it: the tickets they hold and the
calls that they have begun and that have not finished.  Commands come one at a time.  A
call that has to wait is answered with a handle, and nothing of it happens until a command
polls it.

Identifiers of new objects come from a supply and are used in order.
-/

namespace Admission

namespace Session

/-- The name of a ticket or of an unfinished call. -/
structure Handle where
  number : Nat
  deriving DecidableEq, Repr

/-- A call that has not finished. -/
inductive Call where
  | take (attendant : AttendantId)
  | wait (ticket : Ticket)
  | create (creation : PendingCreation)
  deriving DecidableEq

/-- What a user can ask for. -/
inductive Command where
  | capacity (direction : Direction) (medium : Medium)
  | occupancy (direction : Direction) (medium : Medium)
  | sliceSpace (object : ObjectId) (offset length : UInt64)
  | storeObject (object : NewObject)
  | removeObject (object : ObjectId)
  | makeAttendant
  | give (attendant : AttendantId)
  | pause (attendant : AttendantId)
  | resume (attendant : AttendantId)
  | isEnded (attendant : AttendantId)
  | take (attendant : AttendantId)
  | request (direction : Direction) (needed : Space) (priority : Priority)
      (attendant : Option AttendantId)
  | create (direction : Direction) (source : Source) (priority : Priority)
      (attendant : Option AttendantId)
  | scan (direction : Direction)
  | destroy (object : ObjectId)
  | snapshot (direction : Direction)
  | inspect (ticket : Handle)
  | wait (ticket : Handle)
  /-- Waits for a limited time, in which nothing happens. -/
  | waitBriefly (ticket : Handle)
  | drop (ticket : Handle)
  | poll (call : Handle)
  | abandon (call : Handle)
  deriving DecidableEq

/-- The answer to a command. -/
inductive Reply where
  | done
  | flag (flag : Bool)
  | magnitude (magnitude : Magnitude)
  | space (space : Space)
  | direction (direction : Direction)
  | attendant (attendant : AttendantId)
  | taken
  | attendantEnded
  | granted
  | notServiceable
  | pending (handle : Handle)
  | created (object : ObjectId)
  | notCreated
  | interrupted
  | scanned (serviced : Nat)
  | snapshot (snapshot : Snapshot)
  | ticket (ticket : Ticket) (serviced : Bool)
  | serviced
  | cancelled
  | timedOut
  /-- There is no ticket or call of that name. -/
  | unknown
  | refused (refusal : Refusal)
  /-- A refusal of the store, which was asked directly. -/
  | storeRefused (error : StoreError)
  | overflowed (kind : Overflow)
  deriving DecidableEq

end Session

/-- A controller with the tickets and the unfinished calls of its users. -/
structure Session (σ : Type) where
  controller : Controller σ
  /-- Where the identifiers of new objects come from. -/
  supply : IdSupply
  tickets : List (Session.Handle × Ticket)
  calls : List (Session.Handle × Session.Call)
  /-- How many handles were given out. -/
  handles : Nat

/-- Polls the take of a signal. -/
def Action.pollTake {σ : Type} (attendant : AttendantId) :
    Action σ (Progress AttendantId Taking) := do
  match ← takeSignal attendant with
  | .parked => return .parked attendant
  | taking => return .finished taking

namespace Session.Reply

/-- The answer to a store that was asked directly. -/
def ofStore {α : Type} (shape : α → Reply) : Checked StoreError α → Reply
  | .ok value => shape value
  | .error (.refused error) => storeRefused error
  | .error (.overflow kind) => overflowed kind

/-- The answer to a question to the controller. -/
def ofChecked {α : Type} (shape : α → Reply) : Checked Refusal α → Reply
  | .ok value => shape value
  | .error (.refused refusal) => refused refusal
  | .error (.overflow kind) => overflowed kind

/-- The answer to who took the signal of an attendant. -/
def ofTaking : Taking → Reply
  | .taken => taken
  | .ended => attendantEnded
  | .parked => done

/-- The answer to who has waited on a ticket. -/
def ofWait : WaitOutcome → Reply
  | .serviced => serviced
  | .cancelled => cancelled

/-- The answer to who asked for an object. -/
def ofCreation : Creation → Reply
  | .created id => created id
  | .notCreated => notCreated
  | .interrupted => interrupted

end Session.Reply

namespace Session

variable {σ : Type}

/-- A session over a store, with that many slots and what chance gave for its identifiers. -/
def start (store : σ) (slots : Nat) (chance : UInt64) : Session σ :=
  ⟨.start store slots, .start chance, [], [], 0⟩

/-- The identifier of the next object. -/
def nextId (session : Session σ) : ObjectId := session.supply.next

/-- Changes the store past the controller. -/
def modifyStore (session : Session σ) (change : σ → σ) : Session σ :=
  { session with
    controller := { session.controller with store := change session.controller.store } }

/-- Changes the store past the controller, which only writes down what is noted. -/
def changeStore {ε α : Type} (session : Session σ) (change : σ → Change σ ε α) :
    Session σ × Checked ε α :=
  let changed := change session.controller.store
  ({ session with
      controller := { session.controller with store := changed.store }.record
        (changed.notes.map .note) },
    changed.result)

/-- The journal since it was read last. -/
def takeJournal (session : Session σ) : Journal × Session σ :=
  (session.controller.journal,
    { session with controller := { session.controller with journal := [] } })

/-- The ticket of a handle. -/
def ticket? (session : Session σ) (handle : Handle) : Option Ticket :=
  (session.tickets.find? fun (held, _) => held = handle).map Prod.snd

/-- The unfinished call of a handle. -/
def call? (session : Session σ) (handle : Handle) : Option Call :=
  (session.calls.find? fun (held, _) => held = handle).map Prod.snd

/-- Forgets a call. -/
def forget (session : Session σ) (handle : Handle) : Session σ :=
  { session with calls := session.calls.filter fun (held, _) => held ≠ handle }

/-- Keeps a ticket under a new handle. -/
def keepTicket (session : Session σ) (ticket : Ticket) : Session σ × Reply :=
  let handle : Handle := ⟨session.handles⟩
  ({ session with
      tickets := (handle, ticket) :: session.tickets
      handles := session.handles + 1 },
    .pending handle)

/-- Keeps a call under a new handle. -/
def keepCall (session : Session σ) (call : Call) : Session σ × Reply :=
  let handle : Handle := ⟨session.handles⟩
  ({ session with
      calls := (handle, call) :: session.calls
      handles := session.handles + 1 },
    .pending handle)

/-- Keeps a call under the handle that it had. -/
def putBack (handle : Handle) (session : Session σ) (call : Call) : Session σ × Reply :=
  ({ session with calls := (handle, call) :: session.calls }, .pending handle)

/-- Lets the controller act, and answers with its failure if there is one. -/
def act {α : Type} (session : Session σ) (action : Action σ α)
    (andThen : Session σ → α → Session σ × Reply) : Session σ × Reply :=
  match action session.controller with
  | .ok value controller => andThen { session with controller := controller } value
  | .error (.refused refusal) controller =>
    ({ session with controller := controller }, .refused refusal)
  | .error (.overflow kind) controller =>
    ({ session with controller := controller }, .overflowed kind)

/-- An answer that concerns the controller only. -/
def answer {α : Type} (shape : α → Reply) (session : Session σ) (value : α) :
    Session σ × Reply :=
  (session, shape value)

/-- Answers the end of a creation; the identifier of a new object is used up. -/
def finishCreation (session : Session σ) (creation : Creation) : Session σ × Reply :=
  match creation with
  | .created id => ({ session with supply := session.supply.advance }, .created id)
  | .notCreated => (session, .notCreated)
  | .interrupted => (session, .interrupted)

/-- Answers a step of a take; `keep` takes in what is left to do. -/
def followTake (keep : Session σ → Call → Session σ × Reply) (session : Session σ) :
    Progress AttendantId Taking → Session σ × Reply
  | .finished taking => (session, .ofTaking taking)
  | .parked attendant => keep session (.take attendant)

/-- Answers a step of a wait. -/
def followWait (keep : Session σ → Call → Session σ × Reply) (session : Session σ) :
    Progress Ticket WaitOutcome → Session σ × Reply
  | .finished outcome => (session, .ofWait outcome)
  | .parked ticket => keep session (.wait ticket)

/-- Answers a step of a creation. -/
def followCreation (keep : Session σ → Call → Session σ × Reply) (session : Session σ) :
    Progress PendingCreation Creation → Session σ × Reply
  | .finished creation => finishCreation session creation
  | .parked creation => keep session (.create creation)

variable [Store σ]

/-- Adds an object to the store past the controller. -/
def storeObject (session : Session σ) (object : NewObject) : Session σ × Reply :=
  let id := session.nextId
  session.act (Action.tryChange fun store => Store.create store id object)
    fun session outcome =>
      match outcome with
      | .ok () => finishCreation session (.created id)
      | .error error => (session, .storeRefused error)

/-- Removes an object from the store past the controller. -/
def removeObject (session : Session σ) (id : ObjectId) : Session σ × Reply :=
  session.act (Action.tryChange fun store => Store.destroy store id)
    fun session outcome =>
      match outcome with
      | .ok direction => (session, .direction direction)
      | .error error => (session, .storeRefused error)

/-- Changes the flags of an attendant. -/
def signal (session : Session σ) (attendant : AttendantId)
    (change : Attendants → AttendantId → Attendants) : Session σ × Reply :=
  session.act (Action.signal (some attendant) change) (answer fun _ => .done)

/-- Adds an attendant. -/
def makeAttendant (session : Session σ) : Session σ × Reply :=
  let (attendant, attendants) := session.controller.attendants.make
  ({ session with controller := { session.controller with attendants := attendants } },
    .attendant attendant)

/-- Answers a request; the ticket of one that is queued is kept. -/
def followRequest (session : Session σ) : Answer → Session σ × Reply
  | .granted => (session, .granted)
  | .notServiceable => (session, .notServiceable)
  | .queued ticket => session.keepTicket ticket

/-- Drops a ticket; the waits on it are given up first. -/
def dropTicket (session : Session σ) (handle : Handle) (ticket : Ticket) : Session σ × Reply :=
  { session with
    tickets := session.tickets.filter fun (held, _) => held ≠ handle
    calls := session.calls.filter fun (_, call) => call ≠ Call.wait ticket }.act
    (Action.dropTicket ticket) (answer fun _ => .done)

/-- Goes on with an unfinished call. -/
def poll (session : Session σ) (handle : Handle) : Call → Session σ × Reply
  | .take attendant =>
    (session.forget handle).act (Action.pollTake attendant) (followTake (putBack handle))
  | .wait ticket =>
    (session.forget handle).act (Action.resumeWait ticket) (followWait (putBack handle))
  | .create creation =>
    (session.forget handle).act (Action.resumeCreation creation session.nextId)
      (followCreation (putBack handle))

/-- Gives up an unfinished call. -/
def abandon (session : Session σ) (handle : Handle) : Call → Session σ × Reply
  | .take _ | .wait _ => (session.forget handle, .done)
  | .create creation =>
    (session.forget handle).act (Action.abandonCreation creation) (answer fun _ => .done)

/-- Looks up a ticket. -/
def withTicket (session : Session σ) (handle : Handle)
    (andThen : Ticket → Session σ × Reply) : Session σ × Reply :=
  match session.ticket? handle with
  | some ticket => andThen ticket
  | none => (session, .unknown)

/-- Looks up an unfinished call. -/
def withCall (session : Session σ) (handle : Handle)
    (andThen : Call → Session σ × Reply) : Session σ × Reply :=
  match session.call? handle with
  | some call => andThen call
  | none => (session, .unknown)

/-- Carries out a command. -/
def step (session : Session σ) : Command → Session σ × Reply
  | .capacity direction medium =>
    (session, .ofStore .magnitude (Store.capacity session.controller.store direction medium))
  | .occupancy direction medium =>
    (session, .ofStore .magnitude (Store.occupancy session.controller.store direction medium))
  | .sliceSpace object offset length =>
    (session, .ofStore .space (Store.sliceSpace session.controller.store object offset length))
  | .storeObject object => session.storeObject object
  | .removeObject object => session.removeObject object
  | .makeAttendant => session.makeAttendant
  | .give attendant => session.signal attendant Attendants.give
  | .pause attendant => session.signal attendant Attendants.pause
  | .resume attendant => session.signal attendant Attendants.resume
  | .isEnded attendant => (session, .flag (session.controller.attendants.isEnded attendant))
  | .take attendant => session.act (Action.pollTake attendant) (followTake keepCall)
  | .request direction needed priority attendant =>
    session.act (Action.request direction needed priority attendant) followRequest
  | .create direction source priority attendant =>
    session.act (Action.create direction source priority attendant session.nextId)
      (followCreation keepCall)
  | .scan direction => session.act (Action.scan direction) (answer .scanned)
  | .destroy object => session.act (Action.destroy object) (answer .direction)
  | .snapshot direction =>
    (session, .ofChecked .snapshot (session.controller.snapshot direction))
  | .inspect handle => session.withTicket handle fun ticket =>
    (session, .ticket ticket (session.controller.ledger.isServiced ticket.direction ticket.slot))
  | .wait handle => session.withTicket handle fun ticket =>
    session.act (Action.wait ticket) (followWait keepCall)
  | .waitBriefly handle => session.withTicket handle fun ticket =>
    session.act (Action.wait ticket) (followWait fun session _ => (session, .timedOut))
  | .drop handle => session.withTicket handle (session.dropTicket handle)
  | .poll handle => session.withCall handle (session.poll handle)
  | .abandon handle => session.withCall handle (session.abandon handle)

end Session

end Admission
