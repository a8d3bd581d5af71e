import Admission.Controller.Observe
import Admission.IdSupply
import Admission.Server.Response

/-!
# The server

The server handles requests one at a time.  A creation whose client is willing to wait may
stay unanswered; it goes on after a scan has serviced its requisition.  What a request gets
serviced while it is handled does not go on by that alone (`Server.handle`): another request
may be handled before, or the server may shut down and give the creation up.

If nobody comes between (`Server.receive`), all creations that a request lets go on do so
next, in the order in which they were serviced, each one to its end, and those that they let
go on in turn come after them.

Requests are numbered by their clients, and every response bears the number of the request
that it answers.  An overflow of arithmetic would be the end of the server.
-/

namespace Admission

namespace Server

/-- A creation that has not been answered. -/
structure WaitingClient where
  request : Nat
  creation : PendingCreation
  deriving DecidableEq

/-- A response with the number of the request that it answers. -/
abbrev Numbered : Type := Nat × Response

/-- What became of a creation at the server. -/
inductive Fate where
  | answered (response : Response)
  | waits (creation : PendingCreation)

end Server

/-- A controller with the clients that wait for it. -/
structure Server (σ : Type) where
  controller : Controller σ
  /-- Where the identifiers of new objects come from. -/
  supply : IdSupply
  /-- Creations that wait, in the order of their requests. -/
  waiting : List Server.WaitingClient

namespace Server

variable {σ : Type}

/-- A server over a store, with that many slots and what chance gave for its identifiers. -/
def start (store : σ) (slots : Nat) (chance : UInt64) : Server σ :=
  ⟨.start store slots, .start chance, []⟩

/-- The identifier of the next object. -/
def nextId (server : Server σ) : ObjectId := server.supply.next

/-- Lets the controller act.  Besides the outcome it tells which requisitions were serviced
meanwhile, in order. -/
def act {α : Type} (server : Server σ) (action : Action σ α) :
    Except Overflow (Server σ × Except Refusal α × List SlotId) :=
  let before := server.controller.journal.length
  let after (controller : Controller σ) : Server σ × List SlotId :=
    ({ server with controller := controller },
      ((Journal.events (controller.journal.drop before)).filter fun event =>
        event.kind = .serviced).map Event.slot)
  match action server.controller with
  | .ok value controller => .ok ((after controller).1, .ok value, (after controller).2)
  | .error (.refused refusal) controller =>
    .ok ((after controller).1, .error refusal, (after controller).2)
  | .error (.overflow kind) _ => .error kind

/-- What becomes of a creation; the identifier of a new object is used up. -/
def conclude (server : Server σ) :
    Except Refusal (Progress PendingCreation Creation) → Server σ × Fate
  | .error refusal => (server, .answered (.ofRefusal refusal))
  | .ok (.parked creation) => (server, .waits creation)
  | .ok (.finished (.created id)) =>
    ({ server with supply := server.supply.advance }, .answered (.ofCreation (.created id)))
  | .ok (.finished creation) => (server, .answered (.ofCreation creation))

/-- Answers a client, or lets it wait. -/
def settle (server : Server σ) (request : Nat) : Fate → Server σ × List Numbered
  | .answered response => (server, [(request, response)])
  | .waits creation =>
    ({ server with waiting := server.waiting ++ [⟨request, creation⟩] }, [])

/-- The first of the serviced requisitions that a client waits for, and those after it. -/
def nextReady? (server : Server σ) : List SlotId → Option (WaitingClient × List SlotId)
  | [] => none
  | slot :: rest =>
    match server.waiting.find? fun client => client.creation.ticket.slot = slot with
    | some client => some (client, rest)
    | none => nextReady? server rest

/-- Takes a client off the list of those that wait. -/
def unlist (server : Server σ) (client : WaitingClient) : Server σ :=
  { server with waiting := server.waiting.erase client }

variable [Store σ]

/-- Lets creations go on whose requisitions were serviced, at most `count` of them. -/
def resume (server : Server σ) (serviced : List SlotId) :
    Nat → Except Overflow (Server σ × List Numbered)
  | 0 => .ok (server, [])
  | count + 1 =>
    match server.nextReady? serviced with
    | none => .ok (server, [])
    | some (client, rest) => do
      let (server, outcome, further) ←
        (server.unlist client).act (Action.resumeCreation client.creation server.nextId)
      let (server, fate) := server.conclude outcome
      let (server, responses) := server.settle client.request fate
      let (server, later) ← resume server (rest ++ further) count
      return (server, responses ++ later)

/-- Lets all creations go on that can. -/
def resumeAll (server : Server σ) (serviced : List SlotId) :
    Except Overflow (Server σ × List Numbered) :=
  server.resume serviced server.waiting.length

/-- Makes an attendant for a client that is willing to wait. -/
def attend (server : Server σ) (wait : Bool) : Option AttendantId × Server σ :=
  if wait then
    let (attendant, attendants) := server.controller.attendants.make
    (some attendant,
      { server with controller := { server.controller with attendants := attendants } })
  else (none, server)

/-- What handling a request comes to: the server, the responses, and the requisitions that were
serviced meanwhile, in order. -/
abbrev Handling (σ : Type) : Type := Server σ × List Numbered × List SlotId

/-- Nothing comes of a request but a response to it. -/
def respond (server : Server σ) (number : Nat) (response : Response) : Handling σ :=
  (server, [(number, response)], [])

/-- Creates an object for a client. -/
def create (server : Server σ) (request : Nat) (direction : Direction) (params : CreateParams)
    (source : Source) : Except Overflow (Handling σ) := do
  let (attendant, server) := server.attend params.wait
  let (server, outcome, serviced) ←
    server.act (Action.create direction source params.priority attendant server.nextId)
  let (server, fate) := server.conclude outcome
  let (server, responses) := server.settle request fate
  return (server, responses, serviced)

/-- Posts an object. -/
def post (server : Server σ) (number : Nat) (request : Request) (segment : List UInt8) :
    Except Overflow (Handling σ) :=
  let turnAway (response : Response) := .ok (server.respond number response)
  match Direction.ofSegment? segment with
  | none => turnAway .badPath
  | some direction =>
    if request.hasForm then
      if formLimit < request.body.octets.length then turnAway .bodyTooLong
      else if request.body.whole then
        match CreateParams.ofForm? (Form.decode request.body.octets) with
        | none => turnAway .badForm
        | some params =>
          match params.source with
          | .error error => turnAway (.ofLocationError error)
          | .ok source => server.create number direction params source
      else turnAway .badBody
    else turnAway .notForm

/-- Releases an object. -/
def release (server : Server σ) (number : Nat) (segment : List UInt8) :
    Except Overflow (Handling σ) :=
  match ObjectId.ofSegment? segment with
  | none => .ok (server.respond number .badPath)
  | some id => do
    let (server, outcome, serviced) ← server.act (Action.destroy id)
    let response := match outcome with
      | .ok direction => Response.released id direction
      | .error refusal => .ofRefusal refusal
    return (server, [(number, response)], serviced)

/-- Shows the queue of a direction. -/
def observe (server : Server σ) (segment : List UInt8) : Except Overflow Response :=
  match Direction.ofSegment? segment with
  | none => .ok .badPath
  | some direction =>
    match server.controller.snapshot direction with
    | .ok snapshot => .ok (.ofSnapshot snapshot)
    | .error (.refused refusal) => .ok (.ofRefusal refusal)
    | .error (.overflow kind) => .error kind

/-- Serves a request. -/
def serve (server : Server σ) (number : Nat) (request : Request) :
    Except Overflow (Handling σ) :=
  match Route.ofPath request.path with
  | none => .ok (server.respond number .unknownPath)
  | some route =>
    if route.allows request.method then
      match route with
      | .objects segment => server.post number request segment
      | .object segment => server.release number segment
      | .queue segment => do
        let response ← server.observe segment
        let shown := if request.method = .head then response.withoutBody else response
        return server.respond number shown
    else .ok (server.respond number .methodNotAllowed)

/-- Handles what came over a connection, which may not be a request that is understood.  Clients
whose requisitions are serviced meanwhile are left waiting. -/
def handle (server : Server σ) (number : Nat) (octets : List UInt8) :
    Except Overflow (Handling σ) :=
  match Request.read octets with
  | .ok request => server.serve number request
  | .error fault => .ok (server.respond number (.ofFault fault))

/-- Handles what came over a connection, and lets all creations go on that can: the responses to
the request, and to requests before it. -/
def receive (server : Server σ) (number : Nat) (octets : List UInt8) :
    Except Overflow (Server σ × List Numbered) := do
  let (server, responses, serviced) ← server.handle number octets
  let (server, later) ← server.resumeAll serviced
  return (server, responses ++ later)

/-- Gives up the creations of some clients and tells them. -/
def abandon (server : Server σ) : List WaitingClient → Except Overflow (Server σ × List Numbered)
  | [] => .ok (server, [])
  | client :: rest => do
    let giveUp : Action σ Unit := do
      Action.note (.creationAbandoned client.creation.object.direction)
      Action.abandonCreation client.creation
    let (server, _, _) ← (server.unlist client).act giveUp
    let (server, later) ← server.abandon rest
    return (server, (client.request, .shuttingDown) :: later)

/-- Shuts down: no creation waits any longer. -/
def shutDown (server : Server σ) : Except Overflow (Server σ × List Numbered) :=
  server.abandon server.waiting

end Server

end Admission
