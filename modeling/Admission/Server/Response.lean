import Admission.Controller.Creation
import Admission.Server.Request
import Admission.Wire.Values

/-!
# Responses of the server

A response has a status and a body: a line of text, or the wire form of a snapshot.
Requests that never reach the controller are turned away with a status alone.
-/

namespace Admission.Server

/-- What a response carries. -/
inductive Content where
  | text (text : String)
  | octets (octets : List UInt8)
  deriving DecidableEq

/-- What the server sends back: a status, and what comes with it. -/
structure Response where
  status : Nat
  body : Option Content
  deriving DecidableEq

namespace Response

/-- A status without a body. -/
def bare (status : Nat) : Response := ⟨status, none⟩

/-- A line of text. -/
def line (status : Nat) (text : String) : Response := ⟨status, some (.text (text ++ "\n"))⟩

/-- The wire form of a value. -/
def octets (octets : List UInt8) : Response := ⟨200, some (.octets octets)⟩

/-! ## Requests that are turned away -/

/-- The response to what is not understood as a request. -/
def ofFault : Fault → Response
  | .malformed => bare 400
  | .targetTooLong => bare 414
  | .tooLarge => bare 431

/-- There is nothing under the path. -/
def unknownPath : Response := bare 404

/-- There is something under the path, of which the request asks what cannot be asked. -/
def methodNotAllowed : Response := bare 405

/-- The path names no direction or no object. -/
def badPath : Response := bare 400

/-- The body is not declared to be a form. -/
def notForm : Response := bare 415

/-- The body is not whole. -/
def badBody : Response := bare 400

/-- The body has more octets than the server takes in. -/
def bodyTooLong : Response := bare 413

/-- The form does not hold the parameters of a creation. -/
def badForm : Response := bare 422

/-! ## Answers of the controller -/

/-- The status of a refusal tells whether the request, the object or the server is at fault. -/
def refusalStatus : Refusal → Nat
  | .invalidArgument _ => 400
  | .exhausted _ => 429
  | .store (.notFound _) => 404
  | .store (.outOfRange ..) => 400
  | .store (.insufficient _) => 500
  | .store (.backend _) => 500

/-- A refusal is passed on to the client under its status. -/
def ofRefusal (refusal : Refusal) : Response := line (refusalStatus refusal) refusal.message

/-- A client whose location cannot be read is told so. -/
def ofLocationError (error : LocationError) : Response := line 400 error.message

/-- The answer to a creation that has come to an end: the identifier of the object, or why there is
none. -/
def ofCreation : Creation → Response
  | .created id => line 201 id.text
  | .notCreated => line 503 "no object created"
  | .interrupted => line 409 "creation interrupted"

/-- The answer to a creation that still waits when the server shuts down. -/
def shuttingDown : Response := line 503 "shutting down"

/-- The answer to a release of an object that was there. -/
def released (id : ObjectId) (direction : Direction) : Response :=
  line 200 s!"{id} released from {direction}"

/-- A snapshot is shown in its wire form, if it has one. -/
def ofSnapshot (snapshot : Snapshot) : Response :=
  match Wire.encode snapshot with
  | .ok encoded => octets encoded
  | .error error => line 500 error.message

/-- The same response without its body, for a request that asks for no more. -/
def withoutBody (response : Response) : Response := bare response.status

end Response

end Admission.Server
