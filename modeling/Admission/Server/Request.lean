import Admission.CreateParams
import Admission.Server.Body
import Admission.Server.Target

/-!
# Requests to the server

A request that is well formed has a method, a path and a body, and may declare what the
body is.

Three resources are served: the queue of a direction, the objects of a direction, and a
single object.  A path that is one of them may still name a direction or an object that
does not exist.
-/

namespace Admission

namespace Server

/-- The methods that a resource may allow, and all others. -/
inductive Method where
  | get
  | head
  | post
  | delete
  | other
  deriving DecidableEq, Repr

/-- The method of that name; case matters. -/
def Method.ofName (name : List UInt8) : Method :=
  if name = Utf8.encode "GET" then get
  else if name = Utf8.encode "HEAD" then head
  else if name = Utf8.encode "POST" then post
  else if name = Utf8.encode "DELETE" then delete
  else other

/-- A request that was understood. -/
structure Request where
  method : Method
  path : List UInt8
  /-- What the body is declared to be. -/
  contentType : Option String
  body : Body

/-- The most octets that a target may have. -/
def targetLimit : Nat := 65534

/-- Reads a request. -/
def Request.read (octets : List UInt8) : Except Fault Request := do
  let (head, rest) ← Head.read octets
  if targetLimit < head.target.length then .error .targetTooLong
  else if head.fields.any fun field => Head.nameLimit < field.name.length then .error .tooLarge
  else
    match Target.path? head.target with
    | none => .error .malformed
    | some path =>
      let framing ← Body.framing head
      return ⟨.ofName head.method, path, (head.values "content-type").head?.bind Ascii.text?,
        Body.read rest framing⟩

/-- A resource, with the part of the path that names the direction or the object. -/
inductive Route where
  | queue (direction : List UInt8)
  | objects (direction : List UInt8)
  | object (id : List UInt8)
  deriving DecidableEq

namespace Route

/-- The segment that leads to objects. -/
def objectsSegment : List UInt8 := Utf8.encode "objects"

/-- The resource of a sequence of segments.  A single object takes precedence over the
objects of a direction named like them.  Only in front of the objects may the name of a
direction be missing. -/
def ofSegments : List (List UInt8) → Option Route
  | [name] => if name.isEmpty then none else some (queue name)
  | [first, second] =>
    if first = objectsSegment ∧ second.isEmpty = false then some (object second)
    else if second = objectsSegment then some (objects first)
    else none
  | _ => none

/-- The resource of a path. -/
def ofPath (path : List UInt8) : Option Route :=
  match Form.pieces 0x2f path with
  | [] :: segments => ofSegments segments
  | _ => none

/-- Whether a resource allows a method. -/
def allows : Route → Method → Bool
  | queue _, .get | queue _, .head => true
  | objects _, .post => true
  | object _, .delete => true
  | _, _ => false

end Route

/-- The text of a segment, if it is UTF-8. -/
def segmentText? (segment : List UInt8) : Option String :=
  Utf8.decode? (Form.percentDecode segment)

/-- The media type of a form.  Parameters may follow it. -/
def formType : String := "application/x-www-form-urlencoded"

/-- Whether the body of a request is declared to be a form. -/
def Request.hasForm (request : Request) : Bool :=
  request.contentType.any fun declared => formType.toList.isPrefixOf declared.toList

/-- The most octets that a form may have. -/
def formLimit : Nat := 2097152

end Server

/-- The direction that a segment names. -/
def Direction.ofSegment? (segment : List UInt8) : Option Direction :=
  (Server.segmentText? segment).bind fun text => (Direction.parse false text).toOption

/-- The object that a segment names. -/
def ObjectId.ofSegment? (segment : List UInt8) : Option ObjectId :=
  (Server.segmentText? segment).bind ObjectId.parse?

/-- A flag in a form. -/
def Form.flag? : String → Option Bool
  | "true" => some true
  | "false" => some false
  | _ => none

/-- The parameters of a creation in a form.  What is missing has its default, and unknown
names are ignored. -/
def CreateParams.ofForm? (form : List (String × String)) : Option CreateParams := do
  let kind ← Form.field? form "medium" none fun text =>
    (SourceKind.parse false text).toOption.map some
  let location ← Form.field? form "location" "" some
  let offset ← Form.field? form "offset" 0 Numeral.parseUInt64?
  let length ← Form.field? form "length" 0 Numeral.parseUInt64?
  let coarse ← Form.field? form "coarse" 0 Numeral.parseUInt8?
  let fine ← Form.field? form "fine" 0 Numeral.parseUInt8?
  let wait ← Form.field? form "wait" false Form.flag?
  return { kind, location, offset, length, coarse, fine, wait }

end Admission
