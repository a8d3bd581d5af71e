import Admission.Text.Ascii
import Admission.Text.Utf8

/-!
# Heads of requests

A request begins with a head: a line with the method, the target and the version, then a
line for every field, then an empty line.  A line ends with a line feed, before which a
carriage return may stand.  Empty lines in front of the head are skipped.
-/

namespace Admission.Server

/-- Why a request is not understood. -/
inductive Fault where
  | malformed
  | targetTooLong
  /-- A head with too much in it, or a body that is too long to be counted. -/
  | tooLarge
  deriving DecidableEq, Repr

/-- The versions that are understood. -/
inductive Version where
  | http10
  | http11
  deriving DecidableEq, Repr

/-- A field of a head, with its name in lower case and no blanks around its value. -/
structure Field where
  name : List UInt8
  value : List UInt8
  deriving DecidableEq, Repr

/-- The head of a request.  Nothing but its form has been looked at. -/
structure Head where
  method : List UInt8
  target : List UInt8
  version : Version
  fields : List Field
  deriving DecidableEq, Repr

namespace Head

/-! ## Lines -/

/-- What follows empty lines. -/
def skipEmptyLines : List UInt8 → List UInt8
  | 0x0d :: 0x0a :: rest => skipEmptyLines rest
  | 0x0a :: rest => skipEmptyLines rest
  | octets => octets

/-- What follows the end of a line. -/
def lineEnd? : List UInt8 → Option (List UInt8)
  | 0x0d :: 0x0a :: rest => some rest
  | 0x0a :: rest => some rest
  | _ => none

/-- What follows a certain octet. -/
def after? (expected : UInt8) : List UInt8 → Option (List UInt8)
  | octet :: rest => if octet = expected then some rest else none
  | [] => none

/-- The longest run of certain octets, at least one, and what follows it. -/
def run? (allowed : UInt8 → Bool) (octets : List UInt8) : Option (List UInt8 × List UInt8) :=
  let run := octets.takeWhile allowed
  if run.isEmpty then none else some (run, octets.dropWhile allowed)

/-! ## The request line -/

/-- Whether an octet may stand in a token, such as a method or the name of a field. -/
def allowedInToken (octet : UInt8) : Bool :=
  Ascii.isAlphanumeric octet || Ascii.isOneOf "!#$%&'*+-.^_`|~" octet

/-- The version at the beginning of octets, and what follows it. -/
def version? (octets : List UInt8) : Option (Version × List UInt8) :=
  if (Utf8.encode "HTTP/1.1").isPrefixOf octets then some (.http11, octets.drop 8)
  else if (Utf8.encode "HTTP/1.0").isPrefixOf octets then some (.http10, octets.drop 8)
  else none

/-- The request line, as a head without fields, and what follows it. -/
def requestLine? (octets : List UInt8) : Option (Head × List UInt8) := do
  let (method, rest) ← run? allowedInToken (skipEmptyLines octets)
  let rest ← after? 0x20 rest
  let (target, rest) ← run? Ascii.isVisible rest
  let _ ← Utf8.decode? target
  let rest ← after? 0x20 rest
  let (version, rest) ← version? rest
  let rest ← lineEnd? rest
  return (⟨method, target, version, []⟩, rest)

/-! ## Fields -/

/-- A field, and what follows its line. -/
def field? (octets : List UInt8) : Option (Field × List UInt8) := do
  let (name, rest) ← run? allowedInToken octets
  let rest ← after? 0x3a rest
  let value := rest.takeWhile Ascii.isPrintable
  let rest ← lineEnd? (rest.dropWhile Ascii.isPrintable)
  return (⟨name.map Ascii.lower, Ascii.trim value⟩, rest)

/-- A head has no more fields than this. -/
def fieldLimit : Nat := 100

/-- The fields up to the empty line, at most so many, and what follows it.  One field too
many must be well formed to be counted. -/
def readFields (octets : List UInt8) : Nat → Except Fault (List Field × List UInt8)
  | 0 =>
    match lineEnd? octets with
    | some rest => .ok ([], rest)
    | none => if (field? octets).isSome then .error .tooLarge else .error .malformed
  | count + 1 =>
    match lineEnd? octets with
    | some rest => .ok ([], rest)
    | none =>
      match field? octets with
      | some (field, rest) => do
        let (others, rest) ← readFields rest count
        return (field :: others, rest)
      | none => .error .malformed

/-- A head has no more octets than this. -/
def sizeLimit : Nat := 417792

/-- Reads a head.  What follows it belongs to the body. -/
def read (octets : List UInt8) : Except Fault (Head × List UInt8) :=
  match requestLine? octets with
  | some (line, rest) => do
    let (fields, rest) ← readFields rest fieldLimit
    if sizeLimit < octets.length - rest.length then .error .tooLarge
    else return ({ line with fields := fields }, rest)
  | none => .error .malformed

/-- The name of a field has no more octets than this. -/
def nameLimit : Nat := 65535

/-- The values of the fields of that name, in order. -/
def values (head : Head) (name : String) : List (List UInt8) :=
  (head.fields.filter fun field => field.name = Utf8.encode name).map Field.value

end Head

end Admission.Server
