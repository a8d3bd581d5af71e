import Admission.Server.Head
import Admission.Text.Form
import Admission.Text.Numeral

/-!
# Bodies of requests

A body has the length that the head declares, and is empty if none is declared.  It may
also come in chunks, each behind a line with its length.  A chunk of length zero is the
last one; fields may follow it, up to an empty line.  Lines of a body end with a carriage
return and a line feed.
-/

namespace Admission.Server

/-- What was read of a body. -/
structure Body where
  octets : List UInt8
  /-- Nothing is missing, and its form is right. -/
  whole : Bool
  deriving DecidableEq, Repr

namespace Body

/-! ## Framing -/

/-- How the extent of a body is told. -/
inductive Framing where
  | counted (length : Nat)
  | chunked
  deriving DecidableEq, Repr

/-- What the fields of a head declare about the body. -/
structure Declared where
  length : Option Nat := none
  /-- There is a coding, and whether the last one is that of chunks. -/
  chunked : Option Bool := none

/-- A declared length must be below this. -/
def lengthLimit : Nat := 18446744073709551614

/-- The length that a value declares, if it fits into a word. -/
def declaredLength? (value : List UInt8) : Option Nat := do
  let length ← Numeral.ofDigits? (← Ascii.text? value).toList
  if length < 18446744073709551616 then some length else none

/-- Whether the last of the codings that a value lists is that of chunks. -/
def endsChunked (value : List UInt8) : Bool :=
  let last := (value.reverse.takeWhile (· ≠ 0x2c)).reverse
  (Ascii.text? value).isSome && (Ascii.trim last).map Ascii.lower == Utf8.encode "chunked"

/-- Takes in a length.  Lengths behind a coding do not count, and others must agree. -/
def Declared.addLength (declared : Declared) (value : List UInt8) : Except Fault Declared :=
  if declared.chunked.isSome then .ok declared
  else
    match declaredLength? value, declared.length with
    | none, _ => .error .malformed
    | some length, none =>
      if length < lengthLimit then .ok { declared with length := some length }
      else .error .tooLarge
    | some length, some before => if length = before then .ok declared else .error .malformed

/-- Takes in codings, which the older version does not know. -/
def Declared.addCoding (version : Version) (declared : Declared) (value : List UInt8) :
    Except Fault Declared :=
  match version with
  | .http10 => .error .malformed
  | .http11 => .ok { declared with chunked := some (endsChunked value) }

/-- Takes in a field. -/
def Declared.add (version : Version) (declared : Declared) (field : Field) :
    Except Fault Declared :=
  if field.name = Utf8.encode "content-length" then declared.addLength field.value
  else if field.name = Utf8.encode "transfer-encoding" then
    declared.addCoding version field.value
  else .ok declared

/-- The framing of the body behind a head.  A coding goes before a length, and the last one
must be that of chunks. -/
def framing (head : Head) : Except Fault Framing := do
  let declared ← head.fields.foldlM (Declared.add head.version) {}
  match declared.chunked with
  | some true => return .chunked
  | some false => .error .malformed
  | none => return .counted (declared.length.getD 0)

/-! ## Chunks -/

/-- What follows a carriage return and a line feed. -/
def lineBreak? : List UInt8 → Option (List UInt8)
  | 0x0d :: 0x0a :: rest => some rest
  | _ => none

/-- The line in front of a chunk. -/
structure ChunkLine where
  length : Nat
  /-- What stands between a semicolon and the end of the line. -/
  remark : List UInt8

/-- The number that hexadecimal digits write. -/
def hexNumber? (digits : List UInt8) : Option Nat :=
  (digits.mapM Form.hexValue?).map fun values =>
    values.foldl (fun number value => number * 16 + value) 0

/-- Whether an octet may stand in a remark. -/
def allowedInRemark (octet : UInt8) : Bool := !Ascii.isOneOf "\r\n" octet

/-- The line in front of a chunk, and what follows it. -/
def chunkLine? (octets : List UInt8) : Option (ChunkLine × List UInt8) := do
  let (digits, rest) ← Head.run? (fun octet => (Form.hexValue? octet).isSome) octets
  let length ← hexNumber? digits
  if length < 18446744073709551616 then
    let (remark, rest) := match rest.dropWhile Ascii.isBlank with
      | 0x3b :: rest => (rest.takeWhile allowedInRemark, rest.dropWhile allowedInRemark)
      | rest => ([], rest)
    return (⟨length, remark⟩, ← lineBreak? rest)
  else none

/-- The lines before an empty one, fewer than `count`. -/
def trailerLines? (octets : List UInt8) : Nat → Option (List (List UInt8))
  | 0 => none
  | count + 1 =>
    match lineBreak? octets with
    | some _ => some []
    | none => do
      let (line, rest) ← Head.run? (· ≠ 0x0d) octets
      return line :: (← trailerLines? (← lineBreak? rest) count)

/-- The fields behind the last chunk take fewer octets than this. -/
def trailerLimit : Nat := 16384

/-- Whether octets behind the last chunk begin with fields and an empty line.  There must
not be more fields than lines. -/
def endsWell (octets : List UInt8) : Bool :=
  match trailerLines? octets Head.fieldLimit with
  | none => false
  | some [] => true
  | some lines =>
    let trailer := (lines ++ [[]]).flatMap fun line => line ++ [0x0d, 0x0a]
    trailer.length < trailerLimit && (Head.readFields trailer lines.length).isOk

/-- The remarks of a body take fewer octets than this. -/
def remarkLimit : Nat := 16384

/-- Reads at most `count` chunks, behind others with so many octets of remarks. -/
def readChunks (octets : List UInt8) (remarks : Nat) : Nat → Body
  | 0 => ⟨[], false⟩
  | count + 1 =>
    match chunkLine? octets with
    | none => ⟨[], false⟩
    | some (line, rest) =>
      let remarks := remarks + line.remark.length
      if remarkLimit ≤ remarks then ⟨[], false⟩
      else if line.length = 0 then ⟨[], endsWell rest⟩
      else
        let chunk := rest.take line.length
        match lineBreak? (rest.drop line.length) with
        | none => ⟨chunk, false⟩
        | some rest =>
          let others := readChunks rest remarks count
          ⟨chunk ++ others.octets, others.whole⟩

/-- Reads the body at the beginning of octets. -/
def read (octets : List UInt8) : Framing → Body
  | .counted length => ⟨octets.take length, length ≤ octets.length⟩
  | .chunked => readChunks octets 0 octets.length

end Body

end Admission.Server
