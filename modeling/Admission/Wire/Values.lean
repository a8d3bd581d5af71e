import Admission.CreateParams
import Admission.Magnitude.Packed
import Admission.Snapshot
import Admission.Wire.Basic

/-!
# Values on the wire

Enumerations travel as the number of the variant, a magnitude as an octet string that its
packed form fills exactly, an identifier as an octet string of length sixteen.  A slot
that is read is never one that could not be in use: its version is made odd, and the
index of no requisition has version one.
-/

namespace Admission

open Wire (Reader)

namespace Wire

/-- The number of a variant. -/
def variant (number : Nat) : List UInt8 := Leb128.encode number

end Wire

/-! ## Enumerations -/

instance : Wire Direction where
  write
    | .inbound => .ok (Wire.variant 0)
    | .outbound => .ok (Wire.variant 1)
  read := do
    match ← Reader.variant with
    | 0 => return .inbound
    | 1 => return .outbound
    | _ => Reader.fail .noSuchValue

instance : Wire Medium where
  write
    | .file => .ok (Wire.variant 0)
    | .bulk => .ok (Wire.variant 1)
    | .heap => .ok (Wire.variant 2)
  read := do
    match ← Reader.variant with
    | 0 => return .file
    | 1 => return .bulk
    | 2 => return .heap
    | _ => Reader.fail .noSuchValue

instance : Wire SourceKind where
  write
    | .file => .ok (Wire.variant 0)
    | .bulk => .ok (Wire.variant 1)
    | .heap => .ok (Wire.variant 2)
    | .object => .ok (Wire.variant 3)
  read := do
    match ← Reader.variant with
    | 0 => return .file
    | 1 => return .bulk
    | 2 => return .heap
    | 3 => return .object
    | _ => Reader.fail .noSuchValue

/-! ## Numbers and identifiers -/

instance : Wire Magnitude where
  write magnitude :=
    match magnitude.pack with
    | .ok packed => .ok (Wire.octetString packed)
    | .error _ => .error .unpackable
  read := do
    let octets ← Reader.octetString
    match Magnitude.unpack octets with
    | .ok (magnitude, count) =>
      if count = octets.length then return magnitude else Reader.fail .noSuchValue
    | .error _ => Reader.fail .noSuchValue

instance : Wire Space where
  write space := do
    return (← Wire.write space.file) ++ (← Wire.write space.bulk) ++ (← Wire.write space.heap)
  read := do
    let file ← Wire.read
    let bulk ← Wire.read
    let heap ← Wire.read
    return ⟨file, bulk, heap⟩

instance : Wire ObjectId where
  write id := .ok (Wire.octetString id.octets)
  read := do
    match ObjectId.ofOctets? (← Reader.octetString) with
    | some id => return id
    | none => Reader.fail .noSuchValue

instance : Wire Priority where
  write priority := .ok [priority.coarse, priority.fine]
  read := do
    let coarse ← Wire.read
    let fine ← Wire.read
    return ⟨coarse, fine⟩

instance : Wire SlotId where
  write slot := do return (← Wire.write slot.index) ++ (← Wire.write slot.version)
  read := do
    let index ← Wire.read
    let version ← Wire.read
    return if index = SlotId.nullIndex then SlotId.null else SlotId.ofParts index version

/-! ## Sources and parameters -/

instance : Wire Location where
  write
    | .handle medium number => do return (← Wire.write medium) ++ (← Wire.write number)
    | .object id => do return Wire.variant 3 ++ (← Wire.write id)
  read := do
    match ← (Wire.read : Reader SourceKind) with
    | .file => return .handle .file (← Wire.read)
    | .bulk => return .handle .bulk (← Wire.read)
    | .heap => return .handle .heap (← Wire.read)
    | .object => return .object (← Wire.read)

instance : Wire Source where
  write source := do
    return (← Wire.write source.location) ++ (← Wire.write source.offset)
      ++ (← Wire.write source.length)
  read := do
    let location ← Wire.read
    let offset ← Wire.read
    let length ← Wire.read
    return ⟨location, offset, length⟩

instance : Wire CreateParams where
  write params := do
    return (← Wire.write params.kind) ++ (← Wire.write params.location)
      ++ (← Wire.write params.offset) ++ (← Wire.write params.length)
      ++ (← Wire.write params.coarse) ++ (← Wire.write params.fine)
      ++ (← Wire.write params.wait)
  read := do
    let kind ← Wire.read
    let location ← Wire.read
    let offset ← Wire.read
    let length ← Wire.read
    let coarse ← Wire.read
    let fine ← Wire.read
    let wait ← Wire.read
    return ⟨kind, location, offset, length, coarse, fine, wait⟩

/-! ## Snapshots -/

instance : Wire MediumUsage where
  write usage := do
    return (← Wire.write usage.medium) ++ (← Wire.write usage.capacity)
      ++ (← Wire.write usage.occupancy)
  read := do
    let medium ← Wire.read
    let capacity ← Wire.read
    let occupancy ← Wire.read
    return ⟨medium, capacity, occupancy⟩

instance : Wire QueuedRequisition where
  write entry := do
    return (← Wire.write entry.slot) ++ (← Wire.write entry.priority)
      ++ (← Wire.write entry.needed) ++ (← Wire.write entry.blocking)
      ++ (← Wire.write entry.serviced)
  read := do
    let slot ← Wire.read
    let priority ← Wire.read
    let needed ← Wire.read
    let blocking ← Wire.read
    let serviced ← Wire.read
    return ⟨slot, priority, needed, blocking, serviced⟩

instance : Wire Snapshot where
  write snapshot := do
    return (← Wire.write snapshot.direction) ++ (← Wire.write snapshot.media)
      ++ (← Wire.write snapshot.entries)
  read := do
    let direction ← Wire.read
    let media ← Wire.read
    let entries ← Wire.read
    return ⟨direction, media, entries⟩

/-! ## Refusals of a store -/

instance : Wire StoreError where
  write
    | .notFound object => do return Wire.variant 0 ++ (← Wire.write object)
    | .outOfRange offset length total => do
      return Wire.variant 1 ++ (← Wire.write offset) ++ (← Wire.write length)
        ++ (← Wire.write total)
    | .insufficient medium => do return Wire.variant 2 ++ (← Wire.write medium)
    | .backend report => do return Wire.variant 3 ++ (← Wire.write report)
  read := do
    match ← Reader.variant with
    | 0 => return .notFound (← Wire.read)
    | 1 => return .outOfRange (← Wire.read) (← Wire.read) (← Wire.read)
    | 2 => return .insufficient (← Wire.read)
    | 3 => return .backend (← Wire.read)
    | _ => Reader.fail .noSuchValue

end Admission
