/-!
# Slots

A requisition lives in a slot of a fixed pool.  A slot has an index, and a version that
grows every time the index is used again, so that an identifier is not given out twice.
Versions in use are odd.

`SlotPool` hands out indices from one upward; a freed index is taken again before a new
one, the last freed first.
-/

namespace Admission

/-- The handle of a requisition. -/
structure SlotId where
  index : UInt32
  version : UInt32
  odd : version.toNat % 2 = 1
  deriving DecidableEq

namespace SlotId

/-- The odd one of the two versions that differ from `version` in the last bit at most. -/
def oddVersion (version : UInt32) : UInt32 := version / 2 * 2 + 1

theorem oddVersion_odd (version : UInt32) : (oddVersion version).toNat % 2 = 1 := by
  have small := version.toNat_lt
  simp only [oddVersion, UInt32.toNat_add, UInt32.toNat_mul, UInt32.toNat_div,
    UInt32.reduceToNat]
  omega

/-- The handle with an index and the odd version next to `version`. -/
def ofParts (index version : UInt32) : SlotId := ⟨index, oddVersion version, oddVersion_odd version⟩

/-- The index that no requisition has. -/
def nullIndex : UInt32 := 4294967295

/-- The handle of no requisition. -/
def null : SlotId := ofParts nullIndex 1

/-- The handle of the next requisition at the same index. -/
def renew (slot : SlotId) : SlotId := ofParts slot.index (slot.version + 2)

/-- Index and version of a slot as events show them; the slot of no requisition has neither. -/
def text (slot : SlotId) : String :=
  if slot.index = nullIndex then "#null" else s!"#{slot.index}v{slot.version}"

instance : ToString SlotId := ⟨text⟩

end SlotId

/-- The slots of a controller. -/
structure SlotPool where
  /-- How many slots may be held at the same time. -/
  limit : Nat
  /-- Slots of the requisitions that are queued now. -/
  held : List SlotId
  /-- Slots that can be used again, the last freed first. -/
  free : List SlotId
  /-- How many indices were taken so far. -/
  opened : Nat
  deriving DecidableEq

namespace SlotPool

/-- A pool of which no slot was taken yet. -/
def ofLimit (limit : Nat) : SlotPool := ⟨limit, [], [], 0⟩

/-- How many slots are held. -/
def inUse (pool : SlotPool) : Nat := pool.held.length

/-- Takes a slot, unless all of them are held. -/
def take (pool : SlotPool) : Option (SlotId × SlotPool) :=
  if pool.limit ≤ pool.inUse then none
  else
    match pool.free with
    | slot :: free => some (slot, { pool with held := slot :: pool.held, free := free })
    | [] =>
      let slot := SlotId.ofParts (UInt32.ofNat (pool.opened + 1)) 1
      some (slot, { pool with held := slot :: pool.held, opened := pool.opened + 1 })

/-- Frees a slot that is held. -/
def release (pool : SlotPool) (slot : SlotId) : SlotPool :=
  if slot ∈ pool.held then
    { pool with held := pool.held.erase slot, free := slot.renew :: pool.free }
  else pool

end SlotPool

end Admission
