import Admission.Journal
import Admission.Source

/-!
# Stores

The controller does not keep objects itself.  It asks a store for capacities and
occupancies and hands it the objects it has admitted.  Every call of a store is atomic,
may be refused, and refuses by itself what does not fit only if the space was not reserved
before.

The identifier of a new object is chosen by the caller, who never chooses one twice.
-/

namespace Admission

/-- What a change asked of a store left behind: the store after it, what was noted for the
log, and the result. -/
structure Change (σ ε α : Type) where
  store : σ
  notes : List Note
  result : Checked ε α

namespace Change

variable {σ ε α : Type}

/-- A change that did not take place. -/
def none (store : σ) (failure : Failure ε) : Change σ ε α := ⟨store, [], .error failure⟩

end Change

/-- Stores of type `σ`, as seen by admission control. -/
class Store (σ : Type) where
  /-- The most that objects of a direction may take on a medium. -/
  capacity : σ → Direction → Medium → Checked StoreError Magnitude
  /-- What objects of a direction take on a medium now. -/
  occupancy : σ → Direction → Medium → Checked StoreError Magnitude
  /-- The space of `length` bytes of an object from `offset` on. -/
  sliceSpace : σ → ObjectId → (offset length : UInt64) → Checked StoreError Space
  /-- Adds an object under an identifier. -/
  create : σ → ObjectId → NewObject → Change σ StoreError Unit
  /-- Removes an object and tells the direction whose occupancy decreased. -/
  destroy : σ → ObjectId → Change σ StoreError Direction

end Admission
