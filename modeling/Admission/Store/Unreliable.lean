import Admission.Store.Basic

/-!
# A store that fails on demand

Every call of a store can be made to fail.  A failing call does nothing.
-/

namespace Admission

/-- The calls of a store. -/
inductive StoreCall where
  | capacity
  | occupancy
  | sliceSpace
  | create
  | destroy
  deriving DecidableEq, Repr

/-- The name of a call in the report of its failure. -/
def StoreCall.name : StoreCall → String
  | capacity => "max"
  | occupancy => "occupancy"
  | sliceSpace => "aggregate"
  | create => "create"
  | destroy => "destroy"

/-- A store, and the calls of it that fail. -/
structure Unreliable (σ : Type) where
  store : σ
  failing : List StoreCall := []

namespace Unreliable

variable {σ : Type}

/-- Makes a call fail, or work again. -/
def setFailing (unreliable : Unreliable σ) (call : StoreCall) (fails : Bool) : Unreliable σ :=
  let others := unreliable.failing.filter fun other => other ≠ call
  { unreliable with failing := if fails then call :: others else others }

/-- The failure of a call. -/
def failure (call : StoreCall) : Failure StoreError :=
  .refused (.backend s!"injected {call.name}")

/-- What a call answers, unless it fails. -/
def guarded {α : Type} (unreliable : Unreliable σ) (call : StoreCall)
    (answer : σ → Checked StoreError α) : Checked StoreError α :=
  if call ∈ unreliable.failing then .error (failure call) else answer unreliable.store

/-- What a call changes, unless it fails. -/
def guardedChange {α : Type} (unreliable : Unreliable σ) (call : StoreCall)
    (change : σ → Change σ StoreError α) : Change (Unreliable σ) StoreError α :=
  if call ∈ unreliable.failing then .none unreliable (failure call)
  else
    let changed := change unreliable.store
    { store := { unreliable with store := changed.store }
      notes := changed.notes
      result := changed.result }

instance [Store σ] : Store (Unreliable σ) where
  capacity unreliable direction medium :=
    unreliable.guarded .capacity fun store => Store.capacity store direction medium
  occupancy unreliable direction medium :=
    unreliable.guarded .occupancy fun store => Store.occupancy store direction medium
  sliceSpace unreliable id offset length :=
    unreliable.guarded .sliceSpace fun store => Store.sliceSpace store id offset length
  create unreliable id object :=
    unreliable.guardedChange .create fun store => Store.create store id object
  destroy unreliable id :=
    unreliable.guardedChange .destroy fun store => Store.destroy store id

end Unreliable

end Admission
