import Admission.Store.Error

/-!
# Refusals of the controller
-/

namespace Admission

/-- What can be wrong with a request. -/
inductive InvalidArgument where
  | negativeSpace
  | emptyExtent
  deriving DecidableEq, Repr

/-- What is said of the argument. -/
def InvalidArgument.message : InvalidArgument → String
  | negativeSpace => "needed space must not be negative"
  | emptyExtent => "initial extent must not be empty"

/-- Why the controller refuses a call. -/
inductive Refusal where
  | invalidArgument (argument : InvalidArgument)
  | exhausted (limit : Nat)
  | store (error : StoreError)
  deriving DecidableEq

/-- What a caller is told; the reason of the store is passed on. -/
def Refusal.message : Refusal → String
  | invalidArgument argument => s!"invalid argument: {argument.message}"
  | exhausted limit => s!"all {limit} requisition slots are in use"
  | store error => s!"heap error: {error}"

instance : ToString Refusal := ⟨Refusal.message⟩

end Admission
