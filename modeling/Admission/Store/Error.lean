import Admission.Medium
import Admission.ObjectId

/-!
# Refusals of a store
-/

namespace Admission

/-- Why a store refuses a call. -/
inductive StoreError where
  | notFound (object : ObjectId)
  | outOfRange (offset length total : UInt64)
  | insufficient (medium : Medium)
  | backend (report : String)
  deriving DecidableEq

/-- What is said of a call that the store refuses. -/
def StoreError.message : StoreError → String
  | notFound object => s!"object {object} not found"
  | outOfRange offset length total => s!"range {offset}+{length} exceeds object length {total}"
  | insufficient medium => s!"not enough {medium} space"
  | backend report => s!"storage backend: {report}"

instance : ToString StoreError := ⟨StoreError.message⟩

end Admission
