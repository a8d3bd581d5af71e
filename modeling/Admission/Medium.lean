import Admission.Text.Name

/-!
# Media

Objects occupy space in files, in bulk storage and in the storage heap itself.
-/

namespace Admission

/-- What data is kept on.  Each medium has a capacity of its own in either direction. -/
inductive Medium where
  | file
  | bulk
  | heap
  deriving DecidableEq, Repr

namespace Medium

/-- Every medium, in the order in which capacities are checked and reported. -/
def all : List Medium := [file, bulk, heap]

/-- The name by which clients know a medium. -/
def name : Medium → String
  | file => "file"
  | bulk => "bulk"
  | heap => "heap"

instance : ToString Medium := ⟨name⟩

/-- The name with a capital letter, as log records show it. -/
def title : Medium → String
  | file => "File"
  | bulk => "Bulk"
  | heap => "Heap"

/-- The medium of that name. -/
def parse (ignoreCase : Bool) (text : String) : Except UnknownName Medium :=
  Name.find name all ignoreCase text

end Medium

end Admission
