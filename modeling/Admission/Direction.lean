import Admission.Text.Name

/-!
# Directions

Objects travel inbound or outbound.  Each direction has capacities and a queue of its own.
-/

namespace Admission

/-- The way that data goes.  Capacities, queues and objects are those of one direction each. -/
inductive Direction where
  | inbound
  | outbound
  deriving DecidableEq, Repr

namespace Direction

/-- Both directions, in the order in which they are stored. -/
def all : List Direction := [inbound, outbound]

/-- The name by which clients know a direction. -/
def name : Direction → String
  | inbound => "inbound"
  | outbound => "outbound"

instance : ToString Direction := ⟨name⟩

/-- The direction of that name. -/
def parse (ignoreCase : Bool) (text : String) : Except UnknownName Direction :=
  Name.find name all ignoreCase text

end Direction

end Admission
