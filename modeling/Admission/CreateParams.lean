import Admission.Priority
import Admission.Source
import Admission.Text.Name
import Admission.Text.Numeral
import Admission.Text.Quoted

/-!
# Parameters of a creation

A client names the initial extent of an object by the kind of its source and a text: a
numeric handle on a medium, or the identifier of an object.
-/

namespace Admission

/-- What the location of an initial extent refers to. -/
inductive SourceKind where
  | file
  | bulk
  | heap
  | object
  deriving DecidableEq, Repr

namespace SourceKind

/-- Every kind, in the order in which names are looked for. -/
def all : List SourceKind := [file, bulk, heap, object]

/-- The name by which clients know a kind. -/
def name : SourceKind → String
  | file => "file"
  | bulk => "bulk"
  | heap => "heap"
  | object => "object"

instance : ToString SourceKind := ⟨name⟩

/-- The name with a capital letter, as messages show it. -/
def title : SourceKind → String
  | file => "File"
  | bulk => "Bulk"
  | heap => "Heap"
  | object => "Object"

/-- The kind of that name. -/
def parse (ignoreCase : Bool) (text : String) : Except UnknownName SourceKind :=
  Name.find name all ignoreCase text

/-- The medium of a kind other than `object`. -/
def medium? : SourceKind → Option Medium
  | file => some .file
  | bulk => some .bulk
  | heap => some .heap
  | object => none

/-- The kind of a location on a medium. -/
def ofMedium : Medium → SourceKind
  | .file => file
  | .bulk => bulk
  | .heap => heap

end SourceKind

/-- A text that is no location of the kind it was given for. -/
structure LocationError where
  kind : SourceKind
  location : String
  deriving DecidableEq

/-- What a client is told about its location, which is shown in quotes. -/
def LocationError.message (error : LocationError) : String :=
  s!"invalid {error.kind.title} location {Quoted.quote error.location}"

namespace Location

/-- The kind of a location. -/
def kind : Location → SourceKind
  | handle medium _ => .ofMedium medium
  | object _ => .object

/-- The text of a location: the handle, or the identifier. -/
def text : Location → String
  | handle _ number => toString number
  | object id => id.text

/-- The location of that kind which `text` writes. -/
def parse? (kind : SourceKind) (text : String) : Option Location :=
  match kind.medium? with
  | some medium => (Numeral.parseUInt64? text).map (handle medium)
  | none => (ObjectId.parse? text).map object

end Location

/-- What a client asks of a new object.  Without a kind the object is created empty. -/
structure CreateParams where
  kind : Option SourceKind := none
  location : String := ""
  offset : UInt64 := 0
  length : UInt64 := 0
  coarse : UInt8 := 0
  fine : UInt8 := 0
  /-- Wait for space instead of giving up. -/
  wait : Bool := false
  deriving DecidableEq

namespace CreateParams

/-- The priority that a client asks for. -/
def priority (params : CreateParams) : Priority := ⟨params.coarse, params.fine⟩

/-- The source that the parameters name. -/
def source (params : CreateParams) : Except LocationError Source :=
  match params.kind with
  | none => .ok .empty
  | some kind =>
    match Location.parse? kind params.location with
    | some location => .ok ⟨some location, params.offset, params.length⟩
    | none => .error ⟨kind, params.location⟩

end CreateParams

end Admission
