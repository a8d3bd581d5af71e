/-!
# Names of enumerated values

Directions, media and source kinds are written by their lower-case names.  A reader may
ask for letters to be compared without regard to case, which concerns the ASCII letters
only.
-/

namespace Admission

/-- A text that names no value of the enumeration it was read as. -/
structure UnknownName where
  text : String
  deriving DecidableEq, Repr

/-- What is said of a text that is no name. -/
def UnknownName.message (unknown : UnknownName) : String :=
  s!"invalid variant: {unknown.text}"

namespace Name

/-- Whether two texts are the same, ASCII letters being compared without case if asked. -/
def same (ignoreCase : Bool) (left right : String) : Bool :=
  if ignoreCase then left.toList.map Char.toLower == right.toList.map Char.toLower
  else left == right

/-- The first candidate whose name is `text`. -/
def find {α : Type} (name : α → String) (candidates : List α) (ignoreCase : Bool)
    (text : String) : Except UnknownName α :=
  match candidates.find? fun candidate => same ignoreCase (name candidate) text with
  | some candidate => .ok candidate
  | none => .error ⟨text⟩

end Name

end Admission
