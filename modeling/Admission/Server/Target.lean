import Admission.Text.Ascii
import Admission.Text.Utf8

/-!
# Request targets

The target of a request is a path with an optional query and an optional fragment.  It may
stand behind a scheme and an authority, as clients of a proxy write it.  An authority alone
is a target too, one without a path.  All that the server takes from a target is the path.

Octets that are not ASCII may stand in a path and in a query, but not in a scheme or in an
authority.
-/

namespace Admission.Server.Target

/-! ## Path and query -/

/-- Whether an octet may stand in a path. -/
def allowedInPath (octet : UInt8) : Bool := !Ascii.isOneOf "<>`" octet

/-- Whether an octet may stand in a query. -/
def allowedInQuery (octet : UInt8) : Bool := !Ascii.isOneOf "<>\"" octet

/-- The path before a query and a fragment, if neither it nor the query has an octet that
must not stand in it. -/
def beforeQuery? (octets : List UInt8) : Option (List UInt8) :=
  let whole := octets.takeWhile (· ≠ 0x23)
  let path := whole.takeWhile (· ≠ 0x3f)
  let query := (whole.dropWhile (· ≠ 0x3f)).drop 1
  if path.all allowedInPath ∧ query.all allowedInQuery then some path else none

/-! ## Scheme -/

/-- Whether an octet may stand in a scheme. -/
def allowedInScheme (octet : UInt8) : Bool :=
  Ascii.isAlphanumeric octet || Ascii.isOneOf "+-.~" octet

/-- What separates a scheme from what follows it. -/
def schemeEnd : List UInt8 := Utf8.encode "://"

/-- Cuts a target into its scheme, if it has one, and what follows. -/
def cutScheme (octets : List UInt8) : Option (List UInt8) × List UInt8 :=
  let scheme := octets.takeWhile allowedInScheme
  let rest := octets.dropWhile allowedInScheme
  if schemeEnd.isPrefixOf rest then (some scheme, rest.drop schemeEnd.length)
  else (none, octets)

/-- A scheme has no more octets than this. -/
def schemeLimit : Nat := 64

/-! ## Authority -/

/-- Whether an octet may stand in an authority, beside those that have a meaning there. -/
def allowedInAuthority (octet : UInt8) : Bool :=
  Ascii.isAlphanumeric octet || Ascii.isOneOf "!$&'()*+,-.;=_~" octet

/-- What was seen of an authority. -/
structure Seen where
  /-- Colons since the user or the bracketed address ended. -/
  colons : Nat := 0
  /-- An opening bracket. -/
  opened : Bool := false
  /-- A closing bracket. -/
  closed : Bool := false
  /-- A percent sign since the user or the bracketed address ended. -/
  percent : Bool := false
  /-- The octet seen last ends the user. -/
  userEnded : Bool := false

/-- An address in brackets has no more colons than this. -/
def colonLimit : Nat := 8

/-- Looks at one more octet of an authority. -/
def Seen.next? (seen : Seen) (octet : UInt8) : Option Seen :=
  let seen := { seen with userEnded := false }
  match Char.ofNat octet.toNat with
  | ':' => if seen.colons < colonLimit then some { seen with colons := seen.colons + 1 } else none
  | '[' => if seen.percent || seen.opened then none else some { seen with opened := true }
  | ']' =>
    if seen.opened && !seen.closed then
      some { seen with closed := true, colons := 0, percent := false }
    else none
  | '@' => some { seen with colons := 0, percent := false, userEnded := true }
  | '%' => some { seen with percent := true }
  | _ => if allowedInAuthority octet then some seen else none

/-- Whether an authority may end here: brackets are paired, at most a port follows the host,
the host is there and has no percent sign. -/
def Seen.complete (seen : Seen) : Bool :=
  seen.opened == seen.closed && seen.colons ≤ 1 && !seen.percent && !seen.userEnded

/-- Whether octets form an authority. -/
def isAuthority (octets : List UInt8) : Bool :=
  match octets.foldlM Seen.next? {} with
  | some seen => seen.complete
  | none => false

/-! ## Targets -/

/-- Whether an octet is the first one behind an authority. -/
def endsAuthority (octet : UInt8) : Bool := Ascii.isOneOf "/?#" octet

/-- The path of a target, if the target is well formed. -/
def path? (octets : List UInt8) : Option (List UInt8) :=
  if octets.head? = some 0x2f then beforeQuery? octets
  else
    let (scheme, rest) := cutScheme octets
    let authority := rest.takeWhile fun octet => !endsAuthority octet
    let behind := rest.dropWhile fun octet => !endsAuthority octet
    if authority.isEmpty || !isAuthority authority then none
    else
      match scheme with
      | some scheme => if scheme.length ≤ schemeLimit then beforeQuery? behind else none
      | none => if behind.isEmpty then some [] else none

end Admission.Server.Target
