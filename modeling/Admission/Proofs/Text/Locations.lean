import Admission.CreateParams
import Admission.Proofs.Text.Spellings

/-!
# Texts of locations

A client names the location of a source by a kind and a text.  A text can write a handle in many
ways, with zeros and a sign in front, and spell an identifier in many ways, in groups or not and in
letters of either case (`Location.NamedBy`).  The kind decides which of the two it is taken for, and
on which medium a handle lies.

A text that is read as a location names that location, and every text that names a location is read
as it (`Location.parse?_eq_some_iff`).  The text by which a location is printed is one of those that
name it (`Location.namedBy_text`), so that nothing is lost when a location is read, printed and read
again.  `CreateParams.sources_named_faithfully` is the main statement.
-/

namespace Admission

namespace Location

variable {kind : SourceKind} {text : String} {location : Location}

/-- A text names a location: it writes the handle as a decimal number, or spells the identifier. -/
def NamedBy (text : String) : Location → Prop
  | handle _ number => Numeral.Writes text number.toNat
  | object id => text.toList.map Char.toLower ∈ id.spellings

/-- The location that is read from a text is the one of the given kind that the text names. -/
theorem parse?_eq_some_iff :
    parse? kind text = some location ↔ location.kind = kind ∧ location.NamedBy text := by
  have number (medium : Medium) :
      (Numeral.parseUInt64? text).map (handle medium) = some location ↔
        location.kind = .ofMedium medium ∧ location.NamedBy text := by
    rw [Option.map_eq_some_iff]
    constructor
    · rintro ⟨number, read, rfl⟩
      exact ⟨rfl, Numeral.parseUInt64?_iff.mp read⟩
    · rintro ⟨same, named⟩
      cases location with
      | handle own number =>
          have medium : own = medium := by
            cases own <;> cases medium <;> first | rfl | cases same
          subst medium
          exact ⟨number, Numeral.parseUInt64?_iff.mpr named, rfl⟩
      | object id => cases medium <;> cases same
  cases kind with
  | file => exact number .file
  | bulk => exact number .bulk
  | heap => exact number .heap
  | object =>
      change (ObjectId.parse? text).map object = some location ↔ _
      rw [Option.map_eq_some_iff]
      constructor
      · rintro ⟨id, read, rfl⟩
        exact ⟨rfl, ObjectId.parse?_iff.mp read⟩
      · rintro ⟨same, named⟩
        cases location with
        | handle medium number => cases medium <;> cases same
        | object id => exact ⟨id, ObjectId.parse?_iff.mpr named, rfl⟩

/-- The text by which a location is printed names it. -/
theorem namedBy_text (location : Location) : location.NamedBy location.text := by
  cases location with
  | handle medium number => exact Numeral.writes_toString number
  | object id => exact ObjectId.parse?_iff.mp id.parse?_text

end Location

namespace CreateParams

variable {params : CreateParams} {kind : SourceKind} {source : Source}

theorem source_eq (present : params.kind = some kind) :
    params.source = match Location.parse? kind params.location with
      | some location => .ok ⟨some location, params.offset, params.length⟩
      | none => .error ⟨kind, params.location⟩ := by
  obtain ⟨asked, location, offset, length, coarse, fine, wait⟩ := params
  obtain rfl : asked = some kind := present
  rfl

/-- The source of a text of a kind lies at the location of that kind which the text names. -/
theorem source_eq_ok_iff (present : params.kind = some kind) :
    params.source = .ok source ↔ ∃ location : Location, location.kind = kind ∧
      location.NamedBy params.location ∧
        source = ⟨some location, params.offset, params.length⟩ := by
  simp only [← and_assoc, ← Location.parse?_eq_some_iff]
  rw [source_eq present]
  split
  · next found read =>
      simp only [read, Option.some.injEq, exists_eq_left', Except.ok.injEq, eq_comm]
  · next read => simp only [read, reduceCtorEq, false_and, exists_false]

/-- The only reason to fail is a text that names no location of its kind; the error tells both. -/
theorem source_eq_error_iff (present : params.kind = some kind) {error : LocationError} :
    params.source = .error error ↔
      (∀ location : Location, location.kind = kind → ¬ location.NamedBy params.location) ∧
        error = ⟨kind, params.location⟩ := by
  simp only [← not_and, ← Location.parse?_eq_some_iff]
  rw [source_eq present]
  split
  · next found read => simp [read]
  · next read => simp [read, eq_comm]

/-- Parameters with the kind and the text of a location, an offset and a length name the source at
this very location with that offset and length.  Where a text of some kind is accepted, the source
is at a location of that kind which the text names, with the offset and length that were given, and
the text by which this location is printed gives the same source again.  A text is refused exactly
if it names no location of the kind. -/
theorem sources_named_faithfully :
    (∀ (location : Location) (offset length : UInt64) (coarse fine : UInt8) (wait : Bool),
      CreateParams.source
          ⟨some location.kind, location.text, offset, length, coarse, fine, wait⟩ =
        .ok ⟨some location, offset, length⟩) ∧
    ∀ (params : CreateParams) (kind : SourceKind), params.kind = some kind →
      (∀ source, params.source = .ok source →
        ∃ location : Location, location.kind = kind ∧ location.NamedBy params.location ∧
          source = ⟨some location, params.offset, params.length⟩ ∧
          CreateParams.source { params with location := location.text } = .ok source) ∧
      ∀ error, params.source = .error error ↔
        (∀ location : Location, location.kind = kind → ¬ location.NamedBy params.location) ∧
          error = ⟨kind, params.location⟩ := by
  refine ⟨fun location offset length coarse fine wait => ?_, fun params kind present =>
    ⟨fun source accepted => ?_, fun error => source_eq_error_iff present⟩⟩
  · exact (source_eq_ok_iff rfl).mpr ⟨location, rfl, location.namedBy_text, rfl⟩
  · obtain ⟨location, isKind, named, rfl⟩ := (source_eq_ok_iff present).mp accepted
    have printed : CreateParams.kind { params with location := location.text } = some kind :=
      present
    exact ⟨location, isKind, named, rfl,
      (source_eq_ok_iff printed).mpr ⟨location, isKind, location.namedBy_text, rfl⟩⟩

/-- A handle with a sign and zeros in front, and an identifier in capital letters between braces. -/
theorem odd_texts_named_faithfully :
    (∃ location : Location, location.kind = .bulk ∧ location.NamedBy "+0012" ∧
      (⟨some (.handle .bulk 12), 0, 300⟩ : Source) = ⟨some location, 0, 300⟩ ∧
      CreateParams.source ⟨some .bulk, location.text, 0, 300, 0, 0, false⟩ =
        .ok ⟨some (.handle .bulk 12), 0, 300⟩) ∧
    ∃ location : Location, location.kind = .object ∧
      location.NamedBy "\x7b0000000A-000B-000C-000D-00000000000E\x7d" ∧
      (⟨some (.object (.ofNat 0x0000000a000b000c000d00000000000e)), 5, 20⟩ : Source) =
        ⟨some location, 5, 20⟩ ∧
      CreateParams.source ⟨some .object, location.text, 5, 20, 0, 0, false⟩ =
        .ok ⟨some (.object (.ofNat 0x0000000a000b000c000d00000000000e)), 5, 20⟩ := by
  have handle : CreateParams.source ⟨some .bulk, "+0012", 0, 300, 0, 0, false⟩ =
      .ok ⟨some (.handle .bulk 12), 0, 300⟩ := by decide
  have identifier : CreateParams.source ⟨some .object,
      "\x7b0000000A-000B-000C-000D-00000000000E\x7d", 5, 20, 0, 0, false⟩ =
      .ok ⟨some (.object (.ofNat 0x0000000a000b000c000d00000000000e)), 5, 20⟩ := by decide
  exact ⟨(sources_named_faithfully.2 _ .bulk rfl).1 _ handle,
    (sources_named_faithfully.2 _ .object rfl).1 _ identifier⟩

end CreateParams

end Admission
