import Admission.Proofs.Extents.Bytes

/-!
# Slices of extents

The extents of an object lie one after the other (`Extent.located`), and a range of bytes takes a
piece of each that it meets (`Extent.piece?`).  The pieces are what lies within the range
(`Extent.within`).

*Cutting is within.*  One pass over the extents, with what is still to be left out and what is still
to be kept, cuts out exactly these pieces (`Extent.cut_eq_within`).

*Bytes.*  Their bytes are those of the range (`Extent.media_within`), and none of them is empty
(`Extent.length_ne_zero`).

A slice is refused if the range does not end within the extents, and is what lies within it if it
does (`Extent.slice_eq_ok`, `Extent.slice_eq_refused`).

*Subtractions.*  The pass never subtracts a word from a lesser one: a check at each of its
subtractions changes no slice (`Extent.checkedSlice_eq`).

`Extent.slice_exact` is the main statement.
-/

namespace Admission.Extent

variable {extents rest : List Extent} {extent : Extent} {start first last shift : Nat}
  {offset length : UInt64}

/-! ## What lies within a range -/

/-- The extents, each with the place of its first byte, from `start` on. -/
def located (start : Nat) : List Extent → List (Nat × Extent)
  | [] => []
  | extent :: rest => (start, extent) :: located (start + extent.length.toNat) rest

/-- The bytes of an extent at `start` that lie from `first` on and before `last`, if there are
any. -/
def piece? (first last start : Nat) (extent : Extent) : Option Extent :=
  if max first start < min last (start + extent.length.toNat) then
    some ⟨extent.medium, .ofNat (min last (start + extent.length.toNat) - max first start)⟩
  else none

/-- What of the extents lies from `first` on and before `last`. -/
def within (extents : List Extent) (first last : Nat) : List Extent :=
  (located 0 extents).filterMap fun place => piece? first last place.1 place.2

@[simp] theorem within_nil (first last : Nat) : within [] first last = [] := rfl

/-- To move the extent and the range leaves the piece. -/
theorem piece?_add (first last shift start : Nat) (extent : Extent) :
    piece? first last (shift + start) extent =
      piece? (first - shift) (last - shift) start extent := by
  unfold piece?
  by_cases meets : max first (shift + start) < min last (shift + start + extent.length.toNat)
  · have moved : max (first - shift) start < min (last - shift) (start + extent.length.toNat) := by
      omega
    rw [if_pos meets, if_pos moved]
    congr 3
    omega
  · rw [if_neg meets, if_neg (by omega)]

theorem located_add (shift start : Nat) (extents : List Extent) :
    located (shift + start) extents =
      (located start extents).map fun place => (shift + place.1, place.2) := by
  induction extents generalizing start with
  | nil => rfl
  | cons extent rest induction =>
      rw [located, located, List.map_cons, Nat.add_assoc, induction]

/-- A range takes a piece of the first extent, and what it reaches of the others. -/
theorem within_cons (extent : Extent) (rest : List Extent) (first last : Nat) :
    within (extent :: rest) first last = (piece? first last 0 extent).toList ++
      within rest (first - extent.length.toNat) (last - extent.length.toNat) := by
  have others : (located (0 + extent.length.toNat) rest).filterMap
      (fun place => piece? first last place.1 place.2) =
      within rest (first - extent.length.toNat) (last - extent.length.toNat) := by
    rw [Nat.zero_add, ← Nat.add_zero extent.length.toNat, located_add, List.filterMap_map, within]
    congr 1
    funext place
    exact piece?_add first last extent.length.toNat place.1 place.2
  rw [within, located, List.filterMap_cons, others]
  cases piece? first last 0 extent <;> rfl

/-- Nothing lies within an empty range. -/
theorem within_of_le (isEmpty : last ≤ first) (extents : List Extent) :
    within extents first last = [] := by
  induction extents generalizing first last with
  | nil => rfl
  | cons extent rest induction =>
      rw [within_cons, piece?, if_neg (by omega), induction (by omega)]
      rfl

/-! ## Pieces -/

theorem piece?_of_le (above : extent.length.toNat ≤ first) : piece? first last 0 extent = none := by
  rw [piece?, if_neg (by omega)]

/-- A piece is on the medium of the extent, and has the bytes of the range that the extent has. -/
theorem exists_piece (meets : first < min last extent.length.toNat) : ∃ length : UInt64,
    piece? first last 0 extent = some ⟨extent.medium, length⟩ ∧
      length.toNat = min last extent.length.toNat - first := by
  have word := extent.length.toNat_lt
  refine ⟨.ofNat (min last extent.length.toNat - first), ?_,
    UInt64.toNat_ofNat_of_lt' (by change _ < 2 ^ 64; omega)⟩
  simp [piece?, meets]

theorem media_piece (first last : Nat) (extent : Extent) :
    media (piece? first last 0 extent).toList =
      ((List.replicate extent.length.toNat extent.medium).drop first).take (last - first) := by
  rw [List.drop_replicate, List.take_replicate]
  by_cases meets : first < min last extent.length.toNat
  · obtain ⟨length, isPiece, isLength⟩ := exists_piece meets
    rw [isPiece, Option.toList_some, media_cons, isLength, media_nil, List.append_nil]
    congr 1
    omega
  · have none : min (last - first) (extent.length.toNat - first) = 0 := by omega
    rw [piece?, if_neg (by omega), Option.toList_none, none]
    rfl

/-- The bytes that lie within a range are those of the extents from its first on, as many as the
range has. -/
theorem media_within (extents : List Extent) (first last : Nat) :
    media (within extents first last) = ((media extents).drop first).take (last - first) := by
  induction extents generalizing first last with
  | nil => simp
  | cons extent rest induction =>
      have later : last - extent.length.toNat - (first - extent.length.toNat) =
          last - first - (extent.length.toNat - first) := by
        omega
      rw [within_cons, media_append, media_piece, induction, media_cons, List.drop_append,
        List.take_append, List.length_replicate, List.length_drop, List.length_replicate, later]

/-- As many bytes lie within a range as the extents have there. -/
theorem bytes_within (extents : List Extent) (first last : Nat) :
    bytes (within extents first last) = min (last - first) (bytes extents - first) := by
  rw [← length_media, media_within, List.length_take, List.length_drop, length_media]

theorem piece?_ne_empty {piece : Extent} (isPiece : piece? first last start extent = some piece) :
    piece.length ≠ 0 := by
  have word := extent.length.toNat_lt
  unfold piece? at isPiece
  split at isPiece
  · next meets =>
      cases isPiece
      rw [← UInt64.toNat_inj.ne, UInt64.toNat_ofNat_of_lt' (by change _ < 2 ^ 64; omega)]
      exact Nat.sub_ne_zero_of_lt meets
  · cases isPiece

/-- Nothing that lies within a range is empty. -/
theorem length_ne_zero (member : extent ∈ within extents first last) : extent.length ≠ 0 := by
  obtain ⟨⟨start, whole⟩, -, isPiece⟩ := List.mem_filterMap.mp member
  exact piece?_ne_empty isPiece

/-! ## Cutting -/

/-- To leave out some bytes and to keep some of the others cuts out what lies between: an extent is
left out as a whole, or the range begins in it. -/
theorem cut_eq_within (extents : List Extent) (skip remaining : UInt64) :
    cut extents skip remaining =
      within extents skip.toNat (skip.toNat + remaining.toNat) := by
  induction extents generalizing skip remaining with
  | nil => rfl
  | cons extent rest induction =>
      unfold cut
      split
      · next nothing =>
          subst nothing
          exact (within_of_le (Nat.le_refl _) _).symm
      · next wanted =>
          have some : 0 < remaining.toNat := by
            rw [Nat.pos_iff_ne_zero]
            exact fun isZero => wanted (UInt64.toNat_inj.mp isZero)
          rw [within_cons]
          split
          · next skipped =>
              have whole := UInt64.le_iff_toNat_le.mp skipped
              rw [induction, UInt64.toNat_sub_of_le _ _ skipped, piece?_of_le whole,
                Option.toList_none, List.nil_append]
              congr 1
              omega
          · next longer =>
              have begins := UInt64.lt_iff_toNat_lt.mp (UInt64.not_le.mp longer)
              have left := UInt64.toNat_sub_of_le _ _ (UInt64.le_of_lt (UInt64.not_le.mp longer))
              have meets : skip.toNat <
                  min (skip.toNat + remaining.toNat) extent.length.toNat := by
                omega
              obtain ⟨taken, isPiece, isTaken⟩ := exists_piece meets
              have least : (if extent.length - skip ≤ remaining then extent.length - skip
                  else remaining) = taken := by
                rw [← UInt64.toNat_inj]
                split <;> rename_i short <;> rw [UInt64.le_iff_toNat_le] at short <;> omega
              have kept : (remaining - taken).toNat = remaining.toNat - taken.toNat :=
                UInt64.toNat_sub_of_le _ _ (UInt64.le_iff_toNat_le.mpr (by omega))
              simp only [least, isPiece, Option.toList_some, List.singleton_append, induction, kept,
                UInt64.toNat_zero]
              congr 2 <;> omega

/-! ## Slicing -/

/-- A slice that ends within the extents is what lies within it. -/
theorem slice_eq_ok (small : bytes extents < 18446744073709551616)
    (fits : offset.toNat + length.toNat ≤ bytes extents) :
    slice extents offset length =
      .ok (within extents offset.toNat (offset.toNat + length.toNat)) := by
  obtain ⟨counted, isTotal, isCounted⟩ := total_eq_ok small
  have lifted : (liftM (total extents) : Checked StoreError UInt64) = .ok counted :=
    Checked.ofArithmetic_eq_ok_iff.mpr isTotal
  rw [slice, lifted]
  change (if offset.toNat + length.toNat ≤ counted.toNat then _ else _) = _
  rw [if_pos (isCounted ▸ fits), cut_eq_within]
  rfl

/-- A slice that does not end within the extents is refused with the number of their bytes. -/
theorem slice_eq_refused {counted : UInt64} (isTotal : total extents = .ok counted)
    (exceeds : counted.toNat < offset.toNat + length.toNat) :
    slice extents offset length = Checked.refuse (.outOfRange offset length counted) := by
  have lifted : (liftM (total extents) : Checked StoreError UInt64) = .ok counted :=
    Checked.ofArithmetic_eq_ok_iff.mpr isTotal
  rw [slice, lifted]
  exact if_neg (Nat.not_le.mpr exceeds)

theorem slice_eq_ok_iff (small : bytes extents < 18446744073709551616) {result : List Extent} :
    slice extents offset length = .ok result ↔
      offset.toNat + length.toNat ≤ bytes extents ∧
        result = within extents offset.toNat (offset.toNat + length.toNat) := by
  by_cases fits : offset.toNat + length.toNat ≤ bytes extents
  · rw [slice_eq_ok small fits]
    exact ⟨fun done => ⟨fits, (Except.ok.inj done).symm⟩, fun ⟨_, same⟩ => same ▸ rfl⟩
  · obtain ⟨counted, isTotal, isCounted⟩ := total_eq_ok small
    rw [slice_eq_refused isTotal (isCounted ▸ Nat.lt_of_not_le fits)]
    exact ⟨by rintro ⟨⟩, fun ⟨within, _⟩ => absurd within fits⟩

/-! ## Subtractions -/

/-- The difference of two words, which must not be below zero. -/
def subtract (left right : UInt64) : Except Overflow UInt64 :=
  if right ≤ left then .ok (left - right) else .error .subtract

/-- What is cut out of extents, with a check at each subtraction. -/
def checkedCut : List Extent → UInt64 → UInt64 → Except Overflow (List Extent)
  | [], _, _ => .ok []
  | extent :: rest, skip, remaining =>
    if remaining = 0 then .ok []
    else if extent.length ≤ skip then do
      let left ← subtract skip extent.length
      checkedCut rest left remaining
    else do
      let available ← subtract extent.length skip
      let taken := if available ≤ remaining then available else remaining
      let left ← subtract remaining taken
      let later ← checkedCut rest 0 left
      return ⟨extent.medium, taken⟩ :: later

/-- A slice, with a check at each subtraction. -/
def checkedSlice (extents : List Extent) (offset length : UInt64) :
    Checked StoreError (List Extent) := do
  let total ← total extents
  if offset.toNat + length.toNat ≤ total.toNat then checkedCut extents offset length
  else Checked.refuse (.outOfRange offset length total)

theorem subtract_of_le {left right : UInt64} (within : right ≤ left) :
    subtract left right = .ok (left - right) := if_pos within

/-- Nothing is subtracted from less. -/
theorem checkedCut_eq (extents : List Extent) (skip remaining : UInt64) :
    checkedCut extents skip remaining = .ok (cut extents skip remaining) := by
  induction extents generalizing skip remaining with
  | nil => rfl
  | cons extent rest induction =>
      unfold checkedCut cut
      split
      · rfl
      · split
        · next skipped =>
            exact Checked.bind_eq_ok_iff.mpr ⟨_, subtract_of_le skipped, induction _ _⟩
        · next longer =>
            have begins := UInt64.le_of_lt (UInt64.not_le.mp longer)
            have most : (if extent.length - skip ≤ remaining then extent.length - skip
                else remaining) ≤ remaining := by
              split
              · assumption
              · exact UInt64.le_refl remaining
            refine Checked.bind_eq_ok_iff.mpr ⟨_, subtract_of_le begins, ?_⟩
            refine Checked.bind_eq_ok_iff.mpr ⟨_, subtract_of_le most, ?_⟩
            exact Checked.bind_eq_ok_iff.mpr ⟨_, induction _ _, rfl⟩

/-- All checks of a slice hold. -/
theorem checkedSlice_eq (extents : List Extent) (offset length : UInt64) :
    checkedSlice extents offset length = slice extents offset length := by
  simp only [checkedSlice, slice, checkedCut_eq]
  rfl

/-! ## All slices -/

/-- Of extents whose bytes a word can count, a slice is refused, with the range and their number,
exactly if the range does not end within them or its end is not a word.  Any other slice has the
bytes of the range, consists of the pieces that the range takes of the extents, in their order, and
none of these is empty. -/
theorem slice_exact (extents : List Extent) (offset length : UInt64)
    (small : bytes extents < 18446744073709551616) :
    ∃ counted : UInt64, counted.toNat = bytes extents ∧
      (slice extents offset length = Checked.refuse (.outOfRange offset length counted) ↔
        bytes extents < offset.toNat + length.toNat ∨
          18446744073709551616 ≤ offset.toNat + length.toNat) ∧
      (¬ (bytes extents < offset.toNat + length.toNat ∨
          18446744073709551616 ≤ offset.toNat + length.toNat) →
        ∃ result, slice extents offset length = .ok result ∧
          media result = ((media extents).drop offset.toNat).take length.toNat ∧
          result = within extents offset.toNat (offset.toNat + length.toNat) ∧
          ∀ extent ∈ result, extent.length ≠ 0) := by
  obtain ⟨counted, isTotal, isCounted⟩ := total_eq_ok small
  refine ⟨counted, isCounted, ⟨fun refused => ?_, fun exceeds => ?_⟩, fun inside => ?_⟩
  · by_contra inside
    rw [slice_eq_ok small (by omega)] at refused
    cases refused
  · exact slice_eq_refused isTotal (by omega)
  · have range : offset.toNat + length.toNat - offset.toNat = length.toNat :=
      Nat.add_sub_cancel_left _ _
    refine ⟨_, slice_eq_ok small (by omega), ?_, rfl, fun extent => length_ne_zero⟩
    rw [media_within, range]

/-- Ten bytes out of three runs, with an empty one between them, and a range that ends behind the
last byte. -/
theorem mixed_slices :
    slice [⟨.file, 10⟩, ⟨.bulk, 0⟩, ⟨.heap, 5⟩, ⟨.file, 20⟩] 8 10 =
      .ok [⟨.file, 2⟩, ⟨.heap, 5⟩, ⟨.file, 3⟩] ∧
    slice [⟨.file, 10⟩, ⟨.bulk, 0⟩, ⟨.heap, 5⟩, ⟨.file, 20⟩] 18446744073709551615 2 =
      Checked.refuse (.outOfRange 18446744073709551615 2 35) := by
  constructor
  · obtain ⟨counted, -, -, sliced⟩ :=
      slice_exact [⟨.file, 10⟩, ⟨.bulk, 0⟩, ⟨.heap, 5⟩, ⟨.file, 20⟩] 8 10 (by decide)
    obtain ⟨result, isResult, -, rfl, -⟩ := sliced (by decide)
    exact isResult.trans (by decide)
  · obtain ⟨counted, isCounted, refuses, -⟩ := slice_exact
      [⟨.file, 10⟩, ⟨.bulk, 0⟩, ⟨.heap, 5⟩, ⟨.file, 20⟩] 18446744073709551615 2 (by decide)
    obtain rfl : counted = 35 := UInt64.toNat_inj.mp (isCounted.trans (by decide))
    exact refuses.mpr (by decide)

end Admission.Extent
