import Admission.Proofs.Magnitude.Packed

/-!
# Packed magnitudes read back

The number that a magnitude is packed into has sixty-one bits at most and is taken apart again
(`toNat_packed`, `ofPacked_packed`).  Its shortest form is not too wide, so that it is unpacked,
whatever follows it (`unpack_pack`).

`pack_round_trip` is the main statement.
-/

namespace Admission.Magnitude

variable {magnitude : Magnitude} {octets : List UInt8} {packed : UInt64}

/-- The number that a magnitude is packed into has sixty-one bits at most. -/
theorem packed_lt (packable : magnitude.Packable) :
    magnitude.high.toNat * 1073741824 + magnitude.low < 2 ^ 61 := by
  have narrow := ((packable_iff_high magnitude).mp packable).2
  have low := magnitude.low_lt
  omega

theorem toNat_packed (packable : magnitude.Packable) :
    (UInt64.ofNat (magnitude.high.toNat * 1073741824 + magnitude.low)).toNat =
      magnitude.high.toNat * 1073741824 + magnitude.low :=
  UInt64.toNat_ofNat_of_lt' ((packed_lt packable).trans (by decide))

/-- The number that a magnitude is packed into is taken apart again. -/
theorem ofPacked_packed (packable : magnitude.Packable) :
    ofPacked (.ofNat (magnitude.high.toNat * 1073741824 + magnitude.low)) = .ok magnitude := by
  have nonneg := ((packable_iff_high magnitude).mp packable).1
  have low := magnitude.low_lt
  rw [ofPacked_eq_ok_iff, toNat_packed packable]
  omega

/-- The shortest form of sixty-one bits has nine octets at most. -/
theorem encodedLength_le_nine (small : packed.toNat < 2 ^ 61) :
    Vlq.encodedLength packed.toNat ≤ 9 :=
  (Vlq.encodedLength_le_iff (by decide)).mpr (small.trans (by decide))

/-- A record that was written is unpacked, whatever follows. -/
theorem unpack_encode (small : packed.toNat < 2 ^ 61) (parts : ofPacked packed = .ok magnitude)
    (rest : List UInt8) :
    unpack (Vlq.encode packed ++ rest) = .ok (magnitude, (Vlq.encode packed).length) := by
  have legible := Vlq.legible_encode packed
  have delimited := legible.delimited.append rest
  have short := encodedLength_le_nine small
  have front := legible.take_append rest
  rw [Vlq.take_encode] at front
  have narrow : ¬ Wide (Vlq.encode packed ++ rest) (Vlq.encodedLength packed.toNat) := by
    rw [wide_iff delimited, front, Vlq.valueOf_encode]
    omega
  rw [unpack_of_narrow delimited narrow, front, Vlq.valueOf_encode, UInt64.ofNat_toNat, parts,
    Vlq.length_encode]
  rfl

/-- What was packed is unpacked, whatever follows. -/
theorem unpack_pack (isPacked : magnitude.pack = .ok octets) (rest : List UInt8) :
    unpack (octets ++ rest) = .ok (magnitude, octets.length) := by
  obtain ⟨packable, rfl⟩ := pack_eq_ok_iff.mp isPacked
  have small := (toNat_packed packable).trans_lt (packed_lt packable)
  exact unpack_encode small (ofPacked_packed packable) rest

theorem length_pack_le (isPacked : magnitude.pack = .ok octets) : octets.length ≤ 9 := by
  obtain ⟨packable, rfl⟩ := pack_eq_ok_iff.mp isPacked
  rw [Vlq.length_encode]
  exact encodedLength_le_nine ((toNat_packed packable).trans_lt (packed_lt packable))

/-- A record does not begin with that of another magnitude. -/
theorem eq_of_pack_prefix {other : Magnitude} {longer : List UInt8}
    (isPacked : magnitude.pack = .ok octets) (isPackedToo : other.pack = .ok longer)
    (begins : octets <+: longer) : magnitude = other := by
  obtain ⟨rest, rfl⟩ := begins
  have here := unpack_pack isPacked rest
  have there := unpack_pack isPackedToo []
  rw [List.append_nil, here] at there
  exact congrArg Prod.fst (Except.ok.inj there)

/-- A magnitude is packed unless it is invalid or its high part has more than thirty-one bits, and
is told as such if it is not.  Its record has nine octets at most, is unpacked as the magnitude and
as all of its octets, whatever follows, and no record of another magnitude begins with it. -/
theorem pack_round_trip (magnitude : Magnitude) :
    (magnitude.pack = .error (.invalid magnitude) ↔ magnitude.high < 0) ∧
    (magnitude.pack = .error (.tooWide magnitude) ↔ 2 ^ 31 ≤ magnitude.high) ∧
    (0 ≤ magnitude.high → magnitude.high < 2 ^ 31 → ∃ record, magnitude.pack = .ok record ∧
      record.length ≤ 9 ∧
      (∀ rest, unpack (record ++ rest) = .ok (magnitude, record.length)) ∧
      ∀ other longer, other.pack = .ok longer → record <+: longer → magnitude = other) := by
  refine ⟨pack_eq_invalid_iff, pack_eq_tooWide_iff, fun nonneg narrow => ?_⟩
  have packable := (packable_iff_high magnitude).mpr ⟨nonneg, narrow⟩
  have isPacked := pack_eq_ok_iff.mpr ⟨packable, rfl⟩
  exact ⟨_, isPacked, length_pack_le isPacked, unpack_pack isPacked,
    fun other longer => eq_of_pack_prefix isPacked⟩

/-- The largest magnitude that can be packed takes nine octets. -/
theorem largest_packed_round_trip :
    ∃ largest : Magnitude, largest.value = 2147483647999999999 ∧
      largest.pack = .ok [0x9f, 0xff, 0xff, 0xff, 0xff, 0xdc, 0xeb, 0x93, 0x7f] ∧
      unpack [0x9f, 0xff, 0xff, 0xff, 0xff, 0xdc, 0xeb, 0x93, 0x7f, 0x80] = .ok (largest, 9) := by
  let largest : Magnitude := ⟨2147483647, 999999999, by decide, by decide⟩
  obtain ⟨-, -, packs⟩ := pack_round_trip largest
  obtain ⟨record, isPacked, -, reads, -⟩ := packs (by decide) (by decide)
  have shown : largest.pack = .ok [0x9f, 0xff, 0xff, 0xff, 0xff, 0xdc, 0xeb, 0x93, 0x7f] := by
    decide
  obtain rfl := Except.ok.inj (isPacked.symm.trans shown)
  exact ⟨largest, by decide, shown, reads [0x80]⟩

end Admission.Magnitude
