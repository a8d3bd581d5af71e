import Admission.Proofs.Magnitude.Unpacked

/-!
# The layout of a packed magnitude

A record of less than one billion bytes is the shortest form of the low part.  Any other record has
three parts: the shortest form of what the high part has above its last five bits, with every octet
continued (`upperOctets`), one octet that both parts of the magnitude share (`boundaryOctet`), and
four more for the last twenty-eight bits of the low part (`lowOctets`).

*Cuts.*  The shortest form of a number can be cut before its last chunks: in front of them are the
octets of the number without these chunks, continued (`encode_cut`).

*Chunks.*  A record is a number in which the parts of the magnitude stand side by side, so that its
chunks are made of their bits (`octetsFrom_packed`).

`pack_layout` is the main statement.
-/

namespace Admission.Vlq

variable {number count : Nat} {word : UInt64}

/-! ## Cuts -/

/-- The octet with its high bit set. -/
def continued (octet : UInt8) : UInt8 := octet ||| 0x80

theorem continued_ofNat_chunk (number index : Nat) :
    continued (.ofNat (chunk number index)) = .ofNat (128 + chunk number index) := by
  have small : chunk number index < 2 ^ 7 := chunk_lt number index
  have clear : (UInt8.ofNat (chunk number index)).toNat = chunk number index :=
    UInt8.toNat_ofNat_of_lt' (small.trans (by decide))
  have flag : (0x80 : UInt8).toNat = 2 ^ 7 * 1 := rfl
  rw [← UInt8.toNat_inj, toNat_continued, continued, UInt8.toNat_or, clear, flag, Nat.or_comm,
    ← Nat.two_pow_add_eq_or_of_lt small]

theorem continued_of_flagged (number index : Nat) :
    continued (.ofNat (128 + chunk number index)) = .ofNat (128 + chunk number index) := by
  rw [← continued_ofNat_chunk, continued, continued, UInt8.or_assoc, UInt8.or_self]

/-- Above a cut, the chunks are those of the number without what is below. -/
theorem chunk_div (number count index : Nat) :
    chunk (number / 128 ^ count) index = chunk number (count + index) := by
  rw [chunk_eq, chunk_eq, Nat.div_div_eq_div_mul, Nat.pow_add]

/-- The octets of the chunks down to zero are those above a cut, continued, and those below. -/
theorem octetsFrom_cut (number count index : Nat) :
    octetsFrom number (count + 1 + index) =
      (octetsFrom (number / 128 ^ (count + 1)) index).map continued ++
        octetsFrom number count := by
  induction index with
  | zero =>
      rw [octetsFrom, List.map_singleton, chunk_div, continued_ofNat_chunk]
      rfl
  | succ index induction =>
      rw [← Nat.add_assoc, octetsFrom, induction, octetsFrom, List.map_cons, chunk_div,
        continued_of_flagged]
      rfl

/-- A number that has chunks above a cut is as many octets longer than these as are below. -/
theorem encodedLength_cut (above : 0 < number / 128 ^ count) :
    encodedLength number = encodedLength (number / 128 ^ count) + count := by
  have base : 0 < 128 ^ count := Nat.pow_pos (by decide)
  have upper := encodedLength_pos (number / 128 ^ count)
  have whole := encodedLength_pos number
  have fits : number < 128 ^ encodedLength number := (encodedLength_le_iff whole).mp le_rfl
  refine Nat.le_antisymm ?_ ?_
  · rw [encodedLength_le_iff (Nat.add_pos_left upper count), Nat.pow_add,
      ← Nat.div_lt_iff_lt_mul base]
    exact (encodedLength_le_iff upper).mp le_rfl
  · have longer : count < encodedLength number := by
      rw [← Nat.not_le]
      intro short
      exact Nat.ne_of_gt above (Nat.div_eq_of_lt (fits.trans_le
        (Nat.pow_le_pow_right (by decide) short)))
    rw [← Nat.le_sub_iff_add_le longer.le, encodedLength_le_iff (Nat.sub_pos_of_lt longer),
      Nat.div_lt_iff_lt_mul base, ← Nat.pow_add, Nat.sub_add_cancel longer.le]
    exact fits

/-- The shortest form of a number with chunks above a cut. -/
theorem encode_cut (above : 0 < word.toNat / 128 ^ (count + 1)) :
    encode word = (encode (.ofNat (word.toNat / 128 ^ (count + 1)))).map continued ++
      octetsFrom word.toNat count := by
  have small : word.toNat / 128 ^ (count + 1) < 2 ^ 64 :=
    (Nat.div_le_self _ _).trans_lt word.toNat_lt
  have upper := encodedLength_pos (word.toNat / 128 ^ (count + 1))
  have index : encodedLength word.toNat - 1 =
      count + 1 + (encodedLength (word.toNat / 128 ^ (count + 1)) - 1) := by
    rw [encodedLength_cut above]
    omega
  rw [encode, encode, UInt64.toNat_ofNat_of_lt' small, index, octetsFrom_cut]

end Admission.Vlq

namespace Admission.Magnitude

open Vlq (continued)

variable {magnitude : Magnitude} {high low : Nat}

/-! ## The parts of a record -/

/-- The octets of what is above the last five bits of the high part, or none if nothing is. -/
def upperOctets (high : Nat) : List UInt8 :=
  if high >>> 5 = 0 then [] else (Vlq.encode (.ofNat (high >>> 5))).map continued

/-- The octet with the last five bits of the high part and the first two of the low part. -/
def boundaryOctet (high low : Nat) : UInt8 :=
  .ofNat (0x80 ||| (high &&& 31) <<< 2 ||| low >>> 28)

/-- The octets of the last twenty-eight bits of the low part. -/
def lowOctets (low : Nat) : List UInt8 :=
  [.ofNat (0x80 ||| low >>> 21 &&& 127), .ofNat (0x80 ||| low >>> 14 &&& 127),
    .ofNat (0x80 ||| low >>> 7 &&& 127), .ofNat (low &&& 127)]

/-! ## Chunks -/

theorem flag_or (small : low < 128) : 0x80 ||| low = 128 + low :=
  (Nat.two_pow_add_eq_or_of_lt (i := 7) small 1).symm

theorem and_127 (low : Nat) : low &&& 127 = low % 128 := Nat.and_two_pow_sub_one_eq_mod low 7

/-- The bits in the boundary octet do not meet, and fill it. -/
theorem boundary_eq (small : low < 2 ^ 30) :
    0x80 ||| (high &&& 31) <<< 2 ||| low >>> 28 = 128 + (high % 32 * 4 + low / 2 ^ 28) := by
  have last : high &&& 31 = high % 32 := Nat.and_two_pow_sub_one_eq_mod high 5
  have shared : low >>> 28 < 2 ^ 2 := by
    rw [Nat.shiftRight_eq_div_pow]
    omega
  have joined : (high &&& 31) <<< 2 ||| low >>> 28 = high % 32 * 4 + low / 2 ^ 28 := by
    rw [Nat.shiftLeft_eq, Nat.mul_comm, ← Nat.two_pow_add_eq_or_of_lt shared, last,
      Nat.shiftRight_eq_div_pow]
    omega
  rw [Nat.or_assoc, joined, flag_or (by omega)]

/-- The chunks from the boundary on, in a number in which the two parts stand side by side. -/
theorem octetsFrom_packed (high : Nat) (small : low < 2 ^ 30) :
    Vlq.octetsFrom (high * 2 ^ 30 + low) 4 = boundaryOctet high low :: lowOctets low := by
  have boundary : Vlq.chunk (high * 2 ^ 30 + low) 4 = high % 32 * 4 + low / 2 ^ 28 := by
    rw [Vlq.chunk_eq]
    omega
  have below : ∀ index < 4, Vlq.chunk (high * 2 ^ 30 + low) index =
      low >>> (7 * index) &&& 127 := by
    intro index inside
    rw [and_127, Nat.shiftRight_eq_div_pow, Vlq.chunk_eq]
    obtain rfl | rfl | rfl | rfl : index = 0 ∨ index = 1 ∨ index = 2 ∨ index = 3 := by omega
    all_goals omega
  have flags : ∀ index < 4, 128 + Vlq.chunk (high * 2 ^ 30 + low) index =
      0x80 ||| low >>> (7 * index) &&& 127 := by
    intro index inside
    rw [← below index inside, flag_or (Vlq.chunk_lt _ index)]
  simp only [Vlq.octetsFrom, boundary, boundaryOctet, boundary_eq small, lowOctets,
    flags 3 (by decide), flags 2 (by decide), flags 1 (by decide), below 0 (by decide)]
  rfl

/-- What is above the boundary octet is what the high part has above its last five bits. -/
theorem packed_above (high : Nat) (small : low < 2 ^ 30) :
    (high * 2 ^ 30 + low) / 128 ^ (4 + 1) = high >>> 5 := by
  rw [Nat.shiftRight_eq_div_pow]
  omega

/-- The shortest form of a number in which the two parts stand side by side.  If nothing is above
the boundary octet the record starts with it, and its chunk is not zero. -/
theorem encode_packed (positive : 0 < high) (narrow : high < 2 ^ 31) (small : low < 2 ^ 30) :
    Vlq.encode (.ofNat (high * 2 ^ 30 + low)) =
      upperOctets high ++ boundaryOctet high low :: lowOctets low := by
  have word : (UInt64.ofNat (high * 2 ^ 30 + low)).toNat = high * 2 ^ 30 + low :=
    UInt64.toNat_ofNat_of_lt' (by change _ < 2 ^ 64; omega)
  by_cases nothing : high >>> 5 = 0
  · have first : (high * 2 ^ 30 + low) / 128 ^ 4 < 128 ^ 1 := by
      rw [Nat.shiftRight_eq_div_pow] at nothing
      omega
    have above : 0 < (high * 2 ^ 30 + low) / 128 ^ 4 := by omega
    have alone : Vlq.encodedLength ((high * 2 ^ 30 + low) / 128 ^ 4) = 1 :=
      Nat.le_antisymm ((Vlq.encodedLength_le_iff (by decide)).mpr first)
        (Vlq.encodedLength_pos _)
    rw [Vlq.encode, word, Vlq.encodedLength_cut above, alone, octetsFrom_packed high small,
      upperOctets, if_pos nothing, List.nil_append]
  · have above : 0 < (UInt64.ofNat (high * 2 ^ 30 + low)).toNat / 128 ^ (4 + 1) := by
      rw [word, packed_above high small]
      exact Nat.pos_of_ne_zero nothing
    rw [Vlq.encode_cut above, word, packed_above high small, octetsFrom_packed high small,
      upperOctets, if_neg nothing]

/-- A magnitude that can be packed is packed, without a high part, as the shortest form of its low
part, and with one, as the octets of the bits of the high part above its last five, each continued
and none if these bits are zero, the octet of the last five and of the first two of the low part,
and the other twenty-eight bits of the low part in four octets, continued but for the last. -/
theorem pack_layout (magnitude : Magnitude) (nonneg : 0 ≤ magnitude.high)
    (narrow : magnitude.high < 2 ^ 31) :
    (magnitude.high = 0 → magnitude.pack = .ok (Vlq.encode (.ofNat magnitude.low))) ∧
    (0 < magnitude.high → magnitude.pack = .ok (upperOctets magnitude.high.toNat ++
      boundaryOctet magnitude.high.toNat magnitude.low :: lowOctets magnitude.low)) := by
  have packable := (packable_iff_high magnitude).mpr ⟨nonneg, narrow⟩
  have isPacked := pack_eq_ok_iff.mpr ⟨packable, rfl⟩
  refine ⟨fun isZero => ?_, fun positive => ?_⟩
  · rw [isPacked, isZero, Int.toNat_zero, Nat.zero_mul, Nat.zero_add]
  · have small : magnitude.low < 2 ^ 30 := magnitude.low_lt.trans (by decide)
    rw [isPacked]
    exact congrArg Except.ok (encode_packed (by omega) (by omega) small)

/-- Three hundred bytes, one billion, and five bytes more than thirty-two billions, which are the
first to take a sixth octet. -/
theorem first_layouts :
    (⟨0, 300, by decide, by decide⟩ : Magnitude).pack = .ok [0x82, 0x2c] ∧
    (⟨1, 0, by decide, by decide⟩ : Magnitude).pack = .ok [0x84, 0x80, 0x80, 0x80, 0x00] ∧
    (⟨32, 5, by decide, by decide⟩ : Magnitude).pack =
      .ok [0x81, 0x80, 0x80, 0x80, 0x80, 0x05] := by
  refine ⟨?_, ?_, ?_⟩
  · exact ((pack_layout ⟨0, 300, by decide, by decide⟩ (by decide) (by decide)).1 rfl).trans
      (by decide)
  · exact ((pack_layout ⟨1, 0, by decide, by decide⟩ (by decide) (by decide)).2 (by decide)).trans
      (by decide)
  · exact ((pack_layout ⟨32, 5, by decide, by decide⟩ (by decide) (by decide)).2 (by decide)).trans
      (by decide)

end Admission.Magnitude
