import Admission.Proofs.Vlq.Reading

/-!
# The shortest form of a number

A number needs as many octets as it has chunks of seven bits (`encodedLength_le_iff`), and the
shortest form has just these (`length_encode`).  Whatever follows it, it is read as the number
(`decode_encode`), and no other octets of that length are.

`encode_shortest_form` is the main statement.
-/

namespace Admission.Vlq

variable {octets rest : List UInt8} {number bits count index : Nat} {word : UInt64}

/-! ## Lengths -/

theorem lt_two_pow_bitLength (number : Nat) : number < 2 ^ bitLength number := by
  unfold bitLength
  split
  · next isZero => simp [isZero]
  · exact Nat.lt_log2_self

theorem bitLength_le_iff : bitLength number ≤ bits ↔ number < 2 ^ bits := by
  constructor
  · exact fun short => (lt_two_pow_bitLength number).trans_le
      (Nat.pow_le_pow_right (by decide) short)
  · intro small
    unfold bitLength
    split
    · exact Nat.zero_le bits
    · next positive => exact (Nat.log2_lt positive).mpr small

theorem encodedLength_pos (number : Nat) : 0 < encodedLength number := by
  unfold encodedLength
  split
  · decide
  · next isPositive =>
      have positive : 0 < bitLength number := by simp [bitLength, isPositive]
      omega

/-- The length of the shortest form is the least that has room for the number. -/
theorem encodedLength_le_iff (positive : 0 < count) :
    encodedLength number ≤ count ↔ number < 128 ^ count := by
  have chunks : 128 ^ count = 2 ^ (7 * count) := by rw [Nat.pow_mul]
  rw [chunks, ← bitLength_le_iff]
  unfold encodedLength
  split
  · next isZero => simp [isZero, bitLength, Nat.succ_le_of_lt positive]
  · omega

/-! ## Chunks -/

theorem chunk_eq (number index : Nat) : chunk number index = number / 128 ^ index % 128 := by
  rw [chunk, Nat.shiftRight_eq_div_pow, Nat.pow_mul]

theorem chunk_lt (number index : Nat) : chunk number index < 128 := Nat.mod_lt _ (by decide)

/-- The octet of the last chunk. -/
theorem toNat_last (number : Nat) : (UInt8.ofNat (chunk number 0)).toNat = chunk number 0 :=
  UInt8.toNat_ofNat_of_lt' ((chunk_lt number 0).trans (by decide))

/-- The octet of a chunk that another one follows. -/
theorem toNat_continued (number index : Nat) :
    (UInt8.ofNat (128 + chunk number index)).toNat = 128 + chunk number index := by
  have small := chunk_lt number index
  refine UInt8.toNat_ofNat_of_lt' ?_
  change _ < 256
  omega

theorem not_flagged_last (number : Nat) : ¬ Flagged (UInt8.ofNat (chunk number 0)) := by
  rw [flagged_iff_le, toNat_last]
  exact Nat.not_le.mpr (chunk_lt number 0)

theorem flagged_continued (number index : Nat) :
    Flagged (UInt8.ofNat (128 + chunk number index)) := by
  rw [flagged_iff_le, toNat_continued]
  exact Nat.le_add_right 128 _

theorem digit_continued (number index : Nat) :
    digit (UInt8.ofNat (128 + chunk number index)) = chunk number index := by
  have small := chunk_lt number index
  rw [digit, toNat_continued]
  omega

/-! ## The octets of a number -/

theorem length_octetsFrom (number index : Nat) :
    (octetsFrom number index).length = index + 1 := by
  induction index with
  | zero => rfl
  | succ index induction => rw [octetsFrom, List.length_cons, induction]

/-- Only the octet of the last chunk ends a number. -/
theorem delimited_octetsFrom (number index : Nat) :
    Delimited (octetsFrom number index) (index + 1) := by
  induction index with
  | zero => exact delimited_of_ended (not_flagged_last number) []
  | succ index induction => exact induction.cons (flagged_continued number (index + 1))

/-- The chunks of a number write it, but for what is above the highest of them. -/
theorem valueOf_octetsFrom (number index : Nat) :
    valueOf (octetsFrom number index) = number % 128 ^ (index + 1) := by
  induction index with
  | zero =>
      rw [octetsFrom, valueOf_singleton, digit_eq_toNat (not_flagged_last number), toNat_last,
        chunk_eq]
      simp
  | succ index induction =>
      rw [octetsFrom, valueOf_cons, digit_continued, length_octetsFrom, induction, chunk_eq,
        Nat.mod_pow_succ (k := index + 1)]
      ring

/-! ## Writing and reading -/

theorem length_encode (word : UInt64) : (encode word).length = encodedLength word.toNat := by
  rw [encode, length_octetsFrom, Nat.sub_add_cancel (encodedLength_pos word.toNat)]

theorem valueOf_encode (word : UInt64) : valueOf (encode word) = word.toNat := by
  have positive := encodedLength_pos word.toNat
  rw [encode, valueOf_octetsFrom, Nat.sub_add_cancel positive]
  exact Nat.mod_eq_of_lt ((encodedLength_le_iff positive).mp le_rfl)

theorem take_encode (word : UInt64) :
    (encode word).take (encodedLength word.toNat) = encode word := by
  rw [← length_encode, List.take_length]

theorem legible_encode (word : UInt64) : Legible (encode word) (encodedLength word.toNat) where
  delimited := by
    have delimited := delimited_octetsFrom word.toNat (encodedLength word.toNat - 1)
    rwa [Nat.sub_add_cancel (encodedLength_pos word.toNat)] at delimited
  short := (encodedLength_le_iff (by decide)).mpr (word.toNat_lt.trans (by decide))
  fits := by
    rw [take_encode, valueOf_encode]
    exact word.toNat_lt

/-- What was encoded is decoded, whatever follows. -/
theorem decode_encode (word : UInt64) (rest : List UInt8) :
    decode (encode word ++ rest) = .ok (word, (encode word).length) := by
  have legible := legible_encode word
  rw [length_encode, decode_eq_ok_iff, legible.take_append, take_encode, valueOf_encode]
  exact ⟨legible.append rest, rfl⟩

/-- A number is not read from fewer octets than its shortest form has. -/
theorem encodedLength_le_of_decode (read : decode octets = .ok (word, count)) :
    encodedLength word.toNat ≤ count := by
  obtain ⟨legible, same⟩ := decode_eq_ok_iff.mp read
  have bound := valueOf_lt (octets.take count)
  rw [legible.delimited.length_take, ← same] at bound
  exact (encodedLength_le_iff legible.delimited.positive).mpr bound

/-- Only the shortest form is as short as it is. -/
theorem length_eq_iff_of_decode (read : decode octets = .ok (word, count)) :
    count = encodedLength word.toNat ↔ octets.take count = encode word := by
  obtain ⟨legible, same⟩ := decode_eq_ok_iff.mp read
  constructor
  · rintro rfl
    have alike := legible.delimited.take_eq (legible_encode word).delimited
    rw [take_encode, valueOf_encode] at alike
    exact alike same.symm
  · intro isForm
    rw [← length_encode, ← isForm, legible.delimited.length_take]

/-- Octets that are one number do not begin with others that are. -/
theorem eq_of_prefix {longer : List UInt8} {other : UInt64}
    (read : decode octets = .ok (word, octets.length))
    (readLonger : decode longer = .ok (other, longer.length)) (begins : octets <+: longer) :
    octets = longer := by
  have here : Delimited longer octets.length := by
    obtain ⟨rest, rfl⟩ := begins
    exact (decode_eq_ok_iff.mp read).1.delimited.append rest
  have there := (decode_eq_ok_iff.mp readLonger).1.delimited
  exact begins.eq_of_length (here.unique there)

/-- The shortest form of a number has the length that is foretold and is read back, whatever
follows it.  Whatever else the number is read from takes more octets.  Of octets that are read as
numbers, all of them, none begin with others, and neither does a shortest form. -/
theorem encode_shortest_form (word : UInt64) :
    (encode word).length = encodedLength word.toNat ∧
    (∀ rest, decode (encode word ++ rest) = .ok (word, encodedLength word.toNat)) ∧
    (∀ octets count, decode octets = .ok (word, count) →
      encodedLength word.toNat ≤ count ∧
      (count = encodedLength word.toNat ↔ octets.take count = encode word)) ∧
    (∀ octets longer other, decode octets = .ok (word, octets.length) →
      decode longer = .ok (other, longer.length) → octets <+: longer → octets = longer) ∧
    ∀ other, encode word <+: encode other → word = other := by
  have read : ∀ other, decode (encode other) = .ok (other, (encode other).length) := by
    intro other
    simpa using decode_encode other []
  refine ⟨length_encode word, fun rest => ?_, fun octets count readAs => ?_,
    fun octets longer other => eq_of_prefix, fun other begins => ?_⟩
  · rw [decode_encode, length_encode]
  · exact ⟨encodedLength_le_of_decode readAs, length_eq_iff_of_decode readAs⟩
  · obtain ⟨rest, whole⟩ := begins
    have here := decode_encode word rest
    rw [whole, read other] at here
    exact (congrArg Prod.fst (Except.ok.inj here)).symm

/-- The padded form of 300 takes one octet more than the shortest one. -/
theorem padded_form_longer :
    decode [0x80, 0x82, 0x2c] = .ok (300, 3) ∧ encodedLength 300 ≤ 3 ∧
      [0x80, 0x82, 0x2c].take 3 ≠ encode 300 := by
  have read : decode [0x80, 0x82, 0x2c] = .ok (300, 3) := by decide
  obtain ⟨-, -, forms, -⟩ := encode_shortest_form 300
  obtain ⟨least, onlyForm⟩ := forms _ 3 read
  exact ⟨read, least, fun isForm => absurd (onlyForm.mpr isForm) (by decide)⟩

end Admission.Vlq
