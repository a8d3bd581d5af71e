import Admission.Proofs.Vlq.Shortest

/-!
# Reading one number after another

A cursor stands before the octets that are left to read.  A read takes the number at the cursor, as
a whole or its lowest 32 bits only, and what it reads is what is decoded there
(`Read.extract_eq`).  The octets that it gives back are where the cursor is then; a read that fails
gives none back, and the cursor stays (`Read.advance`).  Reads follow one another whether they
succeed or not (`readAll`).

*Successes.*  A read that succeeds takes the octets up to the first one without the high bit, and
no others (`Read.advance_eq_ok`).  So the shortest forms of numbers, one after the other, are read
as these numbers (`readAll_encode`), and every success takes at least one octet
(`countP_readAll_le`).

*Failures.*  Whether a read fails depends on the octets alone, not on what is kept of the number.
So once a read has failed, all that follow fail for the same reason (`readAll_of_error`).

`cursor_advances` is the main statement.
-/

namespace Admission.Vlq

variable {cursor rest : List UInt8} {error : DecodeError}

/-! ## Reads -/

/-- How much of a number is read. -/
inductive Read where
  | full
  | small
  deriving DecidableEq

namespace Read

/-- What is kept of a number. -/
def kept (number : Nat) : Read → Nat
  | full => number
  | small => number % 4294967296

/-- The number at the start of octets, as far as it is read, and the octets after it. -/
def extract (octets : List UInt8) : Read → Except DecodeError (Nat × List UInt8)
  | full => (Vlq.extract octets).map fun (number, rest) => (number.toNat, rest)
  | small => (Vlq.extractSmall octets).map fun (number, rest) => (number.toNat, rest)

/-- What comes of a read, and the cursor after it. -/
def advance (cursor : List UInt8) (read : Read) : Except DecodeError Nat × List UInt8 :=
  match read.extract cursor with
  | .ok (number, rest) => (.ok number, rest)
  | .error error => (.error error, cursor)

/-- Either read takes what is decoded at the cursor. -/
theorem extract_eq (octets : List UInt8) (read : Read) :
    read.extract octets =
      (decode octets).map fun (word, count) => (read.kept word.toNat, octets.drop count) := by
  cases read <;> simp only [extract, extractSmall, Vlq.extract] <;> cases decode octets <;>
    simp [Except.map, kept]

theorem advance_of_ok {word : UInt64} {count : Nat} (decoded : decode cursor = .ok (word, count))
    (read : Read) : read.advance cursor = (.ok (read.kept word.toNat), cursor.drop count) := by
  rw [advance, extract_eq, decoded]
  rfl

theorem advance_of_error (decoded : decode cursor = .error error) (read : Read) :
    read.advance cursor = (.error error, cursor) := by
  rw [advance, extract_eq, decoded]
  rfl

/-- What is read as an error is decoded as this error. -/
theorem decode_of_advance_error {read : Read} (failed : (read.advance cursor).1 = .error error) :
    decode cursor = .error error := by
  cases decoded : decode cursor with
  | error found =>
      rw [advance_of_error decoded] at failed
      rw [Except.error.inj failed]
  | ok result =>
      rw [advance_of_ok decoded] at failed
      cases failed

/-- A read that succeeds takes the octets up to the first one without the high bit, which write the
number. -/
theorem advance_eq_ok {read : Read} {number : Nat}
    (advanced : read.advance cursor = (.ok number, rest)) : ∃ front last,
      cursor = front ++ last :: rest ∧ (∀ octet ∈ front, Flagged octet) ∧ ¬ Flagged last ∧
        number = read.kept (valueOf (front ++ [last])) := by
  cases decoded : decode cursor with
  | error found =>
      rw [advance_of_error decoded] at advanced
      cases advanced
  | ok result =>
      obtain ⟨word, count⟩ := result
      rw [advance_of_ok decoded] at advanced
      obtain ⟨legible, value⟩ := decode_eq_ok_iff.mp decoded
      obtain ⟨front, last, others, rfl, flagged, ended, rfl⟩ := legible.delimited.exists_split
      cases advanced
      refine ⟨front, last, ?_, flagged, ended, ?_⟩
      · rw [List.drop_append, List.drop_of_length_le (Nat.le_succ _)]
        simp
      · rw [value, take_split]

end Read

/-! ## Reads that follow one another -/

/-- What comes of all reads, in order, and the cursor after the last of them. -/
def readAll (cursor : List UInt8) : List Read → List (Except DecodeError Nat) × List UInt8
  | [] => ([], cursor)
  | read :: reads =>
    let (outcome, left) := read.advance cursor
    let (outcomes, last) := readAll left reads
    (outcome :: outcomes, last)

theorem readAll_cons (cursor : List UInt8) (read : Read) (reads : List Read) :
    readAll cursor (read :: reads) =
      ((read.advance cursor).1 :: (readAll (read.advance cursor).2 reads).1,
        (readAll (read.advance cursor).2 reads).2) := rfl

theorem readAll_append (cursor : List UInt8) (reads more : List Read) :
    readAll cursor (reads ++ more) =
      ((readAll cursor reads).1 ++ (readAll (readAll cursor reads).2 more).1,
        (readAll (readAll cursor reads).2 more).2) := by
  induction reads generalizing cursor with
  | nil => rfl
  | cons read reads induction =>
      rw [List.cons_append, readAll_cons, induction, readAll_cons]
      rfl

/-- Shortest forms are read one after the other, whatever follows them. -/
theorem readAll_encode (numbers : List (Read × UInt64)) (rest : List UInt8) :
    readAll (numbers.flatMap (fun entry => encode entry.2) ++ rest) (numbers.map Prod.fst) =
      (numbers.map fun entry => .ok (entry.1.kept entry.2.toNat), rest) := by
  induction numbers with
  | nil => rfl
  | cons entry numbers induction =>
      rw [List.flatMap_cons, List.append_assoc, List.map_cons, List.map_cons, readAll_cons,
        Read.advance_of_ok (decode_encode entry.2 _), List.drop_left, induction]

/-- Once a read has failed the cursor stays, and all reads fail for the same reason. -/
theorem readAll_of_error (decoded : decode cursor = .error error) (reads : List Read) :
    readAll cursor reads = (reads.map fun _ => .error error, cursor) := by
  induction reads with
  | nil => rfl
  | cons read reads induction =>
      rw [readAll_cons, Read.advance_of_error decoded, induction, List.map_cons]

/-- Every read that succeeds takes at least one octet, and none are put back. -/
theorem countP_readAll_le (cursor : List UInt8) (reads : List Read) :
    (readAll cursor reads).1.countP Except.isOk + (readAll cursor reads).2.length ≤
      cursor.length := by
  induction reads generalizing cursor with
  | nil => simp [readAll]
  | cons read reads induction =>
      rw [readAll_cons, List.countP_cons]
      have later := induction (read.advance cursor).2
      cases advanced : read.advance cursor with
      | mk outcome left =>
          rw [advanced] at later
          cases outcome with
          | error found =>
              rw [Read.advance_of_error (Read.decode_of_advance_error (congrArg Prod.fst advanced))]
                at advanced
              obtain rfl := congrArg Prod.snd advanced
              simpa [Except.isOk, Except.toBool] using later
          | ok number =>
              obtain ⟨front, last, rfl, -⟩ := Read.advance_eq_ok advanced
              simp only [Except.isOk, Except.toBool, if_true, List.length_append,
                List.length_cons] at later ⊢
              omega

/-- The shortest forms of numbers, one after the other and with any octets after them, are read as
these numbers, or the lowest 32 bits of each where only these are asked for, and what is left are
the octets after them.  Of any octets, and after any reads, a read that succeeds takes exactly the
octets up to the first one without the high bit.  A read that fails leaves the cursor where it was,
and so do all reads after it, which fail for the same reason.  No more reads succeed than there are
octets. -/
theorem cursor_advances :
    (∀ (numbers : List (Read × UInt64)) (rest : List UInt8),
      readAll (numbers.flatMap (fun entry => encode entry.2) ++ rest) (numbers.map Prod.fst) =
        (numbers.map fun entry => .ok (entry.1.kept entry.2.toNat), rest)) ∧
    ∀ (octets : List UInt8) (reads : List Read),
      (∀ (read : Read) number rest,
        read.advance (readAll octets reads).2 = (.ok number, rest) →
        ∃ front last, (readAll octets reads).2 = front ++ last :: rest ∧
          (∀ octet ∈ front, Flagged octet) ∧ ¬ Flagged last ∧
          number = read.kept (valueOf (front ++ [last]))) ∧
      (∀ (read : Read) error, (read.advance (readAll octets reads).2).1 = .error error →
        (read.advance (readAll octets reads).2).2 = (readAll octets reads).2 ∧
        ∀ later, readAll octets (reads ++ read :: later) =
          ((readAll octets reads).1 ++ .error error :: later.map fun _ => .error error,
            (readAll octets reads).2)) ∧
      (readAll octets reads).1.countP Except.isOk ≤ octets.length := by
  refine ⟨readAll_encode, fun octets reads => ⟨fun read number rest => Read.advance_eq_ok,
    fun read error failed => ?_, ?_⟩⟩
  · have decoded := Read.decode_of_advance_error failed
    refine ⟨congrArg Prod.snd (Read.advance_of_error decoded read), fun later => ?_⟩
    rw [readAll_append, readAll_of_error decoded, List.map_cons]
  · exact (Nat.le_add_right _ _).trans (countP_readAll_le octets reads)

/-- A padded form and a number of 33 bits are read, and then octets that do not end a number. -/
theorem cursor_stays_before_unfinished :
    readAll [0x80, 0x82, 0x2c, 0x90, 0x80, 0x80, 0x80, 0x05, 0x80] [.full, .small] =
      ([.ok 300, .ok 5], [0x80]) ∧
    (Read.advance [0x80] .full).1 = .error .truncated ∧
    readAll [0x80, 0x82, 0x2c, 0x90, 0x80, 0x80, 0x80, 0x05, 0x80] [.full, .small, .full, .small] =
      ([.ok 300, .ok 5, .error .truncated, .error .truncated], [0x80]) := by
  have front : readAll [0x80, 0x82, 0x2c, 0x90, 0x80, 0x80, 0x80, 0x05, 0x80] [.full, .small] =
      ([.ok 300, .ok 5], [0x80]) := by decide
  obtain ⟨-, anywhere⟩ := cursor_advances
  obtain ⟨-, failures, -⟩ :=
    anywhere [0x80, 0x82, 0x2c, 0x90, 0x80, 0x80, 0x80, 0x05, 0x80] [.full, .small]
  rw [front] at failures
  have failed : (Read.advance [0x80] .full).1 = .error .truncated := by decide
  exact ⟨front, failed, (failures .full .truncated failed).2 [.small]⟩

end Admission.Vlq
