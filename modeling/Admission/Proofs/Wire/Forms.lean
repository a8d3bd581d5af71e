import Admission.Failure
import Admission.Wire.Basic
import Mathlib.Algebra.Group.Nat.Defs
import Mathlib.Data.List.Forall2

/-!
# Reading back what was written

A value `ReadsBack` if the octets that are written for it are taken from the front of any input
that begins with them, and give the value again.  `Reader.Takes` says this of a reader and certain
octets; a reader made of parts takes what the parts take, one after the other.

Numbers in base 128 read back as long as they fit the word that is read (`Leb128.takes_encode`),
and lists as long as their elements do and a 64-bit word holds their length (`readsBack_list`).
-/

namespace Admission

namespace Wire

/-! ## Readers made of parts -/

namespace Reader

variable {α β : Type}

/-- A reader takes certain octets from the front, whatever follows, and they give a value. -/
def Takes (reader : Reader α) (octets : List UInt8) (value : α) : Prop :=
  ∀ rest, reader (octets ++ rest) = .ok (value, rest)

namespace Takes

variable {reader : Reader α} {next : α → Reader β} {octets more : List UInt8} {value : α}
  {result : β}

theorem nothing (value : α) : Takes (pure value) [] value := fun _ => rfl

theorem bind (first : reader.Takes octets value) (second : (next value).Takes more result) :
    (reader >>= next).Takes (octets ++ more) result := by
  intro rest
  have unfolded : (reader >>= next) (octets ++ more ++ rest) =
      reader (octets ++ more ++ rest) >>= fun taken => next taken.1 taken.2 := rfl
  rw [unfolded, List.append_assoc, first]
  exact second rest

/-- Nothing more is taken after the last part. -/
theorem last (first : reader.Takes octets value) (second : (next value).Takes [] result) :
    (reader >>= next).Takes octets result := by
  have both := first.bind second
  rwa [List.append_nil] at both

end Takes

theorem octet_takes (octet : UInt8) : Reader.octet.Takes [octet] octet := fun _ => rfl

theorem octets_takes (octets : List UInt8) : (Reader.octets octets.length).Takes octets octets := by
  intro rest
  have whole : octets.length ≤ (octets ++ rest).length := by simp
  rw [Reader.octets, if_pos whole, List.splitAt_eq, List.take_left, List.drop_left]

end Reader

/-! ## Numbers in base 128 -/

namespace Leb128

/-- The numbers that a word of some width can be. -/
def Width.bound (width : Width) : Nat := (width.last + 1) * 128 ^ (width.octets - 1)

theorem toNat_ofNat {number : Nat} (small : number < 256) : (UInt8.ofNat number).toNat = number :=
  UInt8.toNat_ofNat_of_lt' small

/-- What is written takes no more places than a word has that holds the number. -/
theorem decodeFrom_encode {last places number : Nat} (chunk : last < 128)
    (small : number < (last + 1) * 128 ^ places) (rest : List UInt8) :
    decodeFrom last (places + 1) (encode number ++ rest) = .ok (number, rest) := by
  induction places generalizing number with
  | zero =>
      rw [Nat.pow_zero, Nat.mul_one] at small
      have short : number < 128 := by omega
      rw [encode, if_pos short, List.singleton_append, decodeFrom, toNat_ofNat (by omega),
        if_pos short, if_neg (by omega)]
  | succ places induction =>
      by_cases short : number < 128
      · rw [encode, if_pos short, List.singleton_append, decodeFrom, toNat_ofNat (by omega),
          if_pos short, if_neg (by omega)]
      · have fewer : number / 128 < (last + 1) * 128 ^ places := by
          rw [Nat.pow_succ, ← Nat.mul_assoc] at small
          exact Nat.div_lt_of_lt_mul (by omega)
        rw [encode, if_neg short, List.cons_append, decodeFrom, toNat_ofNat (by omega),
          if_neg (by omega), induction fewer]
        simp only [Except.ok.injEq, Prod.mk.injEq, and_true]
        omega

/-- A number that fits the word is read back. -/
theorem takes_encode {width : Width} {number : Nat} (chunk : width.last < 128)
    (places : 0 < width.octets) (small : number < width.bound) :
    (Reader.number width).Takes (encode number) number := by
  intro rest
  have positive : width.octets - 1 + 1 = width.octets := by omega
  have taken := decodeFrom_encode chunk small rest
  rwa [positive] at taken

end Leb128

theorem word32_takes {number : Nat} (small : number < 4294967296) :
    (Reader.number Leb128.word32).Takes (Leb128.encode number) number :=
  Leb128.takes_encode (by decide) (by decide) small

theorem word64_takes {number : Nat} (small : number < 18446744073709551616) :
    (Reader.number Leb128.word64).Takes (Leb128.encode number) number :=
  Leb128.takes_encode (by decide) (by decide) small

theorem octetString_takes {octets : List UInt8} (short : octets.length < 18446744073709551616) :
    Reader.octetString.Takes (octetString octets) octets :=
  (word64_takes short).bind (Reader.octets_takes octets)

/-! ## Values -/

section Values

variable {α : Type} [Wire α]

/-- What is written for a value is read as that value. -/
def ReadsBack (value : α) : Prop :=
  ∀ octets, write value = .ok octets → Reader.Takes read octets value

/-- There are octets for a value. -/
def Writable (value : α) : Prop := ∃ octets, write value = .ok octets

/-- A value that reads back is decoded from its octets, whatever follows them. -/
theorem ReadsBack.decode {value : α} (readsBack : ReadsBack value) {octets : List UInt8}
    (written : encode value = .ok octets) (rest : List UInt8) :
    Wire.decode α (octets ++ rest) = .ok value := by
  rw [Wire.decode, readsBack octets written rest]
  rfl

theorem readsBack_octet (octet : UInt8) : ReadsBack octet := by
  rintro octets ⟨⟩
  exact Reader.octet_takes octet

theorem readsBack_word32 (word : UInt32) : ReadsBack word := by
  rintro octets ⟨⟩
  refine (word32_takes word.toNat_lt).last ?_
  rw [UInt32.ofNat_toNat]
  exact .nothing word

theorem readsBack_flag (flag : Bool) : ReadsBack flag := by
  rintro octets ⟨⟩
  refine (Reader.octet_takes _).last ?_
  cases flag <;> exact .nothing _

/-! ## Lists -/

theorem mapM_write_eq_ok_iff {values : List α} {parts : List (List UInt8)} :
    values.mapM write = .ok parts ↔
      List.Forall₂ (fun value octets => write value = .ok octets) values parts := by
  induction values generalizing parts with
  | nil =>
      rw [List.mapM_nil, List.forall₂_nil_left_iff]
      exact ⟨fun same => (Except.ok.inj same).symm, fun same => same ▸ rfl⟩
  | cons value rest induction =>
      rw [List.mapM_cons, Checked.bind_eq_ok_iff, List.forall₂_cons_left_iff]
      simp only [Checked.bind_eq_ok_iff, induction]
      constructor
      · rintro ⟨octets, first, others, later, ⟨⟩⟩
        exact ⟨octets, others, first, later, rfl⟩
      · rintro ⟨octets, others, first, later, rfl⟩
        exact ⟨octets, first, others, later, rfl⟩

theorem times_takes {values : List α} {parts : List (List UInt8)}
    (written : List.Forall₂ (fun value octets => write value = .ok octets) values parts)
    (readsBack : ∀ value ∈ values, ReadsBack value) :
    (Reader.times read values.length).Takes parts.flatten values := by
  induction written with
  | nil => exact .nothing []
  | @cons value octets rest others first later induction =>
      have head := readsBack value List.mem_cons_self octets first
      have tail := induction fun other member => readsBack other (List.mem_cons_of_mem _ member)
      exact head.bind (tail.last (.nothing (value :: rest)))

/-- A list reads back if its elements do, and a word holds its length. -/
theorem readsBack_list {values : List α} (short : values.length < 18446744073709551616)
    (readsBack : ∀ value ∈ values, ReadsBack value) : ReadsBack values := by
  intro octets written
  obtain ⟨parts, each, ⟨⟩⟩ := Checked.bind_eq_ok_iff.mp written
  exact (word64_takes short).bind (times_takes (mapM_write_eq_ok_iff.mp each) readsBack)

/-- A list can be written if its elements can. -/
theorem writable_list_iff {values : List α} :
    Writable values ↔ ∀ value ∈ values, Writable value := by
  have each : (∃ parts, List.Forall₂ (fun value octets => write value = .ok octets) values
      parts) ↔ ∀ value ∈ values, Writable value := by
    induction values with
    | nil => simp
    | cons value rest induction =>
        rw [List.forall_mem_cons, ← induction]
        constructor
        · rintro ⟨_, _ | ⟨first, later⟩⟩
          exact ⟨⟨_, first⟩, _, later⟩
        · rintro ⟨⟨octets, first⟩, parts, later⟩
          exact ⟨octets :: parts, .cons first later⟩
  rw [← each]
  constructor
  · rintro ⟨octets, written⟩
    obtain ⟨parts, later, -⟩ := Checked.bind_eq_ok_iff.mp written
    exact ⟨parts, mapM_write_eq_ok_iff.mp later⟩
  · rintro ⟨parts, later⟩
    exact ⟨_, Checked.bind_eq_ok_iff.mpr ⟨parts, mapM_write_eq_ok_iff.mpr later, rfl⟩⟩

end Values

end Wire

end Admission
