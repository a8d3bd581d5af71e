import Admission.Proofs.Wire.Snapshots

/-!
# Values survive the wire

`Snapshots` has what magnitudes, spaces and snapshots need.  Here are the forms that only sources
and parameters use: wide words, options, texts, identifiers and locations.  None of them holds a
magnitude, so they can always be written.

A type of values `Survives` the wire if a value is refused exactly for one of its magnitudes, and
comes back from its octets otherwise, whatever follows them (`values_survive`).
-/

namespace Admission

open Wire (Reader ReadsBack Writable readsBack_octet readsBack_flag)

/-! ## Texts and options -/

namespace Wire

theorem readsBack_word64 (word : UInt64) : ReadsBack word := by
  rintro octets ⟨⟩
  refine (word64_takes word.toNat_lt).last ?_
  rw [UInt64.ofNat_toNat]
  exact .nothing word

theorem readsBack_option {α : Type} [Wire α] {option : Option α}
    (readsBack : ∀ value ∈ option, ReadsBack value) : ReadsBack option := by
  cases option with
  | none =>
      rintro octets ⟨⟩
      exact (Reader.octet_takes 0).last (.nothing none)
  | some value =>
      intro octets written
      obtain ⟨later, isLater, ⟨⟩⟩ := Checked.bind_eq_ok_iff.mp written
      exact (Reader.octet_takes 1).bind ((readsBack value rfl later isLater).last (.nothing _))

/-- The octets of an array from some place on, after those before them in reverse. -/
theorem toList_loop_eq (octets : ByteArray) (place : Nat) (before : List UInt8) :
    ByteArray.toList.loop octets place before =
      before.reverse ++ octets.data.toList.drop place := by
  fun_induction ByteArray.toList.loop octets place before with
  | case1 place before more induction =>
      have inside : place < octets.data.toList.length := by simpa using more
      rw [induction, List.drop_eq_getElem_cons inside]
      simp [ByteArray.get!, more]
  | case2 place before none =>
      rw [List.drop_eq_nil_of_le (by simpa using Nat.le_of_not_lt none)]
      simp

theorem mk_toList (octets : ByteArray) : ByteArray.mk octets.toList.toArray = octets := by
  rw [ByteArray.toList, toList_loop_eq]
  simp

/-- A text reads back if a word holds the number of its octets. -/
theorem readsBack_text {text : String}
    (short : text.toUTF8.toList.length < 18446744073709551616) : ReadsBack text := by
  rintro octets ⟨⟩
  refine (octetString_takes short).last ?_
  have same : String.fromUTF8? ⟨text.toUTF8.toList.toArray⟩ = some text := by
    rw [mk_toList]
    exact dif_pos text.isValidUTF8
  simp only [same]
  exact .nothing text

end Wire

open Wire (readsBack_word64 readsBack_option readsBack_text)

/-! ## Identifiers and locations -/

namespace ObjectId

theorem ofOctets?_octets (id : ObjectId) : ofOctets? id.octets = some id := by
  have digits : (id.octets.map UInt8.toNat) = Digits.lowDigits 256 16 id.toNat := by
    rw [octets, List.map_map, List.map_congr_left, List.map_id]
    intro digit member
    exact UInt8.toNat_ofNat_of_lt' (Digits.lt_of_mem_lowDigits (by decide) member)
  have sixteen : id.octets.length = 16 := by simp [octets]
  have small : id.toNat < Nat.pow 256 16 := id.bits.isLt
  rw [ofOctets?, if_pos sixteen, digits, Digits.ofDigits_lowDigits, Nat.mod_eq_of_lt small]
  simp [ofNat, toNat]

theorem readsBack (id : ObjectId) : ReadsBack id := by
  rintro octets ⟨⟩
  have sixteen : id.octets.length = 16 := by simp [ObjectId.octets]
  refine (Wire.octetString_takes (by omega)).last ?_
  simp only [ofOctets?_octets]
  exact .nothing id

end ObjectId

theorem SourceKind.readsBack (kind : SourceKind) : ReadsBack kind := by
  cases kind <;> rintro octets ⟨⟩ <;>
    exact (Wire.word32_takes (by decide)).last (.nothing _)

namespace Location

/-- A medium travels as the kind of the sources on it. -/
theorem write_medium (medium : Medium) :
    Wire.write medium = Wire.write (SourceKind.ofMedium medium) := by
  cases medium <;> rfl

theorem writable (location : Location) : Writable location := by
  cases location with
  | handle medium number => cases medium <;> exact ⟨_, rfl⟩
  | object id => exact ⟨_, rfl⟩

theorem readsBack (location : Location) : ReadsBack location := by
  intro octets written
  cases location with
  | handle medium number =>
      obtain ⟨kind, isKind, later⟩ := Checked.bind_eq_ok_iff.mp written
      obtain ⟨handle, isHandle, ⟨⟩⟩ := Checked.bind_eq_ok_iff.mp later
      rw [write_medium] at isKind
      refine ((SourceKind.ofMedium medium).readsBack kind isKind).bind ?_
      cases medium <;>
        exact (readsBack_word64 number handle isHandle).last (.nothing _)
  | object id =>
      obtain ⟨handle, isHandle, ⟨⟩⟩ := Checked.bind_eq_ok_iff.mp written
      refine (SourceKind.object.readsBack _ rfl).bind ?_
      exact (id.readsBack handle isHandle).last (.nothing _)

end Location

/-! ## Sources and parameters -/

namespace Source

variable {source : Source} {octets : List UInt8}

theorem write_eq_ok_iff : Wire.write source = .ok octets ↔
    ∃ location, Wire.write source.location = .ok location ∧
    ∃ offset, Wire.write source.offset = .ok offset ∧
    ∃ length, Wire.write source.length = .ok length ∧
      location ++ offset ++ length = octets := by
  have unfolded : Wire.write source = (do
    return (← Wire.write source.location) ++ (← Wire.write source.offset) ++
      (← Wire.write source.length)) := rfl
  simp only [unfolded, Checked.bind_eq_ok_iff, pure, Except.pure, Except.ok.injEq]

theorem writable (source : Source) : Writable source := by
  have location : Writable source.location := by
    cases source.location with
    | none => exact ⟨_, rfl⟩
    | some location =>
        obtain ⟨octets, written⟩ := location.writable
        exact ⟨_, Checked.bind_eq_ok_iff.mpr ⟨octets, written, rfl⟩⟩
  obtain ⟨octets, written⟩ := location
  exact ⟨_, write_eq_ok_iff.mpr ⟨octets, written, _, rfl, _, rfl, rfl⟩⟩

theorem readsBack (source : Source) : ReadsBack source := by
  intro octets written
  obtain ⟨location, isLocation, offset, isOffset, length, isLength, rfl⟩ :=
    write_eq_ok_iff.mp written
  have locations : ReadsBack source.location :=
    readsBack_option fun location _ => location.readsBack
  rw [List.append_assoc]
  exact (locations location isLocation).bind
    ((readsBack_word64 source.offset offset isOffset).bind
    ((readsBack_word64 source.length length isLength).last (.nothing source)))

end Source

namespace CreateParams

variable {params : CreateParams} {octets : List UInt8}

theorem write_eq_ok_iff : Wire.write params = .ok octets ↔
    ∃ kind, Wire.write params.kind = .ok kind ∧
    ∃ location, Wire.write params.location = .ok location ∧
    ∃ offset, Wire.write params.offset = .ok offset ∧
    ∃ length, Wire.write params.length = .ok length ∧
    ∃ coarse, Wire.write params.coarse = .ok coarse ∧
    ∃ fine, Wire.write params.fine = .ok fine ∧
    ∃ wait, Wire.write params.wait = .ok wait ∧
      kind ++ location ++ offset ++ length ++ coarse ++ fine ++ wait = octets := by
  have unfolded : Wire.write params = (do
    return (← Wire.write params.kind) ++ (← Wire.write params.location) ++
      (← Wire.write params.offset) ++ (← Wire.write params.length) ++
      (← Wire.write params.coarse) ++ (← Wire.write params.fine) ++
      (← Wire.write params.wait)) := rfl
  simp only [unfolded, Checked.bind_eq_ok_iff, pure, Except.pure, Except.ok.injEq]

theorem writable (params : CreateParams) : Writable params := by
  have kind : Writable params.kind := by
    rcases params.kind with _ | _ | _ | _ | _ <;> exact ⟨_, rfl⟩
  obtain ⟨octets, written⟩ := kind
  exact ⟨_, write_eq_ok_iff.mpr
    ⟨octets, written, _, rfl, _, rfl, _, rfl, _, rfl, _, rfl, _, rfl, rfl⟩⟩

theorem readsBack (short : params.location.toUTF8.toList.length < 18446744073709551616) :
    ReadsBack params := by
  intro octets written
  obtain ⟨kind, isKind, location, isLocation, offset, isOffset, length, isLength, coarse,
    isCoarse, fine, isFine, wait, isWait, rfl⟩ := write_eq_ok_iff.mp written
  have kinds : ReadsBack params.kind := readsBack_option fun kind _ => kind.readsBack
  simp only [List.append_assoc]
  exact (kinds kind isKind).bind
    ((readsBack_text short location isLocation).bind
    ((readsBack_word64 params.offset offset isOffset).bind
    ((readsBack_word64 params.length length isLength).bind
    ((readsBack_octet params.coarse coarse isCoarse).bind
    ((readsBack_octet params.fine fine isFine).bind
    ((readsBack_flag params.wait wait isWait).last (.nothing params)))))))

end CreateParams

/-! ## What travels -/

namespace Magnitude

/-- Not negative, and with a high part of thirty-one bits: it has a packed form. -/
theorem packable_iff (magnitude : Magnitude) :
    magnitude.Packable ↔ ¬ (magnitude.valid = false ∨ 2147483648 ≤ magnitude.high) := by
  rw [packable_iff_high, valid, decide_eq_false_iff_not]
  omega

end Magnitude

/-- The magnitudes in a space. -/
def Space.magnitudes (space : Space) : List Magnitude := [space.file, space.bulk, space.heap]

/-- The magnitudes in a snapshot: capacities and occupancies of the media, and what the
requisitions need. -/
def Snapshot.magnitudes (snapshot : Snapshot) : List Magnitude :=
  (snapshot.media.flatMap fun usage => [usage.capacity, usage.occupancy]) ++
    snapshot.entries.flatMap fun entry => entry.needed.magnitudes

theorem Space.forall_magnitudes_iff {space : Space} {property : Magnitude → Prop} :
    (∀ magnitude ∈ space.magnitudes, property magnitude) ↔
      ∀ medium, property (space.get medium) := by
  constructor
  · rintro all (_ | _ | _) <;> exact all _ (by simp [magnitudes, get])
  · intro all magnitude member
    simp only [magnitudes, List.mem_cons, List.not_mem_nil, or_false] at member
    rcases member with rfl | rfl | rfl
    · exact all .file
    · exact all .bulk
    · exact all .heap

theorem Snapshot.forall_magnitudes_iff {snapshot : Snapshot} {property : Magnitude → Prop} :
    (∀ magnitude ∈ snapshot.magnitudes, property magnitude) ↔
      (∀ usage ∈ snapshot.media, property usage.capacity ∧ property usage.occupancy) ∧
        ∀ entry ∈ snapshot.entries, ∀ medium, property (entry.needed.get medium) := by
  simp only [magnitudes, List.forall_mem_append, List.forall_mem_flatMap, List.forall_mem_cons,
    List.not_mem_nil, false_implies, implies_true, and_true, Space.forall_magnitudes_iff]

namespace Wire

variable {α : Type} [Wire α]

/-- A value is refused exactly if one of its magnitudes is invalid or too wide to be packed, and
otherwise is what its octets decode to, whatever follows them. -/
structure Survives (value : α) (magnitudes : List Magnitude) : Prop where
  refused : encode value = .error .unpackable ↔
    ∃ magnitude ∈ magnitudes, magnitude.valid = false ∨ 2147483648 ≤ magnitude.high
  restored : encode value ≠ .error .unpackable →
    ∃ octets, encode value = .ok octets ∧ ∀ rest, decode α (octets ++ rest) = .ok value

theorem encode_ne_error_iff {value : α} :
    encode value ≠ .error .unpackable ↔ Writable value := by
  have cases : Writable value ↔ ∃ octets, encode value = .ok octets := Iff.rfl
  rw [cases]
  cases encode value with
  | ok octets => simp
  | error stop => cases stop; simp

theorem Survives.of_parts {value : α} {magnitudes : List Magnitude}
    (writable : Writable value ↔ ∀ magnitude ∈ magnitudes, magnitude.Packable)
    (readsBack : ReadsBack value) : Survives value magnitudes where
  refused := by
    rw [← not_iff_not, ← ne_eq, encode_ne_error_iff, writable]
    simp only [Magnitude.packable_iff, not_exists, not_and]
  restored accepted := by
    obtain ⟨octets, written⟩ := encode_ne_error_iff.mp accepted
    exact ⟨octets, written, readsBack.decode written⟩

/-- Whatever holds no magnitude can be written. -/
theorem Survives.of_writable {value : α} (writable : Writable value)
    (readsBack : ReadsBack value) : Survives value [] :=
  .of_parts ⟨fun _ _ member => by simp at member, fun _ => writable⟩ readsBack

/-- Snapshots, spaces, sources and parameters survive the wire.  The lengths of lists and texts are
words, and every slot that a snapshot shows has an index that a requisition can have. -/
theorem values_survive :
    (∀ snapshot : Snapshot, snapshot.media.length < 18446744073709551616 →
      snapshot.entries.length < 18446744073709551616 →
      (∀ entry ∈ snapshot.entries, entry.slot.index ≠ SlotId.nullIndex) →
      Survives snapshot snapshot.magnitudes) ∧
    (∀ space : Space, Survives space space.magnitudes) ∧
    (∀ source : Source, Survives source []) ∧
    (∀ params : CreateParams, params.location.toUTF8.toList.length < 18446744073709551616 →
      Survives params []) := by
  refine ⟨fun snapshot fewMedia fewEntries used => ?_, fun space => ?_, fun source => ?_,
    fun params short => ?_⟩
  · exact .of_parts (Snapshot.writable_iff.trans Snapshot.forall_magnitudes_iff.symm)
      (snapshot.readsBack fewMedia fewEntries used)
  · exact .of_parts (Space.writable_iff.trans Space.forall_magnitudes_iff.symm) space.readsBack
  · exact .of_writable source.writable source.readsBack
  · exact .of_writable params.writable (params.readsBack short)

/-- The queue of one requisition, on a medium that holds four billion bytes. -/
def shown : Snapshot where
  direction := .outbound
  media := [⟨.file, .ofUInt64 4000000000, .ofUInt64 300⟩]
  entries := [⟨.ofParts 1 1, ⟨2, 7⟩, .of .file (.ofUInt64 3999999999), true, false⟩]

/-- A queue comes back from its octets, and so do the parameters of a creation that waits. -/
theorem shown_survives :
    (∃ octets, encode shown = .ok octets ∧ ∀ rest, decode Snapshot (octets ++ rest) = .ok shown) ∧
      Survives (⟨some .bulk, "12", 0, 300, 2, 7, true⟩ : CreateParams) [] := by
  have survives := values_survive.1 shown (by decide) (by decide) (by decide)
  have packable : ¬ ∃ magnitude ∈ shown.magnitudes,
      magnitude.valid = false ∨ 2147483648 ≤ magnitude.high := by decide
  exact ⟨survives.restored (survives.refused.not.mpr packable),
    values_survive.2.2.2 _ (by decide +kernel)⟩

end Wire

end Admission
