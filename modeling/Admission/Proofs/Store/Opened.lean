import Admission.Proofs.Magnitude.Unpacked
import Admission.Proofs.Store.Contents

/-!
# Stores that were opened

Opening a store writes a packed capacity for every direction and medium, unless one of them cannot
be packed.  Objects that come and go leave the capacities alone.  So a store that was opened can be
asked for a capacity at any time, and answers one that can be packed
(`RecordStore.Opened.capacity`).
-/

namespace Admission

namespace RecordStore

variable {store : RecordStore} {limits : Limits} {direction : Direction} {medium : Medium}

/-! ## Single capacities -/

theorem limitRecord?_putLimit_self (store : RecordStore) (direction : Direction)
    (medium : Medium) (record : List UInt8) :
    (store.putLimit direction medium record).limitRecord? direction medium = some record := by
  have none : (store.deleteLimit direction medium).limits.find?
      (fun row => row.isOf direction medium) = Option.none :=
    List.find?_eq_none.mpr fun row member => by simpa using (List.mem_filter.mp member).2
  have own : LimitRow.isOf ⟨direction.name, medium.name, record⟩ direction medium = true := by
    rw [LimitRow.isOf, beq_self_eq_true, beq_self_eq_true, Bool.and_true]
  simp only [limitRecord?, putLimit, List.find?_append, none, List.find?_cons, own,
    Option.none_or, Option.map_some]

/-- The capacity of another direction or medium is another row. -/
theorem limitRecord?_putLimit_of_ne (store : RecordStore) {direction other : Direction}
    {medium another : Medium} (record : List UInt8)
    (different : (other, another) ≠ (direction, medium)) :
    (store.putLimit direction medium record).limitRecord? other another =
      store.limitRecord? other another := by
  have apart : ∀ row : LimitRow, row.isOf other another = true →
      row.isOf direction medium = false := by
    intro row isOther
    rw [LimitRow.isOf, Bool.and_eq_true, beq_iff_eq, beq_iff_eq] at isOther
    rw [LimitRow.isOf, isOther.1, isOther.2, Direction.name_beq, Medium.name_beq,
      Bool.and_eq_false_iff, decide_eq_false_iff_not, decide_eq_false_iff_not]
    rw [Ne, Prod.mk.injEq] at different
    exact Decidable.not_and_iff_or_not.mp different
  have kept : (store.deleteLimit direction medium).limits.find?
      (fun row => row.isOf other another) =
        store.limits.find? fun row => row.isOf other another := by
    rw [deleteLimit, List.find?_filter]
    congr 1
    funext row
    cases isOther : row.isOf other another with
    | false => simp
    | true => simp [apart row isOther]
  have notOther : LimitRow.isOf ⟨direction.name, medium.name, record⟩ other another = false := by
    rw [← Bool.not_eq_true]
    intro isOther
    have isNot := apart _ isOther
    rw [LimitRow.isOf, beq_self_eq_true, beq_self_eq_true, Bool.and_true] at isNot
    cases isNot
  simp only [limitRecord?, putLimit, List.find?_append, kept, List.find?_cons, notOther,
    List.find?_nil, Option.or_none]

/-! ## All capacities -/

/-- The packed capacity with which a store is opened is stored for a direction and medium. -/
def Holds (store : RecordStore) (limits : Limits) (direction : Direction) (medium : Medium) :
    Prop :=
  ∃ record, (Magnitude.ofUInt64 (limits.get direction medium)).pack = .ok record ∧
    store.limitRecord? direction medium = some record

/-- The capacities are stored one after the other; none is lost again. -/
theorem holds_setLimits {order : List (Direction × Medium)}
    (opened : (setLimits limits store order).result = .ok ())
    (there : (direction, medium) ∈ order ∨ store.Holds limits direction medium) :
    (setLimits limits store order).store.Holds limits direction medium := by
  induction order generalizing store with
  | nil => exact there.resolve_left List.not_mem_nil
  | cons first rest induction =>
      obtain ⟨other, another⟩ := first
      unfold setLimits at opened ⊢
      simp only at opened ⊢
      split at opened
      · cases opened
      · next record packed =>
          refine induction opened ?_
          by_cases here : (direction, medium) = (other, another)
          · cases here
            exact Or.inr ⟨record, packed, limitRecord?_putLimit_self _ _ _ _⟩
          · rcases there with isFirst | ⟨found, isRecord, stored⟩
            · exact Or.inl ((List.mem_cons.mp isFirst).resolve_left here)
            · refine Or.inr ⟨found, isRecord, ?_⟩
              rw [limitRecord?_putLimit_of_ne _ _ here, stored]

theorem mem_limitOrder (direction : Direction) (medium : Medium) :
    (direction, medium) ∈ limitOrder := by
  cases direction <;> cases medium <;> decide

/-- All capacities with which a store was opened are stored. -/
def Opened (limits : Limits) (store : RecordStore) : Prop :=
  ∀ direction medium, store.Holds limits direction medium

theorem opened_openWith {path : String} (opened : (store.openWith path limits).result = .ok ()) :
    (store.openWith path limits).store.Opened limits := fun direction medium =>
  holds_setLimits opened (Or.inl (mem_limitOrder direction medium))

namespace Opened

/-- A capacity is answered, and can be packed. -/
theorem capacity (opened : store.Opened limits) (direction : Direction) (medium : Medium) :
    store.capacity direction medium = .ok (.ofUInt64 (limits.get direction medium)) ∧
      (Magnitude.ofUInt64 (limits.get direction medium)).Packable := by
  obtain ⟨record, packed, stored⟩ := opened direction medium
  have unpacked := Magnitude.unpack_pack packed []
  rw [List.append_nil] at unpacked
  refine ⟨?_, (Magnitude.pack_eq_ok_iff.mp packed).1⟩
  rw [RecordStore.capacity, stored]
  simp only [unpacked]

/-- Capacities are told by their table alone. -/
theorem of_limits {later : RecordStore} (opened : store.Opened limits)
    (same : later.limits = store.limits) : later.Opened limits := by
  intro direction medium
  obtain ⟨record, packed, stored⟩ := opened direction medium
  refine ⟨record, packed, ?_⟩
  rw [limitRecord?, same]
  exact stored

theorem create (opened : store.Opened limits) (id : ObjectId) (object : NewObject) :
    (store.create id object).store.Opened limits := by
  refine opened.of_limits ?_
  unfold RecordStore.create
  split <;> rfl

theorem destroy (opened : store.Opened limits) (id : ObjectId) :
    (store.destroy id).store.Opened limits := by
  refine opened.of_limits ?_
  unfold RecordStore.destroy
  split <;> rfl

end Opened

end RecordStore

end Admission
