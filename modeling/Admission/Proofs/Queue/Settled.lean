import Admission.Proofs.Queue.Greedy

/-!
# Settled queues

A queue is settled for a share if going over it grants nothing.  Going over any queue settles
it, and a settled queue stays settled when its share shrinks, when a pending requisition
leaves, and when a requisition comes, whether that one fits or not.
-/

namespace Admission

section Settled

variable {share smaller : Share} {queue front back : List Requisition}

theorem settled_nil (share : Share) : Settled share [] := rfl

/-- The head of a settled queue is serviced, or it does not fit. -/
theorem settled_cons_iff (share : Share) (head : Requisition) (rest : List Requisition) :
    Settled share (head :: rest) ↔
      (head.serviced = true ∧ Settled (share.less head.need) rest) ∨
      (head.serviced = false ∧ head.fits share = false ∧ Settled share rest) := by
  unfold Settled
  rcases grantAll_cons_cases share head rest with ⟨grants, equation⟩ | ⟨pending, unfit, equation⟩
  · rw [equation, List.cons.injEq]
    constructor
    · rintro ⟨same, settled⟩
      exact Or.inl ⟨by rw [← same, Requisition.granted_serviced], settled⟩
    · rintro (⟨serviced, settled⟩ | ⟨pending, unfit, -⟩)
      · exact ⟨Requisition.granted_of_serviced serviced, settled⟩
      · rw [pending, unfit] at grants
        rcases grants with impossible | impossible <;> cases impossible
  · rw [equation, List.cons.injEq]
    constructor
    · rintro ⟨-, settled⟩
      exact Or.inr ⟨pending, unfit, settled⟩
    · rintro (⟨serviced, -⟩ | ⟨-, -, settled⟩)
      · rw [pending] at serviced
        cases serviced
      · exact ⟨rfl, settled⟩

theorem settled_append_iff (share : Share) (front back : List Requisition) :
    Settled share (front ++ back) ↔
      Settled share front ∧ Settled (share.less (reserved [] front)) back := by
  unfold Settled
  rw [grantAll_append]
  constructor
  · intro whole
    obtain ⟨fronts, backs⟩ := List.append_inj whole (length_grantAll share front)
    rw [fronts] at backs
    exact ⟨fronts, backs⟩
  · rintro ⟨fronts, backs⟩
    rw [fronts, backs]

/-- In a settled queue no pending requisition fits beside the serviced ones ahead of it. -/
theorem settled_iff (share : Share) (queue : List Requisition) :
    Settled share queue ↔
      ∀ front requisition back, queue = front ++ requisition :: back →
        requisition.serviced = false →
        requisition.fits (share.less (reserved [] front)) = false := by
  constructor
  · rintro settled front requisition back rfl pending
    rw [settled_append_iff, settled_cons_iff, pending] at settled
    rcases settled.2 with ⟨impossible, -⟩ | ⟨-, unfit, -⟩
    · cases impossible
    · exact unfit
  · intro unfit
    induction queue generalizing share with
    | nil => exact settled_nil share
    | cons head rest induction =>
        rw [settled_cons_iff]
        cases serviced : head.serviced with
        | true =>
            refine Or.inl ⟨rfl, induction _ fun front requisition back split pending => ?_⟩
            have own := unfit (head :: front) requisition back (by rw [split, List.cons_append])
              pending
            have sameShare : (share.less head.need).less (reserved [] front) =
                share.less (reserved [] (head :: front)) := by
              funext blocking medium
              rw [Share.less_apply, Share.less_apply, Share.less_apply,
                reserved_cons_serviced serviced]
              omega
            rw [sameShare]
            exact own
        | false =>
            have headUnfit := unfit [] head rest rfl serviced
            rw [Share.less_reserved_nil] at headUnfit
            refine Or.inr ⟨rfl, headUnfit, induction _ ?_⟩
            intro front requisition back split pending
            have own := unfit (head :: front) requisition back (by rw [split, List.cons_append])
              pending
            have sameShare : share.less (reserved [] front) =
                share.less (reserved [] (head :: front)) := by
              funext blocking medium
              rw [Share.less_apply, Share.less_apply, reserved_cons_pending serviced]
            rw [sameShare]
            exact own

/-- Going over a queue settles it. -/
theorem settled_grantAll (share : Share) (queue : List Requisition) :
    Settled share (grantAll share queue) := by
  induction queue generalizing share with
  | nil => exact settled_nil share
  | cons head rest induction =>
      rcases grantAll_cons_cases share head rest with ⟨-, equation⟩ | ⟨pending, unfit, equation⟩
      · rw [equation, settled_cons_iff]
        exact Or.inl ⟨rfl, induction (share.less head.need)⟩
      · rw [equation, settled_cons_iff]
        exact Or.inr ⟨pending, unfit, induction share⟩

/-- A settled queue is settled for every smaller share. -/
theorem Settled.mono (settled : Settled share queue)
    (shrunk : ∀ blocking medium, smaller blocking medium ≤ share blocking medium) :
    Settled smaller queue := by
  rw [settled_iff] at settled ⊢
  intro front requisition back split pending
  have unfit := settled front requisition back split pending
  cases fits : requisition.fits (smaller.less (reserved [] front)) with
  | false => rfl
  | true =>
      rw [Requisition.fits_mono (fun blocking medium => ?_) fits] at unfit
      · cases unfit
      · have := shrunk blocking medium
        rw [Share.less_apply, Share.less_apply]
        omega

/-- A pending requisition leaves nothing behind that anybody else could use. -/
theorem Settled.remove_pending {requisition : Requisition}
    (settled : Settled share (front ++ requisition :: back))
    (pending : requisition.serviced = false) : Settled share (front ++ back) := by
  rw [settled_append_iff, settled_cons_iff, pending] at settled
  obtain ⟨fronts, ⟨impossible, -⟩ | ⟨-, -, backs⟩⟩ := settled
  · cases impossible
  · exact (settled_append_iff share front back).mpr ⟨fronts, backs⟩

/-- Going over a settled queue to which a requisition has come grants nothing to the others.  That
one is serviced exactly if it fits beside the serviced ones ahead of it. -/
theorem Settled.grantAll_insert {requisition : Requisition}
    (settled : Settled share (front ++ back)) (nonneg : ∀ medium, 0 ≤ requisition.need medium)
    (pending : requisition.serviced = false) :
    grantAll share (front ++ requisition :: back) =
      front ++ { requisition with
        serviced := requisition.fits (share.less (reserved [] front)) } :: back := by
  rw [settled_append_iff] at settled
  obtain ⟨fronts, backs⟩ := settled
  unfold Settled at fronts backs
  rw [grantAll_append, fronts]
  cases fits : requisition.fits (share.less (reserved [] front)) with
  | true =>
      have shrunk : Settled ((share.less (reserved [] front)).less requisition.need) back := by
        refine Settled.mono backs fun blocking medium => ?_
        have := nonneg medium
        rw [Share.less_apply]
        omega
      rw [grantAll_cons_granted (Or.inr fits), shrunk]
      rfl
  | false =>
      rw [grantAll_cons_skipped pending fits, backs, ← pending]

end Settled

end Admission
