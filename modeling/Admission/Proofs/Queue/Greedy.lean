import Admission.Proofs.Queue.Reserved

/-!
# Granting greedily

The walk of a scan in exact integers.  `grantAll` goes over a queue from head to tail with a
share for either kind of requester, grants whatever fits, and takes every serviced
requisition off both shares as it comes to it.

`serviced_getElem_grantAll` tells the outcome at each position by a closed form.  From there
on three facts are used of it: what is granted fits beside everything before it
(`need_le_of_granted`), a queue that was gone over is settled (`settled_grantAll`), and a
settled queue stays settled when shares shrink, when a requisition comes and when a pending
one leaves.
-/

namespace Admission

/-- What is left on each medium for requesters that do not wait and for those that do. -/
abbrev Share : Type := (blocking : Bool) → Medium → Int

namespace Share

/-- The shares that a capacity and an occupancy leave: requesters that wait draw from the lower
half of the capacity. -/
def of (capacity occupancy : Medium → Int) : Share := fun blocking medium =>
  if blocking then capacity medium / 2 - occupancy medium
  else capacity medium - occupancy medium

theorem of_apply (capacity occupancy : Medium → Int) (blocking : Bool) (medium : Medium) :
    of capacity occupancy blocking medium =
      (if blocking then capacity medium / 2 else capacity medium) - occupancy medium := by
  cases blocking <;> rfl

/-- The shares with some space taken off. -/
def less (share : Share) (space : Medium → Int) : Share := fun blocking medium =>
  share blocking medium - space medium

@[simp] theorem less_apply (share : Share) (space : Medium → Int) (blocking : Bool)
    (medium : Medium) : share.less space blocking medium = share blocking medium - space medium :=
  rfl

theorem less_reserved_nil (share : Share) : share.less (reserved [] []) = share := by
  funext blocking medium
  simp

end Share

/-- Whether a requisition fits in its share, in which nothing counts as less than nothing. -/
def Requisition.fits (requisition : Requisition) (share : Share) : Bool :=
  Medium.all.all fun medium =>
    requisition.need medium ≤ max 0 (share requisition.blocking medium)

theorem Requisition.fits_iff (requisition : Requisition) (share : Share) :
    requisition.fits share = true ↔
      ∀ medium, requisition.need medium ≤ max 0 (share requisition.blocking medium) := by
  simp only [fits, List.all_eq_true, decide_eq_true_eq]
  exact ⟨fun every medium => every medium medium.mem_all, fun every medium _ => every medium⟩

/-- What does not fit in a share needs more of some medium. -/
theorem Requisition.fits_eq_false_iff (requisition : Requisition) (share : Share) :
    requisition.fits share = false ↔
      ∃ medium, max 0 (share requisition.blocking medium) < requisition.need medium := by
  rw [← Bool.not_eq_true, fits_iff, not_forall]
  exact exists_congr fun medium => Int.not_le

/-- What does not fit in a share does not fit in a smaller one. -/
theorem Requisition.fits_mono {requisition : Requisition} {share larger : Share}
    (smaller : ∀ blocking medium, share blocking medium ≤ larger blocking medium)
    (fits : requisition.fits share = true) : requisition.fits larger = true := by
  rw [fits_iff] at fits ⊢
  intro medium
  have own := fits medium
  have grown := smaller requisition.blocking medium
  omega

/-- Goes over a queue and grants what fits in the share left after all before it. -/
def grantAll (share : Share) : List Requisition → List Requisition
  | [] => []
  | head :: rest =>
    if head.serviced || head.fits share then
      head.granted :: grantAll (share.less head.need) rest
    else head :: grantAll share rest

/-- A queue in which nothing is granted any more. -/
def Settled (share : Share) (queue : List Requisition) : Prop := grantAll share queue = queue

section GrantAll

variable {share smaller : Share} {queue front back : List Requisition} {medium : Medium}

/-! ## One requisition at a time -/

@[simp] theorem grantAll_nil (share : Share) : grantAll share [] = [] := rfl

theorem grantAll_cons_granted {head : Requisition}
    (grants : head.serviced = true ∨ head.fits share = true) (rest : List Requisition) :
    grantAll share (head :: rest) = head.granted :: grantAll (share.less head.need) rest := by
  rw [grantAll, if_pos (by simpa using grants)]

theorem grantAll_cons_skipped {head : Requisition} (pending : head.serviced = false)
    (unfit : head.fits share = false) (rest : List Requisition) :
    grantAll share (head :: rest) = head :: grantAll share rest := by
  rw [grantAll, if_neg (by simp [pending, unfit])]

/-- The head is granted, or it is skipped and stays as it is. -/
theorem grantAll_cons_cases (share : Share) (head : Requisition) (rest : List Requisition) :
    ((head.serviced = true ∨ head.fits share = true) ∧
      grantAll share (head :: rest) = head.granted :: grantAll (share.less head.need) rest) ∨
    (head.serviced = false ∧ head.fits share = false ∧
      grantAll share (head :: rest) = head :: grantAll share rest) := by
  by_cases grants : head.serviced = true ∨ head.fits share = true
  · exact Or.inl ⟨grants, grantAll_cons_granted grants rest⟩
  · have pending : head.serviced = false := by simpa using fun serviced => grants (Or.inl serviced)
    have unfit : head.fits share = false := by simpa using fun fits => grants (Or.inr fits)
    exact Or.inr ⟨pending, unfit, grantAll_cons_skipped pending unfit rest⟩

/-- Going over a queue is going over its front, and then over its back with what is left. -/
theorem grantAll_append (share : Share) (front back : List Requisition) :
    grantAll share (front ++ back) =
      grantAll share front ++
        grantAll (share.less (reserved [] (grantAll share front))) back := by
  induction front generalizing share with
  | nil => rw [List.nil_append, grantAll_nil, List.nil_append, Share.less_reserved_nil]
  | cons head rest induction =>
      rw [List.cons_append]
      rcases grantAll_cons_cases share head rest with
        ⟨grants, equation⟩ | ⟨pending, unfit, equation⟩
      · rw [equation, grantAll_cons_granted grants, induction, List.cons_append]
        congr 3
        funext blocking medium
        rw [Share.less_apply, Share.less_apply, Share.less_apply,
          reserved_cons_serviced (by simp), Requisition.granted_need]
        omega
      · rw [equation, grantAll_cons_skipped pending unfit, induction, List.cons_append]
        congr 3
        funext blocking medium
        rw [Share.less_apply, Share.less_apply, reserved_cons_pending pending]

/-! ## What stays as it was -/

@[simp] theorem length_grantAll (share : Share) (queue : List Requisition) :
    (grantAll share queue).length = queue.length := by
  induction queue generalizing share with
  | nil => rfl
  | cons head rest induction =>
      rcases grantAll_cons_cases share head rest with ⟨-, equation⟩ | ⟨-, -, equation⟩ <;>
        rw [equation, List.length_cons, induction, List.length_cons]

/-- Only the mark of being serviced changes, and only from pending to serviced. -/
theorem getElem_grantAll (share : Share) (queue : List Requisition) (position : Nat)
    (old : position < queue.length) (new : position < (grantAll share queue).length) :
    (grantAll share queue)[position] = queue[position] ∨
      queue[position].serviced = false ∧
        (grantAll share queue)[position] = queue[position].granted := by
  induction queue generalizing share position with
  | nil => simp at old
  | cons head rest induction =>
      rcases grantAll_cons_cases share head rest with
        ⟨grants, equation⟩ | ⟨pending, unfit, equation⟩
      · cases position with
        | zero =>
            simp only [equation, List.getElem_cons_zero]
            cases serviced : head.serviced with
            | true => exact Or.inl (Requisition.granted_of_serviced serviced)
            | false => exact Or.inr ⟨rfl, trivial⟩
        | succ position =>
            simp only [equation, List.getElem_cons_succ]
            exact induction _ position (by simpa using old) (by simpa using old)
      · cases position with
        | zero => simp only [equation, List.getElem_cons_zero, true_or]
        | succ position =>
            simp only [equation, List.getElem_cons_succ]
            exact induction _ position (by simpa using old) (by simpa using old)

theorem map_slot_grantAll (share : Share) (queue : List Requisition) :
    (grantAll share queue).map Requisition.slot = queue.map Requisition.slot := by
  induction queue generalizing share with
  | nil => rfl
  | cons head rest induction =>
      rcases grantAll_cons_cases share head rest with ⟨-, equation⟩ | ⟨-, -, equation⟩ <;>
        simp [equation, induction]

/-- Whatever stands in the queue afterwards stood there before, granted in the meantime or not. -/
theorem mem_of_mem_grantAll {requisition : Requisition}
    (member : requisition ∈ grantAll share queue) :
    requisition ∈ queue ∨ ∃ before ∈ queue, before.serviced = false ∧
      requisition = before.granted := by
  obtain ⟨position, new, rfl⟩ := List.mem_iff_getElem.mp member
  have old : position < queue.length := length_grantAll share queue ▸ new
  rcases getElem_grantAll share queue position old new with same | ⟨pending, granted⟩
  · rw [same]
    exact Or.inl (List.getElem_mem old)
  · exact Or.inr ⟨queue[position], List.getElem_mem old, pending, granted⟩

/-- What was granted in the meantime fits in the share. -/
theorem fits_of_mem_grantAll {requisition : Requisition}
    (nonneg : ∀ before ∈ queue, ∀ medium, 0 ≤ before.need medium)
    (member : requisition ∈ grantAll share queue) :
    requisition ∈ queue ∨ ∃ before ∈ queue, before.serviced = false ∧
      requisition = before.granted ∧ before.fits share = true := by
  induction queue generalizing share with
  | nil => exact Or.inl member
  | cons head rest induction =>
      have later : ∀ {left : Share},
          (∀ blocking medium, left blocking medium ≤ share blocking medium) →
          requisition ∈ grantAll left rest →
          requisition ∈ head :: rest ∨ ∃ before ∈ head :: rest, before.serviced = false ∧
            requisition = before.granted ∧ before.fits share = true := by
        intro left smaller inRest
        rcases induction (fun before inside =>
            nonneg before (List.mem_cons_of_mem head inside)) inRest with
          stood | ⟨before, stood, pending, rfl, fits⟩
        · exact Or.inl (List.mem_cons_of_mem head stood)
        · exact Or.inr ⟨before, List.mem_cons_of_mem head stood, pending, rfl,
            Requisition.fits_mono smaller fits⟩
      rcases grantAll_cons_cases share head rest with ⟨grants, equation⟩ | ⟨-, -, equation⟩
      · rw [equation, List.mem_cons] at member
        rcases member with rfl | inRest
        · cases serviced : head.serviced with
          | true =>
              rw [Requisition.granted_of_serviced serviced]
              exact Or.inl List.mem_cons_self
          | false =>
              rw [serviced] at grants
              exact Or.inr ⟨head, List.mem_cons_self, serviced, rfl,
                grants.resolve_left Bool.false_ne_true⟩
        · refine later (fun blocking medium => ?_) inRest
          have own := nonneg head List.mem_cons_self medium
          rw [Share.less_apply]
          omega
      · rw [equation, List.mem_cons] at member
        rcases member with rfl | inRest
        · exact Or.inl List.mem_cons_self
        · exact later (fun _ _ => Int.le_refl _) inRest

/-- Whatever stood in the queue stands there afterwards, granted in the meantime or not. -/
theorem mem_grantAll {requisition : Requisition} (member : requisition ∈ queue) :
    requisition ∈ grantAll share queue ∨ requisition.granted ∈ grantAll share queue := by
  obtain ⟨position, old, rfl⟩ := List.mem_iff_getElem.mp member
  have new : position < (grantAll share queue).length := (length_grantAll share queue).symm ▸ old
  have stands := List.getElem_mem new
  rcases getElem_grantAll share queue position old new with same | ⟨-, granted⟩
  · exact Or.inl (same ▸ stands)
  · exact Or.inr (granted ▸ stands)

theorem nonneg_grantAll {medium : Medium}
    (nonneg : ∀ requisition ∈ queue, 0 ≤ requisition.need medium) :
    ∀ requisition ∈ grantAll share queue, 0 ≤ requisition.need medium := by
  intro requisition member
  rcases mem_of_mem_grantAll member with stood | ⟨before, stood, -, rfl⟩
  · exact nonneg requisition stood
  · exact nonneg before stood

/-! ## The closed form -/

/-- What stands behind a front afterwards is what stood behind it before, gone over with the
share that the front leaves. -/
theorem exists_of_grantAll_eq_append (split : grantAll share queue = front ++ back) :
    ∃ frontBefore backBefore, queue = frontBefore ++ backBefore ∧
      grantAll share frontBefore = front ∧
      grantAll (share.less (reserved [] front)) backBefore = back := by
  have count : front.length + back.length = queue.length := by
    rw [← List.length_append, ← split, length_grantAll]
  have parts := grantAll_append share (queue.take front.length) (queue.drop front.length)
  rw [List.take_append_drop, split] at parts
  obtain ⟨fronts, backs⟩ := List.append_inj parts (by simp; omega)
  refine ⟨queue.take front.length, queue.drop front.length, (List.take_append_drop ..).symm,
    fronts.symm, ?_⟩
  rw [← fronts] at backs
  exact backs.symm

/-- A requisition is serviced afterwards exactly if it was before, or fits in what is left of
its share by all the serviced ones ahead of it. -/
theorem serviced_getElem_grantAll (share : Share) (queue : List Requisition) (position : Nat)
    (old : position < queue.length) (new : position < (grantAll share queue).length) :
    (grantAll share queue)[position].serviced = true ↔
      queue[position].serviced = true ∨
        queue[position].fits
          (share.less (reserved [] ((grantAll share queue).take position))) = true := by
  induction queue generalizing share position with
  | nil => simp at old
  | cons head rest induction =>
      rcases grantAll_cons_cases share head rest with
        ⟨grants, equation⟩ | ⟨pending, unfit, equation⟩
      · cases position with
        | zero => simpa [equation, Share.less_reserved_nil] using grants
        | succ position =>
            have oldRest : position < rest.length := by simpa using old
            simp only [equation, List.getElem_cons_succ, List.take_succ_cons]
            rw [induction _ position oldRest (by simpa using oldRest)]
            have sameShare : (share.less head.need).less
                (reserved [] ((grantAll (share.less head.need) rest).take position)) =
                share.less (reserved []
                  (head.granted :: (grantAll (share.less head.need) rest).take position)) := by
              funext blocking medium
              rw [Share.less_apply, Share.less_apply, Share.less_apply,
                reserved_cons_serviced (by simp), Requisition.granted_need]
              omega
            rw [sameShare]
      · cases position with
        | zero => simp [equation, Share.less_reserved_nil, pending, unfit]
        | succ position =>
            have oldRest : position < rest.length := by simpa using old
            simp only [equation, List.getElem_cons_succ, List.take_succ_cons]
            rw [induction _ position oldRest (by simpa using oldRest)]
            have sameShare : share.less (reserved [] ((grantAll share rest).take position)) =
                share.less (reserved [] (head :: (grantAll share rest).take position)) := by
              funext blocking medium
              rw [Share.less_apply, Share.less_apply, reserved_cons_pending pending]
            rw [sameShare]

/-- What is granted fits in its share beside everything serviced ahead of it. -/
theorem need_le_of_granted {requisition : Requisition}
    (split : grantAll share queue = front ++ requisition :: back)
    (serviced : requisition.serviced = true)
    (fresh : ∀ before ∈ queue, before.slot = requisition.slot → before.serviced = false)
    (medium : Medium) :
    requisition.need medium ≤
      max 0 (share requisition.blocking medium - reserved [] front medium) := by
  obtain ⟨frontBefore, backBefore, rfl, -, backs⟩ := exists_of_grantAll_eq_append split
  cases backBefore with
  | nil => simp at backs
  | cons head rest =>
      rcases grantAll_cons_cases (share.less (reserved [] front)) head rest with
        ⟨grants, equation⟩ | ⟨pending, -, equation⟩
      · rw [equation, List.cons.injEq] at backs
        obtain ⟨rfl, -⟩ := backs
        have pending := fresh head (by simp) (by simp)
        rcases grants with before | fits
        · rw [pending] at before
          cases before
        · exact (head.fits_iff _).mp fits medium
      · rw [equation, List.cons.injEq] at backs
        obtain ⟨rfl, -⟩ := backs
        rw [pending] at serviced
        cases serviced

end GrantAll

end Admission
