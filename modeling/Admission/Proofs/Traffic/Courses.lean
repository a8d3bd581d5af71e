import Admission.Proofs.Traffic.Fair
import Admission.Proofs.Traffic.Performed
import Admission.Proofs.Traffic.Tallied

/-!
# The course of a creation

A `Course` follows one creation through the traffic: its own parts, and between them any number
of steps of others.

*Slots.*  A slot is taken by the part that submits, and freed by the last one (`Part.slots`).

*Objects.*  At most one part of a course stores something (`Part.objects`).

`Course.tidy` gathers what is known of a course at every stage.  What the actions of the
controller do without a pause are courses (`Course.create`, `Course.resume`, `Course.abandon`).
-/

namespace Admission

section Courses

variable {σ : Type} [Store σ]

/-- What a part found and what it left. -/
structure Act (σ : Type) where
  before : Traffic σ
  after : Traffic σ

/-- What becomes of a creation that is begun at `first`, with the parts that were its own.  The
others leave its call alone. -/
inductive Course (weather : Weather σ) (commission : Commission) (first : Traffic σ) :
    Traffic σ → Stage → List (Act σ) → Prop where
  | begun : Course weather commission first first .begun []
  | others {now next : Traffic σ} {stage : Stage} {own : List (Act σ)} :
      Course weather commission first now stage own → weather.Step now next →
      (∀ call, stage.call? commission = some call → call ∈ next.calls) →
      Course weather commission first next stage own
  | part {now next : Traffic σ} {stage following : Stage} {own : List (Act σ)} :
      Course weather commission first now stage own →
      Part weather commission now stage next following →
      Course weather commission first next following (own ++ [⟨now, next⟩])

variable {weather : Weather σ} {commission : Commission} {first now before after : Traffic σ}
  {stage next : Stage} {own : List (Act σ)}

/-- What a part does to the slots of queued requisitions. -/
theorem Part.slots {limit : Nat} (part : Part weather commission before stage after next)
    (tallied : Tallied limit before) (later : Tallied limit after) :
    ((stage.ticket?.map Ticket.slot).toList ++ after.controller.ledger.slots).Perm
      ((next.ticket?.map Ticket.slot).toList ++ before.controller.ledger.slots) := by
  have named : ∀ {traffic : Traffic σ} (ticket : Option Ticket), Tallied limit traffic →
      ((ticket.toList ++ traffic.held).map Ticket.slot).Perm
        ((ticket.map Ticket.slot).toList ++ traffic.controller.ledger.slots) := by
    intro traffic ticket tallied
    rw [List.map_append, ← Ledger.map_slot_tickets]
    cases ticket <;> exact (tallied.tickets.map Ticket.slot).append_left _
  exact (named stage.ticket? later).symm.trans
    ((part.held.map Ticket.slot).trans (named next.ticket? tallied))

/-! ## What is known at every stage -/

/-- What holds of a commission that has come to a stage. -/
def Stage.Fits (commission : Commission) : Stage → Prop
  | begun | ended _ => True
  | sized _ => commission.HasExtent
  | waiting creation | cleared creation | stored creation _ | leaving creation _ =>
    commission.HasExtent ∧ creation.object = commission.object .reserved ∧
      creation.ticket.attendant = commission.attendant

/-- Who is not waited for was asked for at once, and who is interrupted had an attendant that
was ended. -/
def Ending.Told (commission : Commission) (own : List (Act σ)) : Ending → Prop
  | notCreated => commission.attendant = none ∧ commission.HasExtent
  | interrupted => ∃ attendant, commission.attendant = some attendant ∧
      ∃ act ∈ own, act.before.controller.attendants.isEnded attendant = true
  | created _ | refused _ | abandoned => True

omit [Store σ] in
theorem Ending.Told.mono {ending : Ending} {more : List (Act σ)}
    (told : ending.Told commission own) (among : own ⊆ more) : ending.Told commission more := by
  cases ending with
  | interrupted =>
      obtain ⟨attendant, isAttendant, act, member, isEnded⟩ := told
      exact ⟨attendant, isAttendant, act, among member, isEnded⟩
  | _ => exact told

/-- Exactly one part stores something: the object of the commission, with the extents that its
source has at that moment. -/
def StoresOnce [Accounted σ] (commission : Commission) (id : ObjectId) (own : List (Act σ)) :
    Prop :=
  ∃ earlier act later extents, own = earlier ++ act :: later ∧
    commission.source.resolve act.before.objects = some extents ∧
    act.after.objects = act.before.objects ++ [commission.stored id extents] ∧
    ∀ other ∈ earlier ++ later, other.after.objects = other.before.objects

namespace Part

theorem fits (part : Part weather commission before stage after next)
    (fits : stage.Fits commission) : next.Fits commission := by
  cases part with
  | size isLocation nonempty sized =>
      exact ⟨by rw [isLocation]; exact Option.some_ne_none _, nonempty⟩
  | submit shows isSized spare ended =>
      cases Action.submission_of_attempt ended with
      | queued valid took offers isScanned outcome => exact ⟨fits, rfl, rfl⟩
      | _ => trivial
  | attend attendants remarks => exact fits
  | clear waits isServiced => exact fits
  | interrupt waits isOver => exact fits
  | abandon waits => exact fits
  | store isCleared fresh done => exact fits
  | storeRefused isCleared done => exact fits
  | _ => trivial

/-- A part that decides on the ending can tell why. -/
theorem told {limit : Nat} (part : Part weather commission before stage after next)
    (fits : stage.Fits commission) (tallied : Tallied limit before) {ending : Ending}
    (decides : next.ending? = some ending) :
    stage.ending? = some ending ∨ ending.Told commission [⟨before, after⟩] := by
  cases part with
  | submit shows isSized spare ended =>
      right
      cases Action.submission_of_attempt ended with
      | granted valid took offers isScanned serviced released => cases released
      | notServiceable valid took offers isScanned pending alone =>
          cases decides
          exact ⟨alone, fits⟩
      | queued valid took offers isScanned outcome => cases decides
      | invalid invalid => cases decides; trivial
      | exhausted valid full => cases decides; trivial
      | unanswered valid took stopped => cases decides; trivial
  | @interrupt creation waits isOver =>
      right
      cases decides
      have held : creation.ticket ∈ before.held := Traffic.mem_held_of_call waits rfl
      rcases isOver with isEnded | ⟨alone, pending⟩
      · obtain ⟨attendant, isAttendant, isEnded⟩ := (Option.any_eq_true _ _).mp isEnded
        exact ⟨attendant, fits.2.2 ▸ isAttendant, _, List.mem_singleton_self _, isEnded⟩
      · rw [tallied.serviced_of_unattended held alone] at pending
        cases pending
  | leave shows isLeaving ended =>
      cases decides
      exact Or.inl rfl
  | _ => cases decides <;> exact Or.inr trivial

variable [Accounted σ] {limits : Direction → Medium → Int}

/-- A part changes no objects, or it stores the object of the commission. -/
theorem objects (part : Part weather commission before stage after next)
    (fits : stage.Fits commission) (orderly : Orderly limits before) :
    next.made? = stage.made? ∧ after.objects = before.objects ∨
      stage.made? = none ∧ ∃ id extents, next.made? = some id ∧
        commission.source.resolve before.objects = some extents ∧
        after.objects = before.objects ++ [commission.stored id extents] := by
  cases part with
  | @createEmpty id controller isEmpty fresh done =>
      obtain ⟨objects, -⟩ := orderly.create_empty isEmpty fresh done
      exact Or.inr ⟨rfl, id, [], rfl, by rw [Source.resolve, isEmpty], objects⟩
  | createRefused isEmpty done =>
      have same := (orderly.create_refused done).1
      exact Or.inl ⟨rfl, congrArg Accounted.objects same⟩
  | submit shows isSized spare ended =>
      exact Or.inl ⟨Stage.made?_answered _ _, rfl⟩
  | @store creation id controller isCleared fresh done =>
      obtain ⟨requisition, extents, -, -, -, resolved, objects, -⟩ :=
        orderly.create_cleared isCleared fresh done
      rw [fits.2.1] at resolved objects
      exact Or.inr ⟨rfl, id, extents, rfl, resolved, objects⟩
  | storeRefused isCleared done =>
      have same := (orderly.create_refused done).1
      exact Or.inl ⟨rfl, congrArg Accounted.objects same⟩
  | @leave creation ending see outcome final shows isLeaving ended =>
      refine Or.inl ⟨?_, rfl⟩
      cases ending <;> rfl
  | _ => exact Or.inl ⟨rfl, rfl⟩

end Part

/-- What is known of a course at a stage. -/
structure Tidy [Accounted σ] (commission : Commission) (stage : Stage) (own : List (Act σ)) :
    Prop where
  fits : stage.Fits commission
  untouched : stage.made? = none → ∀ act ∈ own, act.after.objects = act.before.objects
  once : ∀ id, stage.made? = some id → StoresOnce commission id own
  told : ∀ ending, stage.ending? = some ending → ending.Told commission own
  /-- What a part has queued is of the ticket, until the last part takes it back. -/
  slots : ∀ act ∈ own, ∀ slot ∈ act.after.controller.ledger.slots,
    slot ∉ act.before.controller.ledger.slots →
      stage.ticket?.map Ticket.slot = some slot ∨ (∃ ending, stage = .ended ending) ∧
        ∀ last, own.getLast? = some last → slot ∉ last.after.controller.ledger.slots

namespace Tidy

variable [Accounted σ] {limits : Direction → Medium → Int}

theorem begun : Tidy commission .begun ([] : List (Act σ)) where
  fits := trivial
  untouched := by rintro - act ⟨⟩
  once := by rintro id ⟨⟩
  told := by rintro ending ⟨⟩
  slots := by rintro act ⟨⟩

/-- What the parts so far have queued is the next stage's or has been taken back. -/
theorem part_slots {limit : Nat} (tidy : Tidy commission stage own)
    (part : Part weather commission before stage after next) (tallied : Tallied limit before)
    (later : Tallied limit after) {act : Act σ} (member : act ∈ own ++ [⟨before, after⟩])
    {slot : SlotId} (inAfter : slot ∈ act.after.controller.ledger.slots)
    (notBefore : slot ∉ act.before.controller.ledger.slots) :
    next.ticket?.map Ticket.slot = some slot ∨
      (∃ ending, next = .ended ending) ∧ slot ∉ after.controller.ledger.slots := by
  have moved := part.slots tallied later
  rcases List.mem_append.mp member with old | new
  · rcases tidy.slots act old slot inAfter notBefore with isOwn | ⟨⟨ending, rfl⟩, -⟩
    · obtain ⟨ticket, holds, rfl⟩ := Option.map_eq_some_iff.mp isOwn
      rcases part.ticket holds with keeps | ⟨gives, isEnded⟩
      · exact Or.inl (by rw [keeps, Option.map_some])
      · refine Or.inr ⟨isEnded, ?_⟩
        rw [holds, gives] at moved
        have distinct := moved.nodup_iff.mpr tallied.ledger.slots_nodup
        exact (List.nodup_cons.mp distinct).1
    · cases part
  · rw [List.mem_singleton] at new
    subst new
    rcases List.mem_append.mp (moved.mem_iff.mp (List.mem_append_right _ inAfter)) with
      handed | old
    · exact Or.inl (Option.mem_toList.mp handed)
    · exact absurd old notBefore

theorem part {limit : Nat} (tidy : Tidy commission stage own)
    (part : Part weather commission before stage after next) (orderly : Orderly limits before)
    (tallied : Tallied limit before) (later : Tallied limit after) :
    Tidy commission next (own ++ [⟨before, after⟩]) where
  fits := part.fits tidy.fits
  untouched := by
    intro nothing act member
    rcases part.objects tidy.fits orderly with ⟨made, same⟩ | ⟨-, id, extents, made, -⟩
    · rcases List.mem_append.mp member with old | new
      · exact tidy.untouched (made ▸ nothing) act old
      · rw [List.mem_singleton.mp new]
        exact same
    · rw [nothing] at made
      cases made
  once := by
    intro id isMade
    rcases part.objects tidy.fits orderly with
      ⟨made, same⟩ | ⟨nothing, other, extents, made, resolved, objects⟩
    · obtain ⟨earlier, act, back, extents, rfl, resolved, objects, others⟩ :=
        tidy.once id (made ▸ isMade)
      refine ⟨earlier, act, back ++ [⟨before, after⟩], extents, by simp, resolved, objects, ?_⟩
      intro found member
      rw [← List.append_assoc] at member
      rcases List.mem_append.mp member with old | new
      · exact others found old
      · rw [List.mem_singleton.mp new]
        exact same
    · cases isMade.symm.trans made
      refine ⟨own, ⟨before, after⟩, [], extents, rfl, resolved, objects, ?_⟩
      rw [List.append_nil]
      exact tidy.untouched nothing
  told := by
    intro ending decides
    rcases part.told tidy.fits tallied decides with decided | told
    · exact (tidy.told ending decided).mono (List.subset_append_left _ _)
    · exact told.mono (List.subset_append_right _ _)
  slots := by
    intro act member slot inAfter notBefore
    refine (tidy.part_slots part tallied later member inAfter notBefore).imp_right
      fun ⟨isEnded, gone⟩ => ⟨isEnded, fun last isLast => ?_⟩
    rw [List.getLast?_concat, Option.some.injEq] at isLast
    rw [← isLast]
    exact gone

end Tidy

/-- A course is traffic. -/
theorem Course.reaches (course : Course weather commission first now stage own) :
    weather.Reaches first now := by
  induction course with
  | begun => exact .refl
  | others earlier step present reaches => exact reaches.tail step
  | part earlier part reaches =>
      rcases part.step with rfl | step
      · exact reaches
      · exact reaches.tail step

/-- The call of a creation is there at every stage of it. -/
theorem Course.present (course : Course weather commission first now stage own) :
    ∀ call, stage.call? commission = some call → call ∈ now.calls := by
  induction course with
  | begun => rintro call ⟨⟩
  | others earlier step keeps present => exact keeps
  | part earlier part present => exact part.call_mem present

/-- A course is tidy at every stage. -/
theorem Course.tidy [Accounted σ] {limits : Direction → Medium → Int} {limit : Nat}
    (orderly : Orderly limits first) (tallied : Tallied limit first)
    (course : Course (Weather.fair σ limits) commission first now stage own) :
    Tidy commission stage own := by
  induction course with
  | begun => exact .begun
  | others earlier step keeps tidy => exact tidy
  | part earlier part tidy =>
      have later := (Course.part earlier part).reaches
      exact tidy.part part (orderly.reaches earlier.reaches) (tallied.reaches earlier.reaches)
        (tallied.reaches later)

/-! ## Actions -/

variable [Accounted σ] {limits : Direction → Medium → Int} {final : Controller σ}
  {creation : PendingCreation} {id : ObjectId}

/-- A course goes on with a part during which nothing else happens. -/
theorem Course.calm {next : Traffic σ} {following : Stage} (orderly : Orderly limits first)
    (course : Course (Weather.fair σ limits) commission first now stage own)
    (part : Part (.calm now.controller.store) commission now stage next following) :
    Course (Weather.fair σ limits) commission first next following (own ++ [⟨now, next⟩]) :=
  course.part (part.inWeather fun see (same : see = .still now.controller.store) =>
    same ▸ (orderly.reaches course.reaches).shows_still)

/-- A course that goes on is one. -/
theorem Course.closed (orderly : Orderly limits first) (id : ObjectId) (own : List (Act σ)) :
    Closed commission id fun now stage =>
      ∃ more, Course (Weather.fair σ limits) commission first now stage (own ++ more) := by
  refine ⟨?_⟩
  rintro now next stage following ⟨more, course⟩ part -
  have later := course.calm orderly part
  rw [List.append_assoc] at later
  exact ⟨_, later⟩

namespace Course

/-- The creation is begun, and comes to an outcome or is parked. -/
theorem create {outcome : Except Refusal (Progress PendingCreation Creation)}
    (orderly : Orderly limits first)
    (course : Course (Weather.fair σ limits) commission first now .begun own)
    (fresh : id ∉ now.named) (spare : now.controller.ledger.pool.Spare)
    (ended : Action.attempt (Action.create commission.direction commission.source
      commission.priority commission.attendant id) now.controller = .ok outcome final) :
    ∃ after more, Course (Weather.fair σ limits) commission first after (.reached outcome)
      (own ++ more) ∧ after.controller = final := by
  obtain ⟨⟨after, ⟨more, later⟩, isFinal⟩, -⟩ := (closed orderly id own).create
    ⟨[], (List.append_nil own).symm ▸ course⟩ fresh spare ended
  exact ⟨after, more, later, isFinal⟩

/-- The creation was parked and is gone on with. -/
theorem resume {outcome : Except Refusal (Progress PendingCreation Creation)}
    (orderly : Orderly limits first)
    (course : Course (Weather.fair σ limits) commission first now (.waiting creation) own)
    (fresh : id ∉ now.named) (attended : creation.ticket.attendant ≠ none)
    (ended : Action.attempt (Action.resumeCreation creation id) now.controller =
      .ok outcome final) :
    ∃ after more, Course (Weather.fair σ limits) commission first after (.reached outcome)
      (own ++ more) ∧ after.controller = final := by
  obtain ⟨⟨after, ⟨more, later⟩, isFinal⟩, -⟩ := (closed orderly id own).resume
    ⟨[], (List.append_nil own).symm ▸ course⟩ (course.present _ rfl) fresh attended ended
  exact ⟨after, more, later, isFinal⟩

/-- The creation was parked and is given up. -/
theorem abandon {outcome : Except Refusal Unit} (orderly : Orderly limits first)
    (course : Course (Weather.fair σ limits) commission first now (.waiting creation) own)
    (ended : Action.attempt (Action.abandonCreation creation) now.controller =
      .ok outcome final) :
    ∃ after more, Course (Weather.fair σ limits) commission first after (.ended .abandoned)
      (own ++ more) ∧ after.controller = final := by
  obtain ⟨after, ⟨more, later⟩, isFinal⟩ := (closed orderly (.ofNat 0) own).abandon
    ⟨[], (List.append_nil own).symm ▸ course⟩ (course.present _ rfl) ended
  exact ⟨after, more, later, isFinal⟩

end Course

end Courses

end Admission
