import Admission.Proofs.Traffic.Replay
import Admission.Proofs.Waiting.Beside
import Mathlib.Data.List.Induction

/-!
# Wake-ups

A wait is called when its requisition is serviced or its attendant is ended, and goes on from
where it is parked.  `Waiter.replay` carries out what happens meanwhile, steps of the wait and
errands of others in any order.

A call leaves a mark, the signal or the end of the attendant, which the wait finds when it goes on.
To resume the attendant removes both marks, whether or not the wait has seen them.  So a wait that
was called completes, and does not park again, exactly if its attendant is not resumed between
the last call and the moment at which the wait looks at the marks (`called_wait_parks_iff`).
-/

namespace Admission

/-! ## What happens meanwhile -/

/-- One thing that happens while a wait is under way. -/
inductive Happening (σ : Type) where
  /-- The wait makes its next step. -/
  | own
  | other (errand : Errand σ)

/-- Whether it is a step of the wait. -/
def Happening.isOwn {σ : Type} : Happening σ → Bool
  | own => true
  | other _ => false

namespace Waiter

variable {σ : Type} [Store σ]

/-- Carries out one thing, if it can happen. -/
def perform (waiter : Waiter σ) : Happening σ → Option (Waiter σ)
  | .own => waiter.step
  | .other errand => (errand.perform waiter.controller).map fun after =>
    ⟨after, waiter.ticket, waiter.stage.call (errand.calls waiter.ticket waiter.controller after)⟩

/-- Carries out what happens, if it can happen in that order. -/
def replay (waiter : Waiter σ) (happenings : List (Happening σ)) : Option (Waiter σ) :=
  happenings.foldlM perform waiter

/-- The wait is called by an errand that follows what happened earlier. -/
def CalledBy (waiter : Waiter σ) (earlier : List (Happening σ)) (errand : Errand σ) : Prop :=
  ∃ between after, waiter.replay earlier = some between ∧
    errand.perform between.controller = some after ∧
    errand.calls between.ticket between.controller after = true

/-- The wait is called in the meantime. -/
def Called (waiter : Waiter σ) (meanwhile : List (Happening σ)) : Prop :=
  ∃ earlier errand rest, meanwhile = earlier ++ .other errand :: rest ∧
    waiter.CalledBy earlier errand

/-- The wait is called in the meantime, and the attendant is not resumed after that. -/
def CallStands (waiter : Waiter σ) (waiting : AttendantId) (meanwhile : List (Happening σ)) :
    Prop :=
  ∃ earlier errand rest, meanwhile = earlier ++ .other errand :: rest ∧
    waiter.CalledBy earlier errand ∧ .other (.resume waiting) ∉ rest

/-- Whatever others do, the wait goes on and does not park, until it is over after so many steps
of its own at the latest. -/
def EndsWithin (waiter : Waiter σ) (steps : Nat) : Prop :=
  ∀ happenings final,
    (∀ errand, .other errand ∈ happenings → errand.Beside waiter.ticket) →
    waiter.replay happenings = some final →
    (∃ outcome, final.stage = .completed outcome) ∨
      happenings.countP Happening.isOwn < steps ∧ (∀ called, final.stage ≠ .parked called) ∧
        ∃ next, final.step = some next

/-! ## Rows of happenings -/

section Rows

variable {waiter later between : Waiter σ} {earlier meanwhile : List (Happening σ)}
  {happening : Happening σ} {errand : Errand σ} {waiting : AttendantId}

theorem replay_cons (waiter : Waiter σ) (happening : Happening σ) (rest : List (Happening σ)) :
    waiter.replay (happening :: rest) =
      (waiter.perform happening).bind fun next => next.replay rest := List.foldlM_cons

theorem replay_concat_eq_some :
    waiter.replay (earlier ++ [happening]) = some later ↔
      ∃ between, waiter.replay earlier = some between ∧
        between.perform happening = some later := by
  rw [replay, List.foldlM_append]
  cases replayed : waiter.replay earlier with
  | none =>
      rw [replay] at replayed
      simp [replayed]
  | some between =>
      rw [replay] at replayed
      simp [replayed]

omit [Store σ] in
/-- Whatever stands in a row that is one longer stands at its end, or in the row before. -/
theorem concat_eq_append_cons {row front rest : List (Happening σ)} {last head : Happening σ}
    (split : row ++ [last] = front ++ head :: rest) :
    front = row ∧ head = last ∧ rest = [] ∨
      ∃ middle, row = front ++ head :: middle ∧ rest = middle ++ [last] := by
  rcases rest.eq_nil_or_concat with rfl | ⟨middle, final, rfl⟩
  · obtain ⟨rows, lasts⟩ := List.append_inj' split rfl
    exact Or.inl ⟨rows.symm, (List.cons.inj lasts).1.symm, rfl⟩
  · rw [List.concat_eq_append, ← List.cons_append, ← List.append_assoc] at split
    obtain ⟨rows, lasts⟩ := List.append_inj' split rfl
    rw [List.concat_eq_append, ← (List.cons.inj lasts).1]
    exact Or.inr ⟨middle, rows, rfl⟩

theorem callStands_concat_iff :
    waiter.CallStands waiting (earlier ++ [happening]) ↔
      (∃ errand, happening = .other errand ∧ waiter.CalledBy earlier errand) ∨
        waiter.CallStands waiting earlier ∧ happening ≠ .other (.resume waiting) := by
  constructor
  · rintro ⟨front, errand, rest, split, called, stands⟩
    rcases concat_eq_append_cons split with ⟨rfl, rfl, rfl⟩ | ⟨middle, rfl, rfl⟩
    · exact Or.inl ⟨errand, rfl, called⟩
    · rw [List.mem_append, List.mem_singleton, not_or] at stands
      exact Or.inr ⟨⟨front, errand, middle, rfl, called, stands.1⟩, Ne.symm stands.2⟩
  · rintro (⟨errand, rfl, called⟩ | ⟨⟨front, errand, rest, rfl, called, stands⟩, other⟩)
    · exact ⟨earlier, errand, [], rfl, called, List.not_mem_nil⟩
    · refine ⟨front, errand, rest ++ [happening], by rw [List.append_assoc]; rfl, called, ?_⟩
      rw [List.mem_append, List.mem_singleton, not_or]
      exact ⟨stands, Ne.symm other⟩

theorem called_concat_iff :
    waiter.Called (earlier ++ [happening]) ↔
      (∃ errand, happening = .other errand ∧ waiter.CalledBy earlier errand) ∨
        waiter.Called earlier := by
  constructor
  · rintro ⟨front, errand, rest, split, called⟩
    rcases concat_eq_append_cons split with ⟨rfl, rfl, rfl⟩ | ⟨middle, rfl, rfl⟩
    · exact Or.inl ⟨errand, rfl, called⟩
    · exact Or.inr ⟨front, errand, middle, rfl, called⟩
  · rintro (⟨errand, rfl, called⟩ | ⟨front, errand, rest, rfl, called⟩)
    · exact ⟨earlier, errand, [], rfl, called⟩
    · exact ⟨front, errand, rest ++ [happening], by rw [List.append_assoc]; rfl, called⟩

/-- Who is called by the errand after a row is told by the waiter that the row leads to. -/
theorem calledBy_iff {after : Controller σ} (replayed : waiter.replay earlier = some between)
    (performed : errand.perform between.controller = some after) :
    waiter.CalledBy earlier errand ↔
      errand.calls between.ticket between.controller after = true := by
  constructor
  · rintro ⟨other, result, isOther, isResult, called⟩
    cases replayed.symm.trans isOther
    cases performed.symm.trans isResult
    exact called
  · exact fun called => ⟨between, after, replayed, performed, called⟩

end Rows

/-! ## Steps of the wait -/

section Steps

variable {waiter next : Waiter σ} {waiting : AttendantId}

omit [Store σ] in
/-- A wait leaves the ledger alone, and does nothing to its attendant but to discard the
signal. -/
theorem step_keeps (isAttendant : waiter.ticket.attendant = some waiting)
    (stepped : waiter.step = some next) :
    next.ticket = waiter.ticket ∧
      next.controller.ledger = waiter.controller.ledger ∧
      (next.controller.attendants = waiter.controller.attendants ∨
        next.controller.attendants = waiter.controller.attendants.reset waiting) := by
  obtain ⟨controller, ticket, stage⟩ := waiter
  simp only at isAttendant
  cases stage with
  | looking =>
      simp only [step] at stepped
      split at stepped <;> cases stepped <;> exact ⟨rfl, rfl, Or.inl rfl⟩
  | asking =>
      simp only [step] at stepped
      split at stepped
      · cases stepped
        exact ⟨rfl, rfl, Or.inl rfl⟩
      · split at stepped <;> cases stepped <;> exact ⟨rfl, rfl, Or.inl rfl⟩
  | serving =>
      cases stepped
      refine ⟨rfl, rfl, Or.inr ?_⟩
      simp only [isAttendant, Action.signaled]
  | entering =>
      cases stepped
      exact ⟨rfl, rfl, Or.inl rfl⟩
  | taking called =>
      simp only [step, isAttendant] at stepped
      rcases controller.attendants.take_cases waiting with ⟨taken, -⟩ | taken | taken <;>
        rw [taken] at stepped <;> cases stepped
      · exact ⟨rfl, rfl, Or.inl rfl⟩
      · exact ⟨rfl, rfl, Or.inr rfl⟩
      · exact ⟨rfl, rfl, Or.inl rfl⟩
  | parked called =>
      cases called <;> cases stepped
      exact ⟨rfl, rfl, Or.inl rfl⟩
  | completed outcome => cases stepped

omit [Store σ] in
theorem attended_step (attended : Attended waiter.ticket waiting waiter.controller)
    (stepped : waiter.step = some next) :
    next.ticket = waiter.ticket ∧ Attended waiter.ticket waiting next.controller ∧
      next.isServiced = waiter.isServiced := by
  obtain ⟨ticket, ledger, attendants⟩ := step_keeps attended.attendant stepped
  refine ⟨ticket, ?_, by rw [isServiced, ticket, ledger, isServiced]⟩
  rcases attendants with same | wasReset
  · exact (Passes.of_same attended ledger (by rw [same]) (by rw [same])).attended
  · have reset := attended.modify waiting (fun signal => { signal with given := false })
      fun signal given => Bool.noConfusion given
    refine (Passes.of_same reset ledger ?_ ?_).attended <;> rw [wasReset]
    · rfl
    · rfl

omit [Store σ] in
/-- A wait parks only where there are no marks. -/
theorem unmarked_of_parks (isAttendant : waiter.ticket.attendant = some waiting)
    (stepped : waiter.step = some next) (parks : ∃ called, next.stage = .parked called) :
    next.controller.attendants.get waiting = .clear := by
  obtain ⟨controller, ticket, stage⟩ := waiter
  obtain ⟨woken, isParked⟩ := parks
  simp only at isAttendant
  cases stage with
  | looking =>
      simp only [step] at stepped
      split at stepped <;> cases stepped <;> cases isParked
  | asking =>
      simp only [step] at stepped
      split at stepped
      · cases stepped
        cases isParked
      · split at stepped <;> cases stepped <;> cases isParked
  | serving =>
      cases stepped
      cases isParked
  | entering =>
      cases stepped
      cases isParked
  | taking called =>
      simp only [step, isAttendant, Attendants.take] at stepped
      split at stepped
      · cases stepped
        cases isParked
      · cases stepped
        cases isParked
      · next nothing =>
          cases stepped
          refine (Signal.eq_clear_iff _).mpr ?_
          cases isEnded : (controller.attendants.get waiting).ended <;>
            cases isGiven : (controller.attendants.get waiting).given <;>
            simp_all [goTo]
  | parked called =>
      cases called <;> cases stepped
      cases isParked
  | completed outcome => cases stepped

/-- A wait stays in order, whatever happens. -/
theorem attended_replay {happenings : List (Happening σ)}
    (attended : Attended waiter.ticket waiting waiter.controller)
    (beside : ∀ errand, .other errand ∈ happenings → errand.Beside waiter.ticket)
    (replayed : waiter.replay happenings = some next) :
    next.ticket = waiter.ticket ∧ Attended next.ticket waiting next.controller := by
  induction happenings generalizing waiter with
  | nil =>
      cases replayed
      exact ⟨rfl, attended⟩
  | cons happening rest induction =>
      rw [replay_cons] at replayed
      obtain ⟨between, performed, goes⟩ := Option.bind_eq_some_iff.mp replayed
      obtain ⟨ticket, stays⟩ : between.ticket = waiter.ticket ∧
          Attended between.ticket waiting between.controller := by
        cases happening with
        | own =>
            obtain ⟨ticket, stays, -⟩ := attended_step attended performed
            exact ⟨ticket, ticket.symm ▸ stays⟩
        | other errand =>
            obtain ⟨after, done, rfl⟩ := Option.map_eq_some_iff.mp performed
            exact ⟨rfl, (Errand.heard done (beside errand List.mem_cons_self) attended).attended⟩
      obtain ⟨same, goesOn⟩ := induction stays (fun errand member =>
        ticket ▸ beside errand (List.mem_cons_of_mem _ member)) goes
      exact ⟨same.trans ticket, goesOn⟩

end Steps

/-! ## While the wait goes on -/

section Settling

variable {waiter next final : Waiter σ} {waiting : AttendantId} {left : Nat}

/-- A wait that will find its requisition serviced, or is over, with the number of steps that it
needs at most. -/
inductive Settling (waiting : AttendantId) (waiter : Waiter σ) : Nat → Prop where
  | completed (outcome : WaitOutcome) : waiter.stage = .completed outcome →
      Settling waiting waiter 0
  | serving : waiter.stage = .serving → Attended waiter.ticket waiting waiter.controller →
      waiter.isServiced = true → Settling waiting waiter 1
  | asking : waiter.stage = .asking → Attended waiter.ticket waiting waiter.controller →
      waiter.isServiced = true → Settling waiting waiter 2
  | looking : waiter.stage = .looking → Attended waiter.ticket waiting waiter.controller →
      waiter.isServiced = true → Settling waiting waiter 3

namespace Settling

omit [Store σ] in
/-- Each step of the wait brings it closer to its end. -/
theorem own (settling : Settling waiting waiter left) (stepped : waiter.step = some next) :
    ∃ fewer, fewer < left ∧ next.ticket = waiter.ticket ∧ Settling waiting next fewer := by
  cases settling with
  | completed outcome isOver => simp [step, isOver] at stepped
  | serving isServing attended serviced =>
      simp only [step, isServing, Option.some.injEq] at stepped
      subst stepped
      exact ⟨0, by omega, rfl, .completed .serviced rfl⟩
  | asking isAsking attended serviced =>
      simp only [step, isAsking, serviced, if_true, Option.some.injEq] at stepped
      subst stepped
      exact ⟨1, by omega, rfl, .serving rfl attended serviced⟩
  | looking isLooking attended serviced =>
      simp only [step, isLooking] at stepped
      split at stepped <;> cases stepped
      · exact ⟨0, by omega, rfl, .completed .cancelled rfl⟩
      · exact ⟨2, by omega, rfl, .asking rfl attended serviced⟩

/-- Nothing that others do keeps the wait from its end. -/
theorem other {errand : Errand σ} (settling : Settling waiting waiter left)
    (beside : errand.Beside waiter.ticket)
    (performed : waiter.perform (.other errand) = some next) :
    next.ticket = waiter.ticket ∧ Settling waiting next left := by
  obtain ⟨after, done, rfl⟩ := Option.map_eq_some_iff.mp performed
  refine ⟨rfl, ?_⟩
  cases settling with
  | completed outcome isOver => exact .completed outcome (by simp [isOver, WaitStage.call])
  | serving isServing attended serviced =>
      have heard := Errand.heard done beside attended
      exact .serving (by simp [isServing, WaitStage.call]) heard.attended (heard.kept serviced)
  | asking isAsking attended serviced =>
      have heard := Errand.heard done beside attended
      exact .asking (by simp [isAsking, WaitStage.call]) heard.attended (heard.kept serviced)
  | looking isLooking attended serviced =>
      have heard := Errand.heard done beside attended
      exact .looking (by simp [isLooking, WaitStage.call]) heard.attended (heard.kept serviced)

theorem replay (settling : Settling waiting waiter left) {happenings : List (Happening σ)}
    (beside : ∀ errand, .other errand ∈ happenings → errand.Beside waiter.ticket)
    (replayed : waiter.replay happenings = some final) :
    ∃ rest, Settling waiting final rest ∧ rest + happenings.countP Happening.isOwn ≤ left := by
  induction happenings generalizing waiter left with
  | nil =>
      cases replayed
      exact ⟨left, settling, by simp⟩
  | cons happening happenings induction =>
      rw [replay_cons] at replayed
      obtain ⟨next, performed, goes⟩ := Option.bind_eq_some_iff.mp replayed
      cases happening with
      | own =>
          obtain ⟨fewer, less, ticket, settles⟩ := settling.own performed
          obtain ⟨rest, ends, bound⟩ := induction settles (fun errand member =>
            ticket ▸ beside errand (List.mem_cons_of_mem _ member)) goes
          refine ⟨rest, ends, ?_⟩
          rw [List.countP_cons_of_pos rfl]
          omega
      | other errand =>
          obtain ⟨ticket, settles⟩ := settling.other (beside errand List.mem_cons_self) performed
          obtain ⟨rest, ends, bound⟩ := induction settles (fun errand member =>
            ticket ▸ beside errand (List.mem_cons_of_mem _ member)) goes
          refine ⟨rest, ends, ?_⟩
          rw [List.countP_cons_of_neg Bool.false_ne_true]
          exact bound

/-- A wait that settles is over within the steps that it needs. -/
theorem endsWithin (settling : Settling waiting waiter left) {steps : Nat}
    (within : left ≤ steps) : waiter.EndsWithin steps := by
  intro happenings final beside replayed
  obtain ⟨rest, ends, bound⟩ := settling.replay beside replayed
  cases ends with
  | completed outcome isOver => exact Or.inl ⟨outcome, isOver⟩
  | serving isServing attended serviced =>
      refine Or.inr ⟨by omega, by simp [isServing], ?_⟩
      simp [step, isServing]
  | asking isAsking attended serviced =>
      refine Or.inr ⟨by omega, by simp [isAsking], ?_⟩
      simp [step, isAsking, serviced]
  | looking isLooking attended serviced =>
      refine Or.inr ⟨by omega, by simp [isLooking], ?_⟩
      simp only [step, isLooking]
      split <;> exact ⟨_, rfl⟩

end Settling

end Settling

/-! ## From being parked to looking at the marks -/

section Rousing

variable {parked later next : Waiter σ} {waiting : AttendantId}
  {meanwhile : List (Happening σ)}

/-- What a wait has come to since it was parked without a mark, as long as it has not looked at
the marks again. -/
structure Rousing (waiting : AttendantId) (parked : Waiter σ) (meanwhile : List (Happening σ))
    (later : Waiter σ) : Prop where
  ticket : later.ticket = parked.ticket
  attended : Attended later.ticket waiting later.controller
  marked_iff : later.controller.attendants.get waiting ≠ .clear ↔
    parked.CallStands waiting meanwhile
  asleep : meanwhile.countP Happening.isOwn = 0 →
    ∃ called, later.stage = .parked called ∧ (parked.Called meanwhile → called = true)
  awake : meanwhile.countP Happening.isOwn = 1 → later.stage = .entering
  registered : meanwhile.countP Happening.isOwn = 2 → ∃ called, later.stage = .taking called

namespace Rousing

theorem begin (attended : Attended parked.ticket waiting parked.controller)
    (unmarked : parked.controller.attendants.get waiting = .clear)
    (isParked : ∃ called, parked.stage = .parked called) : Rousing waiting parked [] parked where
  ticket := rfl
  attended := attended
  marked_iff := by
    refine iff_of_false (fun marked => marked unmarked) ?_
    rintro ⟨earlier, errand, rest, split, -⟩
    simp at split
  asleep := by
    intro _
    obtain ⟨called, isStage⟩ := isParked
    refine ⟨called, isStage, ?_⟩
    rintro ⟨earlier, errand, rest, split, -⟩
    simp at split
  awake := by simp
  registered := by simp

/-- Before it looks at the marks the wait leaves them alone. -/
theorem own (rousing : Rousing waiting parked meanwhile later)
    (few : meanwhile.countP Happening.isOwn < 2) (stepped : later.step = some next) :
    Rousing waiting parked (meanwhile ++ [.own]) next := by
  have stands : parked.CallStands waiting (meanwhile ++ [.own]) ↔
      parked.CallStands waiting meanwhile := by
    rw [callStands_concat_iff]
    simp
  have counts : (meanwhile ++ [Happening.own]).countP Happening.isOwn =
      meanwhile.countP Happening.isOwn + 1 := by
    rw [List.countP_append]
    rfl
  obtain none | one : meanwhile.countP Happening.isOwn = 0 ∨
      meanwhile.countP Happening.isOwn = 1 := by omega
  · obtain ⟨called, isParked, -⟩ := rousing.asleep none
    cases called with
    | false => simp [step, isParked] at stepped
    | true =>
        simp only [step, isParked, Option.some.injEq] at stepped
        subst stepped
        refine ⟨rousing.ticket, rousing.attended, rousing.marked_iff.trans stands.symm, ?_, ?_, ?_⟩
          <;> rw [counts, none]
        · exact fun impossible => by omega
        · exact fun _ => rfl
        · exact fun impossible => by omega
  · have entering := rousing.awake one
    simp only [step, entering, Option.some.injEq] at stepped
    subst stepped
    refine ⟨rousing.ticket, rousing.attended, rousing.marked_iff.trans stands.symm, ?_, ?_, ?_⟩
      <;> rw [counts, one]
    · exact fun impossible => by omega
    · exact fun impossible => by omega
    · exact fun _ => ⟨false, rfl⟩

/-- Others mark the attendant when they call, and remove the marks when they resume it. -/
theorem other (rousing : Rousing waiting parked meanwhile later) {errand : Errand σ}
    (replayed : parked.replay meanwhile = some later)
    (beside : errand.Beside parked.ticket)
    (performed : later.perform (.other errand) = some next) :
    Rousing waiting parked (meanwhile ++ [.other errand]) next := by
  obtain ⟨after, done, rfl⟩ := Option.map_eq_some_iff.mp performed
  have heard := Errand.heard done (rousing.ticket ▸ beside) rousing.attended
  have calledBy := calledBy_iff replayed done
  have counts : (meanwhile ++ [Happening.other errand]).countP Happening.isOwn =
      meanwhile.countP Happening.isOwn := by
    rw [List.countP_append]
    rfl
  have resumes : Happening.other errand = .other (.resume waiting) ↔ errand = .resume waiting :=
    ⟨fun same => Happening.other.inj same, fun same => congrArg _ same⟩
  constructor
  case ticket => exact rousing.ticket
  case attended => exact heard.attended
  case marked_iff =>
    have isCall : (∃ other, Happening.other errand = .other other ∧
        parked.CalledBy meanwhile other) ↔
        errand.calls later.ticket later.controller after = true := by
      rw [← calledBy]
      exact ⟨fun ⟨other, same, called⟩ => Happening.other.inj same ▸ called,
        fun called => ⟨errand, rfl, called⟩⟩
    rw [callStands_concat_iff, isCall, ← rousing.marked_iff, Ne, Ne, Ne, resumes,
      heard.clear_iff]
    cases calls : errand.calls later.ticket later.controller after with
    | true =>
        have goesOn : ¬ errand = .resume waiting := by
          rintro rfl
          cases calls
        simp [goesOn]
    | false => simp [and_comm]
  case asleep =>
    rw [counts]
    intro none
    obtain ⟨called, isParked, wasCalled⟩ := rousing.asleep none
    refine ⟨called || errand.calls later.ticket later.controller after,
      by simp [isParked, WaitStage.call], fun isCalled => ?_⟩
    rcases called_concat_iff.mp isCalled with ⟨other, same, calls⟩ | earlier
    · cases same
      rw [calledBy.mp calls, Bool.or_true]
    · rw [wasCalled earlier, Bool.true_or]
  case awake =>
    rw [counts]
    intro one
    simp [rousing.awake one, WaitStage.call]
  case registered =>
    rw [counts]
    intro two
    obtain ⟨called, isTaking⟩ := rousing.registered two
    exact ⟨called || errand.calls later.ticket later.controller after,
      by simp [isTaking, WaitStage.call]⟩

/-- Up to its second step after it was parked, a wait has not looked at the marks. -/
theorem replay (rousing : Rousing waiting parked [] parked)
    (beside : ∀ errand, .other errand ∈ meanwhile → errand.Beside parked.ticket)
    (few : meanwhile.countP Happening.isOwn ≤ 2) (goes : parked.replay meanwhile = some later) :
    Rousing waiting parked meanwhile later := by
  induction meanwhile using List.reverseRecOn generalizing later with
  | nil =>
      cases goes
      exact rousing
  | append_singleton earlier happening induction =>
      obtain ⟨between, replayed, performed⟩ := replay_concat_eq_some.mp goes
      have beforehand := fun few => induction (fun errand member =>
        beside errand (List.mem_append_left _ member)) few replayed
      rw [List.countP_append] at few
      cases happening with
      | own =>
          have one : [Happening.own (σ := σ)].countP Happening.isOwn = 1 := rfl
          exact (beforehand (by omega)).own (by omega) performed
      | other errand =>
          exact (beforehand (by omega)).other replayed
            (beside errand (List.mem_append_right _ List.mem_cons_self)) performed

/-- A wait that looks at the marks parks again if there are none, and settles otherwise. -/
theorem looks (rousing : Rousing waiting parked meanwhile later)
    (ready : meanwhile.countP Happening.isOwn = 2) :
    ∃ next, later.step = some next ∧
      ((∃ called, next.stage = .parked called) ↔ ¬ parked.CallStands waiting meanwhile) ∧
      (parked.CallStands waiting meanwhile → next.EndsWithin 3) := by
  obtain ⟨called, isTaking⟩ := rousing.registered ready
  have isAttendant := rousing.attended.attendant
  rw [← rousing.marked_iff]
  cases isEnded : (later.controller.attendants.get waiting).ended with
  | true =>
      have marked : later.controller.attendants.get waiting ≠ .clear := by
        intro clear
        rw [clear] at isEnded
        cases isEnded
      have settling : Settling waiting (later.goTo (.completed .cancelled)) 0 :=
        .completed .cancelled rfl
      refine ⟨_, ?_, by simp [goTo, marked], fun _ => settling.endsWithin (Nat.zero_le 3)⟩
      simp [step, isTaking, isAttendant, Attendants.take, isEnded]
  | false =>
      cases isGiven : (later.controller.attendants.get waiting).given with
      | true =>
          have marked : later.controller.attendants.get waiting ≠ .clear := by
            intro clear
            rw [clear] at isGiven
            cases isGiven
          have stepped : later.step = some ⟨{ later.controller with
              attendants := later.controller.attendants.reset waiting }.record
                [.note (.woken later.ticket.direction later.ticket.slot)],
              later.ticket, .looking⟩ := by
            simp [step, isTaking, isAttendant, Attendants.take, isEnded, isGiven]
          obtain ⟨-, attended, same⟩ := attended_step rousing.attended stepped
          have settling := Settling.looking rfl attended
            (same.trans (rousing.attended.given isGiven))
          exact ⟨_, stepped, by simp [marked], fun _ => settling.endsWithin le_rfl⟩
      | false =>
          have clear := (Signal.eq_clear_iff _).mpr ⟨isGiven, isEnded⟩
          refine ⟨later.goTo (.parked called), ?_, by simp [goTo, clear],
            fun marked => absurd clear marked⟩
          simp [step, isTaking, isAttendant, Attendants.take, isEnded, isGiven]

end Rousing

end Rousing

/-! ## The exact condition -/

section Exact

variable {controller first : Controller σ} {ticket : Ticket} {waiting : AttendantId}

/-- A wait that is called completes unless its attendant is resumed before it looks.  Consider a
requisition with an attendant of its own, any run up to a moment at which the wait for it parks,
and whatever happens afterwards up to the moment at which the wait looks at the marks again.  Once
the requisition is serviced or the attendant is ended, the wait can go on.  When it looks, it parks
again exactly if the attendant was resumed after the last call (or there was no call), and
otherwise it does not park any more, whatever others do, and is over within three further steps,
serviced or cancelled. -/
theorem called_wait_parks_iff {direction : Direction} {needed : Space} {priority : Priority}
    {hold : Bool} {before meanwhile : List (Happening σ)} {parked later : Waiter σ}
    (wellFormed : controller.ledger.WellFormed) (spare : controller.ledger.pool.Spare)
    (made : waiting.place < controller.attendants.signals.length)
    (unused : ∀ other, ∀ requisition ∈ controller.ledger.queue other,
      requisition.attendant ≠ some waiting)
    (queued : Action.attempt (Action.submit direction needed priority (some waiting) hold)
      controller = .ok (.ok (.queued ticket)) first)
    (beside : ∀ errand, .other errand ∈ before ++ meanwhile → errand.Beside ticket)
    (parks : (begin first ticket).replay (before ++ [.own]) = some parked)
    (isParked : ∃ called, parked.stage = .parked called)
    (goes : parked.replay meanwhile = some later) :
    (meanwhile.countP Happening.isOwn = 0 → parked.Called meanwhile →
      later.stage = .parked true) ∧
    (meanwhile.countP Happening.isOwn = 2 → ∃ next, later.step = some next ∧
      ((∃ called, next.stage = .parked called) ↔ ¬ parked.CallStands waiting meanwhile) ∧
      (parked.CallStands waiting meanwhile → next.EndsWithin 3)) := by
  have attended : Attended ticket waiting first :=
    (Action.submission_of_attempt queued).attended spare wellFormed made unused
  obtain ⟨between, replayed, stepped⟩ := replay_concat_eq_some.mp parks
  obtain ⟨ticketBetween, attendedBetween⟩ := attended_replay attended
    (fun errand member => beside errand (List.mem_append_left _ member)) replayed
  obtain ⟨ticketParked, attendedParked, -⟩ := attended_step attendedBetween stepped
  have isTicket : parked.ticket = ticket := ticketParked.trans ticketBetween
  have unmarked := unmarked_of_parks attendedBetween.attendant stepped isParked
  have parking : Rousing waiting parked [] parked :=
    .begin (ticketParked.symm ▸ attendedParked) unmarked isParked
  have rousing : meanwhile.countP Happening.isOwn ≤ 2 →
      Rousing waiting parked meanwhile later := fun few =>
    parking.replay (fun errand member =>
      isTicket.symm ▸ beside errand (List.mem_append_right _ member)) few goes
  constructor
  · intro none wasCalled
    obtain ⟨called, isStage, calls⟩ := (rousing (by omega)).asleep none
    rw [isStage, calls wasCalled]
  · exact fun ready => (rousing ready.le).looks ready

end Exact

end Waiter

/-! ## A wait for space that there is not yet -/

/-- There is no space, and one attendant. -/
def Controller.withoutSpace : Controller MemoryStore :=
  { Controller.start (.ofFileLimit 0) 1024 with attendants := Attendants.empty.make.2 }

/-- The ticket of the first outbound requester, who has that attendant. -/
def Ticket.firstOutbound : Ticket := ⟨.outbound, .ofParts 1 1, some ⟨0⟩⟩

/-- A request for outbound files is queued, and its requester begins to wait. -/
def Waiter.forFile : Waiter MemoryStore :=
  .begin (((Action.submit .outbound (.ofFile 30) ⟨1, 0⟩ (some ⟨0⟩) false).tried
    .withoutSpace).getD .withoutSpace) .firstOutbound

/-- There comes to be space, and a scan services the request. -/
def Happening.spaceComes : List (Happening MemoryStore) :=
  [.other (.change (.ofFileLimit 100)), .other (.scan .outbound)]

/-- A wait that is not resumed finds out that it was serviced, and does not park again. -/
theorem Waiter.forFile_ends :
    ∃ parked later next, Waiter.forFile.replay [.own, .own, .own, .own] = some parked ∧
      parked.stage = .parked false ∧
      parked.replay (Happening.spaceComes ++ [.own, .own]) = some later ∧
      later.step = some next ∧ (¬ ∃ called, next.stage = .parked called) ∧
      next.EndsWithin 3 := by
  obtain ⟨parked, parks, isParked⟩ : ∃ parked,
      Waiter.forFile.replay ([.own, .own, .own] ++ [.own]) = some parked ∧
        parked.stage = .parked false := ⟨_, rfl, rfl⟩
  obtain ⟨later, goes, called⟩ : ∃ later,
      parked.replay (Happening.spaceComes ++ [.own, .own]) = some later ∧
        parked.CalledBy [.other (.change (.ofFileLimit 100))] (.scan .outbound) := by
    cases parks
    exact ⟨_, rfl, _, _, rfl, rfl, rfl⟩
  have stands : parked.CallStands ⟨0⟩ (Happening.spaceComes ++ [.own, .own]) :=
    ⟨_, _, [.own, .own], rfl, called, by simp⟩
  have queued : Action.attempt (Action.submit .outbound (.ofFile 30) ⟨1, 0⟩ (some ⟨0⟩) false)
      Controller.withoutSpace = .ok (.ok (.queued .firstOutbound)) Waiter.forFile.controller :=
    rfl
  have unused : ∀ other, ∀ requisition ∈ Controller.withoutSpace.ledger.queue other,
      requisition.attendant ≠ some ⟨0⟩ := by
    intro other requisition queued
    cases other <;> cases queued
  obtain ⟨-, looks⟩ := called_wait_parks_iff (Ledger.wellFormed_ofLimit 1024) (by decide)
    (by decide) unused queued (by simp [Happening.spaceComes, Errand.Beside]) parks
    ⟨false, isParked⟩ goes
  obtain ⟨next, stepped, parksAgain, ends⟩ := looks rfl
  exact ⟨parked, later, next, parks, isParked, goes, stepped,
    fun again => parksAgain.mp again stands, ends stands⟩

/-- A wait parks again although it was serviced while it was parked, because its attendant is
resumed before it goes on, and likewise although it was ended. -/
theorem Waiter.parks_though_called :
    ∃ parked, Waiter.forFile.replay [.own, .own, .own, .own] = some parked ∧
      parked.stage = .parked false ∧ parked.isServiced = false ∧
      (∃ serviced later, parked.replay Happening.spaceComes = some serviced ∧
        serviced.isServiced = true ∧ serviced.stage = .parked true ∧
        serviced.replay [.other (.resume ⟨0⟩), .own, .own, .own] = some later ∧
        later.isServiced = true ∧ later.stage = .parked false) ∧
      ∃ ended later, parked.replay [.other (.pause ⟨0⟩)] = some ended ∧
        ended.controller.attendants.isEnded ⟨0⟩ = true ∧ ended.stage = .parked true ∧
        ended.replay [.other (.resume ⟨0⟩), .own, .own, .own] = some later ∧
        later.stage = .parked false :=
  ⟨_, rfl, rfl, rfl, ⟨_, _, rfl, rfl, rfl, rfl, rfl, rfl⟩, _, _, rfl, rfl, rfl, rfl, rfl⟩

end Admission
