import Admission.Controller.Creation
import Admission.Proofs.Scan.Exact

/-!
# Running actions

What the parts of an action do to a controller, one equation for each, and what it means that
an attempt ended.
-/

namespace Admission

namespace Action

variable {σ α β : Type} {controller final : Controller σ}

@[simp] theorem bind_run (first : Action σ α) (next : α → Action σ β)
    (controller : Controller σ) :
    (first >>= next) controller =
      match first controller with
      | .ok value between => next value between
      | .error failure between => .error failure between := by
  simp only [bind, EStateM.bind]
  cases first controller <;> rfl

theorem bind_eq_ok_iff {first : Action σ α} {next : α → Action σ β} {value : β} :
    (first >>= next) controller = .ok value final ↔
      ∃ found between, first controller = .ok found between ∧
        next found between = .ok value final := by
  rw [bind_run]
  cases first controller with
  | ok found between => simp
  | error failure between => simp

@[simp] theorem pure_run (value : α) (controller : Controller σ) :
    (pure value : Action σ α) controller = .ok value controller := rfl

@[simp] theorem get_run (controller : Controller σ) :
    (get : Action σ (Controller σ)) controller = .ok controller controller := rfl

@[simp] theorem modify_run (change : Controller σ → Controller σ) (controller : Controller σ) :
    (modify change : Action σ PUnit) controller = .ok ⟨⟩ (change controller) := rfl

@[simp] theorem refuse_run (refusal : Refusal) (controller : Controller σ) :
    (refuse refusal : Action σ α) controller = .error (.refused refusal) controller := rfl

@[simp] theorem note_run (remark : Note) (controller : Controller σ) :
    note remark controller = .ok ⟨⟩ (controller.record [.note remark]) := rfl

@[simp] theorem event_run (direction : Direction) (slot : SlotId) (kind : EventKind)
    (controller : Controller σ) :
    event direction slot kind controller =
      .ok ⟨⟩ (controller.record [.event ⟨direction, slot, kind⟩]) := rfl

/-- The attendants after a change of the flags of one, if there is one. -/
def signaled (attendants : Attendants) (change : Attendants → AttendantId → Attendants) :
    Option AttendantId → Attendants
  | none => attendants
  | some id => change attendants id

@[simp] theorem signal_run (attendant : Option AttendantId)
    (change : Attendants → AttendantId → Attendants) (controller : Controller σ) :
    signal attendant change controller =
      .ok ⟨⟩ { controller with
        attendants := signaled controller.attendants change attendant } := by
  cases attendant <;> rfl

/-- A change that was tried leaves the store and the notes that it left, refused or not. -/
theorem tryChange_eq_ok {change : σ → Change σ StoreError α} {outcome : Except StoreError α}
    (ended : tryChange change controller = .ok outcome final) :
    (change controller.store).result = Checked.ofRefusal outcome ∧
      final = { controller with store := (change controller.store).store }.record
        ((change controller.store).notes.map .note) := by
  unfold tryChange at ended
  cases result : (change controller.store).result with
  | ok value =>
      simp only [result, EStateM.Result.ok.injEq] at ended
      obtain ⟨rfl, rfl⟩ := ended
      exact ⟨rfl, rfl⟩
  | error failure =>
      cases failure with
      | overflow kind =>
          simp only [result, reduceCtorEq] at ended
      | refused reason =>
          simp only [result, EStateM.Result.ok.injEq] at ended
          obtain ⟨rfl, rfl⟩ := ended
          exact ⟨rfl, rfl⟩

/-- What the store refused is an outcome. -/
theorem tryChange_ne_refused {change : σ → Change σ StoreError α} {refusal : Refusal} :
    tryChange change controller ≠ .error (.refused refusal) final := by
  unfold tryChange
  dsimp only
  split <;> simp

/-- A change that was made tells what the store told. -/
theorem change_eq_ok {change : σ → Change σ StoreError α} {value : α}
    (done : Action.change change controller = .ok value final) :
    (change controller.store).result = .ok value := by
  unfold Action.change at done
  obtain ⟨outcome, between, tried, ended⟩ := bind_eq_ok_iff.mp done
  obtain ⟨result, -⟩ := tryChange_eq_ok tried
  cases outcome with
  | ok found =>
      cases ended
      exact result
  | error error => cases ended

/-- To find out what space is needed leaves the controller as it is. -/
theorem spaceNeeded_keeps [Store σ] (source : Source) (location : Location)
    (controller : Controller σ) :
    (∀ {needed final}, spaceNeeded source location controller = .ok needed final →
      final = controller) ∧
    ∀ {failure final}, spaceNeeded source location controller = .error failure final →
      final = controller := by
  cases location with
  | handle medium handle =>
      constructor
      · rintro needed final ⟨⟩
        rfl
      · rintro failure final ⟨⟩
  | object id =>
      unfold spaceNeeded query
      dsimp only
      split
      · simp [eq_comm]
      · simp [eq_comm]

/-- An attempt ends unless an overflow stops it. -/
theorem attempt_eq_ok_iff {action : Action σ α} {outcome : Except Refusal α} :
    attempt action controller = .ok outcome final ↔
      (∃ value, outcome = .ok value ∧ action controller = .ok value final) ∨
      (∃ refusal, outcome = .error refusal ∧
        action controller = .error (.refused refusal) final) := by
  unfold attempt
  cases result : action controller with
  | ok value state =>
      simp only [EStateM.Result.ok.injEq, reduceCtorEq, and_false, exists_false, or_false]
      constructor
      · rintro ⟨rfl, rfl⟩
        exact ⟨value, rfl, rfl, rfl⟩
      · rintro ⟨found, rfl, rfl, rfl⟩
        exact ⟨rfl, rfl⟩
  | error failure state =>
      cases failure with
      | overflow kind => simp
      | refused reason =>
          simp only [EStateM.Result.ok.injEq, EStateM.Result.error.injEq, Failure.refused.injEq,
            reduceCtorEq, and_false, exists_false, false_or]
          constructor
          · rintro ⟨rfl, rfl⟩
            exact ⟨reason, rfl, rfl, rfl⟩
          · rintro ⟨found, rfl, rfl, rfl⟩
            exact ⟨rfl, rfl⟩

/-- An attempt of two actions fails with the first, or is an attempt of the second. -/
theorem attempt_bind_cases {first : Action σ α} {next : α → Action σ β}
    {outcome : Except Refusal β} (ended : attempt (first >>= next) controller = .ok outcome final) :
    (∃ value between, first controller = .ok value between ∧
      attempt (next value) between = .ok outcome final) ∨
    ∃ refusal, outcome = .error refusal ∧
      first controller = .error (.refused refusal) final := by
  unfold attempt at ended ⊢
  rw [bind_run] at ended
  cases ran : first controller with
  | ok value between =>
      rw [ran] at ended
      exact Or.inl ⟨value, between, rfl, ended⟩
  | error failure between =>
      rw [ran] at ended
      cases failure with
      | overflow kind => cases ended
      | refused refusal =>
          cases ended
          exact Or.inr ⟨refusal, rfl, rfl⟩

end Action

end Admission
