import Admission.Proofs.Controller.Running

/-!
# Finishing without an overflow

A computation finishes if no overflow stops it: with a value or with a refusal.  One computation
after another finishes if each does (`Checked.Finishes.bind`, `Action.Finishes.bind`), and an action
that finishes is an attempt that ended (`Action.Finishes.attempted`).
-/

namespace Admission

namespace Checked

variable {ε α β : Type} {first : Checked ε α} {next : α → Checked ε β}

/-- No overflow stops a computation. -/
def Finishes (computed : Checked ε α) : Prop := ∀ kind, computed ≠ .error (.overflow kind)

theorem finishes_ok (value : α) : Finishes (.ok value : Checked ε α) := by
  rintro kind ⟨⟩

theorem finishes_refuse (reason : ε) : Finishes (refuse reason : Checked ε α) := by
  rintro kind ⟨⟩

theorem Finishes.bind (begins : first.Finishes)
    (follows : ∀ value, first = .ok value → (next value).Finishes) :
    Finishes (first >>= next) := by
  intro kind stopped
  rcases bind_eq_error_iff.mp stopped with overflow | ⟨value, isValue, overflow⟩
  · exact begins kind overflow
  · exact follows value isValue kind overflow

theorem Finishes.mapRefusal {δ : Type} (finishes : first.Finishes) (change : ε → δ) :
    (first.mapRefusal change).Finishes := by
  intro kind stopped
  rcases first with (other | reason) | value
  · exact finishes other rfl
  · cases stopped
  · cases stopped

end Checked

namespace Action

variable {σ α β : Type} {controller : Controller σ} {first action : Action σ α}
  {next : α → Action σ β}

/-- No overflow stops an action. -/
def Finishes (action : Action σ α) (controller : Controller σ) : Prop :=
  ∀ kind final, action controller ≠ .error (.overflow kind) final

theorem Finishes.bind (begins : first.Finishes controller)
    (follows : ∀ value between, first controller = .ok value between →
      (next value).Finishes between) : Finishes (first >>= next) controller := by
  intro kind final stopped
  rw [bind_run] at stopped
  cases ran : first controller with
  | ok value between =>
      rw [ran] at stopped
      exact follows value between ran kind final stopped
  | error failure between =>
      rw [ran] at stopped
      cases stopped
      exact begins kind final ran

/-- The parts of what finishes finish. -/
theorem Finishes.of_bind (finishes : Finishes (first >>= next) controller) :
    first.Finishes controller ∧
      ∀ value between, first controller = .ok value between → (next value).Finishes between := by
  constructor
  · intro kind final stopped
    exact finishes kind final (by rw [bind_run, stopped])
  · intro value between ran kind final stopped
    refine finishes kind final ?_
    rw [bind_run, ran]
    exact stopped

theorem finishes_pure (value : α) : Finishes (pure value) controller := by
  rintro kind final ⟨⟩

theorem finishes_refuse (refusal : Refusal) :
    Finishes (refuse refusal : Action σ α) controller := by
  rintro kind final ⟨⟩

/-- A question finishes if the answer of the store does. -/
theorem finishes_query {ask : σ → Checked StoreError α}
    (finishes : (ask controller.store).Finishes) :
    Finishes (query ask) controller := by
  intro kind final stopped
  unfold query at stopped
  cases answered : ask controller.store with
  | ok value =>
      rw [answered] at stopped
      cases stopped
  | error failure =>
      rw [answered] at stopped
      cases failure with
      | refused error => cases stopped
      | overflow other => exact finishes other answered

/-- A change that was tried finishes if that of the store does. -/
theorem finishes_tryChange {change : σ → Change σ StoreError α}
    (finishes : (change controller.store).result.Finishes) :
    Finishes (tryChange change) controller := by
  intro kind final stopped
  unfold tryChange at stopped
  cases result : (change controller.store).result with
  | ok value => simp only [result, reduceCtorEq] at stopped
  | error failure =>
      cases failure with
      | refused error => simp only [result, reduceCtorEq] at stopped
      | overflow other => exact finishes other result

/-- An action that finishes is an attempt that ended. -/
theorem Finishes.attempted (finishes : action.Finishes controller) :
    ∃ outcome final, attempt action controller = .ok outcome final := by
  unfold attempt
  cases ran : action controller with
  | ok value final => exact ⟨_, _, rfl⟩
  | error failure final =>
      cases failure with
      | refused refusal => exact ⟨_, _, rfl⟩
      | overflow kind => exact absurd ran (finishes kind final)

/-- An attempt that ended is of an action that finishes. -/
theorem finishes_of_attempt {outcome : Except Refusal α} {final : Controller σ}
    (ended : attempt action controller = .ok outcome final) : action.Finishes controller := by
  intro kind stopped overflows
  rw [attempt, overflows] at ended
  cases ended

end Action

end Admission
