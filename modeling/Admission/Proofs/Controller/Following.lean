import Admission.Proofs.Controller.Running

/-!
# Actions that follow other actions

Two controllers are alike in what matters to an action.  Another action follows it if it comes to
the same at the second controller as the first comes to at the first one, unless an overflow stops
that: to its value, changed in a way that is known, or to the same refusal, and leaves the two
alike.  Actions that follow one another step by step follow one another as a whole
(`Action.Follows.bind`).
-/

namespace Admission

namespace Action

variable {σ α β γ δ : Type}

/-- Whatever an action comes to at the first controller, another one comes to at the second. -/
structure Follows (alike : Controller σ → Controller σ → Prop) (change : α → β)
    (action : Action σ α) (other : Action σ β) (first second : Controller σ) : Prop where
  done : ∀ value final, action first = .ok value final →
    ∃ last, other second = .ok (change value) last ∧ alike final last
  refused : ∀ refusal final, action first = .error (.refused refusal) final →
    ∃ last, other second = .error (.refused refusal) last ∧ alike final last

section Follows

variable {alike : Controller σ → Controller σ → Prop} {change : α → β} {further : γ → δ}
  {action : Action σ α} {other : Action σ β} {first second : Controller σ}

theorem follows_pure (stillAlike : alike first second) (value : α) :
    Follows alike change (pure value) (pure (change value)) first second where
  done := by
    rintro _ _ ⟨⟩
    exact ⟨second, rfl, stillAlike⟩
  refused := by rintro refusal final ⟨⟩

theorem follows_refuse (stillAlike : alike first second) (refusal : Refusal) :
    Follows alike change (refuse refusal) (refuse refusal) first second where
  done := by rintro value final ⟨⟩
  refused := by
    rintro _ _ ⟨⟩
    exact ⟨second, rfl, stillAlike⟩

/-- A step that nothing can stop. -/
theorem follows_modify {step otherStep : Controller σ → Controller σ}
    (stillAlike : alike (step first) (otherStep second)) :
    Follows alike id (modify step : Action σ PUnit) (modify otherStep) first second where
  done := by
    rintro _ _ ⟨⟩
    exact ⟨otherStep second, rfl, stillAlike⟩
  refused := by rintro refusal final ⟨⟩

/-- Actions that run like others, at other controllers. -/
theorem Follows.of_eq {run : Action σ α} {otherRun : Action σ β} {start otherStart : Controller σ}
    (follows : Follows alike change run otherRun start otherStart)
    (runs : action first = run start) (runsToo : other second = otherRun otherStart) :
    Follows alike change action other first second where
  done := by
    rw [runs, runsToo]
    exact follows.done
  refused := by
    rw [runs, runsToo]
    exact follows.refused

/-- Actions that look at their controllers first. -/
theorem follows_get {next : Controller σ → Action σ α} {otherNext : Controller σ → Action σ β}
    (goesOn : Follows alike change (next first) (otherNext second) first second) :
    Follows alike change (get >>= next) (get >>= otherNext) first second :=
  ⟨goesOn.done, goesOn.refused⟩

theorem Follows.bind {next : α → Action σ γ} {otherNext : β → Action σ δ}
    (begins : Follows alike change action other first second)
    (goesOn : ∀ value between beside, action first = .ok value between →
      other second = .ok (change value) beside → alike between beside →
      Follows alike further (next value) (otherNext (change value)) between beside) :
    Follows alike further (action >>= next) (other >>= otherNext) first second where
  done := by
    intro value final ran
    obtain ⟨found, between, isFound, rest⟩ := bind_eq_ok_iff.mp ran
    obtain ⟨beside, isFoundToo, alikeBetween⟩ := begins.done found between isFound
    obtain ⟨last, restToo, alikeLast⟩ :=
      (goesOn found between beside isFound isFoundToo alikeBetween).done value final rest
    exact ⟨last, bind_eq_ok_iff.mpr ⟨_, beside, isFoundToo, restToo⟩, alikeLast⟩
  refused := by
    intro refusal final ran
    rw [bind_run] at ran
    cases found : action first with
    | error failure between =>
        rw [found] at ran
        cases ran
        obtain ⟨last, refusedToo, alikeLast⟩ := begins.refused refusal final found
        exact ⟨last, by rw [bind_run, refusedToo], alikeLast⟩
    | ok value between =>
        rw [found] at ran
        obtain ⟨beside, foundToo, alikeBetween⟩ := begins.done value between found
        obtain ⟨last, refusedToo, alikeLast⟩ :=
          (goesOn value between beside found foundToo alikeBetween).refused refusal final ran
        refine ⟨last, ?_, alikeLast⟩
        rw [bind_run, foundToo]
        exact refusedToo

/-- What an action that is followed comes to can be changed further. -/
theorem Follows.mapped {wrap : α → γ} {otherWrap : β → δ}
    (follows : Follows alike change action other first second)
    (wraps : ∀ value, otherWrap (change value) = further (wrap value)) :
    Follows alike further (do return wrap (← action)) (do return otherWrap (← other))
      first second :=
  follows.bind fun value _ _ _ _ stillAlike => wraps value ▸ follows_pure stillAlike (wrap value)

/-- An attempt that ends is followed by one that ends. -/
theorem Follows.attempted {outcome : Except Refusal α} {final : Controller σ}
    (follows : Follows alike change action other first second)
    (ended : attempt action first = .ok outcome final) :
    ∃ last, attempt other second = .ok (outcome.map change) last ∧ alike final last := by
  rcases attempt_eq_ok_iff.mp ended with ⟨value, rfl, done⟩ | ⟨refusal, rfl, refused⟩
  · obtain ⟨last, doneToo, stillAlike⟩ := follows.done value final done
    exact ⟨last, attempt_eq_ok_iff.mpr (Or.inl ⟨change value, rfl, doneToo⟩), stillAlike⟩
  · obtain ⟨last, refusedToo, stillAlike⟩ := follows.refused refusal final refused
    exact ⟨last, attempt_eq_ok_iff.mpr (Or.inr ⟨refusal, rfl, refusedToo⟩), stillAlike⟩

/-- An attempt follows the attempt of an action that is followed. -/
theorem Follows.attempt (follows : Follows alike change action other first second) :
    Follows alike (Except.map change) (Action.attempt action) (Action.attempt other)
      first second where
  done := fun _ _ ended => follows.attempted ended
  refused := by
    intro refusal final impossible
    unfold Action.attempt at impossible
    split at impossible <;> cases impossible

end Follows

end Action

end Admission
