import Admission.Proofs.Traffic.Whole

/-!
# What a creation leaves of the store

A creation makes one object, of the direction for which it was asked, exactly if it ends by telling
that the object was created; up to then, and however else it ends, it leaves the store as it found
it.  `Stage.Leaves` says so of each stage, and `Part.leaves` that each part of a creation keeps it.
Hence it is true of the actions (`Traffic.create_leaves`, `Traffic.resumeCreation_leaves`,
`Traffic.abandonCreation_leaves`).
-/

namespace Admission

section Stored

variable {σ : Type} [Store σ] {commission : Commission} {id : ObjectId} {store : σ}
  {traffic now next : Traffic σ} {stage following : Stage} {final : Controller σ}

/-! ## Stages -/

/-- A store has one more object of a direction than another one. -/
def Store.Gains (direction : Direction) (id : ObjectId) (store after : σ) : Prop :=
  ∃ object : NewObject, object.direction = direction ∧
    (Store.create store id object).result = .ok () ∧
    after = (Store.create store id object).store

/-- A store that refuses to create an object stays as it is. -/
def Store.KeepsRefused (σ : Type) [Store σ] : Prop :=
  ∀ (store : σ) (id : ObjectId) (object : NewObject) (error : StoreError),
    (Store.create store id object).result = .error (.refused error) →
      (Store.create store id object).store = store

/-- What a creation has left of the store, as far as it has come. -/
structure Stage.Leaves (commission : Commission) (id : ObjectId) (store : σ) (now : Traffic σ)
    (stage : Stage) : Prop where
  made : ∀ made, stage.made? = some made →
    made = id ∧ Store.Gains commission.direction id store now.controller.store
  unmade : stage.made? = none → now.controller.store = store
  direction : ∀ creation, stage = .waiting creation ∨ stage = .cleared creation →
    creation.object.direction = commission.direction

namespace Stage.Leaves

/-- Nothing is made, and nobody waits at the next stage who did not wait before. -/
theorem untouched (leaves : Stage.Leaves commission id store now stage)
    (nothing : stage.made? = none) (still : following.made? = none)
    (same : next.controller.store = now.controller.store)
    (waits : ∀ creation, following = .waiting creation ∨ following = .cleared creation →
      creation.object.direction = commission.direction) :
    Stage.Leaves commission id store next following where
  made := by
    intro made isMade
    rw [still] at isMade
    cases isMade
  unmade := fun _ => same.trans (leaves.unmade nothing)
  direction := waits

/-- An object is made that was asked for. -/
theorem makes (leaves : Stage.Leaves commission id store now stage)
    (nothing : stage.made? = none) {object : NewObject} {made : ObjectId}
    {controller : Controller σ} (isMade : following.made? = some made) (isId : made = id)
    (same : next.controller.store = controller.store)
    (ofDirection : object.direction = commission.direction)
    (done : Action.tryChange (fun store => Store.create store made object) now.controller =
      .ok (.ok ()) controller)
    (ends : ∀ creation, ¬ (following = .waiting creation ∨ following = .cleared creation)) :
    Stage.Leaves commission id store next following where
  made := by
    intro other isOther
    cases isMade.symm.trans isOther
    subst isId
    obtain ⟨result, rfl⟩ := Action.tryChange_eq_ok done
    rw [leaves.unmade nothing] at result same
    exact ⟨rfl, object, ofDirection, result, same⟩
  unmade := by
    intro nothing
    rw [isMade] at nothing
    cases nothing
  direction := fun creation waits => absurd waits (ends creation)

/-- The store stays as it is, and what was made stays made. -/
theorem remains (leaves : Stage.Leaves commission id store now stage)
    (isMade : following.made? = stage.made?)
    (same : next.controller.store = now.controller.store)
    (ends : ∀ creation, ¬ (following = .waiting creation ∨ following = .cleared creation)) :
    Stage.Leaves commission id store next following where
  made := by
    rw [isMade, same]
    exact leaves.made
  unmade := by
    rw [isMade, same]
    exact leaves.unmade
  direction := fun creation waits => absurd waits (ends creation)

end Stage.Leaves

/-! ## Parts -/

/-- A part of a creation makes its object, or leaves the store as it is. -/
theorem Part.leaves {weather : Weather σ} (keeps : Store.KeepsRefused σ)
    (leaves : Stage.Leaves commission id store now stage)
    (part : Part weather commission now stage next following)
    (isId : ∀ made, following.made? = some made → made = id) :
    Stage.Leaves commission id store next following := by
  have refused : ∀ {made : ObjectId} {object : NewObject} {error : StoreError}
      {controller : Controller σ},
      Action.tryChange (fun store => Store.create store made object) now.controller =
        .ok (.error error) controller → controller.store = now.controller.store := by
    intro made object error controller done
    obtain ⟨result, rfl⟩ := Action.tryChange_eq_ok done
    exact keeps _ _ _ _ result
  cases part with
  | never | emptyExtent | unsized | size => exact leaves.untouched rfl rfl rfl (by simp)
  | createEmpty isEmpty fresh done =>
      exact leaves.makes rfl rfl (isId _ rfl) rfl rfl done (by simp)
  | createRefused isEmpty done => exact leaves.untouched rfl rfl (refused done) (by simp)
  | @submit needed see answer final shows isSized spare ended =>
      refine leaves.untouched rfl (Stage.made?_answered _ _) rfl ?_
      rcases answer with refusal | (_ | _ | ticket)
      · simp [Stage.answered]
      · simp [Stage.answered]
      · simp [Stage.answered]
      · rintro creation (isWaiting | isCleared)
        · cases isWaiting
          rfl
        · cases isCleared
  | attend attendants remarks => exact leaves.untouched rfl rfl rfl leaves.direction
  | clear waits isServiced =>
      refine leaves.untouched rfl rfl rfl ?_
      rintro creation (isWaiting | isCleared)
      · cases isWaiting
      · cases isCleared
        exact leaves.direction _ (Or.inl rfl)
  | interrupt | abandon => exact leaves.untouched rfl rfl rfl (by simp)
  | store isCleared fresh done =>
      exact leaves.makes rfl rfl (isId _ rfl) rfl (leaves.direction _ (Or.inr rfl)) done (by simp)
  | storeRefused isCleared done =>
      have same := refused done
      exact leaves.untouched rfl rfl same (by simp)
  | finish shows isStored ended => exact leaves.remains rfl rfl (by simp)
  | @leave creation ending see outcome final shows isLeaving ended =>
      refine leaves.remains ?_ rfl (by simp)
      cases ending <;> rfl

theorem Stage.closed_leaves (keeps : Store.KeepsRefused σ) (commission : Commission)
    (id : ObjectId) (store : σ) : Closed commission id (Stage.Leaves commission id store) where
  part leaves part isId := part.leaves keeps leaves isId

/-! ## Actions -/

/-- What an action for a creation leaves of the store: one more object if it tells that it was
created, and otherwise the same. -/
def Store.Left (direction : Direction) (id : ObjectId) (store after : σ) :
    Except Refusal (Progress PendingCreation Creation) → Prop
  | .ok (.finished (.created made)) => made = id ∧ Store.Gains direction id store after
  | .ok (.parked creation) => after = store ∧ creation.object.direction = direction
  | .ok (.finished .notCreated) | .ok (.finished .interrupted) | .error _ => after = store

theorem Store.left_of_goesTo {outcome : Except Refusal (Progress PendingCreation Creation)}
    (goes : GoesTo (Stage.Leaves commission id store) outcome final) :
    Store.Left commission.direction id store final.store outcome := by
  obtain ⟨⟨after, leaves, rfl⟩, -⟩ := goes
  rcases outcome with refusal | ((made | _ | _) | creation)
  · exact leaves.unmade rfl
  · exact leaves.made made rfl
  · exact leaves.unmade rfl
  · exact leaves.unmade rfl
  · exact ⟨leaves.unmade rfl, leaves.direction creation (Or.inl rfl)⟩

namespace Traffic

variable {creation : PendingCreation}

/-- What a creation leaves that is begun. -/
theorem create_leaves {direction : Direction} {source : Source} {priority : Priority}
    {attendant : Option AttendantId}
    {outcome : Except Refusal (Progress PendingCreation Creation)}
    (keeps : Store.KeepsRefused σ) (fresh : id ∉ traffic.named)
    (spare : traffic.controller.ledger.pool.Spare)
    (ended : Action.attempt (Action.create direction source priority attendant id)
      traffic.controller = .ok outcome final) :
    Store.Left direction id traffic.controller.store final.store outcome := by
  let commission : Commission := ⟨direction, source, priority, attendant⟩
  have begun : Stage.Leaves commission id traffic.controller.store traffic .begun :=
    ⟨by rintro made ⟨⟩, fun _ => rfl, by simp⟩
  exact Store.left_of_goesTo ((Stage.closed_leaves keeps commission id _).create begun fresh
    spare ended)

/-- A creation that waits is of the direction of its object. -/
theorem leaves_waiting (traffic : Traffic σ) (creation : PendingCreation) (id : ObjectId) :
    Stage.Leaves ⟨creation.object.direction, creation.object.source, ⟨0, 0⟩,
      creation.ticket.attendant⟩ id traffic.controller.store traffic (.waiting creation) where
  made := by rintro made ⟨⟩
  unmade := fun _ => rfl
  direction := by
    rintro other (isWaiting | isCleared)
    · cases isWaiting
      rfl
    · cases isCleared

/-- What a creation leaves that was parked. -/
theorem resumeCreation_leaves {outcome : Except Refusal (Progress PendingCreation Creation)}
    (keeps : Store.KeepsRefused σ) (waits : .waiting creation ∈ traffic.calls)
    (fresh : id ∉ traffic.named) (attended : creation.ticket.attendant ≠ none)
    (ended : Action.attempt (Action.resumeCreation creation id) traffic.controller =
      .ok outcome final) :
    Store.Left creation.object.direction id traffic.controller.store final.store outcome :=
  Store.left_of_goesTo ((Stage.closed_leaves keeps _ id _).resume
    (traffic.leaves_waiting creation id) waits fresh attended ended)

/-- A creation that is given up leaves the store as it is. -/
theorem abandonCreation_leaves {outcome : Except Refusal Unit} (keeps : Store.KeepsRefused σ)
    (waits : .waiting creation ∈ traffic.calls)
    (ended : Action.attempt (Action.abandonCreation creation) traffic.controller =
      .ok outcome final) : final.store = traffic.controller.store := by
  obtain ⟨after, leaves, rfl⟩ := (Stage.closed_leaves keeps _ ⟨0⟩ _).abandon
    (traffic.leaves_waiting creation ⟨0⟩) waits ended
  exact leaves.unmade rfl

end Traffic

end Stored

end Admission
