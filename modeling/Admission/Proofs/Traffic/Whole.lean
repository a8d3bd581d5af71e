import Admission.Proofs.Traffic.Performed

/-!
# Calls from beginning to end

The traffic cuts a call into the parts between which others can act.  A call during which nobody
else acts is its parts in a row, and comes to what the action of the controller comes to:
`Traffic.create_comesTo`, `Traffic.resumeCreation_comesTo` and `Traffic.destroy_reaches`.
-/

namespace Admission

namespace Traffic

variable {σ : Type} [Store σ] {traffic before after : Traffic σ} {final : Controller σ}
  {creation : PendingCreation} {id : ObjectId}

/-- What traffic comes to in any number of steps. -/
abbrev Reaches : Traffic σ → Traffic σ → Prop := Relation.ReflTransGen Step

theorem Reaches.aside (reaches : Reaches traffic before) (aside : Aside before after) :
    Reaches traffic after := reaches.tail (.aside aside)

/-! ## Destructions -/

/-- An object is removed and its direction scanned. -/
theorem removed_reaches {direction : Direction} {between scanned : Controller σ}
    {outcome : Except Refusal Nat}
    (done : Action.tryChange (fun store => Store.destroy store id) traffic.controller =
      .ok (.ok direction) between)
    (scans : Action.attempt (Action.scan direction) between = .ok outcome scanned)
    (remarks : List Note) :
    Reaches traffic (traffic.acted (scanned.record (remarks.map .note))) := by
  have removal : Reaches traffic { traffic.acted between with
      removals := ⟨id, direction⟩ :: traffic.removals } := Reaches.aside .refl (.remove done)
  have rescan : Step { traffic.acted between with
      removals := ⟨id, direction⟩ :: traffic.removals } _ :=
    .rescan List.mem_cons_self remarks scans
  rw [List.erase_cons_head] at rescan
  exact removal.tail rescan

/-- An object is destroyed and its direction scanned, unless that is refused. -/
theorem destroy_reaches {outcome : Except Refusal Direction}
    (ended : Action.attempt (Action.destroy id) traffic.controller = .ok outcome final) :
    Reaches traffic (traffic.acted final) := by
  unfold Action.destroy Action.change at ended
  rw [bind_assoc] at ended
  rcases Action.attempt_bind_cases ended with ⟨removed, between, done, rest⟩ | ⟨refusal, -, refused⟩
  · cases removed with
    | error error =>
        cases rest
        exact Reaches.aside .refl (.removeRefused done)
    | ok direction =>
        have scanning : Action.attempt (Action.scan direction >>= fun serviced =>
            Action.note (.objectReleased id serviced direction) >>= fun _ => pure direction)
            between = .ok outcome final := rest
        rcases Action.attempt_bind_cases scanning with
          ⟨serviced, scanned, scans, noted⟩ | ⟨refusal, -, refused⟩
        · cases noted
          exact removed_reaches done
            (Action.attempt_eq_ok_iff.mpr (Or.inl ⟨serviced, rfl, scans⟩))
            [.objectReleased id serviced direction]
        · have reaches := removed_reaches done
            (Action.attempt_eq_ok_iff.mpr (Or.inr ⟨refusal, rfl, refused⟩)) []
          rwa [List.map_nil, Controller.record_nil] at reaches
  · exact absurd refused Action.tryChange_ne_refused

/-! ## Creations -/

/-- How a creation under the identifier `id` ends or is parked, with the calls that are left of
it and the identifiers that were given. -/
inductive Outcome (id : ObjectId) :
    Except Refusal (Progress PendingCreation Creation) → List Call → List ObjectId → Prop where
  | parked {creation : PendingCreation} :
      creation.ticket.attendant ≠ none →
      Outcome id (.ok (.parked creation)) [.waiting creation] []
  | created : Outcome id (.ok (.finished (.created id))) [] [id]
  | notCreated : Outcome id (.ok (.finished .notCreated)) [] []
  | interrupted : Outcome id (.ok (.finished .interrupted)) [] []
  | refused {refusal : Refusal} : Outcome id (.error refusal) [] []

/-- The traffic comes to the outcome of a creation, beside the other calls. -/
def ComesTo (traffic : Traffic σ) (id : ObjectId) (others : List Call)
    (outcome : Except Refusal (Progress PendingCreation Creation)) (final : Controller σ) : Prop :=
  ∃ left given calls, Outcome id outcome left given ∧ calls.Perm (left ++ others) ∧
    Reaches traffic { traffic.acted final with
      named := given ++ traffic.named
      calls := calls }

/-- A creation that waits is given up. -/
theorem abandonCreation_reaches {outcome : Except Refusal Unit}
    (waits : .waiting creation ∈ traffic.calls)
    (ended : Action.attempt (Action.abandonCreation creation) traffic.controller =
      .ok outcome final) :
    Reaches traffic
      { traffic.acted final with calls := traffic.calls.erase (.waiting creation) } := by
  have leaving := Reaches.aside .refl (.abandon waits)
  have left := leaving.tail (.leave List.mem_cons_self ended)
  simp only [become, acted, Option.toList_some, Option.toList_none, List.nil_append,
    List.singleton_append, List.erase_cons_head] at left
  exact left

/-- The traffic has gone on to a stage of a creation under the identifier `id`, beside the other
calls. -/
structure GoneTo (traffic : Traffic σ) (commission : Commission) (id : ObjectId)
    (others : List Call) (now : Traffic σ) (stage : Stage) : Prop where
  reaches : Reaches traffic now
  tickets : now.tickets = traffic.tickets
  removals : now.removals = traffic.removals
  calls : now.calls.Perm ((stage.call? commission).toList ++ others)
  named : now.named = stage.made?.toList ++ traffic.named
  made : ∀ made, stage.made? = some made → made = id

theorem GoneTo.closed (traffic : Traffic σ) (commission : Commission) (id : ObjectId)
    (others : List Call) : Closed commission id (GoneTo traffic commission id others) where
  part := by
    intro now next stage following gone part isId
    constructor
    case reaches =>
      rcases part.step with rfl | step
      · exact gone.reaches
      · exact gone.reaches.tail (.of_calm step)
    case tickets => exact part.tickets.trans gone.tickets
    case removals => exact part.removals.trans gone.removals
    case calls => exact part.calls gone.calls
    case named =>
      rcases part.named with ⟨same, named⟩ | ⟨nothing, made, isMade, named⟩
      · rw [named, gone.named, same]
      · rw [named, gone.named, nothing, isMade]
        rfl
    case made => exact isId

/-- The stage that an action comes to is an outcome of the traffic. -/
theorem comesTo_of_goesTo {commission : Commission} {others : List Call}
    {outcome : Except Refusal (Progress PendingCreation Creation)}
    (goes : GoesTo (GoneTo traffic commission id others) outcome final) :
    traffic.ComesTo id others outcome final := by
  obtain ⟨⟨after, gone, rfl⟩, attended⟩ := goes
  refine ⟨((Stage.reached outcome).call? commission).toList,
    (Stage.reached outcome).made?.toList, after.calls, ?_, gone.calls, ?_⟩
  · rcases outcome with refusal | ((made | _ | _) | creation)
    · exact .refused
    · cases gone.made made rfl
      exact .created
    · exact .notCreated
    · exact .interrupted
    · exact .parked (attended creation rfl)
  · rw [← gone.named]
    have same : after = { traffic.acted after.controller with
        named := after.named
        calls := after.calls } := by
      rw [acted, ← gone.tickets, ← gone.removals]
    exact same ▸ gone.reaches

/-- A creation that is parked is gone on with. -/
theorem resumeCreation_comesTo {outcome : Except Refusal (Progress PendingCreation Creation)}
    (waits : .waiting creation ∈ traffic.calls) (fresh : id ∉ traffic.named)
    (attended : creation.ticket.attendant ≠ none)
    (ended : Action.attempt (Action.resumeCreation creation id) traffic.controller =
      .ok outcome final) :
    traffic.ComesTo id (traffic.calls.erase (.waiting creation)) outcome final := by
  let commission : Commission :=
    ⟨creation.object.direction, creation.object.source, ⟨0, 0⟩, creation.ticket.attendant⟩
  have waiting : traffic.GoneTo commission id (traffic.calls.erase (.waiting creation)) traffic
      (.waiting creation) :=
    ⟨.refl, rfl, rfl, List.perm_cons_erase waits, rfl, by rintro made ⟨⟩⟩
  exact comesTo_of_goesTo ((GoneTo.closed _ _ _ _).resume waiting waits fresh attended ended)

/-- A creation is begun, and comes to an outcome or is parked. -/
theorem create_comesTo {direction : Direction} {source : Source} {priority : Priority}
    {attendant : Option AttendantId}
    {outcome : Except Refusal (Progress PendingCreation Creation)}
    (fresh : id ∉ traffic.named) (spare : traffic.controller.ledger.pool.Spare)
    (ended : Action.attempt (Action.create direction source priority attendant id)
      traffic.controller = .ok outcome final) :
    traffic.ComesTo id traffic.calls outcome final := by
  have begun : traffic.GoneTo ⟨direction, source, priority, attendant⟩ id traffic.calls traffic
      .begun := ⟨.refl, rfl, rfl, List.Perm.refl _, rfl, by rintro made ⟨⟩⟩
  exact comesTo_of_goesTo ((GoneTo.closed _ _ _ _).create begun fresh spare ended)

end Traffic

end Admission
