import Admission.Proofs.Controller.Finishing
import Admission.Proofs.Controller.Immediate
import Admission.Proofs.Controller.Waiting

/-!
# Requesters that do not wait

The answer to a submission tells whether it was serviced (`Action.answer_cases`).  One that is made
without an attendant is queued only if it is serviced already, so that a creation without an
attendant goes through in one go (`Action.create_unattended`).  It makes its object exactly if the
store does (`Action.created_of_store`, `Action.store_of_created`), and then lets go of the grant.
-/

namespace Admission

namespace Action

variable {σ : Type} {direction : Direction} {slot : SlotId} {needed : Space}
  {priority : Priority} {attendant : Option AttendantId} {hold : Bool}
  {controller final : Controller σ} {result : Answer}

/-- What an answer tells, and what it leaves of the requisition. -/
theorem answer_cases
    (queued : slot ∈ (controller.ledger.queue direction).map Requisition.slot)
    (answered : answer direction slot attendant hold controller = .ok result final) :
    (result = .granted ∧ controller.ledger.isServiced direction slot = true ∧ hold = false ∧
      final.ledger = controller.ledger.remove direction slot) ∨
    (result = .notServiceable ∧ controller.ledger.isServiced direction slot = false ∧
      attendant = none ∧ final.ledger = controller.ledger.remove direction slot) ∨
    (result = .queued ⟨direction, slot, attendant⟩ ∧ final = controller ∧
      (controller.ledger.isServiced direction slot = true ∧ hold = true ∨
        controller.ledger.isServiced direction slot = false ∧ attendant ≠ none)) := by
  cases serviced : controller.ledger.isServiced direction slot with
  | true =>
      cases hold with
      | false =>
          rw [answer_of_granted queued serviced] at answered
          cases answered
          exact Or.inl ⟨rfl, rfl, rfl, rfl⟩
      | true =>
          rw [answer_of_held serviced] at answered
          cases answered
          exact Or.inr (Or.inr ⟨rfl, rfl, Or.inl ⟨rfl, rfl⟩⟩)
  | false =>
      cases attendant with
      | none =>
          rw [answer_of_notServiceable queued serviced] at answered
          cases answered
          exact Or.inr (Or.inl ⟨rfl, rfl, rfl, rfl⟩)
      | some waiting =>
          rw [answer_of_pending serviced] at answered
          cases answered
          exact Or.inr (Or.inr ⟨rfl, rfl, Or.inr ⟨rfl, by simp⟩⟩)

variable [Store σ]

/-- What a requester that does not wait is given a ticket for is serviced. -/
theorem serviced_of_queued {ticket : Ticket}
    (done : submit direction needed priority none hold controller = .ok (.queued ticket) final) :
    ticket.attendant = none ∧ ticket.direction = direction ∧
      final.ledger.isServiced ticket.direction ticket.slot = true := by
  obtain ⟨-, slot, taken, serviced, scanned, -, scans, answered⟩ := submit_eq_ok done
  obtain ⟨share, -, rfl, -⟩ := scan_eq_ok scans
  have queued := Controller.mem_slots_scanned (controller.mem_slots_queuing direction
    ⟨slot, needed, priority, none, false⟩ taken) share
  rcases answer_cases queued answered with ⟨⟨⟩, -⟩ | ⟨⟨⟩, -⟩ | ⟨⟨⟩, rfl, held | ⟨-, waits⟩⟩
  · exact ⟨rfl, rfl, held.1⟩
  · exact absurd rfl waits

/-- A creation that does not wait, of an object with an initial extent. -/
def createReserved (direction : Direction) (source : Source) (location : Location)
    (priority : Priority) (id : ObjectId) : Action σ Creation := do
  let needed ← spaceNeeded source location
  match ← submit direction needed priority none true with
  | .queued ticket =>
    store ⟨ticket, direction, source, .reserved, decide (direction = .inbound)⟩ id
  | .granted | .notServiceable => return .notCreated

/-- A creation that does not wait. -/
def createAtOnce (direction : Direction) (source : Source) (priority : Priority)
    (id : ObjectId) : Action σ Creation :=
  match source.location with
  | none => do
    change fun store => Store.create store id
      ⟨direction, source, .unreserved, decide (direction = .inbound)⟩
    return .created id
  | some location =>
    if source.length = 0 then refuse (.invalidArgument .emptyExtent)
    else createReserved direction source location priority id

/-- A creation without an attendant goes through in one go. -/
theorem create_unattended (direction : Direction) (source : Source) (priority : Priority)
    (id : ObjectId) :
    (create direction source priority none id : Action σ (Progress PendingCreation Creation)) =
      createAtOnce direction source priority id >>= fun creation => pure (.finished creation) := by
  funext controller
  unfold create createAtOnce createReserved
  simp only [Option.isNone_none, Bool.and_true]
  cases isLocation : source.location with
  | none =>
      simp only [bind_run]
      split <;> rfl
  | some location =>
      by_cases empty : source.length = 0
      · simp only [empty, if_true, bind_run, refuse_run]
      · simp only [empty, if_false, bind_run]
        cases sized : spaceNeeded source location controller with
        | error failure between => rfl
        | ok needed between =>
            dsimp only
            cases submitted : submit direction needed priority none true between with
            | error failure later => rfl
            | ok result later =>
                cases result with
                | granted => rfl
                | notServiceable => rfl
                | queued ticket =>
                    obtain ⟨alone, -, serviced⟩ := serviced_of_queued submitted
                    simp only [wait_of_serviced alone serviced, follow, bind_run]

variable {creation : PendingCreation} {id : ObjectId}

/-- What is stored was made by the store. -/
theorem created_of_store {created : Creation}
    (done : store creation id controller = .ok created final) :
    (Store.create controller.store id creation.object).result = .ok () ∧
      created = .created id := by
  rw [store, bind_run] at done
  cases tried : tryChange (fun store => Store.create store id creation.object) controller with
  | error failure between =>
      rw [tried] at done
      cases done
  | ok stored between =>
      rw [tried] at done
      obtain ⟨made, -⟩ := tryChange_eq_ok tried
      cases stored with
      | ok nothing =>
          simp only [bind_run] at done
          cases dropped : dropTicket creation.ticket between with
          | error failure later =>
              rw [dropped] at done
              cases done
          | ok nothing later =>
              rw [dropped] at done
              cases done
              exact ⟨made, rfl⟩
      | error error =>
          simp only [bind_run, note_run] at done
          cases dropped : dropTicket creation.ticket
              (between.record [.note (.creationFailed creation.object.direction error)]) with
          | error failure later =>
              rw [dropped] at done
              cases done
          | ok nothing later =>
              rw [dropped] at done
              cases done

/-- What the store makes is stored, unless an overflow stops the scan after it. -/
theorem store_of_created
    (made : (Store.create controller.store id creation.object).result = .ok ())
    (finishes : (store creation id).Finishes controller) :
    ∃ final, store creation id controller = .ok (.created id) final := by
  cases tried : tryChange (fun store => Store.create store id creation.object) controller with
  | error failure between =>
      simp [tryChange, made] at tried
  | ok stored between =>
      obtain ⟨same, -⟩ := tryChange_eq_ok tried
      rw [made] at same
      cases stored with
      | error error => cases same
      | ok nothing =>
          cases dropped : dropTicket creation.ticket between with
          | ok nothing later =>
              exact ⟨later, by simp only [store, bind_run, tried, dropped, pure_run]⟩
          | error failure later =>
              cases failure with
              | refused refusal => exact absurd dropped dropTicket_ne_refused
              | overflow kind =>
                  refine absurd ?_ (finishes kind later)
                  simp only [store, bind_run, tried, dropped]

end Action

end Admission
