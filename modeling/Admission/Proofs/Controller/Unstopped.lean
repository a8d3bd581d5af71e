import Admission.Controller.Observe
import Admission.Proofs.Controller.Light

/-!
# Actions that are not stopped

In front of a store that tells words, no request of a direction whose queue is bearable overflows
(`Action.submit_finishes`), and neither does the destruction of an object
(`Action.destroy_finishes`).  A creation does not overflow if the store finishes what it is asked
for, and the queue is still bearable once the creation has submitted its need
(`Action.create_finishes`).

To look at a queue takes no reckoning (`Controller.snapshot_finishes`).
-/

namespace Admission

namespace Action

variable {σ α : Type} {controller : Controller σ} {direction : Direction} {slot : SlotId}
  {needed : Space} {priority : Priority} {attendant : Option AttendantId} {hold : Bool}
  {id : ObjectId}

/-! ## Requests -/

theorem finishes_shred (direction : Direction) (slot : SlotId) (controller : Controller σ) :
    Finishes (shred direction slot) controller := by
  rintro kind final
  rw [shred_run]
  split <;> rintro ⟨⟩

theorem finishes_discard {action : Action σ α} (finishes : action.Finishes controller) :
    Finishes (discard action : Action σ PUnit) controller :=
  finishes.bind fun _ _ _ => finishes_pure _

theorem finishes_signal (attendant : Option AttendantId)
    (change : Attendants → AttendantId → Attendants) (controller : Controller σ) :
    Finishes (signal attendant change) controller := by
  rintro kind final
  rw [signal_run]
  rintro ⟨⟩

/-- To answer a request that was scanned for takes no reckoning. -/
theorem finishes_answer (direction : Direction) (slot : SlotId) (attendant : Option AttendantId)
    (hold : Bool) (controller : Controller σ) :
    Finishes (answer direction slot attendant hold) controller := by
  refine Finishes.bind (by rintro kind final ⟨⟩) fun found between isFound => ?_
  dsimp only
  split
  · refine (finishes_discard (finishes_shred direction slot between)).bind fun _ shredded _ => ?_
    exact (finishes_signal attendant _ shredded).bind fun _ _ _ => finishes_pure _
  · split
    · refine Finishes.bind (by rintro kind final ⟨⟩) fun _ told _ => ?_
      exact (finishes_discard (finishes_shred direction slot told)).bind fun _ _ _ =>
        finishes_pure _
    · exact finishes_pure _

variable [Store σ]

theorem scanFor_finishes (queued : slot ∈ (controller.ledger.queue direction).map Requisition.slot)
    (scans : Finishes (scan direction) controller) :
    Finishes (scanFor direction slot) controller := by
  intro kind final
  rw [scanFor_run queued]
  cases ran : scan direction controller with
  | ok serviced between => rintro ⟨⟩
  | error failure between =>
      cases failure with
      | refused refusal => rintro ⟨⟩
      | overflow other => exact absurd ran (scans other between)

section Words

variable (words : ∀ (store : σ) (direction : Direction), Store.InWords store direction)
include words

/-- A request does not overflow: at the scan the pool has changed, and the queue has one more
requisition, which is pending. -/
theorem submit_finishes (bearable : controller.ledger.Bearable direction) :
    Finishes (submit direction needed priority attendant hold) controller := by
  cases valid : needed.valid with
  | false =>
      intro kind final
      simp [submit, valid]
  | true =>
      cases took : controller.ledger.pool.take with
      | none =>
          intro kind final
          simp [submit, valid, takeSlot_run, took]
      | some found =>
          obtain ⟨slot, taken⟩ := found
          have here := controller.mem_slots_queuing direction
            ⟨slot, needed, priority, attendant, false⟩ taken
          have queued : (controller.queuing direction ⟨slot, needed, priority, attendant, false⟩
              taken).ledger.Bearable direction := by
            have same : ({ controller.ledger with pool := taken } : Ledger).Bearable direction :=
              ⟨by simpa using bearable.nonneg, by simpa using bearable.most⟩
            exact same.enqueue rfl valid
          have runs : Finishes (scanFor direction slot >>= fun _ =>
              answer direction slot attendant hold) (controller.queuing direction
                ⟨slot, needed, priority, attendant, false⟩ taken) :=
            (scanFor_finishes here (scan_finishes_of_bearable words queued)).bind
              fun _ between _ => finishes_answer direction slot attendant hold between
          intro kind final
          rw [submit_run valid took]
          exact runs kind final

/-! ## Objects -/

/-- The destruction of an object does not overflow if the store finishes it. -/
theorem destroy_finishes (bearable : ∀ direction, controller.ledger.Bearable direction)
    (destroys : (Store.destroy controller.store id).result.Finishes) :
    Finishes (destroy id) controller := by
  rw [destroy, change, bind_assoc]
  refine (finishes_tryChange destroys).bind fun outcome between tried => ?_
  obtain ⟨-, rfl⟩ := tryChange_eq_ok tried
  cases outcome with
  | error error => exact Finishes.bind (finishes_refuse _) (by rintro value final ⟨⟩)
  | ok direction =>
      refine Finishes.bind (finishes_pure direction) fun found same isFound => ?_
      cases isFound
      refine Finishes.bind ?_ fun _ _ _ => Finishes.bind (by rintro kind final ⟨⟩) fun _ _ _ =>
        finishes_pure _
      exact scan_finishes_of_bearable words (bearable direction)

/-- A creation does not overflow if the store finishes what it is asked for, and the queue is still
bearable when a ticket was handed out. -/
theorem create_finishes {source : Source}
    (bearable : controller.ledger.Bearable direction)
    (sizes : ∀ location, (spaceNeeded source location).Finishes controller)
    (creates : ∀ object, (Store.create controller.store id object).result.Finishes)
    (submitted : ∀ location needed ticket between, source.location = some location →
      source.length ≠ 0 → spaceNeeded source location controller = .ok needed controller →
      submit direction needed priority attendant true controller = .ok (.queued ticket) between →
      between.ledger.Bearable ticket.direction ∧
        ∀ object, (Store.create between.store id object).result.Finishes) :
    Finishes (create direction source priority attendant id) controller := by
  unfold create
  cases isLocation : source.location with
  | none =>
      refine Finishes.bind ?_ fun _ _ _ => finishes_pure _
      refine (finishes_tryChange (creates _)).bind fun outcome between _ => ?_
      cases outcome with
      | ok nothing => exact finishes_pure _
      | error error => exact finishes_refuse _
  | some location =>
      by_cases isEmpty : source.length = 0
      · simp only [isEmpty, if_true]
        exact Finishes.bind (finishes_refuse _) (by rintro value final ⟨⟩)
      · simp only [isEmpty, if_false]
        refine (sizes location).bind fun needed same sized => ?_
        obtain rfl := (spaceNeeded_keeps source location controller).1 sized
        refine (submit_finishes words bearable).bind fun answer between submits => ?_
        cases answer with
        | granted => exact finishes_pure _
        | notServiceable => exact finishes_pure _
        | queued ticket =>
            obtain ⟨stillBearable, stores⟩ :=
              submitted location needed ticket between isLocation isEmpty sized submits
            obtain ⟨progress, waiting, waits, waited⟩ := wait_waited ticket between
            refine Finishes.bind ?_ fun found woken done => ?_
            · intro kind final stopped
              cases waits.symm.trans stopped
            · cases waits.symm.trans done
              exact follow_finishes words stillBearable (stores _) waited

end Words

end Action

/-! ## Snapshots -/

namespace Controller

variable {σ : Type} [Store σ]

/-- To look at a queue takes no reckoning beside what the store tells. -/
theorem snapshot_finishes (controller : Controller σ) {direction : Direction}
    (words : Store.InWords controller.store direction) :
    (controller.snapshot direction).Finishes := by
  have usages : ∀ medium, (usage controller.store direction medium).Finishes := fun medium =>
    (words medium).1.finishes.bind fun _ _ =>
      (words medium).2.finishes.bind fun _ _ => Checked.finishes_ok _
  have every : ∀ media : List Medium,
      Checked.Finishes (media.mapM (usage controller.store direction)) := by
    intro media
    induction media with
    | nil => exact Checked.finishes_ok []
    | cons medium rest induction =>
        rw [List.mapM_cons]
        exact (usages medium).bind fun _ _ => induction.bind fun _ _ => Checked.finishes_ok _
  have shows : Checked.Finishes (do
      let media ← Medium.all.mapM (usage controller.store direction)
      return (⟨direction, media, (controller.ledger.queue direction).map Requisition.observe⟩ :
        Snapshot) : Checked StoreError Snapshot) :=
    (every Medium.all).bind fun _ _ => Checked.finishes_ok _
  exact shows.mapRefusal Refusal.store

end Controller

end Admission
