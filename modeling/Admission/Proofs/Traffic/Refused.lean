import Admission.Proofs.Controller.Restored
import Admission.Proofs.Traffic.Tallied
import Admission.Store.Unreliable

/-!
# Refused calls are undone

When a scan is made for a request, the requisition is queued already, and any of the questions of
the scan may be refused.  Whatever the state of the ledger and whatever store refuses what, a
request or a scan that is refused leaves no trace (`refused_calls_undone`).
-/

namespace Admission

/-- A refused call is undone.  In whatever state traffic is in any weather, and whatever the store
shows then: a submission that is refused leaves both queues with all their requisitions, the
slots that are taken and the store as they were, signals nobody, and tells nothing, unless the
store refused a question; then it tells that a requisition was queued and shredded again.
A request is the submission that does not hold what it is granted.  A scan that is refused leaves
everything as it was. -/
theorem refused_calls_undone {σ τ : Type} [Store σ] [Store τ] {store : σ} {slots : Nat}
    {later : Traffic σ} (reached : (Weather.any σ).Reaches (Traffic.start store slots) later)
    (shown : τ) :
    (∀ direction needed priority attendant hold refusal final,
      Action.submit direction needed priority attendant hold (later.controller.withStore shown) =
        .error (.refused refusal) final →
      ∃ told,
        Rejection direction needed priority (later.controller.withStore shown) refusal told ∧
        Restored (if needed.valid then attendant else none) told
          (later.controller.withStore shown) final) ∧
    ∀ direction refusal final,
      Action.scan direction (later.controller.withStore shown) =
        .error (.refused refusal) final →
      final = later.controller.withStore shown ∧
      ∃ error medium, refusal = .store error ∧
        (Store.capacity shown direction medium = .error (.refused error) ∨
          Store.occupancy shown direction medium = .error (.refused error)) := by
  have wellFormed : (later.controller.withStore shown).ledger.WellFormed :=
    ((Tallied.start store slots).reaches reached).ledger
  constructor
  · intro direction needed priority attendant hold refusal final refused
    exact Action.restored_of_refused refused wellFormed
  · intro direction refusal final refused
    exact Action.scan_eq_refused refused

/-- There is room for a hundred bytes of outbound files, and nobody is told what is occupied. -/
def Unreliable.silent : Unreliable MemoryStore := ⟨.ofFileLimit 100, [.occupancy]⟩

/-- While someone waits in vain the store does not tell what is occupied: what somebody else
requests is refused and undone, and so is a scan. -/
theorem unanswered_calls_undone :
    ∃ waits ∈ Traffic.hundred.replay waitingInVain,
      waits.held = [⟨.outbound, .ofParts 1 1, some ⟨0⟩⟩] ∧
      (∃ refusal final told,
        Action.request .outbound (.ofFile 10) ⟨2, 0⟩ none
          (waits.controller.withStore Unreliable.silent) = .error (.refused refusal) final ∧
        Rejection .outbound (.ofFile 10) ⟨2, 0⟩
          (waits.controller.withStore Unreliable.silent) refusal told ∧
        Restored none told (waits.controller.withStore Unreliable.silent) final) ∧
      ∃ refusal, Action.scan .outbound (waits.controller.withStore Unreliable.silent) =
        .error (.refused refusal) (waits.controller.withStore Unreliable.silent) := by
  obtain ⟨waits, found, held, ⟨refusal, final, refused⟩, other, same, scanRefused⟩ :
      ∃ waits, (Traffic.hundred.replay waitingInVain)[1]? = some waits ∧
        waits.held = [⟨.outbound, .ofParts 1 1, some ⟨0⟩⟩] ∧
        (∃ refusal final, Action.submit .outbound (.ofFile 10) ⟨2, 0⟩ none false
          (waits.controller.withStore Unreliable.silent) = .error (.refused refusal) final) ∧
        ∃ refusal final, Action.scan .outbound (waits.controller.withStore Unreliable.silent) =
          .error (.refused refusal) final :=
    ⟨(Traffic.hundred.replay waitingInVain).getD 1 .hundred, rfl, rfl, ⟨_, _, rfl⟩, _, _, rfl⟩
  have inRun := List.mem_of_getElem? found
  have reached : (Weather.any MemoryStore).Reaches Traffic.hundred waits :=
    Run.inAny (Traffic.hundred.replay_run waitingInVain) waits (List.mem_cons_of_mem _ inRun)
  obtain ⟨submissions, scanned⟩ := refused_calls_undone reached Unreliable.silent
  obtain ⟨told, rejection, restored⟩ := submissions _ _ _ _ _ _ _ refused
  obtain ⟨rfl, -⟩ := scanned _ _ _ scanRefused
  exact ⟨waits, inRun, held, ⟨refusal, final, told, refused, rejection, restored⟩, other,
    scanRefused⟩

end Admission
