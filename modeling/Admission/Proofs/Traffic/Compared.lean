import Admission.Proofs.Controller.Compared
import Admission.Proofs.Traffic.Tallied

/-!
# Which of two requests gets more

In whatever state traffic is in any weather, and whatever store is shown then, the same request
can be made in more than one way.  A higher priority never makes it worse
(`higher_priority_never_hurts`), and waiting never obtains what would be refused to a requester
that does not wait (`waiting_obtains_no_more`).

Both rest on the needs that are queued: none is below zero (`Weather.Reaches.valid`).
-/

namespace Admission

/-! ## Valid needs -/

/-- Nobody in a queue needs less than nothing. -/
def Ledger.Valid (ledger : Ledger) : Prop :=
  ∀ direction, ∀ requisition ∈ ledger.queue direction, requisition.needed.valid = true

namespace Ledger.Valid

variable {ledger : Ledger}

theorem nonneg (valid : ledger.Valid) {direction : Direction} {requisition : Requisition}
    (queued : requisition ∈ ledger.queue direction) (medium : Medium) :
    0 ≤ requisition.need medium :=
  (Space.valid_iff _).mp (valid direction requisition queued) medium

theorem remove (valid : ledger.Valid) (direction : Direction) (slot : SlotId) :
    (ledger.remove direction slot).Valid := by
  intro other requisition queued
  by_cases here : other = direction
  · subst here
    rw [queue_remove_self] at queued
    exact valid other requisition (List.mem_filter.mp queued).1
  · rw [queue_remove_of_ne ledger slot here] at queued
    exact valid other requisition queued

theorem granting (valid : ledger.Valid) (direction : Direction) (share : Share) :
    (ledger.granting direction share).Valid := by
  intro other requisition queued
  by_cases here : other = direction
  · subst here
    rw [queue_granting_self] at queued
    rcases mem_of_mem_grantAll queued with stood | ⟨before, stood, -, rfl⟩
    · exact valid other requisition stood
    · exact valid other before stood
  · rw [queue_granting_of_ne share here] at queued
    exact valid other requisition queued

end Ledger.Valid

theorem Chore.valid {before after : Books} (chore : Chore before after)
    (valid : before.ledger.Valid) : after.ledger.Valid := by
  cases chore with
  | remark note => exact valid
  | interrupt direction slot => exact valid
  | queue direction joins =>
      intro other requisition queued
      rcases Ledger.mem_queue_joined.mp queued with ⟨-, rfl⟩ | stood
      · exact joins.valid
      · exact valid other requisition stood
  | shred queued => exact valid.remove _ _
  | turnAway queued pending => exact valid.remove _ _
  | scan direction share => exact valid.granting direction share

theorem Chores.valid {before after : Books} (chores : Chores before after)
    (valid : before.ledger.Valid) : after.ledger.Valid := by
  induction chores with
  | refl => exact valid
  | tail earlier last induction => exact last.valid induction

/-- In any weather, nobody that is queued needs less than nothing. -/
theorem Weather.Reaches.valid {σ : Type} [Store σ] {weather : Weather σ} {store : σ}
    {slots : Nat} {later : Traffic σ}
    (reached : weather.Reaches (Traffic.start store slots) later) :
    later.controller.ledger.Valid := by
  induction reached with
  | refl => rintro (_ | _) requisition ⟨⟩
  | tail earlier last induction => exact last.chores.valid induction

/-! ## Priorities -/

/-- A higher priority never hurts.  In whatever state traffic is in any weather, and whatever the
store shows then, settled or not: a request that is granted at a low priority is granted at a
higher one, and a creation of a requester that does not wait which makes its object at a low
priority makes it at a higher one, unless an overflow stops the one at the higher priority. -/
theorem higher_priority_never_hurts {σ τ : Type} [Store σ] [Store τ] {store : σ} {slots : Nat}
    {later : Traffic σ} (reached : (Weather.any σ).Reaches (Traffic.start store slots) later)
    (shown : τ) (direction : Direction) {low high : Priority} (order : ¬ high < low) :
    (∀ needed attendant final,
      Action.request direction needed low attendant (later.controller.withStore shown) =
        .ok .granted final →
      (Action.request direction needed high attendant).Finishes
        (later.controller.withStore shown) →
      ∃ again,
        Action.request direction needed high attendant (later.controller.withStore shown) =
          .ok .granted again) ∧
    ∀ source id final,
      Action.create direction source low none id (later.controller.withStore shown) =
        .ok (.finished (.created id)) final →
      (Action.create direction source high none id).Finishes
        (later.controller.withStore shown) →
      ∃ again,
        Action.create direction source high none id (later.controller.withStore shown) =
          .ok (.finished (.created id)) again := by
  have wellFormed : (later.controller.withStore shown).ledger.WellFormed :=
    ((Tallied.start store slots).reaches reached).ledger
  have fresh : ∀ slot taken,
      (later.controller.withStore shown).ledger.pool.take = some (slot, taken) →
      slot ∉ ((later.controller.withStore shown).ledger.queue direction).map Requisition.slot :=
    fun _ _ took => wellFormed.ready.fresh took direction
  have nonneg : ∀ other ∈ (later.controller.withStore shown).ledger.queue direction,
      ∀ medium, 0 ≤ other.need medium := fun _ queued => reached.valid.nonneg queued
  exact ⟨fun _ _ _ granted finishes => Action.granted_higher fresh nonneg order granted finishes,
    fun _ _ _ created finishes => Action.created_higher fresh nonneg order created finishes⟩

/-- While someone waits in vain, ten bytes are granted behind that requester, and an object of ten
bytes is made; both are as well at a priority that puts them ahead. -/
theorem higher_priority_waitingInVain :
    ∃ waits ∈ Traffic.hundred.replay waitingInVain,
      waits.held = [⟨.outbound, .ofParts 1 1, some ⟨0⟩⟩] ∧
      (∃ final, Action.request .outbound (.ofFile 10) ⟨0, 0⟩ none
        (waits.controller.withStore (MemoryStore.ofFileLimit 100)) = .ok .granted final) ∧
      (∃ again, Action.request .outbound (.ofFile 10) ⟨2, 0⟩ none
        (waits.controller.withStore (MemoryStore.ofFileLimit 100)) = .ok .granted again) ∧
      ∃ again, Action.create .outbound ⟨some (.handle .file 1), 0, 10⟩ ⟨2, 0⟩ none (.ofNat 5)
        (waits.controller.withStore (MemoryStore.ofFileLimit 100)) =
          .ok (.finished (.created (.ofNat 5))) again := by
  obtain ⟨waits, found, held, ⟨final, granted⟩, ⟨asked, answer, answered⟩, ⟨made, created⟩,
      result, last, ended⟩ :
      ∃ waits, (Traffic.hundred.replay waitingInVain)[1]? = some waits ∧
        waits.held = [⟨.outbound, .ofParts 1 1, some ⟨0⟩⟩] ∧
        (∃ final, Action.request .outbound (.ofFile 10) ⟨0, 0⟩ none
          (waits.controller.withStore (MemoryStore.ofFileLimit 100)) = .ok .granted final) ∧
        (∃ answer final, Action.request .outbound (.ofFile 10) ⟨2, 0⟩ none
          (waits.controller.withStore (MemoryStore.ofFileLimit 100)) = .ok answer final) ∧
        (∃ final, Action.create .outbound ⟨some (.handle .file 1), 0, 10⟩ ⟨0, 0⟩ none (.ofNat 5)
          (waits.controller.withStore (MemoryStore.ofFileLimit 100)) =
            .ok (.finished (.created (.ofNat 5))) final) ∧
        ∃ result final,
          Action.create .outbound ⟨some (.handle .file 1), 0, 10⟩ ⟨2, 0⟩ none (.ofNat 5)
            (waits.controller.withStore (MemoryStore.ofFileLimit 100)) = .ok result final :=
    ⟨(Traffic.hundred.replay waitingInVain).getD 1 .hundred, rfl, rfl, ⟨_, rfl⟩, ⟨_, _, rfl⟩,
      ⟨_, rfl⟩, _, _, rfl⟩
  have inRun := List.mem_of_getElem? found
  have reached : (Weather.any MemoryStore).Reaches Traffic.hundred waits :=
    Run.inAny (Traffic.hundred.replay_run waitingInVain) waits (List.mem_cons_of_mem _ inRun)
  obtain ⟨requests, creations⟩ := higher_priority_never_hurts reached
    (MemoryStore.ofFileLimit 100) .outbound (by decide : ¬ (⟨2, 0⟩ : Priority) < ⟨0, 0⟩)
  refine ⟨waits, inRun, held, ⟨final, granted⟩, requests _ _ _ granted ?_,
    creations _ _ _ created ?_⟩
  · rintro kind stopped overflows
    cases answered.symm.trans overflows
  · rintro kind stopped overflows
    cases ended.symm.trans overflows

/-! ## Waiting -/

/-- Waiting obtains nothing that would be refused to a requester that does not wait.  In whatever
state traffic is in any weather, and whatever capacities a store shows then that occupies nothing
less than nothing: what is granted to a requester that waits is granted to one that does not, and
both leave the same queues with the same marks.  What is not serviceable for one that does not wait
stays pending for one that does, and both leave the same beside it. -/
theorem waiting_obtains_no_more {σ τ : Type} [Store σ] [Store τ] {store : σ} {slots : Nat}
    {later : Traffic σ} (reached : (Weather.any σ).Reaches (Traffic.start store slots) later)
    (shown : τ) (direction : Direction)
    (occupancies : ∀ medium occupancy, Store.occupancy shown direction medium = .ok occupancy →
      occupancy.valid = true)
    (needed : Space) (priority : Priority) (id : AttendantId) :
    (∀ final,
      Action.request direction needed priority (some id) (later.controller.withStore shown) =
        .ok .granted final →
      ∃ alone,
        Action.request direction needed priority none (later.controller.withStore shown) =
          .ok .granted alone ∧ alone.ledger = final.ledger) ∧
    ∀ final,
      Action.request direction needed priority none (later.controller.withStore shown) =
        .ok .notServiceable final →
      ∃ slot waiting,
        Action.request direction needed priority (some id) (later.controller.withStore shown) =
          .ok (.queued ⟨direction, slot, some id⟩) waiting ∧
        slot ∈ (waiting.ledger.queue direction).map Requisition.slot ∧
        waiting.ledger.isServiced direction slot = false ∧
        waiting.ledger.remove direction slot = final.ledger := by
  have wellFormed : (later.controller.withStore shown).ledger.WellFormed :=
    ((Tallied.start store slots).reaches reached).ledger
  have fresh : ∀ slot taken,
      (later.controller.withStore shown).ledger.pool.take = some (slot, taken) →
      slot ∉ ((later.controller.withStore shown).ledger.queue direction).map Requisition.slot :=
    fun _ _ took => wellFormed.ready.fresh took direction
  have nonneg : ∀ other ∈ (later.controller.withStore shown).ledger.queue direction,
      ∀ medium, 0 ≤ other.need medium := fun _ queued => reached.valid.nonneg queued
  have grounded : Budget.Grounded (later.controller.withStore shown).store direction :=
    Budget.Counted.grounded occupancies
  exact ⟨fun _ granted => Action.granted_unattended fresh nonneg grounded granted,
    fun _ refused => Action.pending_attended fresh nonneg grounded refused id⟩

/-- The capacity for outbound files is five bytes below zero. -/
def MemoryStore.overdrawn : MemoryStore :=
  { outboundLimits := .of .file ⟨-1, 999999995, by decide, by decide⟩ }

/-- While someone waits in vain, a requester that waits would be granted nothing at all even where
the capacity is below zero, and so is one that does not wait; ten bytes are not serviceable, and
stay pending for one that waits. -/
theorem waiting_waitingInVain :
    ∃ waits ∈ Traffic.hundred.replay waitingInVain,
      waits.held = [⟨.outbound, .ofParts 1 1, some ⟨0⟩⟩] ∧
      (∃ final alone, Action.request .outbound .zero ⟨2, 0⟩ (some ⟨1⟩)
          (waits.controller.withStore MemoryStore.overdrawn) = .ok .granted final ∧
        Action.request .outbound .zero ⟨2, 0⟩ none
          (waits.controller.withStore MemoryStore.overdrawn) = .ok .granted alone ∧
        alone.ledger = final.ledger) ∧
      ∃ slot waiting, Action.request .outbound (.ofFile 10) ⟨2, 0⟩ (some ⟨1⟩)
          (waits.controller.withStore MemoryStore.overdrawn) =
            .ok (.queued ⟨.outbound, slot, some ⟨1⟩⟩) waiting ∧
        waiting.ledger.isServiced .outbound slot = false := by
  obtain ⟨waits, found, held, ⟨final, granted⟩, last, refused⟩ :
      ∃ waits, (Traffic.hundred.replay waitingInVain)[1]? = some waits ∧
        waits.held = [⟨.outbound, .ofParts 1 1, some ⟨0⟩⟩] ∧
        (∃ final, Action.request .outbound .zero ⟨2, 0⟩ (some ⟨1⟩)
          (waits.controller.withStore MemoryStore.overdrawn) = .ok .granted final) ∧
        ∃ final, Action.request .outbound (.ofFile 10) ⟨2, 0⟩ none
          (waits.controller.withStore MemoryStore.overdrawn) = .ok .notServiceable final :=
    ⟨(Traffic.hundred.replay waitingInVain).getD 1 .hundred, rfl, rfl, ⟨_, rfl⟩, _, rfl⟩
  have inRun := List.mem_of_getElem? found
  have reached : (Weather.any MemoryStore).Reaches Traffic.hundred waits :=
    Run.inAny (Traffic.hundred.replay_run waitingInVain) waits (List.mem_cons_of_mem _ inRun)
  obtain ⟨alone, grantedAlone, same⟩ := (waiting_obtains_no_more reached MemoryStore.overdrawn
    .outbound (MemoryStore.counted _ _) .zero ⟨2, 0⟩ ⟨1⟩).1 final granted
  obtain ⟨slot, waiting, queued, -, pending, -⟩ := (waiting_obtains_no_more reached
    MemoryStore.overdrawn .outbound (MemoryStore.counted _ _) (.ofFile 10) ⟨2, 0⟩ ⟨1⟩).2 last
      refused
  exact ⟨waits, inRun, held, ⟨final, alone, granted, grantedAlone, same⟩, slot, waiting, queued,
    pending⟩

end Admission
