import Admission.Proofs.Traffic.Basic
import Mathlib.Data.List.Pairwise

/-!
# What a turn does

`TurnEffect` says in one form what any turn does: it handles the queue of one direction, hands
out a ticket for what has come to stay, takes back the ticket of what was to go, and changes
nothing else of the traffic.  `Turn.effect` shows that every turn is of this form, so that
invariants are proved of the form and not turn by turn.  An aside leaves the ledger and the
tickets alone (`Aside.ledger`, `Aside.held`).
-/

namespace Admission

namespace Traffic

variable {σ : Type} {traffic : Traffic σ} {call : Call} {next : Option Call}

/-! ## Calls that become others -/

theorem mem_become {other : Call} (member : other ∈ (traffic.become call next).calls) :
    next = some other ∨ other ∈ traffic.calls := by
  rcases List.mem_append.mp member with isNext | old
  · exact Or.inl (Option.mem_toList.mp isNext)
  · exact Or.inr (List.mem_of_mem_erase old)

theorem mem_become_of_ne {other : Call} (member : other ∈ traffic.calls)
    (different : other ≠ call) : other ∈ (traffic.become call next).calls :=
  List.mem_append_right _ ((List.mem_erase_of_ne different).mpr member)

theorem mem_become_next {other : Call} (isNext : next = some other) :
    other ∈ (traffic.become call next).calls := by
  refine List.mem_append_left _ ?_
  rw [isNext]
  exact List.mem_singleton_self other

/-- A call that becomes another one gives its ticket away and takes the one of the other. -/
theorem held_become {traffic : Traffic σ} (present : call ∈ traffic.calls)
    (next : Option Call) :
    (call.ticket?.toList ++ (traffic.become call next).held).Perm
      ((next.bind Call.ticket?).toList ++ traffic.held) := by
  have moved : (call :: (traffic.become call next).calls).Perm (next.toList ++ traffic.calls) :=
    List.perm_middle.symm.trans ((List.perm_cons_erase present).symm.append_left _)
  have front : (call.ticket?.toList ++
      (traffic.become call next).calls.filterMap Call.ticket?).Perm
      ((next.bind Call.ticket?).toList ++ traffic.calls.filterMap Call.ticket?) := by
    have listed := moved.filterMap Call.ticket?
    rw [List.filterMap_append] at listed
    have heads : ∀ (first : Call) (rest : List Call),
        (first :: rest).filterMap Call.ticket? =
          first.ticket?.toList ++ rest.filterMap Call.ticket? := by
      intro first rest
      cases first <;> rfl
    rw [heads] at listed
    cases next with
    | none => exact listed
    | some other =>
        rw [Option.toList_some, heads, List.filterMap_nil, List.append_nil] at listed
        exact listed
  unfold held
  refine (List.perm_append_comm_assoc _ _ _).trans ?_
  refine (front.append_left _).trans ?_
  exact List.perm_append_comm_assoc _ _ _

/-- A call that goes on with the same ticket keeps it. -/
theorem held_become_same {following : Call} (present : call ∈ traffic.calls)
    (same : following.ticket? = call.ticket?) :
    (traffic.become call (some following)).held.Perm traffic.held := by
  have moved := held_become present (some following)
  rw [Option.bind_some, same] at moved
  exact (List.perm_append_left_iff _).mp moved

theorem mem_held_of_call {ticket : Ticket} (present : call ∈ traffic.calls)
    (holds : call.ticket? = some ticket) : ticket ∈ traffic.held :=
  List.mem_append_right _ (List.mem_filterMap.mpr ⟨call, present, holds⟩)

/-- Two calls never hold tickets of the same slot, if no two tickets are of one slot. -/
theorem call_unique (distinct : (traffic.held.map Ticket.slot).Nodup) {other : Call}
    {ticket another : Ticket} (present : call ∈ traffic.calls)
    (otherPresent : other ∈ traffic.calls) (holds : call.ticket? = some ticket)
    (otherHolds : other.ticket? = some another) (same : ticket.slot = another.slot) :
    call = other := by
  rw [held, List.map_append, List.nodup_append] at distinct
  have calls := distinct.2.1
  rw [List.map_filterMap, List.Nodup, List.pairwise_filterMap] at calls
  by_contra different
  have symmetric : Std.Symm fun first second : Call =>
      ∀ slot, first.ticket?.map Ticket.slot = some slot →
        ∀ slot', second.ticket?.map Ticket.slot = some slot' → slot ≠ slot' :=
    ⟨fun first second apart slot isSlot slot' isSlot' =>
      (apart slot' isSlot' slot isSlot).symm⟩
  exact calls.forall present otherPresent different ticket.slot
    (by rw [holds, Option.map_some]) another.slot (by rw [otherHolds, Option.map_some]) same

theorem mem_storedSlots {direction : Direction} {slot : SlotId} :
    slot ∈ traffic.storedSlots direction ↔
      ∃ creation id, .stored creation id ∈ traffic.calls ∧
        creation.ticket.direction = direction ∧ creation.ticket.slot = slot := by
  simp only [storedSlots, List.mem_map, List.mem_filter, List.mem_filterMap, decide_eq_true_eq]
  constructor
  · rintro ⟨ticket, ⟨⟨found, present, isStored⟩, same⟩, rfl⟩
    cases found with
    | stored creation id =>
        cases isStored
        exact ⟨creation, id, present, same, rfl⟩
    | _ => cases isStored
  · rintro ⟨creation, id, present, rfl, rfl⟩
    exact ⟨creation.ticket, ⟨⟨_, present, rfl⟩, rfl⟩, rfl⟩

/-- Whose object is stored stays the same but for the slot of the call that became another. -/
theorem mem_storedSlots_become {slot : SlotId}
    (apart : ∀ ticket, call.storedTicket? = some ticket → ticket.slot ≠ slot)
    (nothing : next.bind Call.storedTicket? = none) (direction : Direction) :
    slot ∈ (traffic.become call next).storedSlots direction ↔
      slot ∈ traffic.storedSlots direction := by
  simp only [mem_storedSlots]
  constructor
  · rintro ⟨creation, id, member, rest⟩
    rcases mem_become member with rfl | old
    · cases nothing
    · exact ⟨creation, id, old, rest⟩
  · rintro ⟨creation, id, member, rest⟩
    refine ⟨creation, id, mem_become_of_ne member ?_, rest⟩
    rintro rfl
    exact apart creation.ticket rfl rest.2

end Traffic

/-! ## What asides leave alone -/

theorem Aside.ledger {σ : Type} [Store σ] {before after : Traffic σ}
    (aside : Aside before after) : after.controller.ledger = before.controller.ledger := by
  cases aside with
  | createEmpty isEmpty fresh done =>
      obtain ⟨-, rfl⟩ := Action.tryChange_eq_ok done
      rfl
  | createRefused done =>
      obtain ⟨-, rfl⟩ := Action.tryChange_eq_ok done
      rfl
  | store isCleared fresh done =>
      obtain ⟨-, rfl⟩ := Action.tryChange_eq_ok done
      rfl
  | storeRefused isCleared done =>
      obtain ⟨-, rfl⟩ := Action.tryChange_eq_ok done
      rfl
  | remove done =>
      obtain ⟨-, rfl⟩ := Action.tryChange_eq_ok done
      rfl
  | removeRefused done =>
      obtain ⟨-, rfl⟩ := Action.tryChange_eq_ok done
      rfl
  | _ => rfl

/-- An aside hands out no ticket and takes none back. -/
theorem Aside.held {σ : Type} [Store σ] {before after : Traffic σ}
    (aside : Aside before after) : after.held.Perm before.held := by
  cases aside with
  | clear waits isServiced => exact Traffic.held_become_same waits rfl
  | interrupt waits ended => exact Traffic.held_become_same waits rfl
  | abandon waits => exact Traffic.held_become_same waits rfl
  | store isCleared fresh done => exact Traffic.held_become_same isCleared rfl
  | storeRefused isCleared done => exact Traffic.held_become_same isCleared rfl
  | _ => exact List.Perm.refl _

theorem Asides.held {σ : Type} [Store σ] {before after : Traffic σ}
    (asides : Asides before after) : after.held.Perm before.held := by
  induction asides with
  | refl => exact List.Perm.refl _
  | tail earlier last induction => exact last.held.trans induction

theorem Asides.ledger {σ : Type} [Store σ] {before after : Traffic σ}
    (asides : Asides before after) :
    after.controller.ledger = before.controller.ledger := by
  induction asides with
  | refl => rfl
  | tail earlier last induction => exact last.ledger.trans induction

theorem Asides.queue {σ : Type} [Store σ] {before after : Traffic σ}
    (asides : Asides before after) (direction : Direction) :
    after.queue direction = before.queue direction := by
  rw [Traffic.queue, asides.ledger, Traffic.queue]

/-! ## The effect of a turn -/

/-- What a turn does that handles the queue of a direction, with the requisition that has come
to stay and the ticket of the one that was to go. -/
structure TurnEffect {σ : Type} [Store σ] (before between : Traffic σ) (see : Glimpses σ)
    (direction : Direction) (came : Option Requisition) (gone : Option Ticket)
    (after : Traffic σ) : Prop where
  handled : Handled (Budget.Offers see direction) (Unanswered see direction) direction
    between.controller.ledger came (gone.map Ticket.slot) after.controller.ledger
  ofDirection : ∀ ticket, gone = some ticket → ticket.direction = direction
  store : after.controller.store = between.controller.store
  named : after.named = between.named
  held : (gone.toList ++ after.held).Perm
    ((came.map (Requisition.ticket · direction)).toList ++ between.held)
  /-- A call is new only if it waits for what has come, and then it had sized its extent. -/
  calls : ∀ call ∈ after.calls, call ∈ between.calls ∨
    ∃ object priority requisition, came = some requisition ∧ object.direction = direction ∧
      .sized object priority requisition.attendant requisition.needed ∈ between.calls ∧
      call = .waiting ⟨requisition.ticket direction, object⟩
  stored : ∀ slot, gone.map Ticket.slot ≠ some slot → ∀ other,
    (slot ∈ after.storedSlots other ↔ slot ∈ between.storedSlots other)
  /-- Who drops a ticket was about to when the turn began: its object was stored then, or it is
  without one. -/
  early : ∀ ticket, gone = some ticket →
    (∃ creation id, .stored creation id ∈ before.calls ∧ creation.ticket = ticket) ∨
      ticket ∈ before.tickets ∧ ticket ∈ between.tickets ∨
      ∃ creation, .leaving creation ∈ before.calls ∧ .leaving creation ∈ between.calls ∧
        creation.ticket = ticket

namespace TurnEffect

variable {σ : Type} [Store σ] {before between : Traffic σ} {see : Glimpses σ}
  {direction : Direction} {controller : Controller σ}

/-- A turn that hands out no ticket and takes none back. -/
theorem ofScan (controller : Controller σ) (removals : List Removal)
    (handled : Handled (Budget.Offers see direction) (Unanswered see direction)
      direction between.controller.ledger none none controller.ledger)
    (store : controller.store = between.controller.store) :
    TurnEffect before between see direction none none
      { between.acted controller with removals := removals } where
  handled := handled
  ofDirection := by rintro ticket ⟨⟩
  store := store
  named := rfl
  held := List.Perm.refl _
  calls := fun call member => Or.inl member
  stored := fun _ _ _ => Iff.rfl
  early := by rintro ticket ⟨⟩

/-- A turn with which a call ends and gives back its ticket. -/
theorem ofEnd {call : Call} {ticket : Ticket} (present : call ∈ between.calls)
    (holds : call.ticket? = some ticket)
    (handled : Handled (Budget.Offers see ticket.direction) (Unanswered see ticket.direction)
      ticket.direction between.controller.ledger none (some ticket.slot) controller.ledger)
    (store : controller.store = between.controller.store)
    (early : (∃ creation id, .stored creation id ∈ before.calls ∧ creation.ticket = ticket) ∨
      ∃ creation, .leaving creation ∈ before.calls ∧ .leaving creation ∈ between.calls ∧
        creation.ticket = ticket) :
    TurnEffect before between see ticket.direction none (some ticket)
      ((between.acted controller).become call none) where
  handled := handled
  ofDirection := by rintro _ ⟨⟩; rfl
  store := store
  named := rfl
  held := by
    have there : call ∈ (between.acted controller).calls := present
    have moved := Traffic.held_become there none
    rw [holds] at moved
    exact moved
  calls := by
    intro other member
    rcases Traffic.mem_become member with impossible | old
    · cases impossible
    · exact Or.inl old
  stored := by
    intro slot stays other
    refine Traffic.mem_storedSlots_become ?_ rfl other
    rintro storedTicket isStored rfl
    cases call with
    | stored creation id =>
        cases isStored
        cases holds
        exact stays rfl
    | _ => cases isStored
  early := by
    rintro _ ⟨⟩
    exact early.imp_right Or.inr

end TurnEffect

namespace Turn

variable {σ : Type} [Store σ] {before between after : Traffic σ} {see : Glimpses σ}

theorem effect (turn : Turn before between see after) :
    ∃ direction came gone, TurnEffect before between see direction came gone after := by
  cases turn with
  | @request direction needed priority attendant answer final spare ended =>
      obtain ⟨came, handled, handsOut, -⟩ :=
        (Action.submission_of_attempt ended).handled spare
      refine ⟨direction, came, none, ?_⟩
      constructor
      case handled => exact handled
      case ofDirection => rintro ticket ⟨⟩
      case store => rfl
      case named => rfl
      case held =>
        rw [← handsOut]
        exact List.Perm.of_eq (List.append_assoc _ _ _)
      case calls => exact fun call member => Or.inl member
      case stored => exact fun _ _ _ => Iff.rfl
      case early => rintro ticket ⟨⟩
  | @submit object priority attendant needed answer final wasSized isSized spare ended =>
      obtain ⟨came, handled, handsOut, origin⟩ :=
        (Action.submission_of_attempt ended).handled spare
      refine ⟨object.direction, came, none, ?_⟩
      constructor
      case handled => exact handled
      case ofDirection => rintro ticket ⟨⟩
      case store => rfl
      case named => rfl
      case held =>
        have there : .sized object priority attendant needed ∈
            (between.acted (final.withStore between.controller.store)).calls := isSized
        have moved := Traffic.held_become there
          ((Answer.ticket? answer).map fun ticket => .waiting ⟨ticket, object⟩)
        have handed : ((Answer.ticket? answer).map fun ticket =>
            Call.waiting ⟨ticket, object⟩).bind Call.ticket? =
              came.map (Requisition.ticket · object.direction) := by
          rw [← handsOut]
          cases Answer.ticket? answer <;> rfl
        rw [handed] at moved
        exact moved
      case calls =>
        intro call member
        rcases Traffic.mem_become member with isNext | old
        · rw [handsOut, Option.map_map] at isNext
          obtain ⟨requisition, isCame, rfl⟩ := Option.map_eq_some_iff.mp isNext
          obtain ⟨rfl, rfl⟩ := origin requisition isCame
          exact Or.inr ⟨object, priority, requisition, isCame, rfl, isSized, rfl⟩
        · exact Or.inl old
      case stored =>
        intro slot _ other
        refine Traffic.mem_storedSlots_become ?_ ?_ other
        · rintro ticket ⟨⟩
        · cases Answer.ticket? answer <;> rfl
      case early => rintro ticket ⟨⟩
  | @drop ticket outcome final wasHeld isHeld ended =>
      refine ⟨ticket.direction, none, some ticket, ?_⟩
      constructor
      case handled => exact (Action.release_of_attempt ended).handled
      case ofDirection => rintro _ ⟨⟩; rfl
      case store => rfl
      case named => rfl
      case held =>
        have erased := (List.perm_cons_erase isHeld).symm.append_right
          (between.calls.filterMap Call.ticket?)
        exact erased
      case calls => exact fun call member => Or.inl member
      case stored => exact fun _ _ _ => Iff.rfl
      case early => rintro _ ⟨⟩; exact Or.inr (Or.inl ⟨wasHeld, isHeld⟩)
  | @finish creation id outcome final wasStored isStored ended =>
      exact ⟨_, _, _, .ofEnd isStored rfl (Action.release_of_attempt ended).handled rfl
        (Or.inl ⟨creation, id, wasStored, rfl⟩)⟩
  | @leave creation outcome final wasLeaving isLeaving ended =>
      exact ⟨_, _, _, .ofEnd isLeaving rfl (Action.release_of_attempt ended).handled rfl
        (Or.inr ⟨creation, wasLeaving, isLeaving, rfl⟩)⟩
  | @scan direction outcome final ended =>
      exact ⟨_, _, _, .ofScan (final.withStore _) between.removals
        (Action.handled_of_scan ended) rfl⟩
  | @rescan removal outcome final remarks wasRemoved isRemoved ended =>
      exact ⟨_, _, _, .ofScan ((final.record _).withStore _) _
        (Action.handled_of_scan ended) rfl⟩

end Turn

end Admission
