import Admission.Proofs.Controller.Light
import Admission.Proofs.Store.Finishing
import Admission.Proofs.Traffic.Redeemed
import Admission.Proofs.Traffic.Tallied

/-!
# Moderate traffic

No state of a run has anything in it that is too large to reckon with.  A requester that waits is
granted no more than half of a capacity, however many are granted as much, and an object has no more
bytes than a word can count, since it is cut out of another one or counted by a word itself.
`Moderate.step` says that each step of orderly traffic keeps this.

As soon as all who hold a ticket are willing to wait, every queue is light (`Moderate.light`).
-/

namespace Admission

section Moderate

variable {σ : Type} [Store σ] [Accounted σ] {limits : Direction → Medium → Int}
  {before between after traffic : Traffic σ} {see : Glimpses σ}

/-- What was granted to requesters that wait, and what is stored, is not too large. -/
structure Moderate (limits : Direction → Medium → Int) (traffic : Traffic σ) : Prop where
  halved : ∀ direction, ∀ requisition ∈ traffic.queue direction,
    requisition.serviced = true → requisition.blocking = true →
      ∀ medium, requisition.need medium ≤ max 0 (limits direction medium / 2)
  countable : Countable traffic.objects

/-! ## Asides -/

/-- An aside adds an object only that can be counted. -/
theorem Orderly.countable_aside (orderly : Orderly limits before) (aside : Aside before after)
    (countable : Countable before.objects) : Countable after.objects := by
  have added : ∀ {id : ObjectId} {object : NewObject} {extents : List Extent}
      {objects : List StoredObject}, object.source.resolve before.objects = some extents →
      objects = before.objects ++ [⟨id, object.direction, extents, object.provisional⟩] →
      Countable objects := by
    rintro id object extents _ resolved rfl other member
    rcases List.mem_append.mp member with old | new
    · exact countable other old
    · rw [List.mem_singleton.mp new]
      exact Source.bytes_resolve_lt countable resolved
  have kept : ∀ {objects others : List StoredObject}, objects = others →
      (∀ object ∈ others, object ∈ before.objects) → Countable objects := by
    rintro objects _ rfl old object member
    exact countable object (old object member)
  cases aside with
  | attend | size | clear | interrupt | abandon => exact countable
  | @createEmpty direction source attendant id controller isEmpty fresh done =>
      obtain ⟨objects, -⟩ := orderly.create_empty isEmpty fresh done
      have nothing : source.resolve before.objects = some [] := by rw [Source.resolve, isEmpty]
      exact added nothing objects
  | store isCleared fresh done =>
      obtain ⟨-, extents, -, -, -, resolved, objects, -⟩ :=
        orderly.create_cleared isCleared fresh done
      exact added resolved objects
  | createRefused done | storeRefused _ done =>
      have same := congrArg Accounted.objects (orderly.create_refused done).1
      exact kept same fun _ member => member
  | remove done =>
      obtain ⟨result, rfl⟩ := Action.tryChange_eq_ok done
      obtain ⟨object, -, -, -, objects, -⟩ := Accounted.destroy_ok orderly.sound result
      exact kept objects fun _ member => (List.mem_filter.mp member).1
  | removeRefused done =>
      obtain ⟨result, rfl⟩ := Action.tryChange_eq_ok done
      have same := congrArg Accounted.objects (Accounted.destroy_refused orderly.sound result)
      exact kept same fun _ member => member

/-! ## Turns -/

/-- Requesters that wait are offered no more than half of a capacity. -/
theorem Glimpsed.halved (glimpsed : Glimpsed before between see) (orderly : Orderly limits before)
    {direction : Direction} {share : Share} (offers : Budget.Offers see direction share)
    (medium : Medium) : share true medium ≤ max 0 (limits direction medium / 2) := by
  obtain ⟨occupancy, rfl, moments⟩ := glimpsed.share_eq orderly offers
  obtain ⟨moment, -, -, isMoment⟩ := moments medium
  have nonneg := moment.occupancy_nonneg direction medium
  rw [Share.of_apply, if_pos rfl, isMoment]
  omega

/-- What a turn grants to a requester that waits is no more than half of a capacity. -/
theorem TurnEffect.halved {direction other : Direction} {came : Option Requisition}
    {gone : Option Ticket} (effect : TurnEffect before between see direction came gone after)
    (orderly : Orderly limits between) (moderate : Moderate limits between)
    (offered : ∀ share, Budget.Offers see direction share →
      ∀ medium, share true medium ≤ max 0 (limits direction medium / 2))
    {requisition : Requisition} (queued : requisition ∈ after.queue other)
    (serviced : requisition.serviced = true) (waits : requisition.blocking = true)
    (medium : Medium) : requisition.need medium ≤ max 0 (limits other medium / 2) := by
  by_cases here : other = direction
  · subst here
    rcases effect.handled.part orderly.ledger with part | ⟨share, passed, offers, part, origin⟩
    · exact moderate.halved other requisition (part.mem queued) serviced waits medium
    · have valid : ∀ found ∈ passed, ∀ medium, 0 ≤ found.need medium := by
        intro found member
        rcases origin found member with old | ⟨-, isValid, -⟩
        · exact orderly.valid other found old
        · exact (Space.valid_iff _).mp isValid
      rcases fits_of_mem_grantAll valid (part.mem queued) with
        stood | ⟨found, stood, -, rfl, fits⟩
      · rcases origin requisition stood with old | ⟨pending, -⟩
        · exact moderate.halved other requisition old serviced waits medium
        · simp [pending] at serviced
      · have own := (found.fits_iff share).mp fits medium
        have isBlocking : found.blocking = true := waits
        have most := offered share offers medium
        rw [isBlocking] at own
        rw [Requisition.granted_need]
        omega
  · have same : after.queue other = between.queue other := effect.handled.queue_of_ne here
    rw [same] at queued
    exact moderate.halved other requisition queued serviced waits medium

/-! ## Runs -/

namespace Moderate

theorem aside (moderate : Moderate limits before) (orderly : Orderly limits before)
    (aside : Aside before after) : Moderate limits after where
  halved := by
    unfold Traffic.queue
    rw [aside.ledger]
    exact moderate.halved
  countable := orderly.countable_aside aside moderate.countable

theorem asides (moderate : Moderate limits before) (orderly : Orderly limits before)
    (asides : Asides before after) : Moderate limits after := by
  induction asides with
  | refl => exact moderate
  | tail earlier last induction => exact induction.aside (orderly.asides earlier) last

/-- A step leaves orderly traffic moderate. -/
theorem step (moderate : Moderate limits before) (orderly : Orderly limits before)
    (step : Step before after) : Moderate limits after := by
  cases step with
  | aside aside => exact moderate.aside orderly aside
  | turn glimpsed turn =>
      obtain ⟨direction, came, gone, effect⟩ := turn.effect
      have meanwhile := moderate.asides orderly glimpsed.meanwhile
      exact {
        halved := fun _ _ queued serviced waits => effect.halved
          (orderly.asides glimpsed.meanwhile) meanwhile
          (fun _ offers => glimpsed.halved orderly offers) queued serviced waits
        countable := by
          rw [effect.objects]
          exact meanwhile.countable }

/-- A store of objects that can be counted and a controller that nobody has used are moderate. -/
theorem stocked {store : σ} (countable : Countable (Accounted.objects store)) (slots : Nat) :
    Moderate limits (Traffic.stocked store slots) where
  halved := by rintro (_ | _) requisition ⟨⟩
  countable := countable

/-- A queue is light if nobody in it has a ticket without being willing to wait. -/
theorem light (moderate : Moderate limits traffic) (orderly : Orderly limits traffic)
    {slots : Nat} (tallied : Tallied slots traffic)
    (small : ∀ direction medium, limits direction medium < 2147483648000000000)
    (attended : ∀ ticket ∈ traffic.held, ticket.attendant ≠ none) (direction : Direction) :
    traffic.controller.ledger.Light direction where
  few := (orderly.ledger.length_queue_lt direction).trans (by decide)
  nonneg := orderly.valid direction
  small := by
    intro requisition queued serviced medium
    have listed : requisition.ticket direction ∈ traffic.controller.ledger.ticketsOf direction :=
      List.mem_map_of_mem queued
    have held := tallied.tickets.mem_iff.mpr (Ledger.mem_tickets_iff.mpr listed)
    have waits : requisition.blocking = true :=
      Option.isSome_iff_ne_none.mpr (attended _ held)
    have most := moderate.halved direction requisition queued serviced waits medium
    have bound := small direction medium
    omega

end Moderate

end Moderate

end Admission
