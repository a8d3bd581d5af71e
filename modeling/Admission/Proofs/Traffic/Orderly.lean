import Admission.Proofs.Store.Accounted
import Admission.Proofs.Traffic.Turns

/-!
# Orderly traffic

What every state of a run has in common, whatever the order of its steps.  The store is sound
and only knows identifiers that were given out; the ledger is well formed; every ticket is that
of one queued requisition, and no two tickets of the same; and a creation under way has a
requisition for exactly what its extent takes, serviced from the moment at which it was found to
be.

`Orderly.step` is the main lemma, `Orderly.run` its consequence for runs.
-/

namespace Admission

/-! ## What a creation has -/

/-- A space is exactly what an extent takes for as long as it can be found.  An object that it
slices has been there, so that no other object will ever have its identifier. -/
structure Measured (objects : List StoredObject) (named : List ObjectId) (source : Source)
    (needed : Space) : Prop where
  exact : ∀ extents, source.resolve objects = some extents →
    ∀ medium, (needed.get medium).value = Extent.amount extents medium
  named : ∀ id, source.slicedFrom? = some id → id ∈ named

namespace Measured

variable {objects : List StoredObject} {named : List ObjectId} {source : Source}
  {needed : Space}

theorem concat (measured : Measured objects named source needed) {added : StoredObject}
    (fresh : added.id ∉ named) :
    Measured (objects ++ [added]) (added.id :: named) source needed where
  exact := by
    intro extents found
    rw [Source.resolve_concat fun slices => fresh (measured.named _ slices)] at found
    exact measured.exact extents found
  named := fun id slices => List.mem_cons_of_mem _ (measured.named id slices)

theorem filter (measured : Measured objects named source needed) (removed : ObjectId) :
    Measured (objects.filter fun object => object.id ≠ removed) named source needed where
  exact := fun extents found => measured.exact extents (Source.resolve_filter found)
  named := measured.named

end Measured

/-- The requisition of a creation is queued, for what its extent takes. -/
structure Backing (objects : List StoredObject) (named : List ObjectId) (ledger : Ledger)
    (creation : PendingCreation) (requisition : Requisition) : Prop where
  direction : creation.object.direction = creation.ticket.direction
  queued : requisition ∈ ledger.queue creation.ticket.direction
  slot : requisition.slot = creation.ticket.slot
  measured : Measured objects named creation.object.source requisition.needed

/-- What a creation has, as far as it has come. -/
def Call.Backed (objects : List StoredObject) (named : List ObjectId) (ledger : Ledger) :
    Call → Prop
  | sized object _ _ needed => Measured objects named object.source needed
  | waiting creation => ∃ requisition, Backing objects named ledger creation requisition
  | cleared creation | stored creation _ =>
      ∃ requisition, Backing objects named ledger creation requisition ∧
        requisition.serviced = true
  | leaving _ => True

/-- A creation keeps what it has if spaces stay measured and its requisition stays queued. -/
theorem Call.Backed.mono {objects others : List StoredObject} {named names : List ObjectId}
    {ledger after : Ledger} {call : Call} (backed : call.Backed objects named ledger)
    (measures : ∀ source needed, Measured objects named source needed →
      Measured others names source needed)
    (keeps : ∀ ticket, call.ticket? = some ticket →
      ∀ requisition ∈ ledger.queue ticket.direction, requisition.slot = ticket.slot →
        requisition ∈ after.queue ticket.direction ∨
          requisition.granted ∈ after.queue ticket.direction) :
    call.Backed others names after := by
  have requisition : ∀ {creation : PendingCreation} {requisition : Requisition},
      call.ticket? = some creation.ticket →
      Backing objects named ledger creation requisition →
      ∃ later, Backing others names after creation later ∧
        (requisition.serviced = true → later.serviced = true) := by
    intro creation requisition holds backing
    rcases keeps creation.ticket holds requisition backing.queued backing.slot with same | granted
    · exact ⟨requisition, ⟨backing.direction, same, backing.slot, measures _ _ backing.measured⟩,
        id⟩
    · exact ⟨requisition.granted,
        ⟨backing.direction, granted, backing.slot, measures _ _ backing.measured⟩,
        fun _ => rfl⟩
  cases call with
  | sized object priority attendant needed => exact measures _ _ backed
  | waiting creation =>
      obtain ⟨found, backing⟩ := backed
      obtain ⟨later, backed, -⟩ := requisition rfl backing
      exact ⟨later, backed⟩
  | cleared creation =>
      obtain ⟨found, backing, serviced⟩ := backed
      obtain ⟨later, backed, stays⟩ := requisition rfl backing
      exact ⟨later, backed, stays serviced⟩
  | stored creation id =>
      obtain ⟨found, backing, serviced⟩ := backed
      obtain ⟨later, backed, stays⟩ := requisition rfl backing
      exact ⟨later, backed, stays serviced⟩
  | leaving creation => trivial

/-! ## The invariant -/

section Orderly

variable {σ : Type} [Store σ] [Accounted σ]

/-- The objects that are stored. -/
def Traffic.objects (traffic : Traffic σ) : List StoredObject :=
  Accounted.objects traffic.controller.store

/-- Traffic at a controller whose capacities are `limits`. -/
structure Orderly (limits : Direction → Medium → Int) (traffic : Traffic σ) : Prop where
  sound : Accounted.Sound traffic.controller.store
  fixed : Accounted.limit traffic.controller.store = limits
  named : ∀ object ∈ traffic.objects, object.id ∈ traffic.named
  unique : (traffic.objects.map StoredObject.id).Nodup
  ledger : traffic.controller.ledger.WellFormed
  /-- No two tickets are of the same requisition. -/
  distinct : (traffic.held.map Ticket.slot).Nodup
  /-- Every ticket is of a requisition in the queue of its direction. -/
  queued : ∀ ticket ∈ traffic.held,
    ticket.slot ∈ (traffic.queue ticket.direction).map Requisition.slot
  valid : ∀ direction, ∀ requisition ∈ traffic.queue direction,
    ∀ medium, 0 ≤ requisition.need medium
  /-- Nothing is granted that exceeds a capacity by itself. -/
  bounded : ∀ direction, ∀ requisition ∈ traffic.queue direction,
    requisition.serviced = true →
      ∀ medium, requisition.need medium ≤ max 0 (limits direction medium)
  backed : ∀ call ∈ traffic.calls,
    call.Backed traffic.objects traffic.named traffic.controller.ledger

variable {limits : Direction → Medium → Int} {before between after traffic : Traffic σ}

/-- A store without objects and a controller that nobody has used are in order. -/
theorem Orderly.start {store : σ} (sound : Accounted.Sound store)
    (empty : Accounted.objects store = []) (slots : Nat) :
    Orderly (Accounted.limit store) (Traffic.start store slots) where
  sound := sound
  fixed := rfl
  named := by
    intro object member
    have noObjects : (Traffic.start store slots).objects = [] := empty
    rw [noObjects] at member
    cases member
  unique := by
    have noObjects : (Traffic.start store slots).objects = [] := empty
    rw [noObjects]
    exact List.nodup_nil
  ledger := Ledger.wellFormed_ofLimit slots
  distinct := List.nodup_nil
  queued := by rintro ticket ⟨⟩
  valid := by rintro (_ | _) requisition ⟨⟩
  bounded := by rintro (_ | _) requisition ⟨⟩
  backed := by rintro call ⟨⟩

namespace Orderly

/-! ## Parts of a step -/

/-- The store and the names change, and spaces stay measured. -/
theorem restock (orderly : Orderly limits traffic) {controller : Controller σ}
    {names : List ObjectId} (ledger : controller.ledger = traffic.controller.ledger)
    (sound : Accounted.Sound controller.store)
    (fixed : Accounted.limit controller.store = limits)
    (named : ∀ object ∈ Accounted.objects controller.store, object.id ∈ names)
    (unique : ((Accounted.objects controller.store).map StoredObject.id).Nodup)
    (measures : ∀ source needed, Measured traffic.objects traffic.named source needed →
      Measured (Accounted.objects controller.store) names source needed) :
    Orderly limits { traffic.acted controller with named := names } where
  sound := sound
  fixed := fixed
  named := named
  unique := unique
  ledger := ledger ▸ orderly.ledger
  distinct := orderly.distinct
  queued := by
    simp only [Traffic.queue, Traffic.acted, ledger]
    exact orderly.queued
  valid := by
    simp only [Traffic.queue, Traffic.acted, ledger]
    exact orderly.valid
  bounded := by
    simp only [Traffic.queue, Traffic.acted, ledger]
    exact orderly.bounded
  backed := by
    intro call member
    refine (orderly.backed call member).mono measures fun ticket _ requisition queued _ => ?_
    simp only [Traffic.acted, ledger]
    exact Or.inl queued

/-- Neither the store nor the ledger changes. -/
theorem aside_acted (orderly : Orderly limits traffic) {controller : Controller σ}
    (store : controller.store = traffic.controller.store)
    (ledger : controller.ledger = traffic.controller.ledger) :
    Orderly limits (traffic.acted controller) := by
  refine orderly.restock ledger ?_ ?_ ?_ ?_ ?_
  · rw [store]
    exact orderly.sound
  · rw [store]
    exact orderly.fixed
  · rw [store]
    exact orderly.named
  · rw [store]
    exact orderly.unique
  · rw [store]
    exact fun source needed measured => measured

/-- A call goes on with the same ticket. -/
theorem become (orderly : Orderly limits traffic) {call next : Call}
    (present : call ∈ traffic.calls) (same : next.ticket? = call.ticket?)
    (backed : next.Backed traffic.objects traffic.named traffic.controller.ledger) :
    Orderly limits (traffic.become call (some next)) := by
  have held := Traffic.held_become_same present same
  exact {
    sound := orderly.sound
    fixed := orderly.fixed
    named := orderly.named
    unique := orderly.unique
    ledger := orderly.ledger
    distinct := (held.map Ticket.slot).nodup_iff.mpr orderly.distinct
    queued := fun ticket member => orderly.queued ticket (held.mem_iff.mp member)
    valid := orderly.valid
    bounded := orderly.bounded
    backed := by
      intro other member
      rcases Traffic.mem_become member with isNext | old
      · cases isNext
        exact backed
      · exact orderly.backed other old }

/-- A creation knows what space it needs. -/
theorem enter (orderly : Orderly limits traffic) {object : NewObject} {priority : Priority}
    {attendant : Option AttendantId} {needed : Space}
    (measured : Measured traffic.objects traffic.named object.source needed) :
    Orderly limits { traffic with
      calls := .sized object priority attendant needed :: traffic.calls } where
  sound := orderly.sound
  fixed := orderly.fixed
  named := orderly.named
  unique := orderly.unique
  ledger := orderly.ledger
  distinct := orderly.distinct
  queued := orderly.queued
  valid := orderly.valid
  bounded := orderly.bounded
  backed := by
    intro call member
    rcases List.mem_cons.mp member with rfl | old
    · exact measured
    · exact orderly.backed call old

theorem withRemovals (orderly : Orderly limits traffic) (removals : List Removal) :
    Orderly limits { traffic with removals := removals } :=
  ⟨orderly.sound, orderly.fixed, orderly.named, orderly.unique, orderly.ledger,
    orderly.distinct, orderly.queued, orderly.valid, orderly.bounded, orderly.backed⟩

/-- The space that a creation finds its extent to take is measured. -/
theorem measured_of_spaceNeeded (orderly : Orderly limits traffic) {source : Source}
    {location : Location} {needed : Space} {controller : Controller σ}
    (isLocation : source.location = some location)
    (sized : Action.spaceNeeded source location traffic.controller = .ok needed controller) :
    Measured traffic.objects traffic.named source needed := by
  cases location with
  | handle medium number =>
      cases sized
      constructor
      · intro extents found other
        simp only [Source.resolve, isLocation, Option.some.injEq] at found
        subst found
        rw [Extent.amount_cons]
        by_cases same : medium = other
        · subst same
          simp [Space.of, Extent.amount]
        · rw [Space.of, Space.get_set_of_ne _ _ (Ne.symm same), if_neg same]
          cases other <;> rfl
      · intro id slices
        simp [Source.slicedFrom?, isLocation] at slices
  | object id =>
      simp only [Action.spaceNeeded, Action.query] at sized
      cases answered : Store.sliceSpace traffic.controller.store id source.offset
          source.length with
      | error failure =>
          rw [answered] at sized
          cases sized
      | ok space =>
          rw [answered] at sized
          cases sized
          obtain ⟨object, found, exact⟩ := Accounted.sliceSpace_ok orderly.sound answered
          have isId : object.id = id := by simpa using List.find?_some found
          constructor
          · intro extents resolved
            have present : (traffic.objects.find? fun object => object.id = id) =
                some object := found
            simp only [Source.resolve, isLocation, present, Option.map_some,
              Option.some.injEq] at resolved
            exact resolved ▸ exact
          · intro other slices
            simp only [Source.slicedFrom?, isLocation, Option.some.injEq] at slices
            rw [← slices, ← isId]
            exact orderly.named object (List.mem_of_find?_eq_some found)

end Orderly

end Orderly

end Admission
