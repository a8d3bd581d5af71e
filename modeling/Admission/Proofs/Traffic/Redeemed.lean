import Admission.Proofs.Store.Computed
import Admission.Proofs.Store.Recorded
import Admission.Proofs.Traffic.Replay
import Admission.Proofs.Traffic.Runs

/-!
# Objects redeem what was reserved for them

Between the moment at which a creation learns what space it needs and the one at which it stores
its object, others create and destroy objects, the one that it slices included.  What it needs is
nevertheless what its object takes (`Redeems`), and its requisition, which nobody else has a
ticket of, is in the queue all that time (`Secured`).

`Orderly.secured` proves this of every orderly state, for any store that keeps exact account.
-/

namespace Admission

section Redeemed

variable {σ : Type} [Store σ] [Accounted σ]

/-- Nobody is there yet, and no stored object is given its identifier a second time. -/
def Traffic.stocked (store : σ) (slots : Nat) : Traffic σ :=
  { Traffic.start store slots with named := (Accounted.objects store).map StoredObject.id }

/-- What is stored tells what it takes as long as that is below a bound. -/
def Answering (σ : Type) [Store σ] [Accounted σ] (bound : Int) : Prop :=
  ∀ (store : σ) (direction : Direction), Accounted.Sound store →
    (∀ medium, occupied (Accounted.objects store) direction medium < bound) →
    ∀ medium, ∃ occupancy, Store.occupancy store direction medium = .ok occupancy

/-! ## What a creation has and does -/

/-- A requisition is queued for a creation.  No other one has its slot, in either queue, and
nobody else has a ticket of it. -/
structure Reserves (traffic : Traffic σ) (creation : PendingCreation)
    (requisition : Requisition) : Prop where
  direction : creation.ticket.direction = creation.object.direction
  slot : requisition.slot = creation.ticket.slot
  queued : requisition ∈ traffic.queue creation.object.direction
  only : traffic.controller.ledger.slots.count requisition.slot = 1
  sole : (traffic.held.map Ticket.slot).count requisition.slot = 1

/-- A creation that has found its requisition serviced stores its object. -/
inductive Stores (before : Traffic σ) (creation : PendingCreation) (id : ObjectId) :
    Traffic σ → Prop where
  | intro {controller : Controller σ} :
      .cleared creation ∈ before.calls → id ∉ before.named →
      Action.tryChange (fun store => Store.create store id creation.object)
        before.controller = .ok (.ok ()) controller →
      Stores before creation id (Traffic.become
        { before.acted controller with named := id :: before.named }
        (.cleared creation) (some (.stored creation id)))

/-- A creation stores its object, which takes what its requisition asked for. -/
structure Redeems (bound : Int) (before : Traffic σ) (creation : PendingCreation)
    (id : ObjectId) (requisition : Requisition) (extents : List Extent) (after : Traffic σ) :
    Prop where
  reserved : Reserves before creation requisition
  serviced : requisition.serviced = true
  /-- The requisition is queued still. -/
  stays : Reserves after creation requisition
  stored : after.objects = before.objects ++
    [⟨id, creation.object.direction, extents, creation.object.provisional⟩]
  exact : Extent.aggregate extents = .ok requisition.needed
  raised : ∀ direction medium, after.occupancy direction medium =
    before.occupancy direction medium +
      if direction = creation.object.direction then requisition.need medium else 0
  /-- The store tells the same, as long as less than the bound is stored. -/
  told : ∀ direction, (∀ medium, after.occupancy direction medium < bound) →
    ∀ medium, ∃ earlier later : Magnitude,
      Store.occupancy before.controller.store direction medium = .ok earlier ∧
      Store.occupancy after.controller.store direction medium = .ok later ∧
      later.value = earlier.value +
        if direction = creation.object.direction then (requisition.needed.get medium).value
        else 0

/-- Every creation has a requisition of its own from its submission on, which it redeems when it
stores its object. -/
structure Secured (bound : Int) (traffic : Traffic σ) : Prop where
  waiting : ∀ creation, .waiting creation ∈ traffic.calls →
    ∃ requisition, Reserves traffic creation requisition
  cleared : ∀ creation, .cleared creation ∈ traffic.calls →
    ∃ requisition, Reserves traffic creation requisition ∧ requisition.serviced = true
  stored : ∀ creation id, .stored creation id ∈ traffic.calls →
    ∃ requisition, Reserves traffic creation requisition ∧ requisition.serviced = true
  /-- Until the object is stored, no step takes the requisition out of its queue. -/
  lasting : ∀ creation requisition after,
    .waiting creation ∈ traffic.calls ∨ .cleared creation ∈ traffic.calls →
    Reserves traffic creation requisition → Step traffic after →
    requisition ∈ after.queue creation.object.direction ∨
      requisition.granted ∈ after.queue creation.object.direction
  redeemed : ∀ creation id after, Stores traffic creation id after →
    ∃ requisition extents, Redeems bound traffic creation id requisition extents after
  /-- An object is stored in this way, or it has no extents. -/
  admitted : ∀ after, Aside traffic after → ∀ object ∈ after.objects,
    object ∈ traffic.objects ∨ object.extents = [] ∨
      ∃ creation, Stores traffic creation object.id after

variable {limits : Direction → Medium → Int} {bound : Int} {before after traffic : Traffic σ}
  {creation : PendingCreation} {requisition : Requisition} {id : ObjectId}

/-- A store of readable objects and a controller that nobody has used are in order. -/
theorem Orderly.stocked {store : σ} (sound : Accounted.Sound store)
    (unique : ((Accounted.objects store).map StoredObject.id).Nodup) (slots : Nat) :
    Orderly (Accounted.limit store) (Traffic.stocked store slots) where
  sound := sound
  fixed := rfl
  named := fun object member => List.mem_map_of_mem member
  unique := unique
  ledger := Ledger.wellFormed_ofLimit slots
  distinct := List.nodup_nil
  queued := by rintro ticket ⟨⟩
  valid := by rintro (_ | _) requisition ⟨⟩
  bounded := by rintro (_ | _) requisition ⟨⟩
  backed := by rintro call ⟨⟩

namespace Orderly

/-! ## The requisition of a creation -/

/-- What is queued for a ticket that a call holds is queued for nobody else. -/
theorem reserves (orderly : Orderly limits traffic) {call : Call} (present : call ∈ traffic.calls)
    (holds : call.ticket? = some creation.ticket)
    (direction : creation.object.direction = creation.ticket.direction)
    (queued : requisition ∈ traffic.queue creation.ticket.direction)
    (slot : requisition.slot = creation.ticket.slot) :
    Reserves traffic creation requisition where
  direction := direction.symm
  slot := slot
  queued := direction.symm ▸ queued
  only := by
    refine List.count_eq_one_of_mem orderly.ledger.slots_nodup ?_
    exact (Ledger.slots_perm _ _).mem_iff.mpr
      (List.mem_append_left _ (List.mem_map_of_mem queued))
  sole := by
    refine List.count_eq_one_of_mem orderly.distinct ?_
    rw [slot]
    exact List.mem_map_of_mem (Traffic.mem_held_of_call present holds)

theorem reserves_of_backing (orderly : Orderly limits traffic) {call : Call}
    (present : call ∈ traffic.calls) (holds : call.ticket? = some creation.ticket)
    (backing : Backing traffic.objects traffic.named traffic.controller.ledger creation
      requisition) : Reserves traffic creation requisition :=
  orderly.reserves present holds backing.direction backing.queued backing.slot

/-- A ticket that a call still waits with, or has found serviced, is not dropped in the step:
whoever else could drop one has the ticket of another slot. -/
theorem held_of_step (orderly : Orderly limits before)
    (early : .waiting creation ∈ before.calls ∨ .cleared creation ∈ before.calls)
    {between : Traffic σ} (asides : Asides before between) {see : Glimpses σ}
    {direction : Direction} {came : Option Requisition} {gone : Option Ticket}
    (effect : TurnEffect before between see direction came gone after) :
    creation.ticket ∈ after.held := by
  obtain ⟨call, present, holds, notStored, notLeaving⟩ : ∃ call ∈ before.calls,
      call.ticket? = some creation.ticket ∧
      (∀ other id, call ≠ .stored other id) ∧ ∀ other, call ≠ .leaving other := by
    rcases early with waits | isCleared
    · exact ⟨_, waits, rfl, by simp, by simp⟩
    · exact ⟨_, isCleared, rfl, by simp, by simp⟩
  have held : creation.ticket ∈ between.held :=
    asides.held.mem_iff.mpr (Traffic.mem_held_of_call present holds)
  rcases List.mem_append.mp (effect.held.mem_iff.mpr (List.mem_append_right _ held)) with
    taken | stays
  · exfalso
    rcases effect.early creation.ticket (Option.mem_toList.mp taken) with
      ⟨other, otherId, isStored, same⟩ | ⟨isTicket, -⟩ | ⟨other, isLeaving, -, same⟩
    · exact notStored other otherId
        (orderly.call_unique present isStored holds rfl (congrArg Ticket.slot same.symm))
    · have distinct := orderly.distinct
      rw [Traffic.held, List.map_append, List.nodup_append] at distinct
      have listed : creation.ticket ∈ before.calls.filterMap Call.ticket? :=
        List.mem_filterMap.mpr ⟨call, present, holds⟩
      exact distinct.2.2 _ (List.mem_map_of_mem isTicket) _ (List.mem_map_of_mem listed) rfl
    · exact notLeaving other
        (orderly.call_unique present isLeaving holds rfl (congrArg Ticket.slot same.symm))
  · exact stays

theorem lasting (orderly : Orderly limits before)
    (early : .waiting creation ∈ before.calls ∨ .cleared creation ∈ before.calls)
    (reserves : Reserves before creation requisition) (step : Step before after) :
    requisition ∈ after.queue creation.object.direction ∨
      requisition.granted ∈ after.queue creation.object.direction := by
  have queued := reserves.queued
  cases step with
  | aside aside =>
      left
      rw [Traffic.queue, aside.ledger]
      exact queued
  | turn glimpsed turn =>
      obtain ⟨direction, came, gone, effect⟩ := turn.effect
      rw [← glimpsed.meanwhile.queue, ← reserves.direction] at queued
      rw [← reserves.direction]
      exact effect.kept (orderly.asides glimpsed.meanwhile)
        (orderly.held_of_step early glimpsed.meanwhile effect) queued reserves.slot

/-! ## The object of a creation -/

/-- What a store tells of an occupancy is what its objects take. -/
theorem told (orderly : Orderly limits traffic) (answering : Answering σ bound)
    {direction : Direction} (fits : ∀ medium, traffic.occupancy direction medium < bound)
    (medium : Medium) : ∃ occupancy : Magnitude,
      Store.occupancy traffic.controller.store direction medium = .ok occupancy ∧
      occupancy.value = traffic.occupancy direction medium := by
  obtain ⟨occupancy, answered⟩ :=
    answering traffic.controller.store direction orderly.sound fits medium
  exact ⟨occupancy, answered, Accounted.occupancy_value orderly.sound answered⟩

theorem redeems (orderly : Orderly limits before) (answering : Answering σ bound)
    (stores : Stores before creation id after) :
    ∃ requisition extents, Redeems bound before creation id requisition extents after := by
  obtain @⟨controller, isCleared, fresh, done⟩ := stores
  obtain ⟨requisition, extents, backing, serviced, needs, -, objects, -⟩ :=
    orderly.create_cleared isCleared fresh done
  have aside : Aside before _ := .store isCleared fresh done
  have later := (orderly.aside aside).1
  have raised : ∀ direction medium,
      occupied (Accounted.objects controller.store) direction medium =
        before.occupancy direction medium +
          if direction = creation.object.direction then requisition.need medium else 0 := by
    intro direction medium
    rw [objects, occupied_concat, ← needs medium]
    exact congrArg (before.occupancy direction medium + ·) (if_congr eq_comm rfl rfl)
  refine ⟨requisition, extents, ?_⟩
  constructor
  case reserved => exact orderly.reserves_of_backing isCleared rfl backing
  case serviced => exact serviced
  case stays =>
    refine later.reserves (Traffic.mem_become_next rfl) rfl backing.direction ?_ backing.slot
    rw [Traffic.queue, aside.ledger]
    exact backing.queued
  case stored => exact objects
  case exact => exact Extent.aggregate_eq_ok needs
  case raised => exact raised
  case told =>
    intro direction fits medium
    have nonneg := orderly.valid _ requisition backing.queued
    have fitted : ∀ medium, before.occupancy direction medium < bound := by
      intro other
      have most := fits other
      have sum := raised direction other
      have own := nonneg other
      refine Int.lt_of_le_of_lt ?_ most
      refine Int.le_trans ?_ (Int.le_of_eq sum.symm)
      split <;> omega
    obtain ⟨earlier, answered, isEarlier⟩ := orderly.told answering fitted medium
    obtain ⟨total, answers, isTotal⟩ := later.told answering fits medium
    refine ⟨earlier, total, answered, answers, ?_⟩
    rw [isTotal, isEarlier]
    exact raised direction medium

/-- What an aside adds is what a creation stores, unless it has no extents. -/
theorem admitted (orderly : Orderly limits before) (aside : Aside before after)
    {object : StoredObject} (member : object ∈ after.objects) :
    object ∈ before.objects ∨ object.extents = [] ∨
      ∃ creation, Stores before creation object.id after := by
  cases aside with
  | attend attendants remarks => exact Or.inl member
  | size isLocation nonempty sized => exact Or.inl member
  | clear waits isServiced => exact Or.inl member
  | interrupt waits ended => exact Or.inl member
  | abandon waits => exact Or.inl member
  | createEmpty isEmpty fresh done =>
      obtain ⟨objects, -⟩ := orderly.create_empty isEmpty fresh done
      have listed := (congrArg (object ∈ ·) objects).mp member
      rcases List.mem_append.mp listed with old | new
      · exact Or.inl old
      · right; left
        rw [List.mem_singleton.mp new]
  | createRefused done =>
      left
      have same := (orderly.create_refused done).1
      rwa [Traffic.objects, Traffic.acted, same] at member
  | storeRefused isCleared done =>
      left
      have same := (orderly.create_refused done).1
      rwa [Traffic.objects, Traffic.become, Traffic.acted, Controller.record, same] at member
  | @store creation id controller isCleared fresh done =>
      obtain ⟨requisition, extents, -, -, -, -, objects, -⟩ :=
        orderly.create_cleared isCleared fresh done
      have listed := (congrArg (object ∈ ·) objects).mp member
      rcases List.mem_append.mp listed with old | new
      · exact Or.inl old
      · right; right
        rw [List.mem_singleton.mp new]
        exact ⟨creation, .intro isCleared fresh done⟩
  | remove done =>
      left
      obtain ⟨result, rfl⟩ := Action.tryChange_eq_ok done
      obtain ⟨removed, -, -, -, objects, -⟩ := Accounted.destroy_ok orderly.sound result
      have listed := (congrArg (object ∈ ·) objects).mp member
      exact (List.mem_filter.mp listed).1
  | removeRefused done =>
      left
      obtain ⟨result, rfl⟩ := Action.tryChange_eq_ok done
      have same := Accounted.destroy_refused orderly.sound result
      have listed := (congrArg (object ∈ Accounted.objects ·) same).mp member
      exact listed

/-- In an orderly state every creation has what it needs. -/
theorem secured (orderly : Orderly limits traffic) (answering : Answering σ bound) :
    Secured bound traffic where
  waiting := by
    intro creation waits
    obtain ⟨requisition, backing⟩ := orderly.backed _ waits
    exact ⟨requisition, orderly.reserves_of_backing waits rfl backing⟩
  cleared := by
    intro creation isCleared
    obtain ⟨requisition, backing, serviced⟩ := orderly.backed _ isCleared
    exact ⟨requisition, orderly.reserves_of_backing isCleared rfl backing, serviced⟩
  stored := by
    intro creation id isStored
    obtain ⟨requisition, backing, serviced⟩ := orderly.backed _ isStored
    exact ⟨requisition, orderly.reserves_of_backing isStored rfl backing, serviced⟩
  lasting := fun _ _ _ early reserves step => orderly.lasting early reserves step
  redeemed := fun _ _ _ stores => orderly.redeems answering stores
  admitted := fun _ aside _ member => orderly.admitted aside member

/-- At every moment of a run every creation has what it needs. -/
theorem run_secured {first : Traffic σ} (orderly : Orderly limits first)
    (answering : Answering σ bound) {run : List (Traffic σ)} (steps : Run first run)
    {later moment : Traffic σ} (member : later ∈ first :: run) (asides : Asides later moment) :
    Secured bound moment := by
  have reached : Orderly limits later := by
    rcases List.mem_cons.mp member with rfl | inRun
    · exact orderly
    · exact orderly.run steps later inRun
  exact (reached.asides asides).secured answering

end Orderly

end Redeemed

theorem MemoryStore.answering : Answering MemoryStore 9223372036854775808000000000 :=
  fun _ _ _ fits => occupancy_answered fits

theorem RecordStore.answering : Answering RecordStore 9223372036854775808 :=
  fun _ _ readable fits medium => occupancy_answered readable (fits medium)

/-- Every object is backed by a reservation of its own.  At every moment of every run, also while
somebody else has the ledger, each creation under way has a requisition in the queue of its
direction, which no other ticket is of.  It is serviced when the object is stored, asks for
exactly what the object then takes, and stays queued until then, so that the occupancy of that
direction grows by what was reserved and that of the other direction does not change.  This holds
over any objects in memory, and over any tables that can be read, whatever their capacities; the
one tells occupancies as long as they are magnitudes, the other as long as they are signed
words. -/
theorem objects_redeem_reservations :
    (∀ (store : MemoryStore) (slots : Nat), (store.objects.map StoredObject.id).Nodup →
      ∀ run, Run (Traffic.stocked store slots) run →
        ∀ later ∈ Traffic.stocked store slots :: run, ∀ moment, Asides later moment →
          Secured 9223372036854775808000000000 moment) ∧
    ∀ (store : RecordStore) (slots : Nat), store.Readable →
      ∀ run, Run (Traffic.stocked store slots) run →
        ∀ later ∈ Traffic.stocked store slots :: run, ∀ moment, Asides later moment →
          Secured 9223372036854775808 moment := by
  constructor
  · intro store slots unique run steps later member moment asides
    exact (Orderly.stocked trivial unique slots).run_secured MemoryStore.answering steps member
      asides
  · intro store slots readable run steps later member moment asides
    have unique : (store.contents.map StoredObject.id).Nodup :=
      store.map_id_contents ▸ readable.unique
    exact (Orderly.stocked readable unique slots).run_secured RecordStore.answering steps member
      asides

/-- A creation of twenty bytes of the first object. -/
def PendingCreation.sliceOfFirst : PendingCreation :=
  ⟨⟨.outbound, .ofParts 1 3, none⟩,
    .ofCreation .outbound ⟨some (.object (.ofNat 1)), 10, 20⟩ none .reserved⟩

/-- A file of forty bytes is created, and then a slice of it as far as it is cleared. -/
def slicingFirst : List Move :=
  Move.createFile 1 40 ⟨1, 0⟩ none (.ofParts 1 1) (.ofNat 1) ++
    [.size .outbound ⟨some (.object (.ofNat 1)), 10, 20⟩ ⟨1, 0⟩ none,
      .submit PendingCreation.sliceOfFirst.object ⟨1, 0⟩ none (.ofFile 20),
      .clear .sliceOfFirst]

/-- Tables without objects, opened with the usual capacities. -/
def RecordStore.opened : RecordStore := (RecordStore.empty.openWith "store" {}).store

/-- The slice redeems what was reserved for it, in memory as well as in tables. -/
theorem slice_redeems :
    (∃ before ∈ (Traffic.stocked (MemoryStore.ofFileLimit 100) 1024).replay slicingFirst,
      ∃ requisition extents after, Redeems 9223372036854775808000000000 before .sliceOfFirst
        (.ofNat 2) requisition extents after ∧
      before.occupancy .outbound .file = 40 ∧ after.occupancy .outbound .file = 60) ∧
    ∃ before ∈ (Traffic.stocked RecordStore.opened 1024).replay slicingFirst,
      ∃ requisition extents after, Redeems 9223372036854775808 before .sliceOfFirst
        (.ofNat 2) requisition extents after ∧
      before.occupancy .outbound .file = 40 ∧ after.occupancy .outbound .file = 60 := by
  constructor
  · obtain ⟨before, after, found, stores, forty, sixty⟩ : ∃ before after,
        ((Traffic.stocked (MemoryStore.ofFileLimit 100) 1024).replay slicingFirst)[7]? =
          some before ∧ Stores before .sliceOfFirst (.ofNat 2) after ∧
        before.occupancy .outbound .file = 40 ∧ after.occupancy .outbound .file = 60 :=
      ⟨((Traffic.stocked (MemoryStore.ofFileLimit 100) 1024).replay slicingFirst).getD 7 .hundred,
        _, rfl, .intro (by decide) (by decide) rfl, rfl, rfl⟩
    have member := List.mem_of_getElem? found
    have secured := objects_redeem_reservations.1 (.ofFileLimit 100) 1024 List.nodup_nil _
      (Traffic.replay_run _ slicingFirst) before (List.mem_cons_of_mem _ member) before .refl
    obtain ⟨requisition, extents, redeems⟩ := secured.redeemed _ _ _ stores
    exact ⟨before, member, requisition, extents, after, redeems, forty, sixty⟩
  · obtain ⟨before, after, found, stores, forty, sixty⟩ : ∃ before after,
        ((Traffic.stocked RecordStore.opened 1024).replay slicingFirst)[7]? =
          some before ∧ Stores before .sliceOfFirst (.ofNat 2) after ∧
        before.occupancy .outbound .file = 40 ∧ after.occupancy .outbound .file = 60 :=
      ⟨((Traffic.stocked RecordStore.opened 1024).replay slicingFirst).getD 7
          (Traffic.stocked RecordStore.opened 1024),
        _, rfl, .intro (by decide) (by decide) rfl, rfl, rfl⟩
    have member := List.mem_of_getElem? found
    have secured := objects_redeem_reservations.2 .opened 1024
      (RecordStore.readable_empty.openWith "store" {}) _
      (Traffic.replay_run _ slicingFirst) before (List.mem_cons_of_mem _ member) before .refl
    obtain ⟨requisition, extents, redeems⟩ := secured.redeemed _ _ _ stores
    exact ⟨before, member, requisition, extents, after, redeems, forty, sixty⟩

end Admission
