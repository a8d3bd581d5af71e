import Admission.Proofs.Controller.Following
import Admission.Proofs.Controller.Unattended
import Admission.Proofs.Queue.Relabeled
import Admission.Proofs.Store.Sided

/-!
# Controllers that are alike in a direction

In front of the store in memory, two controllers are alike in a direction if its queue is the same
at both, up to the names of the slots, and their stores are.  What is done for that direction at
one of them is done at the other in the same way, whatever else there is: what is scanned, dropped,
requested, created and destroyed comes to the same, and leaves them alike.
-/

namespace Admission

/-! ## Results under other names -/

/-- The ticket of a requisition in another slot. -/
def Ticket.relabel (slots : SlotId → SlotId) (ticket : Ticket) : Ticket :=
  { ticket with slot := slots ticket.slot }

/-- The same answer, with a ticket of another slot if it hands one out. -/
def Answer.relabel (slots : SlotId → SlotId) : Answer → Answer
  | granted => granted
  | notServiceable => notServiceable
  | queued ticket => queued (ticket.relabel slots)

/-- The same outcome, with another identifier if an object was created. -/
def Creation.rename (ids : ObjectId → ObjectId) : Creation → Creation
  | created id => created (ids id)
  | notCreated => notCreated
  | interrupted => interrupted

/-- Two controllers have the same queue of a direction, up to slots, and stores that are alike. -/
structure Controller.Alike (slots : SlotId → SlotId) (ids : ObjectId → ObjectId)
    (known : List ObjectId) (direction : Direction) (first second : Controller MemoryStore) :
    Prop where
  queue : second.ledger.queue direction =
    (first.ledger.queue direction).map (Requisition.relabel slots)
  store : first.store.Alike ids known direction second.store

variable {slots : SlotId → SlotId} {ids : ObjectId → ObjectId} {known : List ObjectId}
  {direction : Direction} {first second : Controller MemoryStore}

namespace Controller.Alike

/-- Only the slots that are queued matter. -/
theorem relabel_congr {others : SlotId → SlotId}
    (alike : Alike slots ids known direction first second)
    (same : ∀ slot ∈ (first.ledger.queue direction).map Requisition.slot,
      others slot = slots slot) : Alike others ids known direction first second where
  queue := by
    refine alike.queue.trans (List.map_congr_left fun requisition queued => ?_)
    rw [Requisition.relabel, Requisition.relabel, same _ (List.mem_map_of_mem queued)]
  store := alike.store

/-! ## Scans -/

theorem scan (alike : Alike slots ids known direction first second) :
    Action.Follows (Alike slots ids known direction) id (Action.scan direction)
      (Action.scan direction) first second := by
  have walk : ∀ budget, Walk.along budget (second.ledger.queue direction) =
      (Walk.along budget (first.ledger.queue direction)).relabel slots := fun budget => by
    rw [alike.queue, Walk.along_relabel]
  have walked : ∀ budget, Alike slots ids known direction
      (first.walked direction (Walk.along budget (first.ledger.queue direction)))
      (second.walked direction (Walk.along budget (second.ledger.queue direction))) := by
    intro budget
    refine ⟨?_, alike.store⟩
    rw [Controller.walked, Controller.walked, walk]
    exact (Ledger.queue_setQueue_self _ _ _).trans
      (congrArg _ (Ledger.queue_setQueue_self _ _ _).symm)
  constructor
  · intro serviced final done
    rw [Action.scan_run] at done ⊢
    rw [alike.store.read]
    cases answered : Budget.read first.store direction with
    | error failure =>
        rw [answered] at done
        cases done
    | ok budget =>
        rw [answered] at done
        cases stopped : (Walk.along budget (first.ledger.queue direction)).stopped with
        | some kind =>
            simp only [stopped] at done
            cases done
        | none =>
            simp only [stopped] at done
            cases done
            refine ⟨_, ?_, walked budget⟩
            simp only [walk budget, Walk.relabel, stopped, List.length_map, id]
  · intro refusal final refused
    obtain ⟨rfl, -⟩ := Action.scan_eq_refused refused
    rw [Action.scan_run] at refused ⊢
    rw [alike.store.read]
    cases answered : Budget.read final.store direction with
    | error failure =>
        rw [answered] at refused
        cases failure with
        | overflow kind => cases refused
        | refused error =>
            cases refused
            exact ⟨second, rfl, alike⟩
    | ok budget =>
        rw [answered] at refused
        cases stopped : (Walk.along budget (final.ledger.queue direction)).stopped <;>
          simp [stopped] at refused

/-- Whatever is written to the journals or done to attendants leaves controllers alike. -/
theorem of_same {third fourth : Controller MemoryStore}
    (alike : Alike slots ids known direction first second) (ledger : third.ledger = first.ledger)
    (store : third.store = first.store) (ledgerToo : fourth.ledger = second.ledger)
    (storeToo : fourth.store = second.store) : Alike slots ids known direction third fourth :=
  ⟨by rw [ledger, ledgerToo, alike.queue], by rw [store, storeToo]; exact alike.store⟩

theorem note (alike : Alike slots ids known direction first second) (remark another : Note) :
    Action.Follows (Alike slots ids known direction) id (Action.note remark)
      (Action.note another) first second :=
  Action.follows_modify (alike.of_same rfl rfl rfl rfl)

theorem event (alike : Alike slots ids known direction first second) {slot another : SlotId}
    (kind other : EventKind) :
    Action.Follows (Alike slots ids known direction) id (Action.event direction slot kind)
      (Action.event direction another other) first second :=
  Action.follows_modify (alike.of_same rfl rfl rfl rfl)

theorem signal (alike : Alike slots ids known direction first second)
    (attendant : Option AttendantId) (change : Attendants → AttendantId → Attendants) :
    Action.Follows (Alike slots ids known direction) id (Action.signal attendant change)
      (Action.signal attendant change) first second := by
  cases attendant with
  | none => exact Action.follows_pure alike ()
  | some waiting => exact Action.follows_modify (alike.of_same rfl rfl rfl rfl)

/-- A requisition is queued at both, each in its slot. -/
theorem queuing (alike : Alike slots ids known direction first second)
    (requisition : Requisition) (taken takenToo : SlotPool) :
    Alike slots ids known direction (first.queuing direction requisition taken)
      (second.queuing direction (requisition.relabel slots) takenToo) where
  queue := by
    refine (Ledger.queue_joined_self second.ledger direction _ takenToo).trans ?_
    rw [alike.queue, Requisition.insert_relabel]
    exact congrArg _ (Ledger.queue_joined_self first.ledger direction requisition taken).symm
  store := alike.store

/-! ## Requisitions that leave -/

section Injective

variable (injective : Function.Injective slots)
include injective

theorem find? (alike : Alike slots ids known direction first second) (slot : SlotId) :
    second.ledger.find? direction (slots slot) =
      (first.ledger.find? direction slot).map (Requisition.relabel slots) := by
  rw [Ledger.find?, Ledger.find?, alike.queue, Requisition.find?_relabel injective]

theorem isServiced (alike : Alike slots ids known direction first second) (slot : SlotId) :
    second.ledger.isServiced direction (slots slot) =
      first.ledger.isServiced direction slot := by
  rw [Ledger.isServiced, Ledger.isServiced, alike.find? injective]
  cases first.ledger.find? direction slot <;> rfl

theorem shredded (alike : Alike slots ids known direction first second) (slot : SlotId) :
    Alike slots ids known direction (first.shredded direction slot)
      (second.shredded direction (slots slot)) where
  queue := by
    rw [Controller.ledger_shredded, Controller.ledger_shredded, Ledger.queue_remove_self,
      Ledger.queue_remove_self, alike.queue, Requisition.filter_relabel injective]
  store := alike.store

theorem shred (alike : Alike slots ids known direction first second) (slot : SlotId) :
    Action.Follows (Alike slots ids known direction) id (Action.shred direction slot)
      (Action.shred direction (slots slot)) first second := by
  constructor
  · intro serviced final done
    rw [Action.shred_run] at done ⊢
    rw [alike.find? injective]
    cases found : first.ledger.find? direction slot with
    | none =>
        rw [found] at done
        cases done
        exact ⟨second, rfl, alike⟩
    | some requisition =>
        rw [found] at done
        cases done
        exact ⟨_, rfl, alike.shredded injective slot⟩
  · intro refusal final refused
    rw [Action.shred_run] at refused
    split at refused <;> cases refused

/-- The requisition of a ticket is dropped at both, and what it held is handed on. -/
theorem dropTicket (alike : Alike slots ids known direction first second) (slot : SlotId)
    (attendant : Option AttendantId) :
    Action.Follows (Alike slots ids known direction) id
      (Action.dropTicket ⟨direction, slot, attendant⟩)
      (Action.dropTicket ⟨direction, slots slot, attendant⟩) first second := by
  unfold Action.dropTicket
  refine (alike.shred injective slot).bind fun held between beside _ _ shredded => ?_
  cases held with
  | false => exact Action.follows_pure shredded ()
  | true =>
      refine shredded.scan.attempt.bind fun outcome later last _ _ scanned => ?_
      cases outcome with
      | ok serviced => exact Action.follows_pure scanned ()
      | error refusal => exact scanned.note _ _

/-! ## Requests -/

theorem discardShred (alike : Alike slots ids known direction first second) (slot : SlotId) :
    Action.Follows (Alike slots ids known direction) id
      (discard (Action.shred direction slot) : Action MemoryStore PUnit)
      (discard (Action.shred direction (slots slot))) first second :=
  (alike.shred injective slot).bind fun _ _ _ _ _ shredded => Action.follows_pure shredded _

/-- A requisition that was scanned for is answered at both. -/
theorem answer (alike : Alike slots ids known direction first second) (slot : SlotId)
    (attendant : Option AttendantId) (hold : Bool) :
    Action.Follows (Alike slots ids known direction) (Answer.relabel slots)
      (Action.answer direction slot attendant hold)
      (Action.answer direction (slots slot) attendant hold) first second := by
  unfold Action.answer
  refine Action.follows_get ?_
  dsimp only
  rw [alike.isServiced injective slot]
  split
  · refine (alike.discardShred injective slot).bind fun _ between beside _ _ shredded => ?_
    refine (shredded.signal attendant _).bind fun _ _ _ _ _ signaled => ?_
    exact Action.follows_pure signaled Answer.granted
  · split
    · refine (alike.event _ _).bind fun _ between beside _ _ told => ?_
      refine (told.discardShred injective slot).bind fun _ _ _ _ _ shredded => ?_
      exact Action.follows_pure shredded Answer.notServiceable
    · exact Action.follows_pure alike (Answer.queued ⟨direction, slot, attendant⟩)

theorem scanFor (alike : Alike slots ids known direction first second) (slot : SlotId) :
    Action.Follows (Alike slots ids known direction) id (Action.scanFor direction slot)
      (Action.scanFor direction (slots slot)) first second := by
  unfold Action.scanFor
  refine alike.scan.attempt.bind fun outcome between beside _ _ scanned => ?_
  cases outcome with
  | ok serviced => exact Action.follows_pure scanned ()
  | error refusal =>
      refine (scanned.note _ _).bind fun _ _ _ _ _ noted => ?_
      refine (noted.discardShred injective slot).bind fun _ _ _ _ _ shredded => ?_
      exact Action.follows_refuse shredded refusal

/-- Where a slot can be taken at both, a submission takes one and is handled alike. -/
theorem submit (alike : Alike slots ids known direction first second) {slot : SlotId}
    {taken takenToo : SlotPool} (took : first.ledger.pool.take = some (slot, taken))
    (tookToo : second.ledger.pool.take = some (slots slot, takenToo)) (needed : Space)
    (priority : Priority) (attendant : Option AttendantId) (hold : Bool) :
    Action.Follows (Alike slots ids known direction) (Answer.relabel slots)
      (Action.submit direction needed priority attendant hold)
      (Action.submit direction needed priority attendant hold) first second := by
  cases valid : needed.valid with
  | false =>
      have refused : ∀ controller : Controller MemoryStore,
          Action.submit direction needed priority attendant hold controller =
            Action.refuse (.invalidArgument .negativeSpace) controller := fun controller => by
        simp [Action.submit, valid]
      exact (Action.follows_refuse alike _).of_eq (refused first) (refused second)
  | true =>
      have queued := alike.queuing ⟨slot, needed, priority, attendant, false⟩ taken takenToo
      have runs : Action.Follows (Alike slots ids known direction) (Answer.relabel slots)
          (do Action.scanFor direction slot; Action.answer direction slot attendant hold)
          (do
            Action.scanFor direction (slots slot)
            Action.answer direction (slots slot) attendant hold)
          (first.queuing direction ⟨slot, needed, priority, attendant, false⟩ taken)
          (second.queuing direction ⟨slots slot, needed, priority, attendant, false⟩ takenToo) :=
        (queued.scanFor injective slot).bind fun _ _ _ _ _ scanned =>
          scanned.answer injective slot attendant hold
      exact runs.of_eq (Action.submit_run valid took) (Action.submit_run valid tookToo)

end Injective

/-! ## Changes of the store -/

/-- A change that the store answers in the same way, and that leaves the stores alike. -/
theorem tryChange {α : Type} (alike : Alike slots ids known direction first second)
    {change other : MemoryStore → Change MemoryStore StoreError α}
    (results : (other second.store).result = (change first.store).result)
    (stores : (change first.store).store.Alike ids known direction (other second.store).store) :
    Action.Follows (Alike slots ids known direction) id (Action.tryChange change)
      (Action.tryChange other) first second := by
  have afterwards : Alike slots ids known direction
      ({ first with store := (change first.store).store }.record
        ((change first.store).notes.map .note))
      ({ second with store := (other second.store).store }.record
        ((other second.store).notes.map .note)) :=
    ⟨alike.queue, stores⟩
  constructor
  · intro outcome final ended
    obtain ⟨result, rfl⟩ := Action.tryChange_eq_ok ended
    refine ⟨_, ?_, afterwards⟩
    simp only [Action.tryChange, results, result]
    cases outcome <;> rfl
  · intro refusal final refused
    exact absurd refused Action.tryChange_ne_refused

theorem change {α : Type} (alike : Alike slots ids known direction first second)
    {change other : MemoryStore → Change MemoryStore StoreError α}
    (results : (other second.store).result = (change first.store).result)
    (stores : (change first.store).store.Alike ids known direction (other second.store).store) :
    Action.Follows (Alike slots ids known direction) id (Action.change change)
      (Action.change other) first second := by
  unfold Action.change
  refine (alike.tryChange results stores).bind fun outcome _ _ _ _ changed => ?_
  cases outcome with
  | ok value => exact Action.follows_pure changed value
  | error error => exact Action.follows_refuse changed (.store error)

theorem query {α : Type} (alike : Alike slots ids known direction first second)
    {ask : MemoryStore → Checked StoreError α} (same : ask second.store = ask first.store) :
    Action.Follows (Alike slots ids known direction) id (Action.query ask) (Action.query ask)
      first second := by
  constructor
  · intro value final done
    unfold Action.query at done ⊢
    rw [same]
    cases answered : ask first.store with
    | ok found =>
        rw [answered] at done
        cases done
        exact ⟨second, rfl, alike⟩
    | error failure =>
        rw [answered] at done
        cases done
  · intro refusal final refused
    unfold Action.query at refused ⊢
    rw [same]
    cases answered : ask first.store with
    | ok found =>
        rw [answered] at refused
        cases refused
    | error failure =>
        rw [answered] at refused
        injection refused with isRefused isFinal
        subst isFinal
        exact ⟨second, congrArg (EStateM.Result.error · second) isRefused, alike⟩

theorem spaceNeeded (alike : Alike slots ids known direction first second) (source : Source)
    {location : Location} (isKnown : ∀ id, location = .object id → id ∈ known) :
    Action.Follows (Alike slots ids known direction) id (Action.spaceNeeded source location)
      (Action.spaceNeeded source location) first second := by
  cases location with
  | handle medium number => exact Action.follows_pure alike _
  | object id =>
      have same := alike.store.sliceSpace (isKnown id rfl) source.offset source.length
      unfold Action.spaceNeeded
      exact alike.query same

/-! ## Creations and destructions -/

section Creations

variable {object : NewObject} {id : ObjectId}

/-- The object is stored under either of its names, and its grant is handed on. -/
theorem stored (alike : Alike slots ids known direction first second)
    (injective : Function.Injective slots) (same : object.direction = direction)
    (isKnown : ∀ other, object.source.slicedFrom? = some other → other ∈ known)
    (new : id ∉ known) (newToo : ids id ∉ known) (slot : SlotId)
    (attendant : Option AttendantId) :
    Action.Follows (Alike slots ids known direction) (Creation.rename ids)
      (Action.store ⟨⟨direction, slot, attendant⟩, object⟩ id)
      (Action.store ⟨⟨direction, slots slot, attendant⟩, object⟩ (ids id)) first second := by
  obtain ⟨results, stores⟩ := alike.store.create same isKnown new newToo
  unfold Action.store
  refine (alike.tryChange results stores).bind fun outcome _ _ _ _ stored => ?_
  cases outcome with
  | ok nothing =>
      refine (stored.dropTicket injective slot attendant).bind fun _ _ _ _ _ dropped => ?_
      exact Action.follows_pure dropped (Creation.created id)
  | error error =>
      refine (stored.note _ _).bind fun _ _ _ _ _ noted => ?_
      refine (noted.dropTicket injective slot attendant).bind fun _ _ _ _ _ dropped => ?_
      exact Action.follows_refuse dropped (.store error)

variable {source : Source} {slot : SlotId} {taken takenToo : SlotPool}

theorem createReserved (alike : Alike slots ids known direction first second)
    (injective : Function.Injective slots)
    (isKnown : ∀ other, source.slicedFrom? = some other → other ∈ known) (new : id ∉ known)
    (newToo : ids id ∉ known) (took : first.ledger.pool.take = some (slot, taken))
    (tookToo : second.ledger.pool.take = some (slots slot, takenToo)) {location : Location}
    (isLocation : source.location = some location) (priority : Priority) :
    Action.Follows (Alike slots ids known direction) (Creation.rename ids)
      (Action.createReserved direction source location priority id)
      (Action.createReserved direction source location priority (ids id)) first second := by
  have sliced : ∀ other, location = .object other → other ∈ known := by
    rintro other rfl
    exact isKnown other (by rw [Source.slicedFrom?, isLocation])
  unfold Action.createReserved
  refine (alike.spaceNeeded source sliced).bind fun needed between beside sized sizedToo _ => ?_
  obtain rfl := (Action.spaceNeeded_keeps source location first).1 sized
  obtain rfl := (Action.spaceNeeded_keeps source location second).1 sizedToo
  refine (alike.submit injective took tookToo needed priority none true).bind
    fun answer later last submitted _ answered => ?_
  cases answer with
  | granted => exact Action.follows_pure answered Creation.notCreated
  | notServiceable => exact Action.follows_pure answered Creation.notCreated
  | queued ticket =>
      obtain ⟨ticketDirection, ticketSlot, waits⟩ := ticket
      obtain ⟨-, rfl, -⟩ := Action.serviced_of_queued submitted
      exact answered.stored injective rfl isKnown new newToo ticketSlot waits

/-- A creation of a requester that does not wait goes the same way. -/
theorem create (alike : Alike slots ids known direction first second)
    (injective : Function.Injective slots)
    (isKnown : ∀ other, source.slicedFrom? = some other → other ∈ known) (new : id ∉ known)
    (newToo : ids id ∉ known) (took : first.ledger.pool.take = some (slot, taken))
    (tookToo : second.ledger.pool.take = some (slots slot, takenToo)) (priority : Priority) :
    Action.Follows (Alike slots ids known direction) (Creation.rename ids)
      (Action.createAtOnce direction source priority id)
      (Action.createAtOnce direction source priority (ids id)) first second := by
  unfold Action.createAtOnce
  cases isLocation : source.location with
  | none =>
      have same : (⟨direction, source, .unreserved, decide (direction = .inbound)⟩ :
          NewObject).direction = direction := rfl
      obtain ⟨results, stores⟩ := alike.store.create same isKnown new newToo
      refine (alike.change results stores).bind fun _ _ _ _ _ changed => ?_
      exact Action.follows_pure changed (Creation.created id)
  | some location =>
      dsimp only
      split
      · exact Action.follows_refuse alike _
      · exact alike.createReserved injective isKnown new newToo took tookToo isLocation priority

end Creations

/-- A known object of the direction is destroyed at both. -/
theorem destroy (alike : Alike slots ids known direction first second)
    (injective : Function.Injective ids) {object : ObjectId} (isKnown : object ∈ known)
    (fixed : ids object = object)
    (own : ∀ stored ∈ first.store.under object, stored.direction = direction) :
    Action.Follows (Alike slots ids known direction) id (Action.destroy object)
      (Action.destroy object) first second := by
  obtain ⟨results, stores⟩ := alike.store.destroy injective isKnown fixed
  unfold Action.destroy
  refine (alike.change results stores).bind fun found _ _ destroyed _ changed => ?_
  obtain rfl : found = direction :=
    MemoryStore.direction_of_destroy own (Action.change_eq_ok destroyed)
  refine changed.scan.bind fun serviced _ _ _ _ scanned => ?_
  refine (scanned.note _ _).bind fun _ _ _ _ _ noted => ?_
  exact Action.follows_pure noted _

end Controller.Alike

end Admission
