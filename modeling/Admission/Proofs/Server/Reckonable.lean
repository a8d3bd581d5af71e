import Admission.Proofs.Controller.Unstopped
import Admission.Proofs.Server.Steady

/-!
# Traffic that can be reckoned with

Traffic is `Reckonable` if it is orderly, its ledger tallies, and all that it has stored can be
counted.  Whatever reckonable traffic comes to is reckonable (`Reckonable.comes`).

If there are no more than 2 to the 30 slots and no capacity has more than thirty-one bits of
billions, then every queue is bearable, whoever was granted something in it: nobody is granted more
than a capacity (`Reckonable.bearable`).  So nothing that can be done next overflows, whatever a
scan sees of the store meanwhile (`Traffic.Unstoppable`, `Reckonable.unstoppable`).
-/

namespace Admission

/-! ## What cannot be stopped -/

/-- Of all that can be done next with a controller nothing overflows, whatever is seen of its store
while somebody has the ledger.  A scan counts no more requisitions than there are slots. -/
structure Traffic.Unstoppable {σ : Type} [Store σ] (slots : Nat) (traffic : Traffic σ) : Prop where
  scan : ∀ (see : Glimpses σ) (direction : Direction),
    (Action.scan direction).Finishes (traffic.controller.withStore see)
  counts : ∀ (see : Glimpses σ) (direction : Direction) (count : Nat)
    (final : Controller (Glimpses σ)),
    Action.scan direction (traffic.controller.withStore see) = .ok count final → count ≤ slots
  submit : ∀ (see : Glimpses σ) (direction : Direction) (needed : Space) (priority : Priority)
    (attendant : Option AttendantId) (hold : Bool),
    (Action.submit direction needed priority attendant hold).Finishes
      (traffic.controller.withStore see)
  drop : ∀ (see : Glimpses σ) (ticket : Ticket),
    (Action.dropTicket ticket).Finishes (traffic.controller.withStore see)
  snapshot : ∀ (see : Glimpses σ) (direction : Direction),
    ((traffic.controller.withStore see).snapshot direction).Finishes
  size : ∀ (source : Source) (location : Location),
    (Action.spaceNeeded source location).Finishes traffic.controller
  create : ∀ (id : ObjectId) (object : NewObject),
    (Store.create traffic.controller.store id object).result.Finishes
  destroy : ∀ id : ObjectId, (Store.destroy traffic.controller.store id).result.Finishes

section Traffic

variable {σ : Type} [Store σ] {traffic after : Traffic σ} {slots : Nat} {direction : Direction}
  {id : ObjectId}

/-- What is glimpsed of stores that tell words is told in words. -/
theorem Glimpses.inWords
    (words : ∀ (store : σ) (direction : Direction), Store.InWords store direction)
    (see : Glimpses σ) (direction : Direction) : Store.InWords see direction := fun medium =>
  ⟨(words (see.capacityAt medium) direction medium).1,
    (words (see.occupancyAt medium) direction medium).2⟩

omit [Store σ] in
/-- No more requisitions are queued than there are slots. -/
theorem Tallied.length_queue_le (tallied : Tallied slots traffic) (direction : Direction) :
    (traffic.queue direction).length ≤ slots := by
  have places := (traffic.controller.ledger.slots_perm direction).length_eq
  have held := tallied.ledger.held.length_eq
  have inUse : traffic.controller.ledger.pool.held.length ≤ slots := tallied.within.inUse
  rw [List.length_append, List.length_map] at places
  change (traffic.controller.ledger.queue direction).length ≤ slots
  omega

/-- A scan grants no more requisitions than are queued. -/
theorem Action.count_le {controller final : Controller σ} {count : Nat}
    (scans : Action.scan direction controller = .ok count final) :
    count ≤ (controller.ledger.queue direction).length := by
  obtain ⟨share, -, -, rfl⟩ := scan_eq_ok scans
  rw [turnedOn, List.length_map]
  refine (List.length_filter_le _ _).trans ?_
  rw [List.length_zip]
  exact Nat.min_le_left _ _

/-- A creation that has found out what it needs submits that, and the traffic goes on. -/
theorem Traffic.submitted_reaches {source : Source} {location : Location} {needed : Space}
    {priority : Priority} {attendant : Option AttendantId} {answer : Answer}
    {between : Controller σ} (isLocation : source.location = some location)
    (nonempty : source.length ≠ 0) (spare : traffic.controller.ledger.pool.Spare)
    (sized : Action.spaceNeeded source location traffic.controller =
      .ok needed traffic.controller)
    (submits : Action.submit direction needed priority attendant true traffic.controller =
      .ok answer between) :
    ∃ after, traffic.Reaches after ∧ after.controller = between := by
  let commission : Commission := ⟨direction, source, priority, attendant⟩
  let entered : Traffic σ := { traffic with calls := commission.sized needed :: traffic.calls }
  have enters : traffic.Reaches entered := Reaches.aside .refl (.size isLocation nonempty sized)
  have present : commission.sized needed ∈ entered.calls := List.mem_cons_self
  have part := Part.submit_calm present spare
    (Action.attempt_eq_ok_iff.mpr (Or.inl ⟨answer, rfl, submits⟩))
  rcases part.step with same | step
  · exact ⟨entered, enters, congrArg Traffic.controller same.symm⟩
  · exact ⟨_, enters.tail (.of_calm step), rfl⟩

end Traffic

/-! ## Reckonable traffic -/

variable {limits : Direction → Medium → Int} {slots : Nat}
  {traffic after : Traffic RecordStore} {direction : Direction} {id : ObjectId}

/-- Traffic in which all that is granted and stored can be reckoned with. -/
structure Reckonable (limits : Direction → Medium → Int) (slots : Nat)
    (traffic : Traffic RecordStore) : Prop where
  orderly : Orderly limits traffic
  tallied : Tallied slots traffic
  moderate : Moderate limits traffic

namespace Reckonable

/-- Traffic at a store that was opened is reckonable as long as nobody has used it. -/
theorem openWith {base : RecordStore} {path : String} {limits : RecordStore.Limits}
    (readable : base.Readable) (countable : Countable base.contents)
    (opened : (base.openWith path limits).result = .ok ()) (slots : Nat) :
    Reckonable limits.value slots (.stocked (base.openWith path limits).store slots) where
  orderly := .openWith readable opened slots
  tallied := (Tallied.start _ slots).of_same rfl (List.Perm.refl _)
  moderate := .openWith countable slots

theorem comes (reckonable : Reckonable limits slots traffic) (reached : traffic.Reaches after) :
    Reckonable limits slots after where
  orderly := reckonable.orderly.comes reached
  tallied := reckonable.tallied.reaches reached.inAny
  moderate := reckonable.moderate.comes reckonable.orderly reached

section Bearable

variable (reckonable : Reckonable limits slots traffic)
  (small : ∀ direction medium, limits direction medium < 2147483648000000000)
  (few : slots ≤ 1073741824)
include reckonable small few

/-- As many grants as there are slots, each of less than 2 to the 31 billions, are less than half of
what a magnitude can be. -/
theorem bearable (direction : Direction) : traffic.controller.ledger.Bearable direction := by
  have short : (traffic.controller.ledger.queue direction).length ≤ slots :=
    reckonable.tallied.length_queue_le direction
  refine .of_bound 2147483648000000000 (by decide) (reckonable.orderly.valid direction)
    (fun requisition queued serviced medium => ?_) (by omega)
  have most := reckonable.orderly.bounded direction requisition queued serviced medium
  have bound := small direction medium
  omega

/-- Nothing stops what is done next. -/
theorem unstoppable : traffic.Unstoppable slots := by
  have words := Glimpses.inWords RecordStore.inWords
  have bearable := reckonable.bearable small few
  have readable : traffic.controller.store.Readable := reckonable.orderly.sound
  have countable : Countable traffic.controller.store.contents := reckonable.moderate.countable
  exact {
    scan := fun see direction => Action.scan_finishes_of_bearable words (bearable direction)
    counts := fun see direction count final scans =>
      (Action.count_le scans).trans (reckonable.tallied.length_queue_le direction)
    submit := fun see direction needed priority attendant hold =>
      Action.submit_finishes words (bearable direction)
    drop := fun see ticket => Action.dropTicket_finishes words (bearable ticket.direction)
    snapshot := fun see direction => Controller.snapshot_finishes _ (words see direction)
    size := by
      intro source location
      cases location with
      | handle medium number => exact Action.finishes_pure _
      | object id =>
          have slices := RecordStore.sliceSpace_finishes readable countable id source.offset
            source.length
          change (Action.query fun store =>
            Store.sliceSpace store id source.offset source.length).Finishes traffic.controller
          exact Action.finishes_query slices
    create := RecordStore.create_finishes readable countable
    destroy := RecordStore.destroy_finishes _ }

end Bearable

end Reckonable

end Admission
