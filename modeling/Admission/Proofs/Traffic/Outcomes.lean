import Admission.Proofs.Traffic.Courses
import Admission.Proofs.Traffic.Redeemed

/-!
# Creations end cleanly

However a creation ends, it has released what it took, and it has stored its object exactly if
it says so (`Clean`).  This holds of every course in fair weather, from any state that traffic
comes to there (`creations_end_cleanly`): whatever others do before, between and during the
parts of the creation, and whatever calls of the store fail.
-/

namespace Admission

section Outcomes

variable {σ : Type} [Store σ] [Accounted σ]

/-- What can be said of a creation that has come to a stage, by its own parts. -/
structure Clean (commission : Commission) (now : Traffic σ) (stage : Stage)
    (own : List (Act σ)) : Prop where
  created : ∀ id, stage = .ended (.created id) → StoresOnce commission id own
  /-- With any other ending it has added and removed nothing. -/
  untouched : ∀ ending, stage = .ended ending → (∀ id, ending ≠ .created id) →
    ∀ act ∈ own, act.after.objects = act.before.objects
  notCreated : stage = .ended .notCreated →
    commission.attendant = none ∧ commission.HasExtent
  interrupted : stage = .ended .interrupted →
    ∃ attendant, commission.attendant = some attendant ∧
      ∃ act ∈ own, act.before.controller.attendants.isEnded attendant = true
  /-- Without an attendant a wait is over as soon as it begins. -/
  prompt : commission.attendant = none → ∀ creation, stage = .waiting creation →
    Action.wait creation.ticket now.controller = .ok (.finished .serviced) now.controller
  /-- Whatever its parts have queued is in no queue when it has ended, nor its slot taken. -/
  released : ∀ ending, stage = .ended ending → ∀ last, own.getLast? = some last →
    ∀ act ∈ own, ∀ slot ∈ act.after.controller.ledger.slots,
      slot ∉ act.before.controller.ledger.slots →
        slot ∉ last.after.controller.ledger.slots ∧
          slot ∉ last.after.controller.ledger.pool.held

theorem Tallied.stocked (store : σ) (slots : Nat) :
    Tallied slots (Traffic.stocked store slots) :=
  (Tallied.start store slots).of_same rfl (List.Perm.refl _)

variable {limits : Direction → Medium → Int} {commission : Commission} {first now : Traffic σ}
  {stage : Stage} {own : List (Act σ)}

omit [Accounted σ] in
theorem Course.act_reached {weather : Weather σ}
    (course : Course weather commission first now stage own) :
    ∀ act ∈ own, weather.Reaches first act.after := by
  induction course with
  | begun => rintro act ⟨⟩
  | others earlier step keeps reached => exact reached
  | part earlier part reached =>
      intro act member
      rcases List.mem_append.mp member with old | new
      · exact reached act old
      · rw [List.mem_singleton.mp new]
        exact (Course.part earlier part).reaches

theorem Course.clean {slots : Nat} (orderly : Orderly limits first)
    (tallied : Tallied slots first)
    (course : Course (Weather.fair σ limits) commission first now stage own) :
    Clean commission now stage own := by
  have tidy := course.tidy orderly tallied
  constructor
  case created =>
    rintro id rfl
    exact tidy.once id rfl
  case untouched =>
    rintro ending rfl notCreated
    refine tidy.untouched ?_
    cases ending with
    | created id => exact absurd rfl (notCreated id)
    | _ => rfl
  case notCreated =>
    rintro rfl
    exact tidy.told _ rfl
  case interrupted =>
    rintro rfl
    exact tidy.told _ rfl
  case prompt =>
    rintro unattended creation rfl
    have held : creation.ticket ∈ now.held :=
      Traffic.mem_held_of_call (course.present _ rfl) rfl
    have alone : creation.ticket.attendant = none := tidy.fits.2.2.trans unattended
    exact Action.wait_of_serviced alone
      ((tallied.reaches course.reaches).serviced_of_unattended held alone)
  case released =>
    rintro ending rfl last isLast act member slot inAfter notBefore
    have gone : slot ∉ last.after.controller.ledger.slots := by
      rcases tidy.slots act member slot inAfter notBefore with impossible | ⟨-, gone⟩
      · cases impossible
      · exact gone last isLast
    have later := tallied.reaches (course.act_reached last (List.mem_of_getLast? isLast))
    exact ⟨gone, fun held => gone (later.ledger.held.mem_iff.mpr held)⟩

/-- Creations end cleanly.  In fair weather, from any state that traffic comes to over sound
objects, and whatever others do meanwhile: a creation that ends as created has stored exactly
one object, with the identifier that it tells, in its direction and with the extents of its
source, provisional exactly if it is inbound and has no attendant; with any other ending,
refusals and calls that are given up included, it has changed no object.  It ends as not created
only without an attendant and with an extent, and as interrupted only with an attendant, one
that was ended at the latest when the wait was; without an attendant it never waits.  When it
has ended, nothing that it queued is in a queue or holds a slot. -/
theorem creations_end_cleanly {store : σ} (sound : Accounted.Sound store)
    (unique : ((Accounted.objects store).map StoredObject.id).Nodup) {slots : Nat}
    (reached : (Weather.fair σ (Accounted.limit store)).Reaches (Traffic.stocked store slots)
      first)
    (course : Course (Weather.fair σ (Accounted.limit store)) commission first now stage own) :
    Clean commission now stage own :=
  course.clean ((Orderly.stocked sound unique slots).reaches reached)
    ((Tallied.stocked store slots).reaches reached)

end Outcomes

/-- Bytes of an outbound file. -/
def Commission.ofFile (bytes : UInt64) (attendant : Option AttendantId) : Commission :=
  ⟨.outbound, ⟨some (.handle .file 1), 0, bytes⟩, ⟨1, 0⟩, attendant⟩

/-- Forty bytes are stored at once.  Sixty bytes, more than half of the capacity, have to be
waited for, and the wait is interrupted when its attendant is ended. -/
theorem ofFile_ends_cleanly :
    (∃ now own, Course (.fair MemoryStore (Accounted.limit (MemoryStore.ofFileLimit 100)))
      (.ofFile 40 none) .hundred now (.ended (.created (.ofNat 1))) own ∧
      Clean (.ofFile 40 none) now (.ended (.created (.ofNat 1))) own ∧
      now.objects = [⟨.ofNat 1, .outbound, [⟨.file, 40⟩], false⟩]) ∧
    ∃ now own, Course (.fair MemoryStore (Accounted.limit (MemoryStore.ofFileLimit 100)))
      (.ofFile 60 (some ⟨0⟩)) .hundred now (.ended .interrupted) own ∧
      Clean (.ofFile 60 (some ⟨0⟩)) now (.ended .interrupted) own ∧
      now.controller.ledger.slots = [] := by
  have unique : ((Accounted.objects (MemoryStore.ofFileLimit 100)).map
      StoredObject.id).Nodup := List.nodup_nil
  have orderly : Orderly _ Traffic.hundred := Orderly.stocked trivial unique 1024
  constructor
  · have opening : Course (.fair MemoryStore (Accounted.limit (MemoryStore.ofFileLimit 100)))
        (.ofFile 40 none) .hundred .hundred .begun [] := .begun
    have fresh : ObjectId.ofNat 1 ∉ Traffic.hundred.named := by decide
    obtain ⟨now, own, course, isFinal⟩ := opening.create orderly fresh (by decide) rfl
    refine ⟨now, own, course, creations_end_cleanly trivial unique .refl course, ?_⟩
    rw [Traffic.objects, isFinal]
    rfl
  · have opening : Course (.fair MemoryStore (Accounted.limit (MemoryStore.ofFileLimit 100)))
        (.ofFile 60 (some ⟨0⟩)) .hundred .hundred .begun [] := .begun
    have sized := opening.part (.size rfl (by decide) rfl)
    have waits := sized.calm orderly (.submit_calm List.mem_cons_self (by decide) rfl)
    have ended := waits.others (.aside (.attend ⟨[⟨false, true⟩]⟩ []))
      fun call isCall => waits.present call isCall
    have leaves := ended.part (.interrupt (ended.present _ rfl) (Or.inl rfl))
    have course := leaves.calm orderly (.leave_calm (leaves.present _ rfl) rfl)
    exact ⟨_, _, course, creations_end_cleanly trivial unique .refl course, rfl⟩

end Admission
