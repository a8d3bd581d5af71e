import Admission.Proofs.Server.Cases
import Admission.Proofs.Server.Identifiers
import Admission.Proofs.Store.Recorded
import Admission.Proofs.Traffic.Stored

/-!
# Responses explain a store

What a store holds is told by responses alone: each of them tells that an object was created or
released, or leaves the store as it is (`Server.Explains`).  So an object is stored exactly if a
response told that it was created, and none since that it was released
(`Server.Explains.has_iff`).
-/

namespace Admission

/-! ## What a store has -/

namespace RecordStore

variable {store after : RecordStore} {id other : ObjectId} {direction own : Direction}

/-- There is an object of that direction under the identifier. -/
def Has (store : RecordStore) (id : ObjectId) (direction : Direction) : Prop :=
  ∃ object ∈ store.contents, object.id = id ∧ object.direction = direction

theorem has_iff_row :
    store.Has id direction ↔
      ∃ row ∈ store.objects, row.id = id ∧ row.readDirection = direction := by
  simp only [Has, contents, List.mem_map, exists_exists_and_eq_and]
  rfl

/-- An identifier is that of one object at most. -/
theorem Has.unique (readable : store.Readable) (has : store.Has id direction)
    (also : store.Has id own) : direction = own := by
  rw [has_iff_row] at has also
  obtain ⟨row, isRow, named, rfl⟩ := has
  obtain ⟨again, isAgain, alsoNamed, rfl⟩ := also
  rw [List.inj_on_of_nodup_map readable.unique isRow isAgain (named.trans alsoNamed.symm)]

/-- Opening a store makes no objects. -/
theorem has_openWith (path : String) (limits : Limits) :
    (store.openWith path limits).store.Has id direction ↔ store.Has id direction := by
  rw [Has, Has, contents_openWith]

theorem keepsRefused : Store.KeepsRefused RecordStore := fun _ _ _ _ refused =>
  store_of_create_refused refused

/-- What is gained is there, beside what was. -/
theorem has_gained_iff (gains : Store.Gains own other store after) :
    after.Has id direction ↔ store.Has id direction ∨ id = other ∧ direction = own := by
  obtain ⟨object, rfl, done, rfl⟩ := gains
  have unfolded : (store.create other object).result = .ok () := done
  rw [has_iff_row, has_iff_row]
  simp only [Store.create, create] at unfolded ⊢
  cases admits : store.admitted object with
  | error failure =>
      rw [admits] at unfolded
      cases unfolded
  | ok extents =>
      have named : ObjectRow.readDirection ⟨other, object.direction.name, object.provisional⟩ =
          object.direction := ObjectRow.readDirection_of_name rfl
      simp only [List.mem_append, List.mem_singleton, or_and_right, exists_or, exists_eq_left,
        named]
      exact or_congr_right (and_congr eq_comm eq_comm)

/-- What is removed is not there any more, and everything else is. -/
theorem has_destroyed_iff (removed : (store.destroy other).result = .ok own) :
    (store.destroy other).store.Has id direction ↔ store.Has id direction ∧ id ≠ other := by
  rw [has_iff_row, has_iff_row]
  unfold destroy at removed ⊢
  split at removed
  · cases removed
  · next row found =>
      simp only [List.mem_filter, ne_eq, decide_not, Bool.not_eq_eq_eq_not, Bool.not_true,
        decide_eq_false_iff_not]
      constructor
      · rintro ⟨kept, ⟨member, different⟩, rfl, isDirection⟩
        exact ⟨⟨kept, member, rfl, isDirection⟩, different⟩
      · rintro ⟨⟨kept, member, rfl, isDirection⟩, different⟩
        exact ⟨kept, ⟨member, different⟩, rfl, isDirection⟩

/-- What is removed was there. -/
theorem has_of_destroyed (readable : store.Readable)
    (removed : (store.destroy id).result = .ok direction) : store.Has id direction := by
  obtain ⟨object, member, named, ofDirection, -⟩ := Accounted.destroy_ok readable removed
  exact ⟨object, member, named, ofDirection⟩

end RecordStore

namespace Server

/-! ## Requests and responses -/

variable {requests further : List (List UInt8)} {responses earlier later : List Numbered}
  {store between final : RecordStore} {number : Nat} {id : ObjectId} {direction : Direction}
  {answer : Numbered}

/-- The request of that number posts an object to a direction. -/
def Posts (requests : List (List UInt8)) (number : Nat) (direction : Direction) : Prop :=
  ∃ octets, requests[number]? = some octets ∧ postedTo? octets = some direction

/-- The request of that number asks for an object to be released. -/
def Deletes (requests : List (List UInt8)) (number : Nat) (id : ObjectId) : Prop :=
  ∃ octets, requests[number]? = some octets ∧ deleted? octets = some id

/-- A response tells that an object was released: it is a success, and answers such a request. -/
def Releases (requests : List (List UInt8)) (id : ObjectId) (answer : Numbered) : Prop :=
  answer.2.status = 200 ∧ Deletes requests answer.1 id

/-- A response tells that an object was created, or that one was released. -/
def Tells (requests : List (List UInt8)) (answer : Numbered) : Prop :=
  answer.2.status = 201 ∨ ∃ id, Releases requests id answer

/-- Responses tell what becomes of a store: those that tell that an object was created or released
answer a request for it, and the others leave the store as it is. -/
inductive Explains (requests : List (List UInt8)) :
    RecordStore → List Numbered → RecordStore → Prop where
  | nothing {store : RecordStore} : Explains requests store [] store
  | created {store between final : RecordStore} {number : Nat} {id : ObjectId}
      {direction : Direction} {later : List Numbered} :
      Posts requests number direction → Store.Gains direction id store between →
      Explains requests between later final →
      Explains requests store ((number, .line 201 id.text) :: later) final
  | released {store final : RecordStore} {number : Nat} {id : ObjectId} {direction : Direction}
      {later : List Numbered} :
      Deletes requests number id → (store.destroy id).result = .ok direction →
      Explains requests (store.destroy id).store later final →
      Explains requests store ((number, .released id direction) :: later) final
  | other {store final : RecordStore} {answer : Numbered} {later : List Numbered} :
      answer.1 < requests.length → ¬ Tells requests answer →
      Explains requests store later final → Explains requests store (answer :: later) final

/-- A response told that the object was created, in answer to a request that posted it to the
direction, and no response since that it was released. -/
def Stands (requests : List (List UInt8)) (responses : List Numbered) (id : ObjectId)
    (direction : Direction) : Prop :=
  ∃ before number after, responses = before ++ (number, .line 201 id.text) :: after ∧
    Posts requests number direction ∧ ∀ answer ∈ after, ¬ Releases requests id answer

theorem Posts.unique {other : Direction} (posts : Posts requests number direction)
    (also : Posts requests number other) : direction = other := by
  obtain ⟨octets, isRequest, isPosted⟩ := posts
  obtain ⟨same, isSame, alsoPosted⟩ := also
  cases isRequest.symm.trans isSame
  exact Option.some.inj (isPosted.symm.trans alsoPosted)

theorem Deletes.unique {other : ObjectId} (deletes : Deletes requests number id)
    (also : Deletes requests number other) : id = other := by
  obtain ⟨octets, isRequest, isDeleted⟩ := deletes
  obtain ⟨same, isSame, alsoDeleted⟩ := also
  cases isRequest.symm.trans isSame
  exact Option.some.inj (isDeleted.symm.trans alsoDeleted)

/-- The first response tells that the object was created, or it was created later. -/
theorem stands_cons_iff : Stands requests (answer :: later) id direction ↔
    (answer.2 = .line 201 id.text ∧ Posts requests answer.1 direction ∧
      ∀ other ∈ later, ¬ Releases requests id other) ∨ Stands requests later id direction := by
  constructor
  · rintro ⟨_ | ⟨first, before⟩, number, after, split, posts, kept⟩
    · cases split
      exact Or.inl ⟨rfl, posts, kept⟩
    · rw [List.cons_append, List.cons.injEq] at split
      exact Or.inr ⟨before, number, after, split.2, posts, kept⟩
  · rintro (⟨isCreated, posts, kept⟩ | ⟨before, number, after, rfl, posts, kept⟩)
    · exact ⟨[], answer.1, later, by rw [← isCreated]; rfl, posts, kept⟩
    · exact ⟨answer :: before, number, after, rfl, posts, kept⟩

/-- A response that an object was created tells which one it is. -/
theorem created_eq_iff {other : ObjectId} :
    Response.line 201 other.text = .line 201 id.text ↔ id = other := by
  constructor
  · intro same
    have texts : other.text ++ "\n" = id.text ++ "\n" :=
      Content.text.inj (Option.some.inj (congrArg Response.body same))
    have characters := congrArg String.toList texts
    rw [String.toList_append, String.toList_append] at characters
    exact (ObjectId.text_injective (String.toList_injective
      (List.append_cancel_right characters))).symm
  · rintro rfl
    rfl

theorem status_released (id : ObjectId) (direction : Direction) :
    (Response.released id direction).status = 200 := rfl

theorem status_line (status : Nat) (text : String) : (Response.line status text).status = status :=
  rfl

/-- A response with another status does not tell of a creation. -/
theorem ne_created {response : Response} (different : response.status ≠ 201) (id : ObjectId) :
    response ≠ .line 201 id.text := by
  intro same
  rw [same] at different
  exact different (status_line 201 _)

/-! ## Requests that come later -/

theorem getElem?_more {octets : List UInt8} (isRequest : requests[number]? = some octets)
    (further : List (List UInt8)) : (requests ++ further)[number]? = some octets := by
  obtain ⟨known, -⟩ := List.getElem?_eq_some_iff.mp isRequest
  rw [List.getElem?_append_left known, isRequest]

theorem Posts.more (posts : Posts requests number direction) (further : List (List UInt8)) :
    Posts (requests ++ further) number direction := by
  obtain ⟨octets, isRequest, isPosted⟩ := posts
  exact ⟨octets, getElem?_more isRequest further, isPosted⟩

theorem Posts.known (posts : Posts requests number direction) : number < requests.length := by
  obtain ⟨octets, isRequest, -⟩ := posts
  exact (List.getElem?_eq_some_iff.mp isRequest).1

theorem Deletes.more (deletes : Deletes requests number id) (further : List (List UInt8)) :
    Deletes (requests ++ further) number id := by
  obtain ⟨octets, isRequest, isDeleted⟩ := deletes
  exact ⟨octets, getElem?_more isRequest further, isDeleted⟩

/-- What a response tells does not depend on requests after the one that it answers. -/
theorem Tells.known (tells : Tells (requests ++ further) answer)
    (known : answer.1 < requests.length) : Tells requests answer := by
  refine tells.imp_right ?_
  rintro ⟨id, isSuccess, octets, isRequest, isDeleted⟩
  rw [List.getElem?_append_left known] at isRequest
  exact ⟨id, isSuccess, octets, isRequest, isDeleted⟩

/-- A response that tells of an error tells of no object. -/
theorem not_tells_of_error (isError : 400 ≤ answer.2.status) : ¬ Tells requests answer := by
  rintro (isCreated | ⟨id, isSuccess, -⟩) <;> omega

namespace Explains

theorem trans (first : Explains requests store earlier between)
    (second : Explains requests between later final) :
    Explains requests store (earlier ++ later) final := by
  induction first with
  | nothing => exact second
  | created posts gains _ induction => exact .created posts gains (induction second)
  | released deletes removed _ induction => exact .released deletes removed (induction second)
  | other known untold _ induction => exact .other known untold (induction second)

/-- Requests that come later do not change what responses tell. -/
theorem more (explains : Explains requests store responses final) (further : List (List UInt8)) :
    Explains (requests ++ further) store responses final := by
  induction explains with
  | nothing => exact .nothing
  | created posts gains _ induction => exact .created (posts.more further) gains induction
  | released deletes removed _ induction =>
      exact .released (deletes.more further) removed induction
  | other known untold _ induction =>
      have stillKnown := known.trans_le (List.prefix_append _ further).length_le
      exact .other stillKnown (fun tells => untold (tells.known known)) induction

/-- A store is as it was if no response tells of an object. -/
theorem same (explains : Explains requests store responses final)
    (untold : ∀ answer ∈ responses, ¬ Tells requests answer) : final = store := by
  induction explains with
  | nothing => rfl
  | created posts gains later induction => exact absurd (Or.inl rfl) (untold _ List.mem_cons_self)
  | released deletes removed later induction =>
      exact absurd (Or.inr ⟨_, rfl, deletes⟩) (untold _ List.mem_cons_self)
  | other known isUntold later induction =>
      exact induction fun answer member => untold answer (List.mem_cons_of_mem _ member)

/-- What is stored was created and has not been released since, or was there before and has not
been released.  An object of which the first response tells is one that the store has before the
others, and those may yet tell that it was released. -/
theorem has_iff (explains : Explains requests store responses final) :
    final.Has id direction ↔ Stands requests responses id direction ∨
      store.Has id direction ∧ ∀ answer ∈ responses, ¬ Releases requests id answer := by
  induction explains with
  | nothing => simp [Stands]
  | @created store between final number other own later posts gains explains induction =>
      have notReleased : ¬ Releases requests id (number, .line 201 other.text) := fun releases =>
        absurd ((status_line 201 _).symm.trans releases.1) (by decide)
      have isOwn : (id = other ∧ direction = own) ↔
          (id = other ∧ Posts requests number direction) :=
        and_congr_right fun _ => ⟨by rintro rfl; exact posts, fun also => also.unique posts⟩
      rw [induction, stands_cons_iff, RecordStore.has_gained_iff gains, List.forall_mem_cons,
        created_eq_iff, isOwn, or_and_right, and_assoc, or_assoc]
      simp only [notReleased, not_false_eq_true, true_and]
      exact or_rotate.symm
  | @released store final number other own later deletes removed explains induction =>
      have isReleased : Releases requests id (number, .released other own) ↔ id = other :=
        ⟨fun releases => releases.2.unique deletes,
          by rintro rfl; exact ⟨status_released _ _, deletes⟩⟩
      have different : (Response.released other own).status ≠ 201 := by
        rw [status_released]
        decide
      have notCreated := ne_created different id
      rw [induction, stands_cons_iff, RecordStore.has_destroyed_iff removed, List.forall_mem_cons,
        isReleased, and_assoc]
      simp only [notCreated, false_and, false_or]
  | @other store final answer later known untold explains induction =>
      have notReleased : ¬ Releases requests id answer := fun releases =>
        untold (Or.inr ⟨id, releases⟩)
      have notCreated := ne_created (fun same => untold (Or.inl same)) id
      rw [induction, stands_cons_iff, List.forall_mem_cons]
      simp only [notReleased, notCreated, not_false_eq_true, true_and, false_and, false_or]

end Explains

end Server

end Admission
