import Admission.Proofs.Server.Mirrors
import Admission.Proofs.Store.Opened

/-!
# What a server keeps

A server over a store that was opened stays `InOrder`: all capacities can be told, the tables can
be read, the ledger is well formed, and no requisition asks for less than nothing.  Whatever a
server comes to is in order (`Server.Reaches.inOrder`), because traffic comes to the same.
-/

namespace Admission

section Traffic

variable {σ : Type} [Store σ] {before after : Traffic σ}

/-- What creating and destroying objects keep true of a store is kept by an aside. -/
theorem Aside.keeps_store {holds : σ → Prop}
    (create : ∀ store id object, holds store → holds (Store.create store id object).store)
    (destroy : ∀ store id, holds store → holds (Store.destroy store id).store)
    (aside : Aside before after) (held : holds before.controller.store) :
    holds after.controller.store := by
  cases aside with
  | attend | size | clear | interrupt | abandon => exact held
  | createEmpty _ _ done | createRefused done | store _ _ done | storeRefused _ done =>
      obtain ⟨-, rfl⟩ := Action.tryChange_eq_ok done
      exact create _ _ _ held
  | remove done | removeRefused done =>
      obtain ⟨-, rfl⟩ := Action.tryChange_eq_ok done
      exact destroy _ _ held

/-- What creating and destroying objects keep true of a store is true at any time. -/
theorem Traffic.Reaches.keeps_store {holds : σ → Prop}
    (create : ∀ store id object, holds store → holds (Store.create store id object).store)
    (destroy : ∀ store id, holds store → holds (Store.destroy store id).store)
    (reached : before.Reaches after) (held : holds before.controller.store) :
    holds after.controller.store := by
  induction reached with
  | refl => exact held
  | tail _ last induction =>
      cases last with
      | aside aside => exact aside.keeps_store create destroy induction
      | turn glimpsed turn =>
          obtain ⟨direction, came, gone, effect⟩ := turn.effect
          rw [effect.store]
          have asides := glimpsed.meanwhile
          clear effect turn glimpsed
          induction asides with
          | refl => exact induction
          | tail _ aside later => exact aside.keeps_store create destroy later

theorem Orderly.comes [Accounted σ] {limits : Direction → Medium → Int}
    (orderly : Orderly limits before) (reached : before.Reaches after) : Orderly limits after := by
  induction reached with
  | refl => exact orderly
  | tail _ last induction => exact induction.step last

end Traffic

namespace Server

variable {limits : RecordStore.Limits} {base : RecordStore} {path : String}
  {slots : Nat} {chance : UInt64} {server : Server RecordStore}

/-- What is true of a server at any time, if its store was opened with some capacities. -/
structure InOrder (limits : RecordStore.Limits) (server : Server RecordStore) : Prop where
  opened : server.controller.store.Opened limits
  readable : server.controller.store.Readable
  ledger : server.controller.ledger.WellFormed
  valid : ∀ direction, ∀ requisition ∈ server.controller.ledger.queue direction,
    ∀ medium, 0 ≤ requisition.need medium

/-- A server whose store could be opened is in order, whatever happens there. -/
theorem Reaches.inOrder (readable : base.Readable)
    (opened : (base.openWith path limits).result = .ok ())
    (apart : ∀ count, (IdSupply.start chance).nth count ∉ base.objects.map ObjectRow.id)
    (reached : (start (base.openWith path limits).store slots chance).Reaches server) :
    server.InOrder limits := by
  let store := (base.openWith path limits).store
  have sound : store.Readable := readable.openWith path limits
  have names : store.contents.map StoredObject.id = base.objects.map ObjectRow.id :=
    base.ids_openWith path limits
  have unique : (store.contents.map StoredObject.id).Nodup := names ▸ readable.unique
  have begins := mirrors_start store slots chance (names ▸ apart)
  obtain ⟨traffic, reaches, mirrors⟩ := begins.reaches reached
  have orderly := (Orderly.stocked sound unique slots).comes reaches
  have kept := reaches.keeps_store (fun _ id object isOpened => isOpened.create id object)
    (fun _ id isOpened => isOpened.destroy id) (RecordStore.opened_openWith opened)
  exact ⟨mirrors.controller ▸ kept, mirrors.controller ▸ orderly.sound,
    mirrors.controller ▸ orderly.ledger, mirrors.controller ▸ orderly.valid⟩

end Server

end Admission
