import Gascan.Proofs.Footprint

/-!
# `Gascan.Proofs.Rules`: weakest preconditions of the requests of the service

The rules hold in every environment in which the transactions of the store do not fail for a reason
outside the store (`StoreWorks`). A transaction then does what its model does. Reading leaves the
world as it is.
-/

namespace Gascan

open Lib

/-- No transaction fails for a reason outside the store. -/
def StoreWorks (env : Prog.Env Cmd World Choice) : Prop :=
  ∀ op send x w, env.allows (.store op send) x w → x.storeFault = none

namespace Service

variable {α : Type} {env : Prog.Env Cmd World Choice} {G : World → World → Prop}
  {E : ServiceError → World → Prop} {w : World}

variable {op : StoreOp} {send : op.Result → Option OperationEvent} {Q : op.Result → World → Prop}

/-- The rule for a transaction that may fail for any reason. One that fails changes nothing. -/
theorem wp_transaction
    (hok : ∀ w1, env.rely w w1 → ∀ now result store, op.run w1.store now = .ok (result, store) →
      G w1 { w1 with store } ∧ Q result { w1 with store })
    (herror : ∀ w1, env.rely w w1 → ∀ error, G w1 w1 ∧ E error w1) :
    (databaseAndSend op send).wp perform env G Q E w := by
  intro w1 hrely x _
  exact performStore_induction
    (P := fun r w2 => G w1 w2 ∧ (Prog.ofExcept r).wp perform env G Q E w2) (hok w1 hrely)
    (herror w1 hrely) x

theorem wp_database (henv : StoreWorks env) (hok : ∀ w1, env.rely w w1 → ∀ now result store,
      op.run w1.store now = .ok (result, store) → G w1 { w1 with store } ∧ Q result { w1 with
      store }) (herror : ∀ w1, env.rely w w1 → ∀ now error, op.run w1.store now = .error error → G
      w1 w1 ∧ E (.store error) w1) : (databaseAndSend op send).wp perform env G Q E w := by
  intro w1 hrely x hallows
  have hfault := henv op send x w1 hallows
  show G w1 (performStore op x w1).2 ∧
    (Prog.ofExcept (performStore op x w1).1).wp perform env G Q E (performStore op x w1).2
  unfold performStore
  rw [hfault]
  dsimp only
  cases hrun : op.run w1.store x.now with
  | ok result => exact hok w1 hrely x.now result.1 result.2 hrun
  | error error => exact herror w1 hrely x.now error hrun

theorem wp_database_ok (henv : StoreWorks env) (h : ∀ w1, env.rely w w1 → ∀ now, ∃ result store,
      op.run w1.store now = .ok (result, store) ∧ G w1 { w1 with store } ∧ Q result { w1 with
      store }) : (databaseAndSend op send).wp perform env G Q E w := by
  refine wp_database henv (fun w1 hrely now result store hrun => ?_)
    fun w1 hrely now error hrun => ?_
  · obtain ⟨result', store', hrun', hpost⟩ := h w1 hrely now
    rw [hrun'] at hrun
    obtain ⟨rfl, rfl⟩ := Prod.mk.inj (Except.ok.inj hrun)
    exact hpost
  · obtain ⟨result', store', hrun', -⟩ := h w1 hrely now
    rw [hrun'] at hrun
    cases hrun

theorem wp_read (henv : StoreWorks env) {read : Store → op.Result}
    (hop : ∀ s now, op.run s now = .ok (read s, s))
    (h : ∀ w1, env.rely w w1 → G w1 w1 ∧ Q (read w1.store) w1) :
    (databaseAndSend op send).wp perform env G Q E w :=
  wp_database_ok henv fun w1 hrely now => ⟨_, _, hop w1.store now, h w1 hrely⟩

theorem wp_loadRecord (henv : StoreWorks env) {id : SandboxId} {Q : SandboxRecord → World → Prop}
    (h : ∀ w1, env.rely w w1 → G w1 w1 ∧
      match w1.store.sandbox id with
      | some record => Q record w1
      | none => E (.missing id) w1) :
    (loadRecord id).wp perform env G Q E w := by
  refine (Prog.wp_bind _ _).2 (wp_read henv (fun _ _ => rfl) fun w1 hrely => ?_)
  obtain ⟨hg, hpost⟩ := h w1 hrely
  refine ⟨hg, ?_⟩
  cases hrecord : w1.store.sandbox id with
  | some record =>
    rw [hrecord] at hpost
    exact hpost
  | none =>
    rw [hrecord] at hpost
    exact hpost

end Service

end Gascan
