import Gascan.Proofs.Loops
import Gascan.Proofs.Policy
import Gascan.Proofs.Request
import Gascan.Proofs.Rules
import Gascan.Proofs.RuntimeFrame

/-!
# `Gascan.Proofs.Exclusive`: a request that has its sandbox to itself

The rules here are about what a program leaves when it succeeds. Every command may fail in every
way. Others may do anything, except that they leave the row and the operations of the sandbox alone,
and do not remove its container or make another one. That is what the lock of a sandbox is for.
-/

namespace Gascan

open Lib Service

/-- Others leave the row, the operations and the container of the sandbox alone. -/
def Exclusive (id : SandboxId) (w w' : World) : Prop :=
  Undisturbed id w w' ∧ w'.runtime.made id = w.runtime.made id

/-- The environment of a program that has the sandbox to itself. -/
def exclusiveEnv (id : SandboxId) : Prog.Env Cmd World Choice where
  rely := Exclusive id
  allows _ _ _ := True

/-- What holds whenever the program succeeds. -/
abbrev Leaves {α : Type} (id : SandboxId) (p : Svc α) (Q : α → World → Prop) (w : World) : Prop :=
  p.wp perform (exclusiveEnv id) (fun _ _ => True) Q (fun _ _ => True) w

/-- Others do not change the condition. -/
def Kept (id : SandboxId) (I : World → Prop) : Prop := ∀ w w', Exclusive id w w' → I w → I w'

variable {α β : Type} {id : SandboxId} {w w' : World} {I : World → Prop}

theorem exclusive_refl (id : SandboxId) (w : World) : Exclusive id w w :=
  ⟨fun hinv => ⟨hinv, .refl id _⟩, rfl⟩

variable {P : Option CreateRequest → Prop} {p : Svc α} {Q : α → World → Prop}

theorem kept_made : Kept id fun w => P (w.runtime.made id) := by
  intro w w' h hw
  show P (w'.runtime.made id)
  rw [h.2]
  exact hw

theorem kept_row {P : Option SandboxRow → Prop} :
    Kept id fun w => w.store.Inv ∧ P (w.store.row? id) := by
  intro w w' h hw
  obtain ⟨hinv, halike⟩ := h.1 hw.1
  exact ⟨hinv, halike.row.symm ▸ hw.2⟩

theorem kept_sandbox {P : Option SandboxRecord → Prop} :
    Kept id fun w => w.store.Inv ∧ P (w.store.sandbox id) := by
  intro w w' h hw
  obtain ⟨hinv, halike⟩ := h.1 hw.1
  exact ⟨hinv, halike.sandbox.symm ▸ hw.2⟩

/-! ### Rules -/

/-- A program that never returns leaves whatever one likes. -/
theorem leaves_of_throws (hp : Throws p) : Leaves id p Q w := by
  induction p generalizing w with
  | pure a => exact hp.elim
  | throw e => trivial
  | call c k ih => exact fun w1 _ x _ => ⟨trivial, ih _ (hp _)⟩

theorem leaves_any (p : Svc α) : Leaves id p (fun _ _ => True) w := by
  induction p generalizing w with
  | pure a => trivial
  | throw e => trivial
  | call c k ih => exact fun w1 _ x _ => ⟨trivial, ih _⟩

theorem leaves_inv (p : Svc α) (h : w.store.Inv) : Leaves id p (fun _ w' => w'.store.Inv) w := by
  induction p generalizing w with
  | pure a => exact h
  | throw e => trivial
  | call c k ih => exact fun w1 hrely x _ => ⟨trivial, ih _ (perform_inv (hrely.1 h).1 c x)⟩

theorem leaves_of_uses {P : Cmd → Prop} (hp : p.Uses P) (hI : Kept id I)
    (hP : ∀ c x w, P c → I w → I (perform c x w).2) (h : I w) : Leaves id p (fun _ => I) w :=
  Prog.wp_imp_error (fun _ _ _ => trivial)
    (Prog.wp_of_uses hp (fun w w' hrely => hI w w' hrely)
      (fun c x w hc hw _ => ⟨trivial, hP c x w hc hw⟩) h)

variable {M : α → World → Prop}

/-- A step whose failure ends the program. -/
theorem leaves_seq {f : α → Svc β} {Q : β → World → Prop} (hp : Leaves id p M w)
    (hf : ∀ a w', M a w' → Leaves id (f a) Q w') : Leaves id (p.bind f) Q w :=
  Prog.wp_seq hp hf

theorem leaves_handle {f : Except ServiceError α → Svc β} {Q : β → World → Prop}
    (hp : Leaves id p M w) (hf : ∀ a w', M a w' → Leaves id (f (.ok a)) Q w')
    (herror : ∀ e, Throws (f (.error e))) : Leaves id (p.attempt.bind f) Q w :=
  Prog.wp_handle hp hf fun e _ _ => leaves_of_throws (herror e)

theorem leaves_yields {φ : α → Prop} (hp : p.Yields φ) (h : Leaves id p Q w) :
    Leaves id p (fun a w' => Q a w' ∧ φ a) w :=
  Prog.wp_yields hp h

theorem leaves_call {c : Cmd} {k : Reply c → Svc α} (hI : Kept id I) (h : I w)
    (hk : ∀ x w r w', I w → perform c x w = (r, w') → Leaves id (k r) Q w') :
    Leaves id (.call c k) Q w := by
  intro w1 hrely x _
  exact ⟨trivial, hk x w1 (perform c x w1).1 (perform c x w1).2 (hI w w1 hrely h) rfl⟩

theorem leaves_database {op : StoreOp} {send : op.Result → Option OperationEvent}
    {Q : op.Result → World → Prop} (hI : Kept id I) (h : I w)
    (hok : ∀ w now result store, I w → op.run w.store now = .ok (result, store) →
      Q result { w with store }) :
    Leaves id (databaseAndSend op send) Q w :=
  wp_transaction (fun w1 hrely now result store hrun =>
    ⟨trivial, hok w1 now result store (hI w w1 hrely h) hrun⟩) fun _ _ _ => ⟨trivial, trivial⟩

theorem leaves_steady {own : Option OperationId} (hp : p.Uses (Cmd.Steady id own))
    (h : P (w.runtime.made id)) : Leaves id p (fun _ w' => P (w'.runtime.made id)) w :=
  leaves_of_uses hp kept_made
    (fun _ x w hc hw => (perform_made_of_steady hc x w id).symm ▸ hw) h

theorem leaves_store (hp : p.Uses fun c => ∃ op send, c = .store op send)
    (h : P (w.runtime.made id)) : Leaves id p (fun _ w' => P (w'.runtime.made id)) w := by
  refine leaves_of_uses hp kept_made (fun c x w hc hw => ?_) h
  obtain ⟨op, send, rfl⟩ := hc
  rw [perform_runtime_of_store]
  exact hw

theorem leaves_inspect (h : P (w.runtime.made id)) :
    Leaves id (inspect id) (fun inspected w' => P (w'.runtime.made id) ∧
      inspected.map (fun runtime => (runtime.image, runtime.ports)) =
        (w'.runtime.made id).map fun request => (request.image, request.ports)) w := by
  refine leaves_call kept_made h fun x w1 (r : Except RuntimeError (Option RuntimeSandbox)) w2 h1
    hperform => ?_
  have hperform : (orElseOk (x.fault.map (·.error))
    ((w1.runtime.container? id).map Runtime.observe),
      w1) = (r, w2) := hperform
  obtain ⟨rfl, rfl⟩ := Prod.mk.inj hperform
  cases x.fault with
  | some fault => trivial
  | none =>
    refine ⟨h1, ?_⟩
    rw [Option.map_map, Runtime.made, Option.map_map]
    rfl

end Gascan
