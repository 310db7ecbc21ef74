import Gascan.Daemon.Apply

/-!
# `Gascan.Proofs.Loops`: the loops and the failing ends of the service

The create loops of `up_runtime` and `replace_image` prepare a new request after each attempt that
collided with a port. The rules here reduce a loop to one attempt, in any environment. The programs
that undo or report a failure never return (`Throws`).
-/

namespace Gascan.Service

open Lib Lib.Prog

section

variable {α W X : Type} {perf : (c : Cmd) → X → W → Reply c × W} {env : Prog.Env Cmd W X}
  {G : W → W → Prop} {E : ServiceError → W → Prop} {I : W → Prop} {w : W}

variable (image : String) (spec : SandboxSpec) (capabilities : RuntimeCapabilities)

theorem wp_prepareCreate {k : Option PreparedSshCreate → CreateRequest → Svc α} {Q : α → W → Prop}
    (hprepare : ∀ w, I w → (prepareSshCreate spec).wp perf env G (fun _ => I) E w)
    (hpolicy : ∀ error w, I w → E (.policy error) w) (hk : ∀ prepared create w, compilePolicy
      image spec capabilities prepared = .ok create → I w → (k prepared create).wp perf env G Q E
      w) (h : I w) :
    (do
      let prepared ← prepareSshCreate spec
      let create ← ofPolicy (compilePolicy image spec capabilities prepared)
      k prepared create).wp perf env G Q E w := by
  refine wp_seq (hprepare w h) fun prepared w1 h1 => ?_
  cases hcompile : compilePolicy image spec capabilities prepared with
  | error error => exact hpolicy error w1 h1
  | ok create => exact hk prepared create w1 hcompile h1

/-- The create loop of `up_runtime`, from a rule for one pass. `I` is what holds when a pass begins.
-/
theorem wp_createLoop (storage : StorageCapacities) {Q : CreateOutcome × CreateRequest → W → Prop}
    (hprepare : ∀ w, I w → (prepareSshCreate spec).wp perf env G (fun _ => I) E w)
    (hpolicy : ∀ error w, I w → E (.policy error) w)
    (hunavailable : ∀ message w, I w → E (.sshPortUnavailable message) w) (honce : ∀ retries
      prepared create again w, compilePolicy image spec capabilities prepared = .ok create → I w →
      (∀ w', I w' → again.wp perf env G Q E w') → (createOnce spec storage retries prepared create
      again).wp perf env G Q E w) (retries : Nat) {prepared : Option PreparedSshCreate}
    {create : CreateRequest}
    (hcompile : compilePolicy image spec capabilities prepared = .ok create) (h : I w) :
    (createLoop image spec capabilities storage retries prepared create).wp perf env G Q E w := by
  induction retries generalizing prepared create w with
  | zero => exact honce 0 prepared create _ w hcompile h fun w1 h1 => hunavailable _ w1 h1
  | succ retries ih =>
    refine honce (retries + 1) prepared create _ w hcompile h fun w1 h1 => ?_
    exact wp_prepareCreate image spec capabilities hprepare hpolicy
      (fun _ _ _ hagain h2 => ih hagain h2) h1

end

/-! ### Endings in an error -/

variable {α : Type}

/-- The program never returns. -/
abbrev Throws (p : Svc α) : Prop := p.Yields fun _ => False

variable (id : SandboxId)

theorem throws_rollbackCreated (outcome : CreateOutcome) (original : ServiceError) :
    Throws (rollbackCreated id outcome original : Svc α) := by
  refine yields_bind_right fun undone => ?_
  split <;> trivial

theorem throws_unsettle (created : Option CreateOutcome) (error : ServiceError) :
    Throws (unsettle id created error : Svc α) := by
  unfold unsettle
  split
  · trivial
  · split
    · exact throws_rollbackCreated id _ error
    · exact yields_bind_right fun _ => trivial

theorem throws_reportFailure (o : OperationId) (actual : ActualState) (code : String)
    (details : Json) (error : ServiceError) :
    Throws (reportFailure o actual code details error : Svc α) := by
  refine yields_bind_right fun failed => ?_
  cases failed with
  | error reporting => trivial
  | ok =>
    refine yields_bind_right fun sent => ?_
    cases sent <;> trivial

theorem throws_failUp (spec : SandboxSpec) (o : OperationId) (error : ServiceError) :
    Throws (failUp spec o error : Svc α) :=
  yields_bind_right fun _ => throws_reportFailure _ _ _ _ _

theorem withProvisioned_id (record : SandboxRecord) (fingerprint : String)
    (provisioned : Option ProvisionedResolution) :
    (withProvisioned record fingerprint provisioned).id = record.id := by
  cases provisioned <;> rfl

end Gascan.Service
