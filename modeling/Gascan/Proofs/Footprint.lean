import Gascan.Daemon.Apply
import Gascan.Daemon.Recover
import Gascan.Proofs.StoreFrame

/-!
# `Gascan.Proofs.Footprint`: which commands the steps of the service use

The programs that read, verify, publish and withdraw SSH endpoints use only `Cmd.Light` commands,
which leave the container runtime alone and write only the SSH resolution of a sandbox and the event
log. Those that start, stop and provision containers use `Cmd.Steady` commands, which create and
remove nothing. The rest still keep every state and operation of the store (`Cmd.Keeps`).
-/

namespace Gascan

open Lib

/-- The commands that change neither the runtime nor the state of a sandbox or its operations, that
write at most the SSH resolution of the sandbox `id` and the log of the operation `own`, and that
send what they log. -/
def Cmd.Light (id : SandboxId) (own : Option OperationId) : Cmd → Prop
  | .store op send => op.Keeps id own ∧ send = op.news
  | .create _ | .createContainer _ | .start _ | .stop _ | .remove _ | .exec .. | .provision .. =>
    False
  | _ => True

/-- The commands that besides start and stop containers and run guest commands, but create and
remove nothing. -/
def Cmd.Steady (id : SandboxId) (own : Option OperationId) : Cmd → Prop
  | .store op send => op.Keeps id own ∧ send = op.news
  | .create _ | .createContainer _ | .remove _ => False
  | _ => True

variable {id : SandboxId} {own : Option OperationId}

variable {c : Cmd}

theorem Cmd.Light.steady (h : c.Light id own) : c.Steady id own := by
  cases c <;> first | exact h | trivial

theorem Cmd.Steady.keeps (h : c.Steady id own) : c.Keeps id own := by
  cases c <;> first | exact h | trivial

theorem Cmd.Light.widen (h : c.Light id none) : c.Light id own := by
  cases c with
  | store op send =>
    cases op with
    | appendOperationEvent o details => exact absurd h.1 nofun
    | _ => exact h
  | _ => exact h

/-- A class of commands with everything that reads and publishes for the sandbox `id`, and that
starts and stops containers. -/
structure Cmd.Lifecycle (id : SandboxId) (P : Cmd → Prop) : Prop where
  light : ∀ c : Cmd, c.Light id none → P c
  start : ∀ id', P (.start id')
  stop : ∀ id', P (.stop id')

/-- A class of commands that besides replaces containers, and removes the resources in `R`. -/
structure Cmd.Replacing (id : SandboxId) (R : RuntimeResource → Prop) (P : Cmd → Prop) : Prop
    extends Cmd.Lifecycle id P where
  createContainer : ∀ request, P (.createContainer request)
  remove : ∀ request, (∀ resource ∈ request.resources, R resource) → P (.remove request)

/-- A class of commands that provisions a guest for the operation `o`. -/
structure Cmd.Provisioning (id : SandboxId) (o : OperationId) (P : Cmd → Prop) : Prop
    extends Cmd.Lifecycle id P where
  exec : ∀ id' command, P (.exec id' command)
  provision : ∀ spec create, P (.provision spec create)
  step : ∀ step, P (.store (.appendOperationEvent o
    (.obj [("phase", .str "provision_step"), ("step", .str step)])) some)

theorem Cmd.lifecycle_steady (id : SandboxId) (own : Option OperationId) :
    Cmd.Lifecycle id (Cmd.Steady id own) :=
  ⟨fun _ h => h.widen.steady, fun _ => trivial, fun _ => trivial⟩

theorem Cmd.provisioning_steady (id : SandboxId) (o : OperationId) :
    Cmd.Provisioning id o (Cmd.Steady id (some o)) :=
  { Cmd.lifecycle_steady id (some o) with
    exec := fun _ _ => trivial
    provision := fun _ _ => trivial
    step := fun _ => ⟨rfl, rfl⟩ }

theorem Cmd.replacing_keeps (id : SandboxId) (own : Option OperationId) :
    Cmd.Replacing id (fun _ => True) (Cmd.Keeps id own) :=
  { light := fun _ h => h.widen.steady.keeps
    start := fun _ => trivial
    stop := fun _ => trivial
    createContainer := fun _ => trivial
    remove := fun _ _ => trivial }

theorem perform_runtime_of_light (hc : c.Light id own) (x : Choice) (w : World) :
    (perform c x w).2.runtime = w.runtime := by
  cases c with
  | store op send => exact perform_runtime_of_store op send x w
  | commitFiles hosts =>
    simp only [perform]
    split <;> rfl
  | create | createContainer | start | stop | remove | exec => exact hc.elim
  | _ => rfl

namespace Service

open Prog
open Cmd (Light Steady Keeps Lifecycle Replacing Provisioning)

variable {α : Type} {P : Cmd → Prop} {R : RuntimeResource → Prop} {sandbox : SandboxId}
  {own : Option OperationId}

/-! ### Requests -/

theorem uses_database {op : StoreOp} {send : op.Result → Option OperationEvent}
    (hop : P (.store op send)) : (databaseAndSend op send).Uses P :=
  ⟨hop, fun _ => uses_ofExcept _⟩

theorem uses_ofRuntime (result : Except RuntimeError α) : (ofRuntime result).Uses P :=
  uses_ofExcept _

variable {publication : Option OperationId} {failure : CreateFailure} (spec : SandboxSpec)
  (id : SandboxId) (image : String) (record : SandboxRecord) (create : CreateRequest)
  (prior : Option Resolution) (runtime : RuntimeSandbox) (o : OperationId)

theorem light_inspect : (inspect id).Uses (Light sandbox own) :=
  ⟨trivial, fun _ => uses_ofRuntime _⟩

theorem light_listResources :
    listResources.Uses (Light sandbox own) := ⟨trivial, fun _ => uses_ofRuntime _⟩

theorem light_inspectPresent : (inspectPresent id).Uses (Light sandbox own) := by
  refine uses_bind (light_inspect id) fun inspected => ?_
  cases inspected <;> trivial

theorem uses_requireOwned (id : SandboxId) : (requireOwned runtime id).Uses P := by
  unfold requireOwned
  split <;> trivial

variable {p : Svc α} {resources : List RuntimeResource} (details : Json)
  (expected : Option Resolution) (result : Except ServiceError Unit)
  (resolution : Option Resolution) (prepared : Option PreparedSshCreate)
  (capabilities : RuntimeCapabilities) (retained : RetainedResources)

theorem light_emit : (emit o details).Uses (Light sandbox (some o)) :=
  uses_bind (uses_database ⟨rfl, rfl⟩) fun _ => trivial

theorem light_loadRecord : (loadRecord id).Uses (Light sandbox own) := by
  refine uses_bind (uses_database ⟨trivial, rfl⟩) fun (record : Option SandboxRecord) => ?_
  cases record <;> trivial

/-! ### SSH -/

theorem light_hostIdentity :
    hostIdentity.Uses (Light sandbox own) := ⟨trivial, fun _ => uses_ofExcept _⟩

theorem light_activeHosts :
    activeHosts.Uses (Light sandbox own) := ⟨trivial, fun _ => uses_ofExcept _⟩

theorem light_prepareFiles (hosts : List ActiveSsh) :
    (prepareFiles hosts).Uses (Light sandbox own) :=
  ⟨trivial, fun _ => uses_ofExcept _⟩

theorem light_commitFiles (hosts : List ActiveSsh) :
    (commitFiles hosts).Uses (Light sandbox own) :=
  ⟨trivial, fun _ => uses_ofExcept _⟩

theorem light_verifiedManagedHost (identity : HostIdentity) :
    (verifiedManagedHost id expected identity).Uses (Light sandbox own) := by
  refine uses_bind (light_inspectPresent id) fun inspected => ?_
  refine uses_bind (uses_requireOwned inspected id) fun _ => ?_
  split
  · trivial
  · refine uses_bind (uses_ofExcept _) fun _ => ?_
    refine uses_bind ⟨trivial, fun _ => uses_ofExcept _⟩ fun _ => ?_
    exact uses_bind (uses_ofExcept _) fun _ => uses_bind (uses_ofExcept _) fun _ => trivial

theorem light_prepareSshActivation :
    (prepareSshActivation id expected).Uses (Light sandbox own) := by
  unfold prepareSshActivation
  split
  · trivial
  · refine uses_bind light_hostIdentity fun identity => ?_
    refine uses_bind (light_verifiedManagedHost id expected identity) fun _ => ?_
    refine uses_bind light_activeHosts fun _ => uses_bind (light_prepareFiles _) fun _ => ?_
    exact uses_bind ⟨trivial, fun _ => uses_ofExcept _⟩ fun _ => trivial

theorem light_deactivateSsh : (deactivateSsh id).Uses (Light sandbox own) := by
  refine uses_bind light_hostIdentity fun _ => uses_bind light_activeHosts fun hosts => ?_
  split
  · trivial
  · exact uses_bind (light_prepareFiles _) fun _ => light_commitFiles _

theorem light_restorePriorSshResolution (original : ServiceError) :
    (restorePriorSshResolution id prior original : Svc α).Uses (Light id own) := by
  refine uses_bind (uses_attempt (uses_database ⟨rfl, rfl⟩)) fun restored => ?_
  cases restored <;> trivial

theorem light_unlessFailed : (unlessFailed id prior result).Uses (Light id own) := by
  cases result with
  | ok => trivial
  | error original => exact light_restorePriorSshResolution id prior original

theorem light_unlessCommitFailed :
    (unlessCommitFailed id prior result).Uses (Light id own) := by
  cases result with
  | ok => trivial
  | error original =>
    unfold unlessCommitFailed
    dsimp only
    split
    · trivial
    · exact light_restorePriorSshResolution id prior original

theorem light_emitPublication (hown : ∀ o ∈ publication, own = some o) (version : Nat) :
    (emitPublication publication version).Uses (Light sandbox own) := by
  cases publication with
  | none => trivial
  | some o =>
    obtain rfl := hown o rfl
    exact light_emit o _

/-- A publication logs one event, and is otherwise light. -/
theorem uses_activateAndPersistSsh {id : SandboxId} (hlight : ∀ c : Cmd, c.Light id none → P c)
    (prior : Option Resolution) (hemit : ∀ version, (emitPublication publication version).Uses P) :
    (activateAndPersistSsh id prior publication).Uses P := by
  refine uses_bind (uses_mono hlight (light_prepareSshActivation _ _)) fun _ => ?_
  refine uses_bind (uses_ofExcept _) fun _ => ?_
  refine uses_bind (uses_mono hlight (uses_database ⟨rfl, rfl⟩)) fun _ => ?_
  refine uses_bind (uses_attempt (hemit _)) fun emitted => ?_
  refine uses_bind (uses_mono hlight (light_unlessFailed id prior emitted)) fun _ => ?_
  refine uses_bind (uses_attempt (uses_mono hlight (light_commitFiles _))) fun committed => ?_
  exact uses_bind (uses_mono hlight (light_unlessCommitFailed id prior committed)) fun _ => trivial

theorem light_activateAndPersistSsh (hown : ∀ o ∈ publication, own = some o) :
    (activateAndPersistSsh id prior publication).Uses (Light id own) :=
  uses_activateAndPersistSsh (fun _ h => h.widen) prior fun _ => light_emitPublication hown _

theorem light_expectedPublication : (expectedPublication record).Uses (Light sandbox own) := by
  unfold expectedPublication
  split
  · trivial
  · refine uses_bind (light_inspect _) fun inspected => ?_
    cases inspected with
    | none => trivial
    | some runtime =>
      refine uses_bind (uses_requireOwned runtime _) fun _ => ?_
      split
      · trivial
      · refine uses_bind (uses_ofExcept _) fun _ =>
          uses_bind (uses_database ⟨trivial, rfl⟩) fun _ => ?_
        refine uses_bind (uses_ofExcept _) fun _ => ?_
        cases record.sshResolution <;> trivial

theorem light_expectedPublications (records : List SandboxRecord) :
    (expectedPublications records).Uses (Light sandbox own) := by
  induction records with
  | nil => trivial
  | cons record records ih =>
    exact uses_bind (light_expectedPublication record) fun _ => uses_bind ih fun _ => trivial

theorem light_verifyExactSshPublication :
    verifyExactSshPublication.Uses (Light sandbox own) := by
  refine uses_bind (uses_database ⟨trivial, rfl⟩) fun records => ?_
  refine uses_bind (light_expectedPublications records) fun _ => ?_
  exact uses_bind light_hostIdentity fun _ => uses_bind light_activeHosts fun _ => uses_ofExcept _

theorem light_preflightRecoveredSshMapping :
    (preflightRecoveredSshMapping id).Uses (Light sandbox own) := by
  refine uses_bind (light_inspectPresent id) fun runtime => ?_
  refine uses_bind (uses_requireOwned runtime id) fun _ => ?_
  split
  · trivial
  · exact uses_bind (uses_ofExcept _) fun _ => uses_bind (uses_database ⟨trivial, rfl⟩) fun _ =>
      uses_ofExcept _

/-! ### Recovery -/

theorem light_republish (exact : Bool) :
    (republish id resolution exact).Uses (Light id own) := by
  unfold republish
  split
  · trivial
  · refine uses_bind (light_activateAndPersistSsh id resolution nofun) fun _ => ?_
    exact uses_bind (uses_mapError light_verifyExactSshPublication) fun _ => trivial

theorem light_publishedExactly : (publishedExactly record).Uses (Light sandbox own) := by
  unfold publishedExactly
  split
  · exact uses_bind (uses_attempt light_verifyExactSshPublication) fun _ => trivial
  · trivial

theorem light_markRecovered : (markRecovered o resolution).Uses (Light sandbox (some o)) := by
  cases resolution with
  | none => trivial
  | some resolution => exact uses_mapError (light_emit o _)

theorem light_recoverPendingSshPublication (id : SandboxId) (record : SandboxRecord)
    (events : List OperationEvent) :
    (recoverPendingSshPublication o id record events).Uses (Light id (some o)) := by
  refine uses_bind (light_preflightRecoveredSshMapping id) fun _ => ?_
  refine uses_bind (light_publishedExactly record) fun exact => ?_
  refine uses_bind (light_republish id _ exact) fun resolution => ?_
  exact uses_when (light_markRecovered o resolution)

theorem uses_expectedAbsent (operation : OperationRecord) (hlist : listResources.Uses P) :
    (expectedAbsent operation).Uses P := by
  unfold expectedAbsent
  split
  · exact uses_bind (uses_ofRuntime _) fun _ => uses_bind hlist fun _ => trivial
  · trivial

/-! ### Commands of the runtime -/

theorem steady_of_light (hp : p.Uses (Light sandbox own)) : p.Uses (Steady sandbox own) :=
  uses_mono (fun _ => Light.steady) hp

theorem keeps_of_steady (hp : p.Uses (Steady sandbox own)) : p.Uses (Keeps sandbox own) :=
  uses_mono (fun _ => Steady.keeps) hp

theorem keeps_of_light (hp : p.Uses (Light sandbox own)) : p.Uses (Keeps sandbox own) :=
  keeps_of_steady (steady_of_light hp)

theorem steady_healthCheck : (healthCheck id).Uses (Steady sandbox own) :=
  ⟨trivial, fun _ => uses_ofExcept _⟩

theorem steady_emit : (emit o details).Uses (Steady sandbox (some o)) :=
  steady_of_light (light_emit o details)

theorem uses_start (h : Lifecycle sandbox P) (id : SandboxId) : (start id).Uses P :=
  ⟨h.start id, fun _ => uses_ofRuntime _⟩

theorem uses_stop (h : Lifecycle sandbox P) (id : SandboxId) : (stop id).Uses P :=
  ⟨h.stop id, fun _ => uses_ofRuntime _⟩

theorem fromResources_eq_ok {request : RemoveRequest}
    (h : RemoveRequest.fromResources resources = .ok request) : request.resources = resources := by
  rw [RemoveRequest.fromResources] at h
  split_ifs at h
  cases h
  rfl

theorem uses_removeResources (h : Replacing sandbox R P) (hR : ∀ resource ∈ resources, R resource) :
    (removeResources resources).Uses P := by
  unfold removeResources
  split
  · trivial
  next request hrequest =>
    exact ⟨h.remove _ (fromResources_eq_ok hrequest ▸ hR), fun _ => uses_ofRuntime _⟩

theorem uses_stopOwned (h : Lifecycle sandbox P) (id : SandboxId) : (stopOwned id).Uses P := by
  refine uses_bind (uses_mono h.light (light_inspect id)) fun inspected => ?_
  cases inspected with
  | none => trivial
  | some runtime =>
    exact uses_bind (uses_requireOwned runtime id) fun _ => uses_when (uses_stop h id)

theorem uses_removeExpected (h : Replacing sandbox R P) (id : SandboxId)
    (hR : ∀ expected resource, expectedResourceIdentities id = .ok expected →
      expectedOwned expected id resource = true → R resource) : (removeExpected id).Uses P := by
  have hlist : listResources.Uses P := uses_mono h.light light_listResources
  unfold removeExpected
  cases hexpected : expectedResourceIdentities id with
  | error error => trivial
  | ok expected =>
    show (listResources.bind _).Uses P
    refine uses_bind hlist fun listed => uses_bind (uses_when (uses_removeResources h ?_)) fun _ =>
      uses_bind hlist fun _ => ?_
    · exact fun resource hresource => hR expected resource hexpected (List.mem_filter.1 hresource).2
    · split <;> trivial

theorem uses_rollbackInterruptedSshCreate {id : SandboxId} (h : Replacing id R P)
    (hR : ∀ expected resource, expectedResourceIdentities id = .ok expected →
      expectedOwned expected id resource = true → R resource) :
    (rollbackInterruptedSshCreate id).Uses P :=
  uses_bind (uses_mono h.light (light_deactivateSsh id)) fun _ =>
    uses_bind (uses_stopOwned h.toLifecycle id) fun _ => uses_removeExpected h id hR

theorem keeps_rollbackInterruptedSshCreate :
    (rollbackInterruptedSshCreate id).Uses (Keeps id own) :=
  uses_rollbackInterruptedSshCreate (Cmd.replacing_keeps ..) fun _ _ _ _ => trivial

/-! ### Start, stop and destroy -/

theorem uses_startOwned (h : Lifecycle sandbox P) (id : SandboxId) (record : SandboxRecord)
    (runtime : RuntimeSandbox) : (startOwned id record runtime).Uses P := by
  refine uses_bind (uses_when (uses_start h id)) fun _ => ?_
  split
  · refine uses_bind (uses_mono h.light (light_prepareSshActivation id _)) fun _ => ?_
    exact uses_bind (uses_ofExcept _) fun _ => uses_mono h.light (light_commitFiles _)
  · trivial

theorem uses_stopManaged (h : Lifecycle sandbox P) (id : SandboxId) (record : SandboxRecord)
    (runtime : RuntimeSandbox) : (stopManaged id record runtime).Uses P :=
  uses_bind (uses_when (uses_mono h.light (light_deactivateSsh id))) fun _ =>
    uses_when (uses_stop h id)

theorem uses_changeOwned (h : Lifecycle sandbox P) (id : SandboxId) (record : SandboxRecord)
    (runtime : RuntimeSandbox) (target : ActualState) :
    (do
      requireOwned runtime id
      match target with
      | .running => startOwned id record runtime
      | .stopped => stopManaged id record runtime
      | _ => .throw (.runtime (.invalidState id.value
        "simple lifecycle target must be running or stopped")) : Svc Unit).Uses P := by
  refine uses_bind (uses_requireOwned runtime id) fun _ => ?_
  cases target with
  | running => exact uses_startOwned h id record runtime
  | stopped => exact uses_stopManaged h id record runtime
  | _ => trivial

theorem uses_destroyRuntime (h : Replacing sandbox R P) (id : SandboxId)
    (record : SandboxRecord)
    (hR : ∀ expected resource, expectedResourceIdentities id = .ok expected →
      expectedOwned expected id resource = true → R resource) :
    (destroyRuntime id record).Uses P :=
  uses_bind (uses_when (uses_mono h.light (light_deactivateSsh id))) fun _ =>
    uses_bind (uses_stopOwned h.toLifecycle id) fun _ => uses_removeExpected h id hR

/-! ### Provisioning -/

theorem light_readSetup : (readSetup spec).Uses (Light sandbox own) := by
  unfold readSetup
  split
  · trivial
  · exact ⟨trivial, fun _ => uses_ofExcept _⟩

theorem light_planForRoot (applied : AppliedState) :
    (planForRoot spec applied).Uses (Light sandbox own) :=
  uses_bind (uses_mapError (light_readSetup spec)) fun _ => trivial

theorem light_desiredFingerprint : (desiredFingerprint spec).Uses (Light sandbox own) :=
  uses_bind (uses_mapError (light_readSetup spec)) fun _ => trivial

section Guest

variable {o : OperationId}

section

variable (h : Provisioning sandbox o P)

include h

theorem uses_execGuestRaw (id : SandboxId) (command : GuestCommand) :
    (execGuestRaw id command).Uses P := ⟨h.exec _ _, fun _ => uses_ofExcept _⟩

theorem uses_execGuest (id : SandboxId) (step action : String) (command : GuestCommand) :
    (execGuest id step action command).Uses P :=
  uses_bind (uses_execGuestRaw h id command) fun _ => uses_ofExcept _

theorem uses_execGuestUnit (id : SandboxId) (step action : String) (command : GuestCommand) :
    (execGuestUnit id step action command).Uses P :=
  uses_bind (uses_execGuest h id step action command) fun _ => trivial

theorem uses_emitProvisionStep (step : String) :
    (emitProvisionStep o step).Uses P :=
  uses_bind (uses_database (h.step step)) fun _ => trivial

theorem uses_initializeManagedVolumeRoots (spec : SandboxSpec) :
    (initializeManagedVolumeRoots spec o).Uses P :=
  uses_bind (uses_execGuestUnit h ..) fun _ => uses_bind (uses_execGuestUnit h ..) fun _ =>
    uses_bind (uses_emitProvisionStep h _) fun _ => uses_bind (uses_execGuestUnit h ..) fun _ =>
      uses_execGuestUnit h ..

theorem uses_installTools (spec : SandboxSpec) (plan : ProvisionPlan) :
    (installTools spec plan o).Uses P := by
  refine uses_bind (uses_emitProvisionStep h _) fun _ => ?_
  refine uses_bind (uses_execGuestUnit h ..) fun _ =>
    uses_bind (uses_execGuestUnit h ..) fun _ => ?_
  refine uses_bind (uses_execGuestUnit h ..) fun _ =>
    uses_bind (uses_emitProvisionStep h _) fun _ => ?_
  refine uses_bind (uses_execGuestUnit h ..) fun _ => uses_bind (uses_execGuest h ..) fun _ => ?_
  exact uses_bind (uses_ofExcept _) fun _ => trivial

theorem uses_provisionTools (spec : SandboxSpec)
    (plan : ProvisionPlan) (prior : Option SandboxRecord) :
    (provisionTools spec plan prior o).Uses P := by
  unfold provisionTools
  split
  · exact uses_bind (uses_installTools h spec plan) fun _ => trivial
  · trivial

theorem uses_runSetup (id : SandboxId) (setup : SetupScript) :
    (runSetup id setup).Uses P :=
  uses_bind (uses_execGuestRaw h ..) fun _ => uses_bind (uses_ofExcept _) fun _ =>
    uses_bind (uses_ofExcept _) fun _ => uses_bind (uses_execGuestRaw h ..) fun _ =>
      uses_bind (uses_ofExcept _) fun _ => trivial

end

theorem uses_finalizeSetupFailure (h : Lifecycle sandbox P) (id : SandboxId)
    (error : ServiceError) : (finalizeSetupFailure id error : Svc α).Uses P := by
  refine uses_bind (uses_attempt (uses_stop h id)) fun _ => ?_
  refine uses_bind (uses_attempt (uses_mono h.light (light_inspect id))) fun _ => ?_
  split <;> trivial

theorem uses_setupStep (h : Provisioning sandbox o P) (spec : SandboxSpec) (setup : SetupScript) :
    (setupStep spec setup o).Uses P := by
  refine uses_bind (uses_emitProvisionStep h _) fun _ => ?_
  refine uses_bind (uses_attempt (uses_runSetup h spec.id setup)) fun ran => ?_
  cases ran with
  | ok => trivial
  | error error => exact uses_finalizeSetupFailure h.toLifecycle spec.id error

theorem uses_verifyGascamp (h : Provisioning sandbox o P) (spec : SandboxSpec) :
    (verifyGascamp spec).Uses P := by
  refine uses_bind (uses_execGuest h ..) fun _ => ?_
  split <;> trivial

theorem uses_provisionWithApplied (h : Provisioning sandbox o P) (spec : SandboxSpec)
    (create : CreateRequest) (prior : Option SandboxRecord) (applied : AppliedState) :
    (provisionWithApplied spec create prior applied o).Uses P := by
  refine uses_bind (uses_initializeManagedVolumeRoots h spec) fun _ => ?_
  refine uses_bind (uses_mono h.light (light_planForRoot spec applied)) fun plan => ?_
  refine uses_bind (uses_provisionTools h spec plan prior) fun _ => ?_
  have hshell : (configureShell spec plan o).Uses P :=
    uses_bind (uses_emitProvisionStep h _) fun _ => uses_execGuestUnit h ..
  refine uses_bind (uses_when hshell) fun _ => ?_
  refine uses_bind (uses_elim trivial fun setup => uses_setupStep h spec setup) fun _ => ?_
  refine uses_bind ⟨h.provision _ _, fun _ => uses_ofExcept _⟩ fun _ => ?_
  exact uses_bind (uses_emitProvisionStep h _) fun _ =>
    uses_bind (uses_verifyGascamp h spec) fun _ => trivial

end Guest

theorem steady_provisionWithApplied (prior : Option SandboxRecord) (applied : AppliedState)
    (o : OperationId) :
    (provisionWithApplied spec create prior applied o).Uses (Steady sandbox (some o)) :=
  uses_provisionWithApplied (Cmd.provisioning_steady sandbox o) spec create prior applied

/-! ### Up -/

theorem light_prepareSshCreate : (prepareSshCreate spec).Uses (Light sandbox own) := by
  have hport : reservePort.Uses (Light sandbox own) := by
    refine ⟨trivial, fun (result : Except String Port) => ?_⟩
    cases result with
    | error error => trivial
    | ok port =>
      dsimp only
      split <;> trivial
  unfold prepareSshCreate
  split
  · refine uses_bind light_hostIdentity fun _ => uses_bind ?_ fun _ => trivial
    exact uses_elim hport fun _ => trivial
  · trivial

theorem light_portCollision (source : RuntimeError) (prepared : Option PreparedSshCreate)
    (create : CreateRequest) :
      (portCollision source prepared create).Uses (Light sandbox own) := by
  refine uses_elim trivial fun ssh => ?_
  unfold isNativePortCollision
  split
  · trivial
  · split
    · exact ⟨trivial, fun _ => trivial⟩
    · trivial

theorem uses_rollbackCreated (h : Replacing sandbox R P) (id : SandboxId) {outcome : CreateOutcome}
    (hR : ∀ resource ∈ outcome.created, R resource) (original : ServiceError) :
    (rollbackCreated id outcome original : Svc α).Uses P := by
  refine uses_bind (uses_attempt (uses_bind (uses_mono h.light (light_inspect id))
    fun inspected => ?_)) fun undone => ?_
  · cases inspected with
    | none => trivial
    | some current =>
      dsimp only
      split
      · trivial
      · exact uses_bind (uses_when (uses_stop h.toLifecycle id)) fun _ => uses_removeResources h hR
  · split <;> trivial

theorem uses_removePartial (h : Replacing sandbox R P)
    (hR : ∀ resource ∈ failure.created, R resource) : (removePartial failure).Uses P := by
  unfold removePartial
  split
  · trivial
  · split
    · trivial
    next request hrequest =>
      refine ⟨h.remove _ (fromResources_eq_ok hrequest ▸ hR), fun result => ?_⟩
      cases result <;> trivial

theorem light_upPrepare : (upPrepare image spec).Uses (Light sandbox own) := by
  refine uses_bind (uses_database ⟨trivial, rfl⟩) fun existing =>
    uses_bind (uses_ofExcept _) fun _ => ?_
  refine uses_bind ⟨trivial, fun _ => uses_ofRuntime _⟩ fun capabilities => ?_
  refine uses_bind (uses_ofExcept _) fun create => uses_bind (uses_ofExcept _) fun storage => ?_
  refine uses_bind (uses_database ⟨trivial, rfl⟩) fun transport =>
    uses_bind (uses_ofExcept _) fun _ => ?_
  exact uses_bind (light_desiredFingerprint spec) fun _ => trivial

theorem light_durableMatch (fingerprint : String) (image : ImageState) :
    (durableMatch spec record fingerprint image).Uses (Light sandbox own) := by
  unfold durableMatch
  split
  · trivial
  · refine uses_bind (light_planForRoot ..) fun _ => ?_
    split
    · trivial
    · exact uses_bind (light_planForRoot ..) fun _ => trivial

theorem steady_provisionUp (prior : Option SandboxRecord) (ctx : UpRuntimeContext) :
    (provisionUp spec create prior ctx).Uses (Steady sandbox (some ctx.operationId)) :=
  uses_bind (steady_emit ..) fun _ => uses_bind (steady_provisionWithApplied ..) fun _ =>
    uses_bind (steady_emit ..) fun _ => trivial

theorem light_disableAndPersistSsh : (disableAndPersistSsh id prior).Uses (Light id own) :=
  uses_bind (uses_when (light_deactivateSsh id)) fun _ =>
    uses_bind (uses_database ⟨rfl, rfl⟩) fun _ => trivial

theorem light_sshUp : (sshUp spec prior o).Uses (Light spec.id (some o)) := by
  unfold sshUp
  split
  · refine uses_bind (light_activateAndPersistSsh spec.id prior fun _ h => h) fun _ => ?_
    refine uses_bind (uses_mapError light_verifyExactSshPublication) fun _ => ?_
    exact uses_bind (uses_mapError (light_emit ..)) fun _ =>
      uses_bind (uses_mapError (light_emit ..)) fun _ => trivial
  · exact light_disableAndPersistSsh spec.id prior

theorem steady_settleProvision (prior known : Option SandboxRecord) (existed matched : Bool)
    (ctx : UpRuntimeContext) :
    (settleProvision spec create prior known existed matched ctx).Uses
      (Steady sandbox (some ctx.operationId)) := by
  unfold settleProvision
  split
  · exact uses_bind (uses_bind (steady_of_light (light_planForRoot ..)) fun _ => steady_emit ..)
      fun _ => trivial
  · split
    · exact uses_bind (steady_provisionUp ..) fun _ => trivial
    · trivial

theorem steady_settle (prior : Option SandboxRecord) (existed : Bool) (ctx : UpRuntimeContext) :
    (settle spec create prior existed ctx).Uses (Steady spec.id (some ctx.operationId)) := by
  refine uses_bind (steady_of_light (light_inspectPresent _)) fun current => ?_
  refine uses_bind (uses_when (uses_start (Cmd.lifecycle_steady ..) _)) fun _ =>
    uses_bind (steady_emit ..) fun _ => ?_
  refine uses_bind (uses_ofRuntime _) fun image => ?_
  refine uses_bind (uses_elim trivial fun record =>
    steady_of_light (light_durableMatch ..)) fun matched => ?_
  refine uses_bind (steady_settleProvision ..) fun _ => uses_bind (steady_emit ..) fun _ => ?_
  refine uses_bind (steady_healthCheck _) fun _ => uses_bind (steady_emit ..) fun _ => ?_
  exact uses_bind (steady_of_light (light_sshUp ..)) fun _ => trivial

theorem uses_quiesce (h : Lifecycle sandbox P) (id : SandboxId) : (quiesce id).Uses P := by
  refine uses_bind (uses_attempt (uses_mono h.light (light_deactivateSsh id))) fun withdrawn => ?_
  cases withdrawn with
  | error error => trivial
  | ok =>
    refine uses_bind (uses_attempt (uses_mono h.light (light_inspect id))) fun inspected => ?_
    split
    · exact uses_bind (uses_attempt (uses_stop h id)) fun _ => trivial
    · trivial

theorem uses_unsettle (h : Replacing sandbox R P) (id : SandboxId) {created : Option CreateOutcome}
    (hR : ∀ outcome ∈ created, ∀ resource ∈ outcome.created, R resource) (error : ServiceError) :
    (unsettle id created error : Svc α).Uses P := by
  unfold unsettle
  split
  · trivial
  · split
    next outcome => exact uses_rollbackCreated h id (hR outcome rfl) error
    · exact uses_bind (uses_quiesce h.toLifecycle id) fun _ => trivial

/-! ### Apply -/

theorem light_restorePriorSsh (enabled : Bool) (prior : Option Resolution) :
    (restorePriorSsh id enabled prior).Uses (Light id own) := by
  unfold restorePriorSsh
  split
  · exact light_activateAndPersistSsh _ prior nofun
  · exact uses_bind (light_deactivateSsh id) fun _ => uses_bind (uses_database ⟨rfl, rfl⟩) fun _ =>
      trivial

theorem light_rollbackCreateForInspectedTransport (priorPolicy : Option SshTransportPolicy) :
    (rollbackCreateForInspectedTransport create runtime priorPolicy).Uses
      (Light sandbox own) := by
  unfold rollbackCreateForInspectedTransport
  split
  · exact uses_ofExcept _
  · exact uses_bind (uses_ofExcept _) fun _ => uses_bind light_hostIdentity fun _ =>
      uses_ofExcept _

theorem light_retainedResources : (retainedResources create).Uses (Light sandbox own) :=
  uses_bind light_listResources fun _ => uses_ofExcept _

theorem light_replacementEvidence (previous : String) :
    (replacementEvidence create runtime previous).Uses (Light sandbox own) := by
  unfold replacementEvidence
  split
  · trivial
  · split
    · trivial
    · exact uses_mapError (light_retainedResources create)

theorem uses_removeExactContainer (h : Replacing sandbox R P) (create : CreateRequest)
    {container : RuntimeResource} (hR : R container) :
    (removeExactContainer create container).Uses P := by
  refine uses_bind (uses_mono h.light (light_inspect _)) fun inspected => ?_
  refine uses_bind (uses_elim trivial fun runtime => ?_) fun _ => uses_removeResources h ?_
  · exact uses_bind (uses_requireOwned ..) fun _ => uses_when (uses_stop h.toLifecycle _)
  · exact fun resource hresource => List.mem_singleton.1 hresource ▸ hR

theorem uses_rollbackImage (h : Replacing sandbox R P) {create : CreateRequest}
    (hR : ∀ resources container, exactOwnedContainer create resources = .ok (some container) →
      R container) (previousImage : String) (retained : RetainedResources) {o : OperationId}
    (hemit : (emit o (.obj [("phase", .str "image_rollback"),
      ("image", .str previousImage)])).Uses P) :
    (rollbackImage create previousImage retained o).Uses P := by
  refine uses_bind (uses_mono h.light light_listResources) fun resources => ?_
  cases hcontainer : exactOwnedContainer create resources with
  | error error => trivial
  | ok container =>
    have hremove : (container.elim (Pure.pure ()) (removeExactContainer create)).Uses P := by
      cases container with
      | none => trivial
      | some found => exact uses_removeExactContainer h create (hR resources found hcontainer)
    show ((container.elim (Pure.pure ()) (removeExactContainer create)).bind _).Uses P
    refine uses_bind hremove fun _ => uses_bind (uses_ofRuntime _) fun _ => ?_
    refine uses_bind ⟨h.createContainer _, fun _ => uses_ofExcept _⟩ fun _ => ?_
    exact uses_bind (uses_start h.toLifecycle _) fun _ => hemit

theorem uses_removePartialContainer (h : Replacing sandbox R P) (create : CreateRequest)
    (hR : ∀ resource ∈ failure.created, R resource) :
    (removePartialContainer create failure).Uses P := by
  unfold removePartialContainer
  split
  · trivial
  next container hcreated =>
    split
    · trivial
    · split
      · trivial
      · refine uses_mapError (uses_removeExactContainer h create (hR container ?_))
        rw [hcreated]
        exact List.mem_singleton_self container
  · trivial

theorem uses_afterFailure {spec : SandboxSpec} {what : String} {retries : Nat} {collision : Bool}
    {again : Svc α} (hagain : again.Uses P) :
    (afterFailure spec what retries failure collision again).Uses P := by
  unfold afterFailure
  split
  · trivial
  · split
    · trivial
    · exact hagain

theorem keeps_recreateOnce (retries : Nat) (prepared : Option PreparedSshCreate)
    (create : CreateRequest) {again : Svc CreateRequest} (hagain : again.Uses (Keeps sandbox own)) :
    (recreateOnce spec retained retries prepared create again).Uses (Keeps sandbox own) := by
  unfold recreateOnce
  split
  · trivial
  · refine ⟨trivial, fun (created : Except CreateFailure CreateOutcome) => ?_⟩
    cases created with
    | ok => trivial
    | error failure =>
      refine uses_bind (uses_removePartialContainer (Cmd.replacing_keeps ..) create
        fun _ _ => trivial) fun _ => ?_
      exact uses_bind (keeps_of_light (light_portCollision ..)) fun _ => uses_afterFailure hagain

theorem keeps_recreateLoop (retries : Nat) (prepared : Option PreparedSshCreate)
    (create : CreateRequest) :
    (recreateLoop image spec capabilities retained retries prepared create).Uses
      (Keeps sandbox own) := by
  induction retries generalizing prepared create with
  | zero => exact keeps_recreateOnce spec retained 0 prepared create trivial
  | succ retries ih =>
    refine keeps_recreateOnce spec retained (retries + 1) prepared create ?_
    exact uses_bind (keeps_of_light (light_prepareSshCreate spec)) fun _ =>
      uses_bind (uses_ofExcept _) fun _ => ih _ _

theorem light_sshApply : (sshApply spec prior).Uses (Light spec.id own) := by
  unfold sshApply
  split
  · exact light_activateAndPersistSsh _ prior nofun
  · exact light_disableAndPersistSsh ..

theorem keeps_replaceContainer (prior : SandboxRecord) (runtime : RuntimeSandbox)
    (container : RuntimeResource) (retained : RetainedResources) (o : OperationId) :
    (replaceContainer image spec create prepared capabilities prior runtime container retained
      o).Uses (Keeps spec.id (some o)) := by
  refine uses_bind (uses_when (keeps_of_light (light_deactivateSsh _))) fun _ => ?_
  have h := Cmd.replacing_keeps spec.id (some o)
  refine uses_bind (uses_when (uses_stop h.toLifecycle _)) fun _ => ?_
  refine uses_bind (uses_removeResources h fun _ _ => trivial) fun _ =>
    uses_bind (keeps_recreateLoop ..) fun _ => ?_
  refine uses_bind (uses_start h.toLifecycle _) fun _ => uses_bind ?_ fun _ => ?_
  · exact uses_bind (keeps_of_steady (steady_emit ..)) fun _ =>
      uses_bind (keeps_of_steady (steady_provisionWithApplied ..)) fun _ =>
      uses_bind (keeps_of_steady (steady_emit ..)) fun _ => trivial
  · refine uses_bind (keeps_of_steady (steady_emit ..)) fun _ =>
      uses_bind (keeps_of_steady (steady_healthCheck _)) fun _ => ?_
    refine uses_bind (keeps_of_steady (steady_emit ..)) fun _ => ?_
    refine uses_bind (keeps_of_light (light_sshApply ..)) fun _ => ?_
    exact uses_bind (keeps_of_steady (steady_emit ..)) fun _ =>
      uses_bind (keeps_of_steady (steady_emit ..)) fun _ => trivial

theorem uses_undoReplacement {id : SandboxId} (h : Replacing id R P)
    {rollbackCreate : CreateRequest} (hR : ∀ resources container,
      exactOwnedContainer rollbackCreate resources = .ok (some container) → R container)
    (previousImage : String) (retained : RetainedResources) (prior : Option Resolution)
    {o : OperationId} (hemit : (emit o (.obj [("phase", .str "image_rollback"),
      ("image", .str previousImage)])).Uses P) (original : ServiceError) :
    (undoReplacement id rollbackCreate previousImage retained prior o original : Svc α).Uses P := by
  refine uses_bind (uses_attempt (uses_bind (uses_rollbackImage h hR _ _ hemit) fun _ =>
    uses_mono h.light (light_restorePriorSsh ..))) fun undone => ?_
  cases undone <;> trivial

theorem keeps_replaceImage (priorTransport : Option SshTransportPolicy) (previousImage : String)
    (o : OperationId) (hid : create.id = spec.id) :
    (replaceImage image spec create prepared capabilities priorTransport previousImage o).Uses
      (Keeps spec.id (some o)) := by
  refine uses_bind (keeps_of_steady (steady_emit ..)) fun _ => ?_
  refine uses_bind ⟨trivial, fun _ => uses_ofRuntime _⟩ fun _ => ?_
  refine uses_bind (keeps_of_light (light_loadRecord _)) fun _ => ?_
  refine uses_bind (keeps_of_light (light_inspectPresent _)) fun _ => ?_
  refine uses_bind (keeps_of_light (light_rollbackCreateForInspectedTransport ..)) fun _ => ?_
  refine uses_bind (keeps_of_light (light_replacementEvidence ..)) fun _ => ?_
  refine uses_bind (keeps_of_steady (steady_emit ..)) fun _ => ?_
  refine uses_bind (uses_attempt (keeps_replaceContainer ..)) fun result => ?_
  cases result with
  | ok => trivial
  | error original =>
    exact hid ▸ uses_undoReplacement (Cmd.replacing_keeps ..) (fun _ _ _ => trivial) _ _ _
      (keeps_of_steady (steady_emit ..)) original

theorem uses_restartKept (h : Lifecycle sandbox P) (id : SandboxId) (plan : ApplyPlan)
    (preflight : ApplyPreflight) : (restartKept id plan preflight).Uses P := by
  unfold restartKept
  split
  · trivial
  · split
    · exact uses_bind (uses_when (uses_mono h.light (light_deactivateSsh id))) fun _ =>
        uses_bind (uses_stop h id) fun _ => uses_start h id
    · exact uses_when (uses_start h id)

theorem steady_provisionKept (plan : ApplyPlan) (o : OperationId) :
    (provisionKept spec plan o).Uses (Steady spec.id (some o)) := by
  refine uses_bind (steady_provisionUp spec plan.create (some plan.record) ⟨o, _, _⟩) fun _ => ?_
  refine uses_bind (steady_emit ..) fun _ => ?_
  refine uses_bind (steady_healthCheck _) fun _ => uses_bind (steady_emit ..) fun _ => ?_
  exact uses_bind (steady_of_light (light_sshApply ..)) fun _ => trivial

end Service

end Gascan
