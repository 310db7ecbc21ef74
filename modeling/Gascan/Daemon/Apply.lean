import Gascan.Daemon.Up

/-!
# `Gascan.Daemon.Apply`: applying a manifest to an existing sandbox

`applyInner` compares the recorded state with the manifest. When the approved image or the SSH
transport changed it replaces the container and keeps the volumes and the network
(`replaceImage`); a failed replacement recreates the previous container from the request of the
new manifest, with the previous image and the inspected SSH mapping
(`rollbackCreateForInspectedTransport`). Otherwise it provisions the running container, or only
publishes SSH again.
-/

namespace Gascan

open Lib

/-- Whether an address is a loopback address, as `IpAddr::is_loopback` decides it. -/
def IpAddr.isLoopback : IpAddr → Bool
  | .v4 bits => bits / 2 ^ 24 = 127
  | .v6 bits => bits = 1

namespace Service

/-! ### The previous container -/

/-- The mapping that a rollback publishes SSH under again. -/
def priorMapping (runtime : RuntimeSandbox) : Except ServiceError RuntimePort :=
  match sshMappings runtime with
  | [mapping] =>
    if !mapping.hostAddress.isLoopback || mapping.hostPort < 1024 then
      .error (.notReady "prior native SSH transport is not uniquely observable")
    else .ok mapping
  | _ => .error (.notReady "prior native SSH transport is not uniquely observable")

/-- `rollback_create_for_inspected_transport`. -/
def rollbackCreateForInspectedTransport (create : CreateRequest) (runtime : RuntimeSandbox)
    (priorPolicy : Option SshTransportPolicy) : Svc CreateRequest :=
  if (sshMappings runtime).isEmpty && !priorPolicy.any (·.isEnabled) then
    ofPolicy (PolicyCompiler.restoreSshTransport create none)
  else do
    let mapping ← Prog.ofExcept (priorMapping runtime)
    let identity ← hostIdentity
    ofPolicy (PolicyCompiler.restoreSshTransport create
      (some ⟨some identity.publicKey, some mapping.hostPort⟩))

/-- The owned resources of a sandbox other than its container. -/
def retainedOf (create : CreateRequest) (resources : List RuntimeResource) :
    List RuntimeResource :=
  resources.filter fun resource => resource.ownership = .gasCanOwned &&
    resource.sandboxId = some create.id && resource.identity.kind ≠ .container

/-- The container of a sandbox and the evidence of what a replacement keeps. -/
def retainedEvidence (create : CreateRequest) (resources : List RuntimeResource) :
    Except ServiceError (RuntimeResource × RetainedResources) :=
  match exactOwnedContainer create resources with
  | .error error => .error error
  | .ok none => .error (.runtime (.invalidState create.id.value
    "expected exactly one owned container resource"))
  | .ok (some container) =>
    match RetainedResources.new create (retainedOf create resources) with
    | .error error => .error (.runtime error)
    | .ok retained => .ok (container, retained)

/-- `retained_resources`. -/
def retainedResources (create : CreateRequest) : Svc (RuntimeResource × RetainedResources) := do
  let resources ← listResources
  Prog.ofExcept (retainedEvidence create resources)

/-- The error of a replacement whose preconditions do not hold. -/
def upgradeRequired (create : CreateRequest) (runtime : RuntimeSandbox) (cause : String) :
    ServiceError :=
  .imageUpgradeRequired runtime.image create.image cause

/-- `replacement_evidence`. -/
def replacementEvidence (create : CreateRequest) (runtime : RuntimeSandbox)
    (expectedPrevious : String) : Svc (RuntimeResource × RetainedResources) :=
  if runtime.image ≠ expectedPrevious then
    .throw (upgradeRequired create runtime
      ("runtime image changed after preflight from " ++ expectedPrevious))
  else if !ownedBy runtime create.id then
    .throw (upgradeRequired create runtime "sandbox ownership changed after preflight")
  else (retainedResources create).mapError fun error => upgradeRequired create runtime error.message

/-- `remove_exact_container`. -/
def removeExactContainer (create : CreateRequest) (container : RuntimeResource) : Svc Unit := do
  let inspected ← inspect create.id
  inspected.elim (pure ()) fun runtime => do
    requireOwned runtime create.id
    Prog.when (runtime.state = .running) (stop create.id)
  removeResources [container]

/-- Creates only a container. -/
def createContainer (request : RecreateRequest) : Svc CreateOutcome :=
  .call (.createContainer request) fun created => Prog.ofExcept (Except.mapError .create created)

/-- `rollback_image`. -/
def rollbackImage (create : CreateRequest) (previousImage : String) (retained : RetainedResources)
    (operationId : OperationId) : Svc Unit := do
  let resources ← listResources
  let container ← Prog.ofExcept (exactOwnedContainer create resources)
  container.elim (pure ()) (removeExactContainer create)
  let request ← ofRuntime (RecreateRequest.forImage create previousImage retained)
  let _ ← createContainer request
  start create.id
  emit operationId (.obj [("phase", .str "image_rollback"), ("image", .str previousImage)])

/-! ### Replacing the container -/

/-- Removes the container that a failed replacement left behind. -/
def removePartialContainer (create : CreateRequest) (failure : CreateFailure) : Svc Unit :=
  match failure.created with
  | [] => pure ()
  | [container] =>
    match ResourceIdentity.new .container create.id.value with
    | .error error => .throw (.runtime error)
    | .ok expected =>
      if container.identity ≠ expected then
        .throw (.imageRollback (.create failure)
          (.runtime (.ownershipMismatch container.identity.name)))
      else (removeExactContainer create container).mapError (.imageRollback (.create failure))
  | _ => .throw (.imageRollback (.create failure) (.runtime (.invalidState create.id.value
    "replacement failure returned non-container evidence")))

/-- One pass of the create loop of `replace_image`. -/
def recreateOnce (spec : SandboxSpec) (retained : RetainedResources) (retries : Nat)
    (prepared : Option PreparedSshCreate) (create : CreateRequest) (again : Svc CreateRequest) :
    Svc CreateRequest :=
  match RecreateRequest.new create retained with
  | .error error => .throw (.runtime error)
  | .ok recreate => .call (.createContainer recreate) fun created =>
    match created with
    | .ok _ => pure create
    | .error failure => do
      removePartialContainer create failure
      let collision ← portCollision failure.source prepared create
      afterFailure spec "replacement create" retries failure collision again

/-- The create loop of `replace_image`. `retries` attempts are left after this one. -/
def recreateLoop (image : String) (spec : SandboxSpec) (capabilities : RuntimeCapabilities)
    (retained : RetainedResources) :
    (retries : Nat) → Option PreparedSshCreate → CreateRequest → Svc CreateRequest
  | 0, prepared, create => recreateOnce spec retained 0 prepared create
    (.throw (.sshPortUnavailable (collisionText automaticPortAttempts "replacement create")))
  | retries + 1, prepared, create => recreateOnce spec retained (retries + 1) prepared create (do
    let prepared ← prepareSshCreate spec
    let create ← ofPolicy (compilePolicy image spec capabilities prepared)
    recreateLoop image spec capabilities retained retries prepared create)

/-- The SSH step of an apply: publish the endpoint again, or withdraw it. -/
def sshApply (spec : SandboxSpec) (prior : Option Resolution) : Svc Resolution :=
  if spec.manifest.ssh.enabled then activateAndPersistSsh spec.id prior none
  else disableAndPersistSsh spec.id prior

/-- The provisioning of a replaced container. -/
def provisionReplaced (spec : SandboxSpec) (create : CreateRequest) (prior : SandboxRecord)
    (operationId : OperationId) : Svc ProvisionedResolution := do
  emitPhase operationId "before_provision"
  let provisioned ← provisionWithApplied spec create (some prior)
    (replacementAppliedState prior) operationId
  emit operationId (.obj ([("phase", .str "after_provision"), ("resolution_version", .num 1)] ++
    provisionedMembers provisioned))
  pure provisioned

/-- The steps of `replace_image` that change the runtime. -/
def replaceContainer (image : String) (spec : SandboxSpec) (create : CreateRequest)
    (prepared : Option PreparedSshCreate) (capabilities : RuntimeCapabilities)
    (prior : SandboxRecord) (runtime : RuntimeSandbox) (container : RuntimeResource)
    (retained : RetainedResources) (operationId : OperationId) :
    Svc (ProvisionedResolution × Resolution) := do
  Prog.when (sshResolutionEnabled prior.sshResolution) (deactivateSsh create.id)
  Prog.when (runtime.state = .running) (stop create.id)
  removeResources [container]
  let create ← recreateLoop image spec capabilities retained (automaticPortAttempts - 1)
    prepared create
  start create.id
  let provisioned ← provisionReplaced spec create prior operationId
  emitBeforeHealth operationId
  healthCheck create.id
  emitPhase operationId "after_health"
  let resolution ← sshApply spec prior.sshResolution
  emit operationId (.obj [("phase", .str "image_replaced"), ("image", .str create.image)])
  emit operationId (.obj [("phase", .str "after_image_replace"), ("image", .str create.image)])
  pure (provisioned, resolution)

/-- The end of a replacement that failed after it began to change the runtime. -/
def undoReplacement {α : Type} (id : SandboxId) (rollbackCreate : CreateRequest)
    (previousImage : String) (retained : RetainedResources) (prior : Option Resolution)
    (operationId : OperationId) (original : ServiceError) : Svc α := do
  let undone ← (do
    rollbackImage rollbackCreate previousImage retained operationId
    restorePriorSsh id (createRequestSshEnabled rollbackCreate) prior : Svc Resolution).attempt
      (δ := ServiceError)
  match undone with
  | .ok _ => .throw original
  | .error undo => .throw (.imageRollback original undo)

/-- `replace_image`. -/
def replaceImage (image : String) (spec : SandboxSpec) (create : CreateRequest)
    (prepared : Option PreparedSshCreate) (capabilities : RuntimeCapabilities)
    (priorTransport : Option SshTransportPolicy) (previousImage : String)
    (operationId : OperationId) :
    Svc (ProvisionedResolution × Resolution × CreateRequest) := do
  emit operationId (.obj [("phase", .str "before_image_replace"),
    ("previous_image", .str previousImage), ("approved_image", .str create.image)])
  prepareImage create.image
  let prior ← loadRecord create.id
  let runtime ← inspectPresent create.id
  let rollbackCreate ← rollbackCreateForInspectedTransport create runtime priorTransport
  let (container, retained) ← replacementEvidence create runtime previousImage
  emit operationId (.obj [("phase", .str "image_replacing"), ("image", .str create.image)])
  let result ← (replaceContainer image spec create prepared capabilities prior runtime container
    retained operationId).attempt (δ := ServiceError)
  match result with
  | .ok (provisioned, resolution) => pure (provisioned, resolution, rollbackCreate)
  | .error original =>
    undoReplacement create.id rollbackCreate previousImage retained prior.sshResolution
      operationId original

/-! ### The operation -/

/-- The record with what an apply provisioned. -/
def appliedRecord (record : SandboxRecord) (fingerprint : String)
    (provisioned : ProvisionedResolution) (resolution : Resolution) : SandboxRecord :=
  { withProvisioned record fingerprint (some provisioned) with
    sshResolution := some resolution
    actualState := .running }

/-- The code and the details that a failed replacement is recorded with. -/
def replacementFailure (error : ServiceError) : String × Json :=
  match error with
  | .imageUpgradeRequired .. => (error.code, failureDetails error)
  | _ => ("image_replacement_failed", imageReplacementFailureDetails error)

/-- The end of an apply whose commit failed: the previous container and record are restored, and
the operation is failed. -/
def undoApply {α : Type} (id : SandboxId) (previousRecord : SandboxRecord)
    (priorTransport : Option SshTransportPolicy) (rollbackCreate : CreateRequest)
    (previousImage : String) (operationId : OperationId) (original : ServiceError) :
    Svc α := do
  let runtimeRollback ← (do
    let (_, retained) ← retainedResources rollbackCreate
    rollbackImage rollbackCreate previousImage retained operationId
    restorePriorSsh id (createRequestSshEnabled rollbackCreate)
      previousRecord.sshResolution : Svc Resolution).attempt (δ := ServiceError)
  let restored := { previousRecord with
    sshResolution := runtimeRollback.toOption.or previousRecord.sshResolution }
  let recordRollback ← (database (.putSandboxWithSshTransport restored priorTransport)).attempt
    (δ := ServiceError)
  let failure :=
    match runtimeRollback, recordRollback with
    | .ok _, .ok _ => original
    | .error runtime, .ok _ => .imageRollback original runtime
    | .ok _, .error store => .imageRollback original store
    | .error runtime, .error store => .imageRollback original (.imageRollback runtime store)
  let actual ← runtimeActual id previousRecord.actualState
  let failed ← (failOperationWithEvent operationId actual "image_replacement_failed"
    (imageReplacementFailureDetails failure)).attempt (δ := ServiceError)
  match failed with
  | .ok () => .throw failure
  | .error reporting => .throw (.failureReporting failure reporting)

/-- What `apply_inner` computes before it records its operation. -/
structure ApplyPlan where
  record : SandboxRecord
  capabilities : RuntimeCapabilities
  prepared : Option PreparedSshCreate
  create : CreateRequest
  transport : Option SshTransportPolicy
  fingerprint : String
  setupChanged : Bool
  unchanged : Bool

/-- The first part of `apply_inner`: the checks that need no operation. -/
def applyPrepare (image : String) (spec : SandboxSpec) : Svc ApplyPlan := do
  let record ← loadRecord spec.id
  Prog.ofExcept (checkPresent (some record) validateStorageLayout)
  Prog.ofExcept (checkPresent (some record) (validateStorageCapacities ·
    (requestedStorageFromManifest spec.manifest.storage)))
  let capabilities ← runtimeCapabilities
  let prepared ← prepareSshCreate spec
  let create ← ofPolicy (compilePolicy image spec capabilities prepared)
  let transport ← database (.sshTransportPolicy spec.id)
  let fingerprint ← desiredFingerprint spec
  let plan ← planForRoot spec (appliedState (some record))
  pure
    { record, capabilities, prepared, create, transport, fingerprint
      setupChanged := plan.setupChanged
      unchanged := resolutionMatches record fingerprint && !plan.toolsChanged &&
        !plan.setupChanged }

/-- The container that `apply` starts from. -/
structure ApplyPreflight where
  runtime : RuntimeSandbox
  image : ImageState
  sshPolicyChanged : Bool

/-- Whether an apply replaces the container. -/
def ApplyPreflight.replaces (preflight : ApplyPreflight) : Bool :=
  preflight.image.changeRequired || preflight.sshPolicyChanged

/-- Brings a container that is kept to the running state, with a restart before a changed setup. -/
def restartKept (id : SandboxId) (plan : ApplyPlan) (preflight : ApplyPreflight) : Svc Unit :=
  if preflight.replaces then pure ()
  else if preflight.runtime.state = .running && plan.setupChanged then do
    Prog.when (sshResolutionEnabled plan.record.sshResolution) (deactivateSsh id)
    stop id
    start id
  else Prog.when (preflight.runtime.state ≠ .running) (start id)

/-- The preflight of `apply_inner`. -/
def applyPreflight (spec : SandboxSpec) (plan : ApplyPlan) : Svc ApplyPreflight := do
  let runtime ← inspectPresent spec.id
  requireOwned runtime spec.id
  let image ← ofRuntime (imageState (some plan.record) runtime.image plan.create.image)
  let preflight : ApplyPreflight :=
    { runtime, image
      sshPolicyChanged := sshTransportPolicyChanged plan.record runtime spec plan.transport
        true true }
  restartKept spec.id plan preflight
  pure preflight

/-- The commit of a replacement. -/
def commitReplacement (spec : SandboxSpec) (record : SandboxRecord) (operationId : OperationId) :
    Svc Unit := do
  database (.putSandboxWithSshTransport record (some (requestedSshTransport spec)))
  let _ ← database (.operationEvents operationId)
  completeOperationWithEvent operationId .running

/-- `apply_inner` for a container that has to be replaced. -/
def applyReplacing (image : String) (spec : SandboxSpec) (plan : ApplyPlan)
    (preflight : ApplyPreflight) (operationId : OperationId) : Svc OperationId := do
  let replaced ← (replaceImage image spec plan.create plan.prepared plan.capabilities
    plan.transport preflight.runtime.image operationId).attempt (δ := ServiceError)
  match replaced with
  | .error error => do
    let actual ← runtimeActual spec.id plan.record.actualState
    reportFailure operationId actual (replacementFailure error).1 (replacementFailure error).2
      error
  | .ok (provisioned, resolution, rollbackCreate) => do
    let record :=
      { appliedRecord plan.record plan.fingerprint provisioned resolution with
        imageResolution := some (imageResolutionOf plan.create.image) }
    let committed ← (commitReplacement spec record operationId).attempt (δ := ServiceError)
    match committed with
    | .ok () => pure operationId
    | .error original =>
      undoApply spec.id plan.record plan.transport rollbackCreate preflight.runtime.image
        operationId original

/-- `apply_inner` for a sandbox whose recorded provisioning is the desired one. -/
def applyUnchanged (spec : SandboxSpec) (plan : ApplyPlan) (operationId : OperationId) :
    Svc OperationId := do
  let published ← (sshApply spec plan.record.sshResolution).attempt (δ := ServiceError)
  match published with
  | .error error =>
    failWith operationId spec.id plan.record.actualState error (failureDetails error)
  | .ok _ => do
    completeOperation operationId .running
    sendTerminal operationId
    pure operationId

/-- The provisioning of a container that is kept. -/
def provisionKept (spec : SandboxSpec) (plan : ApplyPlan) (operationId : OperationId) :
    Svc (ProvisionedResolution × Resolution) := do
  let provisioned ← provisionUp spec plan.create (some plan.record)
    ⟨operationId, plan.fingerprint, requestedStorageFromManifest spec.manifest.storage⟩
  emitBeforeHealth operationId
  healthCheck spec.id
  emitAfterHealth operationId plan.fingerprint
  let resolution ← sshApply spec plan.record.sshResolution
  pure (provisioned, resolution)

/-- `apply_inner` for a container that is kept and provisioned. -/
def applyKeeping (spec : SandboxSpec) (plan : ApplyPlan) (operationId : OperationId) :
    Svc OperationId := do
  let result ← (provisionKept spec plan operationId).attempt (δ := ServiceError)
  match result with
  | .error error => do
    let actual ← failedActual spec.id plan.record.actualState error
    failOperation operationId actual error.code (failureDetails error)
    sendTerminal operationId
    .throw error
  | .ok (provisioned, resolution) => do
    database (.putSandbox (appliedRecord plan.record plan.fingerprint provisioned resolution))
    completeOperation operationId .running
    sendTerminal operationId
    pure operationId

/-- The part of `apply_inner` after the preflight. -/
def applyChanges (image : String) (spec : SandboxSpec) (plan : ApplyPlan)
    (preflight : ApplyPreflight) (operationId : OperationId) : Svc OperationId :=
  if preflight.replaces then do
    let evidence ← (replacementEvidence plan.create preflight.runtime
      preflight.runtime.image).attempt (δ := ServiceError)
    match evidence with
    | .error error =>
      failWith operationId spec.id plan.record.actualState error (failureDetails error)
    | .ok _ => applyReplacing image spec plan preflight operationId
  else if plan.unchanged then applyUnchanged spec plan operationId
  else applyKeeping spec plan operationId

/-- `apply_inner` after its operation was recorded. -/
def applyOperation (image : String) (spec : SandboxSpec) (plan : ApplyPlan)
    (operationId : OperationId) : Svc OperationId := do
  initializeOperation operationId spec.id plan.record.actualState
  let preflight ← (applyPreflight spec plan).attempt (δ := ServiceError)
  match preflight with
  | .error error =>
    failWith operationId spec.id plan.record.actualState error (messageDetails error)
  | .ok preflight => applyChanges image spec plan preflight operationId

/-- `apply_inner`. It returns the operation it recorded. -/
def applyInner (image : String) (spec : SandboxSpec) : Svc OperationId := do
  let plan ← applyPrepare image spec
  let operation ← database (.beginOperation plan.record .apply)
  applyOperation image spec plan operation.id

end Service

end Gascan
