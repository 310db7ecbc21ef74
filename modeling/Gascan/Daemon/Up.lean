import Gascan.Daemon.Provisioning

/-!
# `Gascan.Daemon.Up`: bringing a sandbox up

`upInner` records a create operation, creates the sandbox when there is no container, provisions it
and publishes its SSH endpoint. On a sandbox that exists it only starts the container, and asks for
`apply` when the image, the SSH transport or the provisioning differs from the manifest. A failed
`up` removes what it created; otherwise it withdraws the SSH endpoint and stops the container.
-/

namespace Gascan

open Lib Lib.Text

namespace Service

/-! ### Creating the sandbox -/

/-- The number of attempts with an automatic port. -/
def automaticPortAttempts : Nat := 8

/-- The text between a head and a tail, if it has both. -/
def stripAround (head tail : String) (line : List Char) : Option (List Char) :=
  if head.toList.isPrefixOf line then
    let rest := line.drop head.toList.length
    if tail.toList.isSuffixOf rest then
      some (rest.take (rest.length - tail.toList.length))
    else none
  else none

/-- Whether a line reports that the port is in use. -/
def collisionLine (port : Port) (line : List Char) : Bool :=
  ((stripAround "Error: listen tcp 127.0.0.1:" ": bind: address already in use" line).bind
    (parseUnsigned 65536)) = some port.toNat

/-- Whether a text contains another. -/
def containsText (text part : String) : Bool := (splitOnce part.toList text.toList).isSome

/-- The part of `is_native_port_collision` that is decided by the error alone. -/
def reportsCollision (source : RuntimeError) (port : Port) : Bool :=
  match source with
  | .commandFailed operation (some _) stderr =>
    operation = "container" && (lines stderr.toList).any (collisionLine port)
  | _ => false

/-- Whether an error looks like a bootstrap failure on the SSH port of a request. The source then
tries to bind the port itself. -/
def suggestsCollision (source : RuntimeError) (port : Port) (create : CreateRequest) : Bool :=
  match source with
  | .commandFailed operation (some _) stderr =>
    operation = "container" && create.ports.contains (sshPort port) &&
      containsText stderr "Error: failed to bootstrap container" &&
      containsText stderr "bind(descriptor:ptr:bytes:): Address already in use" &&
      containsText stderr "(errno: 48)"
  | _ => false

/-- `is_native_port_collision`. -/
def isNativePortCollision (source : RuntimeError) (port : Port) (create : CreateRequest) :
    Svc Bool :=
  if reportsCollision source port then pure true
  else if suggestsCollision source port create then .call (.portInUse port) .pure
  else pure false

/-- Whether a failed creation collided on the SSH port, if SSH was prepared. -/
def portCollision (source : RuntimeError) (prepared : Option PreparedSshCreate)
    (create : CreateRequest) : Svc Bool :=
  prepared.elim (pure false) fun ssh => isNativePortCollision source ssh.hostPort create

/-- `rollback_created`: stops and removes exactly what a creation made, then ends with the error. -/
def rollbackCreated {α : Type} (id : SandboxId) (outcome : CreateOutcome)
    (original : ServiceError) : Svc α := do
  let undone ← (do
    let inspected ← inspect id
    match inspected with
    | none => .throw (.runtime (.notFound id.value))
    | some current =>
      if !ownedBy current id then .throw (.runtime (.ownershipMismatch id.value))
      else do
        Prog.when (current.state = .running) (stop id)
        removeResources outcome.created : Svc Unit).attempt (δ := ServiceError)
  match undone with
  | .ok () => .throw original
  | .error (.runtime undo) => .throw (.rollback original undo)
  | .error _ => .throw original

/-- `persist_created_state`. -/
def persistCreatedState (id : SandboxId) (storage : StorageCapacities)
    (transport : SshTransportPolicy) : Svc Unit := do
  let record ← loadRecord id
  let record := { record with storageResolution := some (storageResolution storage) }
  database (.putSandboxWithSshTransport record (some transport))

/-- Removes the partial evidence of a failed creation. -/
def removePartial (failure : CreateFailure) : Svc Unit :=
  if failure.created.isEmpty then pure ()
  else
    match RemoveRequest.fromResources failure.created with
    | .error error => .throw (.runtime error)
    | .ok request => .call (.remove request) fun result =>
      match result with
      | .ok () => .pure ()
      | .error undo => .throw (.rollback (.create failure) undo)

/-- Whether a manifest leaves the choice of the SSH port to the daemon. -/
def automaticSsh (spec : SandboxSpec) : Bool :=
  spec.manifest.ssh.enabled && spec.manifest.ssh.hostPort.isNone

/-- The text of the error after the last attempt. -/
def collisionText (attempts : Nat) (what : String) : String :=
  "native loopback port collision after " ++ toString attempts ++ " " ++ what ++ " attempt(s)"

/-- What follows a failed creation. It is tried again when it collided on a port that the daemon
chose. `retries` attempts are left. -/
def afterFailure {α : Type} (spec : SandboxSpec) (what : String) (retries : Nat)
    (failure : CreateFailure) (collision : Bool) (again : Svc α) : Svc α :=
  if !collision then .throw (.create failure)
  else if !automaticSsh spec then
    .throw (.sshPortUnavailable (collisionText (automaticPortAttempts - retries) what))
  else again

/-- One pass of the create loop of `up_runtime`. -/
def createOnce (spec : SandboxSpec) (storage : StorageCapacities) (retries : Nat)
    (prepared : Option PreparedSshCreate) (create : CreateRequest)
    (again : Svc (CreateOutcome × CreateRequest)) : Svc (CreateOutcome × CreateRequest) :=
  .call (.create create) fun created =>
    match created with
    | .ok outcome => do
      let persisted ← (persistCreatedState spec.id storage
        (requestedSshTransport spec)).attempt (δ := ServiceError)
      match persisted with
      | .ok () => pure (outcome, create)
      | .error error => rollbackCreated spec.id outcome error
    | .error failure => do
      removePartial failure
      let collision ← portCollision failure.source prepared create
      afterFailure spec "create" retries failure collision again

/-- The create loop of `up_runtime`. `retries` attempts are left after this one. -/
def createLoop (image : String) (spec : SandboxSpec) (capabilities : RuntimeCapabilities)
    (storage : StorageCapacities) :
    (retries : Nat) → Option PreparedSshCreate → CreateRequest → Svc (CreateOutcome × CreateRequest)
  | 0, prepared, create => createOnce spec storage 0 prepared create
    (.throw (.sshPortUnavailable (collisionText automaticPortAttempts "create")))
  | retries + 1, prepared, create => createOnce spec storage (retries + 1) prepared create (do
    let prepared ← prepareSshCreate spec
    let create ← ofPolicy (compilePolicy image spec capabilities prepared)
    createLoop image spec capabilities storage retries prepared create)

/-! ### The running sandbox -/

/-- What `up_runtime` is given besides the specification. -/
structure UpRuntimeContext where
  operationId : OperationId
  desiredFingerprint : String
  requestedStorage : StorageCapacities

/-- What `up_runtime` returns: the actual state, what was provisioned, the SSH resolution to
record, and whether the requested SSH transport is in effect. -/
structure UpOutcome where
  actual : ActualState
  provisioned : Option ProvisionedResolution
  sshResolution : Option Resolution
  sshTransportApplied : Bool

/-- The reason `up` gives for asking for an apply of the provisioning. -/
def applyReason (plan : ProvisionPlan) : String :=
  if plan.setupChanged then "setup_changed"
  else if plan.toolsChanged then "tools_changed"
  else if plan.shellChanged then "shell_changed"
  else "desired_content_changed"

/-- Whether the recorded provisioning of an existing sandbox is the desired one. -/
def durableMatch (spec : SandboxSpec) (record : SandboxRecord) (fingerprint : String)
    (image : ImageState) : Svc Bool :=
  if !resolutionMatches record fingerprint then pure false
  else do
    let plan ← planForRoot spec (appliedState (some record))
    if plan.toolsChanged then pure false
    else do
      let plan ← planForRoot spec (appliedState (some record))
      pure (!plan.shellChanged && !image.changeRequired)

/-- The event that asks for an apply of the provisioning. -/
def emitApplyRequired (spec : SandboxSpec) (prior : Option SandboxRecord)
    (ctx : UpRuntimeContext) : Svc Unit := do
  let plan ← planForRoot spec (appliedState prior)
  emit ctx.operationId (.obj
    [("phase", .str "apply_required"), ("reason", .str (applyReason plan)),
     ("desired_fingerprint", .str ctx.desiredFingerprint)])

/-- Provisioning in `up_runtime`, between its two events. -/
def provisionUp (spec : SandboxSpec) (create : CreateRequest) (prior : Option SandboxRecord)
    (ctx : UpRuntimeContext) : Svc ProvisionedResolution := do
  emit ctx.operationId (.obj
    [("phase", .str "before_provision"), ("desired_fingerprint", .str ctx.desiredFingerprint)])
  let provisioned ← provisionExplicit spec create prior ctx.operationId
  emit ctx.operationId (.obj
    ([("phase", .str "after_provision"), ("resolution_version", .num 1),
      ("desired_fingerprint", .str ctx.desiredFingerprint)] ++ provisionedMembers provisioned))
  pure provisioned

/-- The SSH step of `up_runtime`: publish and verify the endpoint, or withdraw it. -/
def sshUp (spec : SandboxSpec) (prior : Option Resolution) (operationId : OperationId) :
    Svc Resolution :=
  if spec.manifest.ssh.enabled then do
    let resolution ← activateAndPersistSsh spec.id prior (some operationId)
    verifyExactSshPublication.mapError .sshPublicationUncertain
    (emit operationId (.obj [("phase", .str "before_ssh_publication_marker"),
      ("resolution_version", .num resolution.version)])).mapError .sshPublicationUncertain
    markSshPublication operationId resolution
    pure resolution
  else disableAndPersistSsh spec.id prior

/-- The event after a health check that names the fingerprint. -/
def emitAfterHealth (operationId : OperationId) (fingerprint : String) : Svc Unit :=
  emit operationId (.obj
    [("phase", .str "after_health"), ("desired_fingerprint", .str fingerprint)])

/-- The provisioning decision of `up_runtime`: ask for an apply, provision, or leave the guest as it
is. `known` is the record of a sandbox that had a container before. -/
def settleProvision (spec : SandboxSpec) (create : CreateRequest)
    (prior known : Option SandboxRecord)
    (existed matched : Bool) (ctx : UpRuntimeContext) : Svc (Option ProvisionedResolution) :=
  if existed && !matched && prior.any hasCompleteResolution then do
    emitApplyRequired spec prior ctx
    pure none
  else if !matched then do
    let provisioned ← provisionUp spec create known ctx
    pure (some provisioned)
  else pure none

/-- The last part of `up_runtime`: start the container, provision it, check its health and settle
its SSH endpoint. `existed` says whether there was a container before. -/
def settle (spec : SandboxSpec) (create : CreateRequest) (prior : Option SandboxRecord)
    (existed : Bool) (ctx : UpRuntimeContext) :
    Svc (Option ProvisionedResolution × Resolution) := do
  let current ← inspectPresent spec.id
  Prog.when (current.state ≠ .running) (start spec.id)
  emitPhase ctx.operationId "started"
  let image ← ofRuntime (imageState prior current.image create.image)
  let known := if existed then prior else none
  let matched ← known.elim (pure false) fun record =>
    durableMatch spec record ctx.desiredFingerprint image
  let provisioned ← settleProvision spec create prior known existed matched ctx
  emitBeforeHealth ctx.operationId
  healthCheck spec.id
  emitAfterHealth ctx.operationId ctx.desiredFingerprint
  let resolution ← sshUp spec (known.bind (·.sshResolution)) ctx.operationId
  pure (provisioned, resolution)

/-- Withdraws the SSH endpoint and stops the container after a failed `up` of an existing
sandbox. The errors of these steps are ignored. -/
def quiesce (id : SandboxId) : Svc Unit := do
  let withdrawn ← (deactivateSsh id).attempt (δ := ServiceError)
  match withdrawn with
  | .error _ => pure ()
  | .ok () => do
    let inspected ← (inspect id).attempt (δ := ServiceError)
    match inspected with
    | .ok (some _) => do
      let _ ← (stop id).attempt (δ := ServiceError)
      pure ()
    | _ => pure ()

/-- How `up_runtime` ends after a failure of its last part. -/
def unsettle {α : Type} (id : SandboxId) (created : Option CreateOutcome)
    (error : ServiceError) : Svc α :=
  if error.isSetupFailure || error.isSshPublicationUncertain then .throw error
  else
    match created with
    | some outcome => rollbackCreated id outcome error
    | none => do
      quiesce id
      .throw error

/-- The event that asks for an apply because of the image. -/
def imageChangedEvent (image : ImageState) : Json := .obj
  [("phase", .str "apply_required"), ("reason", .str "image_changed"),
   ("recorded_image", Json.optStr image.recorded), ("running_image", .str image.running),
   ("approved_image", .str image.approved)]

/-- The event that asks for an apply because of the SSH transport. -/
def transportChangedEvent : Json :=
  .obj [("phase", .str "apply_required"), ("reason", .str "ssh_transport_changed")]

/-- The transport comparison of `up_runtime`. -/
def upTransportChanged (prior : Option SandboxRecord) (runtime : RuntimeSandbox)
    (spec : SandboxSpec) (transport : Option SshTransportPolicy) : Bool :=
  match prior with
  | some record =>
    sshTransportPolicyChanged record runtime spec transport (hasCompleteResolution record) false
  | none => runtimeSshTransportChanged runtime spec

/-- Whether an existing container can be brought up as it is. An answer is the event that asks for
an apply instead. -/
def upPreflight (spec : SandboxSpec) (approved : String) (prior : Option SandboxRecord)
    (transport : Option SshTransportPolicy) (runtime : RuntimeSandbox) :
    Except ServiceError (Option Json) :=
  if !ownedBy runtime spec.id then .error (.ownership spec.id)
  else
    match imageState prior runtime.image approved with
    | .error error => .error (.runtime error)
    | .ok image =>
      if image.changeRequired then .ok (some (imageChangedEvent image))
      else if upTransportChanged prior runtime spec transport then .ok (some transportChangedEvent)
      else .ok none

/-- Runs the last part of `up_runtime` and ends as it ends. -/
def settleOrUndo (spec : SandboxSpec) (create : CreateRequest) (prior : Option SandboxRecord)
    (created : Option CreateOutcome) (ctx : UpRuntimeContext) : Svc UpOutcome := do
  let settled ← (settle spec create prior created.isNone ctx).attempt (δ := ServiceError)
  match settled with
  | .ok (provisioned, resolution) => pure ⟨.running, provisioned, some resolution, true⟩
  | .error error => unsettle spec.id created error

/-- `up_runtime` for a sandbox without a container. -/
def upAbsent (image : String) (spec : SandboxSpec) (capabilities : RuntimeCapabilities)
    (prior : Option SandboxRecord) (ctx : UpRuntimeContext) : Svc UpOutcome := do
  let prepared ← prepareSshCreate spec
  let create ← ofPolicy (compilePolicy image spec capabilities prepared)
  let (outcome, create) ← createLoop image spec capabilities ctx.requestedStorage
    (automaticPortAttempts - 1) prepared create
  emitPhase ctx.operationId "created"
  settleOrUndo spec create prior (some outcome) ctx

/-- `up_runtime` for a sandbox with a container. -/
def upPresent (image : String) (spec : SandboxSpec) (approved : String)
    (capabilities : RuntimeCapabilities) (prior : Option SandboxRecord)
    (transport : Option SshTransportPolicy) (runtime : RuntimeSandbox) (ctx : UpRuntimeContext) :
    Svc UpOutcome := do
  let required ← Prog.ofExcept (upPreflight spec approved prior transport runtime)
  match required with
  | some event => do
    emit ctx.operationId event
    pure ⟨actualOf runtime.state, none, prior.bind (·.sshResolution), false⟩
  | none => do
    let prepared ← prepareSshCreate spec
    let create ← ofPolicy (compilePolicy image spec capabilities prepared)
    settleOrUndo spec create prior none ctx

/-- `up_runtime`. -/
def upRuntime (image : String) (spec : SandboxSpec) (create : CreateRequest)
    (capabilities : RuntimeCapabilities) (prior : Option SandboxRecord)
    (transport : Option SshTransportPolicy) (ctx : UpRuntimeContext) : Svc UpOutcome := do
  let inspected ← inspect spec.id
  match inspected with
  | some runtime =>
    upPresent image spec create.image capabilities prior transport runtime ctx
  | none => upAbsent image spec capabilities prior ctx

/-! ### The operation -/

/-- The record of a sandbox that `up` sees for the first time. -/
def newRecord (spec : SandboxSpec) (create : CreateRequest) : SandboxRecord :=
  { id := spec.id
    canonicalRoot := spec.canonicalRoot
    desiredState := .running
    actualState := .creating
    setupResolution := none
    toolResolution := none
    imageResolution := some (imageResolutionOf create.image)
    storageResolution := none
    sshResolution := none
    lastOperationId := none
    updatedAtMillis := 0 }

/-- The record that `up` begins its operation with. -/
def upRecord (existing : Option SandboxRecord) (spec : SandboxSpec) (create : CreateRequest) :
    SandboxRecord :=
  let record := existing.getD (newRecord spec create)
  { record with
    desiredState := .running
    actualState := if record.actualState = .absent then .creating else record.actualState }

/-- The record with what was provisioned, if anything was. -/
def withProvisioned (record : SandboxRecord) (fingerprint : String)
    (provisioned : Option ProvisionedResolution) : SandboxRecord :=
  match provisioned with
  | none => record
  | some p =>
    { record with
      setupResolution := some (setupResolutionOf (.str fingerprint) (jsonOpt p.setup))
      toolResolution := some (toolResolutionOf (.str fingerprint) (.str p.toolHash)
        (.str p.shellHash) (jsonOpt p.tools)) }

/-- The record that a successful `up` writes. -/
def upFinalRecord (record : SandboxRecord) (ctx : UpRuntimeContext) (outcome : UpOutcome) :
    SandboxRecord :=
  let record := withProvisioned record ctx.desiredFingerprint outcome.provisioned
  { record with
    storageResolution := some (storageResolution ctx.requestedStorage)
    sshResolution := outcome.sshResolution.or record.sshResolution
    actualState := outcome.actual }

/-- A check that only concerns a sandbox that is not recorded as absent. -/
def checkPresent (existing : Option SandboxRecord)
    (check : SandboxRecord → Except ServiceError Unit) : Except ServiceError Unit :=
  match existing with
  | none => .ok ()
  | some record => if record.actualState = .absent then .ok () else check record

/-- The end of an `up` whose runtime part succeeded. -/
def finishUp (spec : SandboxSpec) (record : SandboxRecord) (transport : Option SshTransportPolicy)
    (ctx : UpRuntimeContext) (outcome : UpOutcome) : Svc OperationId := do
  let transport :=
    if outcome.sshTransportApplied then some (requestedSshTransport spec) else transport
  database (.putSandboxWithSshTransport (upFinalRecord record ctx outcome) transport)
  completeOperation ctx.operationId outcome.actual
  sendTerminal ctx.operationId
  pure ctx.operationId

/-- The state that a failure is recorded in. A setup failure has stopped the container itself. -/
def failedActual (id : SandboxId) (fallback : ActualState) (error : ServiceError) :
    Svc ActualState :=
  if error.setupStopConfirmed then pure .stopped else runtimeActual id fallback

/-- The end of an `up` whose runtime part failed. -/
def failUp {α : Type} (spec : SandboxSpec) (operationId : OperationId) (error : ServiceError) :
    Svc α := do
  let actual ← failedActual spec.id .absent error
  reportFailure operationId actual error.code (failureDetails error) error

/-- `up_inner` after its operation was recorded. -/
def upOperation (image : String) (spec : SandboxSpec) (create : CreateRequest)
    (capabilities : RuntimeCapabilities) (existing : Option SandboxRecord)
    (record : SandboxRecord) (transport : Option SshTransportPolicy) (ctx : UpRuntimeContext) :
    Svc OperationId := do
  initializeOperation ctx.operationId spec.id record.actualState
  let validated ← (emitPhase ctx.operationId "validated").attempt (δ := ServiceError)
  match validated with
  | .error error => do
    let actual ← runtimeActual spec.id record.actualState
    let _ ← (failOperation ctx.operationId actual error.code (.obj
      [("message", .str error.message), ("phase", .str "validated")])).attempt
      (δ := ServiceError)
    .throw error
  | .ok () => do
    let result ← (upRuntime image spec create capabilities existing transport ctx).attempt
      (δ := ServiceError)
    match result with
    | .ok outcome => finishUp spec record transport ctx outcome
    | .error error => failUp spec ctx.operationId error

/-- What `up_inner` computes before it records its operation. -/
structure UpPlan where
  existing : Option SandboxRecord
  capabilities : RuntimeCapabilities
  create : CreateRequest
  storage : StorageCapacities
  transport : Option SshTransportPolicy
  fingerprint : String

/-- The first part of `up_inner`: the checks that need no operation. -/
def upPrepare (image : String) (spec : SandboxSpec) : Svc UpPlan := do
  let existing ← database (.sandbox spec.id)
  Prog.ofExcept (checkPresent existing validateStorageLayout)
  let capabilities ← runtimeCapabilities
  let create ← ofPolicy (compilePolicy image spec capabilities none)
  let storage ← Prog.ofExcept (requestedStorage create)
  let transport ← database (.sshTransportPolicy spec.id)
  Prog.ofExcept (checkPresent existing (validateStorageCapacities · storage))
  let fingerprint ← desiredFingerprint spec
  pure ⟨existing, capabilities, create, storage, transport, fingerprint⟩

/-- `up_inner`. It returns the operation it recorded. -/
def upInner (image : String) (spec : SandboxSpec) : Svc OperationId := do
  let plan ← upPrepare image spec
  let record := upRecord plan.existing spec plan.create
  let operation ← database (.beginOperation record .create)
  upOperation image spec plan.create plan.capabilities plan.existing record plan.transport
    ⟨operation.id, plan.fingerprint, plan.storage⟩

end Service

end Gascan
