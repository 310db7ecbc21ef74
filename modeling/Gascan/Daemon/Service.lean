import Gascan.Daemon.Record
import Gascan.Daemon.World

/-!
# `Gascan.Daemon.Service`: the requests of the service and its SSH steps

A service program is a `Prog` over the commands of the boundary that ends with a `ServiceError` or
a value. Each request has its name in the source here, and so have the steps that publish, verify,
restore and withdraw the SSH endpoint of a sandbox. The lock of a sandbox is not part of a program.
-/

namespace Gascan

open Lib

/-- A program of the service. -/
abbrev Svc (α : Type) := Prog Cmd Reply ServiceError α

namespace Service

/-! ### Requests -/

/-- `SandboxService::database`, and `Sender::try_send` of an event of its result. -/
def databaseAndSend (op : StoreOp) (send : op.Result → Option OperationEvent) : Svc op.Result :=
  .call (.store op send) Prog.ofExcept

/-- `SandboxService::database`. -/
def database (op : StoreOp) : Svc op.Result := databaseAndSend op fun _ => none

/-- The result of a runtime call. -/
def ofRuntime {α : Type} (result : Except RuntimeError α) : Svc α :=
  Prog.ofExcept (result.mapError .runtime)

/-- The result of a policy decision. -/
def ofPolicy {α : Type} (result : Except PolicyError α) : Svc α :=
  Prog.ofExcept (result.mapError .policy)

def runtimeCapabilities : Svc RuntimeCapabilities := .call .capabilities ofRuntime

def inspect (id : SandboxId) : Svc (Option RuntimeSandbox) := .call (.inspect id) ofRuntime

def start (id : SandboxId) : Svc Unit := .call (.start id) ofRuntime

def stop (id : SandboxId) : Svc Unit := .call (.stop id) ofRuntime

def prepareImage (image : String) : Svc Unit := .call (.prepareImage image) ofRuntime

def listResources : Svc (List RuntimeResource) := .call .listResources ofRuntime

/-- Removes exactly the given resources. -/
def removeResources (resources : List RuntimeResource) : Svc Unit :=
  match RemoveRequest.fromResources resources with
  | .error error => .throw (.runtime error)
  | .ok request => .call (.remove request) ofRuntime

def healthCheck (id : SandboxId) : Svc Unit := .call (.healthCheck id) Prog.ofExcept

/-- The inspected container, or an error when there is none. -/
def inspectPresent (id : SandboxId) : Svc RuntimeSandbox := do
  let inspected ← inspect id
  match inspected with
  | some runtime => pure runtime
  | none => .throw (.missing id)

/-- Refuses a container whose labels name another sandbox. -/
def requireOwned (runtime : RuntimeSandbox) (id : SandboxId) : Svc Unit :=
  if ownedBy runtime id then pure () else .throw (.ownership id)

/-- `SandboxService::emit`. -/
def emit (id : OperationId) (details : Json) : Svc Unit := do
  let _ ← databaseAndSend (.appendOperationEvent id details) some
  pure ()

/-- `emit` of an event that has only a phase. -/
def emitPhase (id : OperationId) (phase : String) : Svc Unit :=
  emit id (.obj [("phase", .str phase)])

/-- `SandboxService::send_initial`: sends the first event of the operation. -/
def sendInitial (id : OperationId) : Svc Unit := do
  let _ ← databaseAndSend (.operationEvents id) List.head?
  pure ()

/-- `SandboxService::send_terminal`: sends the last event of the operation. -/
def sendTerminal (id : OperationId) : Svc Unit := do
  let _ ← databaseAndSend (.operationEvents id) List.getLast?
  pure ()

/-- The record of a sandbox, or an error when there is none. -/
def loadRecord (id : SandboxId) : Svc SandboxRecord := do
  let record ← database (.sandbox id)
  match record with
  | some record => pure record
  | none => .throw (.missing id)

/-- `SandboxService::runtime_actual`: the state the runtime reports, or the fallback when it does
not report one. The labels of the container are not checked. -/
def runtimeActual (id : SandboxId) (fallback : ActualState) : Svc ActualState := do
  let inspected ← (inspect id).attempt
  match inspected with
  | .ok (some runtime) => pure (actualOf runtime.state)
  | _ => pure fallback

/-- `Store::complete_operation`. -/
def completeOperation (id : OperationId) (actual : ActualState) : Svc Unit := do
  let _ ← database (.finishOperation id actual .completed none none false)
  pure ()

/-- `Store::complete_operation_with_event`, with the send of its event. -/
def completeOperationWithEvent (id : OperationId) (actual : ActualState) : Svc Unit := do
  let _ ← databaseAndSend (.finishOperation id actual .completed none none false)
    fun finished => some finished.2
  pure ()

/-- `Store::complete_destroy_operation`. -/
def completeDestroyOperation (id : OperationId) : Svc Unit := do
  let _ ← database (.finishOperation id .absent .completed none none true)
  pure ()

/-- `Store::fail_operation`. -/
def failOperation (id : OperationId) (actual : ActualState) (code : String) (details : Json) :
    Svc Unit := do
  let _ ← database (.finishOperation id actual .failed (some code) (some details) false)
  pure ()

/-- `Store::fail_operation_with_event`, with the send of its event. -/
def failOperationWithEvent (id : OperationId) (actual : ActualState) (code : String)
    (details : Json) : Svc Unit := do
  let _ ← databaseAndSend (.finishOperation id actual .failed (some code) (some details) false)
    fun finished => some finished.2
  pure ()

/-- `Store::fail_create_operation_clearing_ssh`. -/
def failCreateOperationClearingSsh (id : OperationId) (code : String) (details : Json) :
    Svc Unit := do
  let _ ← database (.finishOperation id .absent .failed (some code) (some details) true)
  pure ()

/-- The details of a failure that has only a message. -/
def messageDetails (error : ServiceError) : Json := .obj [("message", .str error.message)]

/-- `SandboxService::initialize_operation`. -/
def initializeOperation (operationId : OperationId) (id : SandboxId) (fallback : ActualState) :
    Svc Unit := do
  let initial ← (sendInitial operationId).attempt
  match initial with
  | .ok () => pure ()
  | .error error => do
    let actual ← runtimeActual id fallback
    let _ ← (failOperation operationId actual error.code (.obj
      [("message", .str error.message), ("phase", .str "initial_event")])).attempt
      (δ := ServiceError)
    .throw error

/-- Fails an operation in the state the runtime reports, then ends with the error. An error of the
store takes its place. -/
def failWith {α : Type} (operationId : OperationId) (id : SandboxId) (fallback : ActualState)
    (error : ServiceError) (details : Json) : Svc α := do
  let actual ← runtimeActual id fallback
  failOperation operationId actual error.code details
  sendTerminal operationId
  .throw error

/-- Ends with an error, or with both errors when the failure could not be recorded. -/
def reportFailure {α : Type} (operationId : OperationId) (actual : ActualState)
    (code : String) (details : Json) (error : ServiceError) : Svc α := do
  let failed ← (failOperation operationId actual code details).attempt (δ := ServiceError)
  match failed with
  | .error reporting => .throw (.failureReporting error reporting)
  | .ok () => do
    let sent ← (sendTerminal operationId).attempt (δ := ServiceError)
    match sent with
    | .error reporting => .throw (.failureReporting error reporting)
    | .ok () => .throw error

/-! ### SSH identities and activation -/

/-- `SshManager::alias`. -/
def sshAlias (id : SandboxId) : String := "gascan-" ++ id.value

def hostIdentity : Svc HostIdentity :=
  .call .hostIdentity fun result => Prog.ofExcept (result.mapError .sshConfigUnsafe)

/-- The SSH key and port selected for a new container. -/
structure PreparedSshCreate where
  identity : HostIdentity
  hostPort : Port

/-- `PreparedSshCreate::control_plane`. -/
def PreparedSshCreate.controlPlane (prepared : PreparedSshCreate) : ControlPlanePolicy :=
  ⟨some prepared.identity.publicKey, some prepared.hostPort⟩

/-- `PortReservation::reserve`. -/
def reservePort : Svc Port :=
  .call .reservePort fun result =>
    match result with
    | .error error => .throw (.sshPortUnavailable error)
    | .ok port =>
      if port < 1024 then .throw (.sshPortUnavailable
        "automatic SSH reservation was not an unprivileged IPv4 loopback port")
      else .pure port

/-- `SandboxService::prepare_ssh_create`. -/
def prepareSshCreate (spec : SandboxSpec) : Svc (Option PreparedSshCreate) :=
  if spec.manifest.ssh.enabled then do
    let identity ← hostIdentity
    let hostPort ← spec.manifest.ssh.hostPort.elim reservePort pure
    pure (some ⟨identity, hostPort⟩)
  else pure none

/-- `SandboxService::compile_policy`. -/
def compilePolicy (image : String) (spec : SandboxSpec) (capabilities : RuntimeCapabilities)
    (ssh : Option PreparedSshCreate) : Except PolicyError CreateRequest :=
  match ssh with
  | some ssh =>
    PolicyCompiler.compileForImageWithControlPlane spec capabilities image ssh.controlPlane
  | none => PolicyCompiler.compileForImage spec capabilities image

/-- The fingerprints an enabled resolution expects. -/
def expectedFingerprints (expected : Option Resolution) :
    Except ServiceError (Option (String × String)) :=
  match expected with
  | none => .ok none
  | some resolution =>
    if !sshResolutionEnabled (some resolution) then
      .error (.sshHostKeyMismatch "durable SSH identity is not enabled and verified")
    else
      match (resolution.details.getStr "host_key_fingerprint").filter (!·.isEmpty) with
      | none => .error (.sshHostKeyMismatch "durable SSH host fingerprint is missing")
      | some host =>
        match (resolution.details.getStr "client_key_fingerprint").filter (!·.isEmpty) with
        | none => .error (.sshHostKeyMismatch "durable SSH client fingerprint is missing")
        | some client => .ok (some (host, client))

/-- The fingerprints seen have to be the expected ones, if any are expected. -/
def checkFingerprints (expected : Option (String × String)) (host client : String) :
    Except ServiceError Unit :=
  if expected.any (· ≠ (host, client)) then
    .error (.sshHostKeyMismatch "guest or client SSH identity changed")
  else .ok ()

/-- `verified_managed_host`. -/
def verifiedManagedHost (id : SandboxId) (expected : Option Resolution) (identity : HostIdentity) :
    Svc ActiveSsh := do
  let inspected ← inspectPresent id
  requireOwned inspected id
  if inspected.state ≠ .running then
    .throw (.notReady "SSH activation requires a running sandbox")
  else do
    let port ← Prog.ofExcept (nativeSshPort inspected)
    let hostKey ← Prog.call (.readHostKey id) Prog.ofExcept
    let fingerprints ← Prog.ofExcept (expectedFingerprints expected)
    Prog.ofExcept (checkFingerprints fingerprints hostKey identity.fingerprint)
    pure ⟨port, sshAlias id, hostKey, identity.fingerprint⟩

def activeHosts : Svc (List ActiveSsh) := .call .activeHosts Prog.ofExcept

def prepareFiles (hosts : List ActiveSsh) : Svc Unit :=
  .call (.prepareFiles hosts) fun result => Prog.ofExcept (result.mapError .sshConfigUnsafe)

/-- `config_commit_error`. -/
def configCommitError : SshConfigCommitError → ServiceError
  | .unpublished error => .sshConfigUpdateFailed error
  | error => .sshConfigPublicationUncertain error

def commitFiles (hosts : List ActiveSsh) : Svc Unit :=
  .call (.commitFiles hosts) fun result => Prog.ofExcept (result.mapError configCommitError)

/-- An activation whose files are ready to be published. -/
structure PreparedSshActivation where
  active : ActiveSsh
  hosts : List ActiveSsh

/-- `enabled_resolution`. -/
def enabledResolution (active : ActiveSsh) : Resolution :=
  ⟨1, .obj [("enabled", .bool true), ("host_key_fingerprint", .str active.hostKeyFingerprint),
    ("client_key_fingerprint", .str active.clientKeyFingerprint)]⟩

/-- `SandboxService::prepare_ssh_activation`. -/
def prepareSshActivation (id : SandboxId) (expected : Option Resolution) :
    Svc (Option PreparedSshActivation) :=
  if expected.any fun resolution => !sshResolutionEnabled (some resolution) then pure none
  else do
    let identity ← hostIdentity
    let managed ← verifiedManagedHost id expected identity
    let others ← activeHosts
    let hosts := others.filter (·.hostAlias ≠ managed.hostAlias) ++ [managed]
    prepareFiles hosts
    Prog.call (.readiness managed) Prog.ofExcept
    pure (some ⟨managed, hosts⟩)

/-- The rest of `SshManager::deactivate_for_paths` for a sandbox that is published. -/
def withdrawHosts (id : SandboxId) (hosts : List ActiveSsh) : Svc Unit := do
  let remaining := hosts.filter (·.hostAlias ≠ sshAlias id)
  prepareFiles remaining
  commitFiles remaining

/-- `SandboxService::deactivate_ssh`. -/
def deactivateSsh (id : SandboxId) : Svc Unit := do
  let _ ← hostIdentity
  let hosts ← activeHosts
  if hosts.all (·.hostAlias ≠ sshAlias id) then pure () else withdrawHosts id hosts

/-- `restore_prior_ssh_resolution`: writes the prior resolution back and ends with the error. -/
def restorePriorSshResolution {α : Type} (id : SandboxId) (prior : Option Resolution)
    (original : ServiceError) : Svc α := do
  let restored ← (database (.setSshResolution id prior)).attempt (δ := ServiceError)
  match restored with
  | .ok _ => .throw original
  | .error reporting => .throw (.failureReporting original reporting)

/-- An activation, or an error when there is none. -/
def requireActivation (detail : String) (prepared : Option PreparedSshActivation) :
    Except ServiceError PreparedSshActivation :=
  match prepared with
  | some prepared => .ok prepared
  | none => .error (.notReady detail)

/-- Ends an activation step that failed before the files were published. -/
def unlessFailed (id : SandboxId) (prior : Option Resolution) (result : Except ServiceError Unit) :
    Svc Unit :=
  match result with
  | .ok () => pure ()
  | .error original => restorePriorSshResolution id prior original

/-- Ends a failed commit. When it is uncertain whether the files were published, the resolution
stays. -/
def unlessCommitFailed (id : SandboxId) (prior : Option Resolution)
    (result : Except ServiceError Unit) : Svc Unit :=
  match result with
  | .ok () => pure ()
  | .error original =>
    if original.isSshPublicationUncertain then .throw original
    else restorePriorSshResolution id prior original

/-- The event before a publication, if an operation is given. -/
def emitPublication (publication : Option OperationId) (version : Nat) : Svc Unit :=
  match publication with
  | none => pure ()
  | some operationId => emit operationId (.obj
    [("phase", .str "before_ssh_publication"), ("resolution_version", .num version)])

/-- `SandboxService::activate_and_persist_ssh`. -/
def activateAndPersistSsh (id : SandboxId) (prior : Option Resolution)
    (publication : Option OperationId) : Svc Resolution := do
  let expected := prior.filter fun resolution => sshResolutionEnabled (some resolution)
  let activation ← prepareSshActivation id expected
  let prepared ← Prog.ofExcept
    (requireActivation "enabled SSH did not produce activation evidence" activation)
  let resolution := enabledResolution prepared.active
  let _ ← database (.setSshResolution id (some resolution))
  let emitted ← (emitPublication publication resolution.version).attempt (δ := ServiceError)
  unlessFailed id prior emitted
  let committed ← (commitFiles prepared.hosts).attempt (δ := ServiceError)
  unlessCommitFailed id prior committed
  pure resolution

/-- `SandboxService::disable_and_persist_ssh`. -/
def disableAndPersistSsh (id : SandboxId) (prior : Option Resolution) : Svc Resolution := do
  Prog.when (sshResolutionEnabled prior) (deactivateSsh id)
  let _ ← database (.setSshResolution id (some disabledResolution))
  pure disabledResolution

/-- `SandboxService::restore_prior_ssh`. -/
def restorePriorSsh (id : SandboxId) (enabled : Bool) (prior : Option Resolution) :
    Svc Resolution :=
  if enabled then activateAndPersistSsh id prior none
  else do
    deactivateSsh id
    let resolution := (prior.filter fun resolution =>
      !sshResolutionEnabled (some resolution)).getD disabledResolution
    let _ ← database (.setSshResolution id (some resolution))
    pure resolution

/-- `SandboxService::preflight_recovered_ssh_mapping`. -/
def preflightRecoveredSshMapping (id : SandboxId) : Svc Unit := do
  let runtime ← inspectPresent id
  requireOwned runtime id
  if runtime.state ≠ .running then .throw (.notReady "SSH recovery requires a running sandbox")
  else do
    let port ← Prog.ofExcept (nativeSshPort runtime)
    let policy ← database (.sshTransportPolicy id)
    Prog.ofExcept (validateInspectedSshPolicy policy port)

/-- The endpoint that a running sandbox with enabled SSH has to be published under. -/
def expectedPublication (record : SandboxRecord) :
    Svc (Option (SandboxId × Resolution × Port)) := do
  if !sshResolutionEnabled record.sshResolution then pure none
  else do
    let inspected ← inspect record.id
    match inspected with
    | none => pure none
    | some runtime => do
      requireOwned runtime record.id
      if runtime.state ≠ .running then pure none
      else do
        let port ← Prog.ofExcept (nativeSshPort runtime)
        let policy ← database (.sshTransportPolicy record.id)
        Prog.ofExcept (validateInspectedSshPolicy policy port)
        match record.sshResolution with
        | none => .throw (.notReady "durable SSH resolution is missing")
        | some resolution => pure (some (record.id, resolution, port))

/-- The endpoints of all records, in order. -/
def expectedPublications : List SandboxRecord → Svc (List (SandboxId × Resolution × Port))
  | [] => pure []
  | record :: rest => do
    let first ← expectedPublication record
    let others ← expectedPublications rest
    pure (first.toList ++ others)

/-- `PublishedSshSnapshot::for_sandbox` of an enabled resolution. -/
def publishedFor (client : String) (hosts : List ActiveSsh) (id : SandboxId)
    (resolution : Resolution) : Except ServiceError (Option ActiveSsh) := do
  if !sshResolutionEnabled (some resolution) then return none
  else
    match ← expectedFingerprints (some resolution) with
    | none => return none
    | some (expectedHost, expectedClient) =>
      if client ≠ expectedClient then
        .error (.sshHostKeyMismatch "stored client identity fingerprint changed")
      else
        match hosts.find? (·.hostAlias = sshAlias id) with
        | none => return none
        | some active =>
          if active.hostKeyFingerprint = expectedHost ∧
              active.clientKeyFingerprint = expectedClient then
            return some active
          else .error (.sshHostKeyMismatch "published SSH fingerprints changed")

/-- One entry of `PublishedSshSnapshot::validate_exact`. -/
def checkPublished (client : String) (hosts : List ActiveSsh)
    (expected : SandboxId × Resolution × Port) : Except ServiceError Unit := do
  match ← publishedFor client hosts expected.1 expected.2.1 with
  | none => .error (.sshConfigUnsafe "managed SSH publication differs from durable state")
  | some active =>
    if active.port ≠ expected.2.2 then
      .error (.sshConfigUnsafe "managed SSH publication differs from durable state")
    else return ()

/-- `PublishedSshSnapshot::validate_exact`. -/
def validateExact (client : String) (hosts : List ActiveSsh)
    (expected : List (SandboxId × Resolution × Port)) : Except ServiceError Unit :=
  if hosts.length ≠ expected.length then
    .error (.sshConfigUnsafe "managed SSH publication differs from durable state")
  else expected.forM (checkPublished client hosts)

/-- `SandboxService::verify_exact_ssh_publication`. -/
def verifyExactSshPublication : Svc Unit := do
  let records ← database .listSandboxes
  let expected ← expectedPublications records
  let identity ← hostIdentity
  let hosts ← activeHosts
  Prog.ofExcept (validateExact identity.fingerprint hosts expected)

/-- `SandboxService::mark_ssh_publication`. -/
def markSshPublication (operationId : OperationId) (resolution : Resolution) : Svc Unit :=
  (emit operationId (.obj [("phase", .str "after_ssh_publication"),
    ("resolution_version", .num resolution.version)])).mapError .sshPublicationUncertain

/-! ### The setup file -/

/-- Reads and hashes the setup script of a manifest. -/
def readSetup (spec : SandboxSpec) :
    Prog Cmd Reply ProvisionError (Option SetupScript) :=
  match spec.manifest.setup with
  | none => .pure none
  | some path =>
    .call (.readSetup spec.canonicalRoot (canonicalRelativePath path)) fun content =>
      Prog.ofExcept ((resolveSetup path content).map some)

/-- `ProvisioningPlanner::plan_for_root`, with the error the service gives it. -/
def planForRoot (spec : SandboxSpec) (applied : AppliedState) : Svc ProvisionPlan := do
  let setup ← (readSetup spec).mapError fun _ =>
    ServiceError.provision "could not plan provisioning"
  pure (ProvisioningPlanner.planForRoot spec.manifest applied setup)

/-- `desired_fingerprint`. -/
def desiredFingerprint (spec : SandboxSpec) : Svc String := do
  let setup ← (readSetup spec).mapError fun _ =>
    ServiceError.fingerprint "workspace setup could not be read safely"
  pure (fingerprintOf spec.manifest setup)

end Service

end Gascan
