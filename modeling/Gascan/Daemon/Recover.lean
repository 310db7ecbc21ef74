import Gascan.Daemon.Lifecycle

/-!
# `Gascan.Daemon.Recover`: the operations that a crash left pending

`recoverPending` runs when the daemon starts. It reads the events, the record and the container of
each pending operation, and completes or fails the operation in the state the runtime reports. A
creation that was interrupted while it published SSH is published again; when that is refused,
every owned resource that the sandbox is expected to have is removed.
-/

namespace Gascan

open Lib

/-- The findings of `recover_pending`. -/
inductive ReconcileFinding where
  | inspectionUnavailable (sandboxId : SandboxId) (reason : String)
  | sshUnavailable (sandboxId : SandboxId) (reason : String)
  deriving DecidableEq

/-- The sandbox that a finding names. -/
def ReconcileFinding.sandboxId : ReconcileFinding → SandboxId
  | .inspectionUnavailable id _ => id
  | .sshUnavailable id _ => id

/-- The `Debug` text of an actual state. -/
def ActualState.debug : ActualState → String
  | .absent => "Absent"
  | .creating => "Creating"
  | .running => "Running"
  | .stopped => "Stopped"
  | .destroying => "Destroying"

namespace Service

/-! ### SSH -/

/-- Publishes the SSH endpoint again, unless it is published exactly as recorded. -/
def republish (id : SandboxId) (resolution : Option Resolution) (exact : Bool) :
    Svc (Option Resolution) :=
  if exact then pure resolution
  else do
    let resolution ← activateAndPersistSsh id resolution none
    verifyExactSshPublication.mapError .sshPublicationUncertain
    pure (some resolution)

/-- The event that marks a recovered publication. -/
def markRecovered (operationId : OperationId) (resolution : Option Resolution) : Svc Unit :=
  match resolution with
  | none => .throw (.notReady "recovered SSH resolution is missing")
  | some resolution => (emit operationId (.obj
    [("phase", .str "after_ssh_publication"), ("resolution_version", .num resolution.version),
     ("recovered", .bool true)])).mapError .sshPublicationUncertain

/-- Whether a recorded SSH endpoint is published exactly. -/
def publishedExactly (record : SandboxRecord) : Svc Bool :=
  if record.sshResolution.isSome then do
    let verified ← verifyExactSshPublication.attempt (δ := ServiceError)
    pure verified.toBool
  else pure false

/-- `recover_pending_ssh_publication`. -/
def recoverPendingSshPublication (operationId : OperationId) (id : SandboxId)
    (record : SandboxRecord) (events : List OperationEvent) : Svc Unit := do
  preflightRecoveredSshMapping id
  let exact ← publishedExactly record
  let resolution ← republish id record.sshResolution exact
  Prog.when (!events.any (hasPhase "after_ssh_publication")) (markRecovered operationId resolution)

/-- `rollback_interrupted_ssh_create`. -/
def rollbackInterruptedSshCreate (id : SandboxId) : Svc Unit := do
  deactivateSsh id
  stopOwned id
  removeExpected id

/-- What the SSH part of a recovery decides: to go on with a record, or that the operation was
dealt with. -/
inductive SshRecovery where
  | ready (record : SandboxRecord) (createSshReady : Bool)
  | ended (findings : List ReconcileFinding)

/-- The end of a creation whose SSH publication is refused. -/
def abandonSshCreate (operation : OperationRecord) (error : ServiceError) : Svc SshRecovery := do
  let undone ← (rollbackInterruptedSshCreate operation.sandboxId).attempt (δ := ServiceError)
  match undone with
  | .error _ => pure (.ended [.sshUnavailable operation.sandboxId error.code])
  | .ok () => do
    failCreateOperationClearingSsh operation.id error.code (failureDetails error)
    pure (.ended [])

/-- The SSH part of the recovery of an operation. -/
def recoverSsh (operation : OperationRecord) (record : SandboxRecord)
    (events : List OperationEvent) (actual : ActualState) (hookEvidence : Bool) :
    Svc SshRecovery := do
  let transport ← database (.sshTransportPolicy operation.sandboxId)
  if operation.kind = .create && transport.any (·.isEnabled) && actual = .running &&
      hookEvidence then do
    let recovered ← (recoverPendingSshPublication operation.id operation.sandboxId record
      events).attempt (δ := ServiceError)
    match recovered with
    | .ok () => do
      let record ← loadRecord operation.sandboxId
      pure (.ready record true)
    | .error error =>
      if error.isSshPublicationUncertain then
        pure (.ended [.sshUnavailable operation.sandboxId error.code])
      else abandonSshCreate operation error
  else pure (.ready record (!transport.any (·.isEnabled)))

/-! ### The terminal state -/

/-- Whether no owned resource that the sandbox is expected to have is left. Only asked for a
destroy. -/
def expectedAbsent (operation : OperationRecord) : Svc Bool :=
  if operation.kind = .destroy then do
    let expected ← ofRuntime (expectedResourceIdentities operation.sandboxId)
    let resources ← listResources
    pure (!resources.any (expectedOwned expected operation.sandboxId))
  else pure false

/-- Whether the runtime is in the state that an operation leads to. -/
def converged (kind : OperationKind) (actual : ActualState)
    (hookEvidence createSshReady expectedAbsent : Bool) : Bool :=
  match kind with
  | .create => actual = .running && hookEvidence && createSshReady
  | .start => actual = .running
  | .stop => actual = .stopped
  | .destroy => actual = .absent && expectedAbsent
  | .apply => hookEvidence && (actual = .running || actual = .stopped)
  | .reconcile => true

/-- The details of the first `after_provision` event, for an operation that provisions. -/
def provisionEvidence (kind : OperationKind) (events : List OperationEvent) : Option Json :=
  if kind = .create || kind = .apply then
    (events.filterMap (·.details)).find? fun details =>
      details.getStr "phase" = some "after_provision"
  else none

/-- The record with the resolutions that the events show. -/
def recoveredRecord (record : SandboxRecord) (actual : ActualState) (details : Json) :
    SandboxRecord :=
  let member := fun name => jsonOpt (details.get name)
  { record with
    setupResolution := some (setupResolutionOf (member "desired_fingerprint") (member "setup"))
    toolResolution := some (toolResolutionOf (member "desired_fingerprint") (member "tool_hash")
      (member "shell_hash") (member "tools"))
    actualState := actual }

/-- Completes an operation that reached its state. -/
def completeRecovered (operation : OperationRecord) (record : SandboxRecord)
    (events : List OperationEvent) (actual : ActualState) : Svc Unit := do
  (provisionEvidence operation.kind events).elim (pure ()) fun details =>
    database (.putSandbox (recoveredRecord record actual details))
  completeOperation operation.id actual

/-- Fails an operation that did not reach its state. -/
def failRecovered (operation : OperationRecord) (actual : ActualState) : Svc Unit :=
  failOperation operation.id actual "interrupted_operation"
    (.obj [("phase", .str "reconcile"), ("actual", .str actual.debug)])

/-- The recovery of an operation once its container is known. -/
def recoverInspected (operation : OperationRecord) (record : SandboxRecord)
    (events : List OperationEvent) (actual : ActualState) (hookEvidence : Bool) :
    Svc (List ReconcileFinding) := do
  let ssh ← recoverSsh operation record events actual hookEvidence
  match ssh with
  | .ended findings => pure findings
  | .ready record createSshReady => do
    let absent ← expectedAbsent operation
    if converged operation.kind actual hookEvidence createSshReady absent then do
      completeRecovered operation record events actual
      pure []
    else do
      failRecovered operation actual
      pure []

/-- The state of the container of a sandbox. -/
def inspectedActual (inspected : Option RuntimeSandbox) : ActualState :=
  inspected.elim .absent fun runtime => actualOf runtime.state

/-- The recovery of an operation that is still pending. -/
def recoverStillPending (operation : OperationRecord) : Svc (List ReconcileFinding) := do
  let events ← database (.operationEvents operation.id)
  let record ← loadRecord operation.sandboxId
  let hookEvidence := orderedHookEvidence events record
  let inspected ← (.call (.inspect operation.sandboxId) .pure :
    Svc (Except RuntimeError (Option RuntimeSandbox)))
  match inspected with
  | .error error => pure [.inspectionUnavailable operation.sandboxId error.code]
  | .ok inspected =>
    if inspected.any (!ownedBy · operation.sandboxId) then do
      failOperation operation.id record.actualState "ownership_mismatch"
        (.obj [("phase", .str "reconcile")])
      pure []
    else recoverInspected operation record events (inspectedActual inspected) hookEvidence

/-- The recovery of one pending operation. -/
def recoverOperation (operation : OperationRecord) : Svc (List ReconcileFinding) := do
  let pending ← database .pendingOperations
  if pending.any (·.id = operation.id) then recoverStillPending operation else pure []

/-- The recovery of the pending operations, in order. -/
def recoverEach : List OperationRecord → Svc (List ReconcileFinding)
  | [] => pure []
  | operation :: rest => do
    let findings ← recoverOperation operation
    let others ← recoverEach rest
    pure (findings ++ others)

/-- `recover_pending`. -/
def recoverPending : Svc (List ReconcileFinding) := do
  let operations ← database .pendingOperations
  recoverEach operations

end Service

end Gascan
