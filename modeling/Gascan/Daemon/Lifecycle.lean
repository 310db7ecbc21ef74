import Gascan.Daemon.Service

/-!
# `Gascan.Daemon.Lifecycle`: starting, stopping and destroying a sandbox

`simpleState` starts or stops the container of a sandbox, `destroyInner` removes every owned
resource that the sandbox is expected to have. Both record an operation first, and fail it in the
state the runtime reports. Recovery shares the steps that stop an owned container and remove the
expected resources.
-/

namespace Gascan

open Lib

namespace Service

/-! ### Start and stop -/

/-- The runtime part of a start. -/
def startOwned (id : SandboxId) (record : SandboxRecord) (runtime : RuntimeSandbox) : Svc Unit := do
  Prog.when (runtime.state ≠ .running) (start id)
  if sshResolutionEnabled record.sshResolution then do
    let activation ← prepareSshActivation id record.sshResolution
    let prepared ← Prog.ofExcept (requireActivation
      "verified SSH resolution did not produce activation evidence" activation)
    commitFiles prepared.hosts
  else pure ()

/-- The runtime part of a stop. -/
def stopManaged (id : SandboxId) (record : SandboxRecord) (runtime : RuntimeSandbox) :
    Svc Unit := do
  Prog.when (sshResolutionEnabled record.sshResolution) (deactivateSsh id)
  Prog.when (runtime.state ≠ .stopped) (stop id)

/-- The runtime part of `simple_state`. -/
def changeState (id : SandboxId) (record : SandboxRecord) (target : ActualState) : Svc Unit := do
  let runtime ← inspectPresent id
  requireOwned runtime id
  match target with
  | .running => startOwned id record runtime
  | .stopped => stopManaged id record runtime
  | _ => .throw (.runtime (.invalidState id.value
    "simple lifecycle target must be running or stopped"))

/-- `simple_state` after its operation was recorded. -/
def simpleOperation (id : SandboxId) (record : SandboxRecord) (target : ActualState)
    (operationId : OperationId) : Svc OperationId := do
  initializeOperation operationId id record.actualState
  let result ← (changeState id record target).attempt (δ := ServiceError)
  match result with
  | .error error => failWith operationId id record.actualState error (messageDetails error)
  | .ok () => do
    completeOperation operationId target
    sendTerminal operationId
    pure operationId

/-- `simple_state`. It returns the operation it recorded. -/
def simpleState (id : SandboxId) (kind : OperationKind) (desired : DesiredState)
    (target : ActualState) : Svc OperationId := do
  let record ← loadRecord id
  let record := { record with desiredState := desired }
  let operation ← database (.beginOperation record kind)
  simpleOperation id record target operation.id

/-- `SandboxService::start`. -/
def startSandbox (id : SandboxId) : Svc OperationId := simpleState id .start .running .running

/-- `SandboxService::stop`. -/
def stopSandbox (id : SandboxId) : Svc OperationId := simpleState id .stop .stopped .stopped

/-! ### Destroy -/

/-- Stops the container of a sandbox, if there is one. -/
def stopOwned (id : SandboxId) : Svc Unit := do
  let inspected ← inspect id
  match inspected with
  | none => pure ()
  | some runtime => do
    requireOwned runtime id
    Prog.when (runtime.state = .running) (stop id)

/-- Removes every owned resource that the sandbox is expected to have, and checks that none is
left. -/
def removeExpected (id : SandboxId) : Svc Unit := do
  let expected ← ofRuntime (expectedResourceIdentities id)
  let listed ← listResources
  let resources := listed.filter (expectedOwned expected id)
  Prog.when (!resources.isEmpty) (removeResources resources)
  let remaining ← listResources
  if remaining.any (expectedOwned expected id) then .throw (.incompleteDestroy id) else pure ()

/-- The runtime part of `destroy_inner`. -/
def destroyRuntime (id : SandboxId) (record : SandboxRecord) : Svc Unit := do
  Prog.when (sshResolutionEnabled record.sshResolution) (deactivateSsh id)
  stopOwned id
  removeExpected id

/-- The record that `destroy_inner` begins its operation with. -/
def destroyRecord (record : SandboxRecord) : SandboxRecord :=
  { record with
    desiredState := .absent
    actualState := if record.actualState = .absent then .absent else .destroying }

/-- `destroy_inner` after its operation was recorded. A failure is recorded in the state before the
operation when the runtime does not report one. -/
def destroyOperation (id : SandboxId) (prior : ActualState) (record : SandboxRecord)
    (operationId : OperationId) : Svc OperationId := do
  initializeOperation operationId id record.actualState
  let result ← (destroyRuntime id record).attempt (δ := ServiceError)
  match result with
  | .error error => failWith operationId id prior error (messageDetails error)
  | .ok () => do
    completeDestroyOperation operationId
    sendTerminal operationId
    pure operationId

/-- `destroy_inner`. It returns the operation it recorded. -/
def destroyInner (id : SandboxId) : Svc OperationId := do
  let record ← loadRecord id
  let operation ← database (.beginOperation (destroyRecord record) .destroy)
  destroyOperation id record.actualState (destroyRecord record) operation.id

end Service

end Gascan
