import Gascan.Core.Sandbox
import Gascan.Core.Manifest
import Gascan.Daemon.Json
import Gascan.Lib.Table

/-!
# `Gascan.Daemon.Store`: the durable store

The store holds one row for each sandbox, the operations on it, and an append-only log of
operation events. A table is the list of its rows in the order of its integer primary key. Every
function here is one SQLite transaction: it returns the new store, or an error that leaves the old
one in place. The actual state of a sandbox moves along `validateActualTransition`, at the end of an
operation along the edges of `validateTerminalActualTransition`.
-/

namespace Gascan

open Lib

inductive DesiredState where
  | absent
  | running
  | stopped
  deriving DecidableEq, Repr

inductive ActualState where
  | absent
  | creating
  | running
  | stopped
  | destroying
  deriving DecidableEq, Repr

/-- `ActualState::as_db`. -/
def ActualState.asDb : ActualState → String
  | .absent => "absent"
  | .creating => "creating"
  | .running => "running"
  | .stopped => "stopped"
  | .destroying => "destroying"

inductive OperationKind where
  | create
  | apply
  | start
  | stop
  | destroy
  | reconcile
  deriving DecidableEq, Repr

/-- `OperationKind::as_db`. -/
def OperationKind.asDb : OperationKind → String
  | .create => "create"
  | .apply => "apply"
  | .start => "start"
  | .stop => "stop"
  | .destroy => "destroy"
  | .reconcile => "reconcile"

inductive OperationStatus where
  | pending
  | completed
  | failed
  deriving DecidableEq, Repr

/-- `OperationStatus::as_db`. -/
def OperationStatus.asDb : OperationStatus → String
  | .pending => "pending"
  | .completed => "completed"
  | .failed => "failed"

/-- The identifier of a durable operation. -/
abbrev OperationId := Nat

/-- A versioned resolution record: the setup, tool, image, storage and SSH resolutions all have
this form. -/
structure Resolution where
  version : Nat
  details : Json

/-- The SSH transport a sandbox was created with. -/
inductive SshTransportPolicy where
  | disabled
  | enabled (hostPort : Option Port)
  deriving DecidableEq

namespace SshTransportPolicy

/-- `SshTransportPolicy::is_enabled`. -/
def isEnabled : SshTransportPolicy → Bool
  | .disabled => false
  | .enabled _ => true

/-- `SshTransportPolicy::host_port`. -/
def hostPort : SshTransportPolicy → Option Port
  | .disabled => none
  | .enabled port => port

end SshTransportPolicy

structure SandboxRecord where
  id : SandboxId
  canonicalRoot : Path
  desiredState : DesiredState
  actualState : ActualState
  setupResolution : Option Resolution
  toolResolution : Option Resolution
  imageResolution : Option Resolution
  storageResolution : Option Resolution
  sshResolution : Option Resolution
  lastOperationId : Option OperationId
  updatedAtMillis : Int

structure OperationRecord where
  id : OperationId
  sandboxId : SandboxId
  kind : OperationKind
  status : OperationStatus
  errorCode : Option String
  errorDetails : Option Json

structure OperationEvent where
  sequence : Nat
  operationId : OperationId
  status : OperationStatus
  details : Option Json
  errorCode : Option String
  timestampMillis : Int

/-- A row of the `sandboxes` table. The record's `lastOperationId` is not a column, and is filled
in when the row is loaded. -/
structure SandboxRow where
  record : SandboxRecord
  sshTransport : Option SshTransportPolicy

/-- The primary key of a row. -/
abbrev SandboxRow.id (row : SandboxRow) : SandboxId := row.record.id

/-- The unique column of a row besides its key. -/
abbrev SandboxRow.root (row : SandboxRow) : Path := row.record.canonicalRoot

/-- The content of the database. The counters are the `sqlite_sequence` entries. -/
structure Store where
  sandboxes : List SandboxRow := []
  operations : List OperationRecord := []
  events : List OperationEvent := []
  operationSeq : Nat := 0
  eventSeq : Nat := 0

inductive StoreError where
  | database (message : String)
  | unknownSchema
  | unsupportedSchemaVersion (version : Int)
  | schemaMismatch (message : String)
  | duplicateSandboxId (sandboxId : SandboxId) (existingRoot : Path)
  | duplicateCanonicalRoot (canonicalRoot : Path) (existingId : SandboxId)
  | pendingOperationExists (sandboxId : SandboxId)
  | invalidTransition (source target : String)
  | operationNotFound (id : OperationId)
  | sandboxNotFound (id : SandboxId)
  | corruptData (message : String)
  deriving DecidableEq

/-! ### Checks -/

/-- The edges of the actual state that any write may follow. -/
def actualTransition : ActualState → ActualState → Bool
  | .absent, .creating => true
  | .creating, .running | .creating, .stopped => true
  | .running, .stopped | .running, .destroying => true
  | .stopped, .running | .stopped, .destroying => true
  | .destroying, .absent => true
  | source, target => source = target

/-- `validate_actual_transition`. -/
def validateActualTransition (source target : ActualState) : Except StoreError Unit :=
  if actualTransition source target then .ok ()
  else .error (.invalidTransition source.asDb target.asDb)

/-- The further edges of an operation that failed: a create that is undone, and a destroy that
left the container. -/
def rollbackTransition : OperationKind → ActualState → ActualState → Bool
  | .create, .creating, .absent => true
  | .destroy, .destroying, .running | .destroy, .destroying, .stopped => true
  | _, _, _ => false

/-- Whether an operation of this kind may end in this status and move the actual state so. -/
def terminalTransition (source target : ActualState) (kind : OperationKind)
    (status : OperationStatus) : Bool :=
  actualTransition source target || (status ≠ .completed && rollbackTransition kind source target)

/-- `validate_terminal_actual_transition`. -/
def validateTerminalActualTransition (source target : ActualState) (kind : OperationKind)
    (status : OperationStatus) : Except StoreError Unit :=
  if status = .completed then validateActualTransition source target
  else if rollbackTransition kind source target then .ok ()
  else validateActualTransition source target

/-- `validate_operation_transition`. -/
def validateOperationTransition (source target : OperationStatus) : Except StoreError Unit :=
  if source = .pending ∧ target ≠ .pending then .ok ()
  else .error (.invalidTransition source.asDb target.asDb)

/-- `validate_resolution_version`. -/
def validateResolutionVersion (version : Nat) : Except StoreError Unit :=
  if version = 0 then .error (.corruptData "resolution version must be positive") else .ok ()

/-- `validate_ssh_resolution`: version 1 has exactly its three members. -/
def validateSshResolution (resolution : Resolution) : Except StoreError Unit := do
  validateResolutionVersion resolution.version
  if resolution.version ≠ 1 then return ()
  else
    match resolution.details.asObject with
    | none => .error (.corruptData "SSH resolution version 1 details must be an object")
    | some members =>
      let required := ["enabled", "host_key_fingerprint", "client_key_fingerprint"]
      if members.length ≠ required.length ∨ members.any (!required.contains ·.1) then
        .error (.corruptData "SSH resolution version 1 details contain unsupported fields")
      else if ((members.lookup "enabled").bind Json.asBool).isNone ∨
          ((members.lookup "host_key_fingerprint").bind Json.asStr).isNone ∨
          ((members.lookup "client_key_fingerprint").bind Json.asStr).isNone then
        .error (.corruptData
          "SSH resolution version 1 details are missing required fields or have invalid types")
      else .ok ()

/-- The check of an optional resolution. -/
def validateOptional (check : Resolution → Except StoreError Unit) :
    Option Resolution → Except StoreError Unit
  | none => .ok ()
  | some resolution => check resolution

/-- `validate_resolutions`. -/
def validateResolutions (sandbox : SandboxRecord) : Except StoreError Unit := do
  validateOptional (validateResolutionVersion ·.version) sandbox.setupResolution
  validateOptional (validateResolutionVersion ·.version) sandbox.toolResolution
  validateOptional (validateResolutionVersion ·.version) sandbox.imageResolution
  validateOptional (validateResolutionVersion ·.version) sandbox.storageResolution
  validateOptional validateSshResolution sandbox.sshResolution

namespace Store

/-! ### Reading -/

/-- The row of a sandbox. -/
def row? (s : Store) (id : SandboxId) : Option SandboxRow :=
  Table.lookup SandboxRow.id id s.sandboxes

/-- The row that holds a canonical root. -/
def rootOwner? (s : Store) (root : Path) : Option SandboxRow :=
  Table.lookup SandboxRow.root root s.sandboxes

/-- The operation with the given identifier. -/
def operation? (s : Store) (id : OperationId) : Option OperationRecord :=
  Table.lookup OperationRecord.id id s.operations

/-- The identifier of the latest operation on a sandbox. -/
def lastOperationId (s : Store) (id : SandboxId) : Option OperationId :=
  ((s.operations.filter (·.sandboxId = id)).map (·.id)).max?

/-- The record of a row, with the latest operation on it. -/
def recordOf (s : Store) (row : SandboxRow) : SandboxRecord :=
  { row.record with lastOperationId := s.lastOperationId row.record.id }

/-- `Store::sandbox`. -/
def sandbox (s : Store) (id : SandboxId) : Option SandboxRecord :=
  (s.row? id).map s.recordOf

/-- `Store::ssh_transport_policy`. -/
def sshTransportPolicy (s : Store) (id : SandboxId) : Option SshTransportPolicy :=
  (s.row? id).bind (·.sshTransport)

/-- `Store::list_sandboxes`. The source orders the rows by their identifier; no modelled caller
depends on the order. -/
def listSandboxes (s : Store) : List SandboxRecord := s.sandboxes.map s.recordOf

/-- Whether a sandbox has a pending operation. -/
def hasPending (s : Store) (id : SandboxId) : Bool :=
  s.operations.any fun operation => operation.sandboxId = id && operation.status = .pending

/-- `Store::pending_operations`, in the order of their identifiers. -/
def pendingOperations (s : Store) : List OperationRecord :=
  s.operations.filter (·.status = .pending)

/-- `Store::operation_events`, in the order of their sequence numbers. -/
def operationEvents (s : Store) (id : OperationId) : List OperationEvent :=
  s.events.filter (·.operationId = id)

/-! ### Writing -/

/-- Changes the row of a sandbox. -/
def updateRow (s : Store) (id : SandboxId) (f : SandboxRow → SandboxRow) : Store :=
  { s with sandboxes := Table.update SandboxRow.id id f s.sandboxes }

/-- Changes an operation. -/
def updateOperation (s : Store) (id : OperationId) (f : OperationRecord → OperationRecord) :
    Store :=
  { s with operations := Table.update OperationRecord.id id f s.operations }

/-- Appends an event with the next sequence number. -/
def appendEvent (s : Store) (operationId : OperationId) (status : OperationStatus)
    (details : Option Json) (errorCode : Option String) (now : Int) : OperationEvent × Store :=
  let event : OperationEvent :=
    ⟨s.eventSeq + 1, operationId, status, details, errorCode, now⟩
  (event, { s with events := s.events ++ [event], eventSeq := s.eventSeq + 1 })

/-- The columns a row gets from a record. The identity, the root and the SSH transport of an
existing row stay. -/
def assignRecord (sandbox : SandboxRecord) (now : Int) (row : SandboxRow) : SandboxRow :=
  { row with record :=
    { sandbox with
      id := row.record.id
      canonicalRoot := row.record.canonicalRoot
      lastOperationId := none
      updatedAtMillis := now } }

/-- The `INSERT … ON CONFLICT(id) DO UPDATE` of a record. -/
def upsert (s : Store) (sandbox : SandboxRecord) (now : Int) : Store :=
  if (s.row? sandbox.id).isSome then s.updateRow sandbox.id (assignRecord sandbox now)
  else
    { s with sandboxes := s.sandboxes ++
        [⟨{ sandbox with lastOperationId := none, updatedAtMillis := now }, none⟩] }

/-- The first check of `put_sandbox_in`: the identity keeps its root and moves along an admitted
edge. -/
def checkIdentity (s : Store) (sandbox : SandboxRecord) : Except StoreError Unit :=
  match s.row? sandbox.id with
  | some existing =>
    if !samePath existing.record.canonicalRoot sandbox.canonicalRoot then
      .error (.duplicateSandboxId sandbox.id existing.record.canonicalRoot)
    else validateActualTransition existing.record.actualState sandbox.actualState
  | none => .ok ()

/-- The second check of `put_sandbox_in`: the root belongs to no other identity. -/
def checkRoot (s : Store) (sandbox : SandboxRecord) : Except StoreError Unit :=
  match s.rootOwner? sandbox.canonicalRoot with
  | some owner =>
    if owner.record.id ≠ sandbox.id then
      .error (.duplicateCanonicalRoot sandbox.canonicalRoot owner.record.id)
    else .ok ()
  | none => .ok ()

/-- The checks of `put_sandbox_in`. -/
def checkPut (s : Store) (sandbox : SandboxRecord) : Except StoreError Unit := do
  s.checkIdentity sandbox
  s.checkRoot sandbox

/-- `put_sandbox_in`. -/
def putSandboxIn (s : Store) (sandbox : SandboxRecord) (now : Int) : Except StoreError Store := do
  s.checkPut sandbox
  return s.upsert sandbox now

/-- `Store::put_sandbox`. -/
def putSandbox (s : Store) (sandbox : SandboxRecord) (now : Int) : Except StoreError Store := do
  validateResolutions sandbox
  s.putSandboxIn sandbox now

/-- The `CHECK` constraint on the host port of a transport. -/
def transportPortOk (policy : Option SshTransportPolicy) : Bool :=
  (policy.bind (·.hostPort)).all (1024 ≤ ·)

/-- `set_ssh_transport_policy_in`. -/
def setSshTransportPolicyIn (s : Store) (id : SandboxId) (policy : Option SshTransportPolicy) :
    Except StoreError Store :=
  if (s.row? id).isNone then .error (.sandboxNotFound id)
  else if !transportPortOk policy then .error (.database "CHECK constraint failed")
  else .ok (s.updateRow id fun row => { row with sshTransport := policy })

/-- `Store::put_sandbox_with_ssh_transport`. -/
def putSandboxWithSshTransport (s : Store) (sandbox : SandboxRecord)
    (policy : Option SshTransportPolicy) (now : Int) : Except StoreError Store := do
  validateResolutions sandbox
  let s ← s.putSandboxIn sandbox now
  s.setSshTransportPolicyIn sandbox.id policy

/-- `Store::set_ssh_resolution`. -/
def setSshResolution (s : Store) (id : SandboxId) (resolution : Option Resolution) (now : Int) :
    Except StoreError Store := do
  validateOptional validateSshResolution resolution
  if (s.row? id).isNone then .error (.sandboxNotFound id)
  else return s.updateRow id fun row =>
    { row with record := { row.record with sshResolution := resolution, updatedAtMillis := now } }

/-- The pending operation that `begin_operation` inserts. -/
def newOperation (s : Store) (id : SandboxId) (kind : OperationKind) : OperationRecord :=
  ⟨s.operationSeq + 1, id, kind, .pending, none, none⟩

/-- Inserts an operation. -/
def insertOperation (s : Store) (operation : OperationRecord) : Store :=
  { s with operations := s.operations ++ [operation], operationSeq := operation.id }

/-- `Store::begin_operation`. -/
def beginOperation (s : Store) (sandbox : SandboxRecord) (kind : OperationKind) (now : Int) :
    Except StoreError (OperationRecord × Store) := do
  validateResolutions sandbox
  let s ← s.putSandboxIn sandbox now
  if s.hasPending sandbox.id then .error (.pendingOperationExists sandbox.id)
  else
    let operation := s.newOperation sandbox.id kind
    let s := s.insertOperation operation
    return (operation, (s.appendEvent operation.id .pending none none now).2)

/-- Whether an operation that ends so may clear the SSH trust of its sandbox. -/
def mayClearSshTrust : OperationKind → OperationStatus → ActualState → Bool
  | .destroy, .completed, .absent | .create, .failed, .absent => true
  | _, _, _ => false

/-- The row of a sandbox whose operation ended. -/
def finishRow (actual : ActualState) (clearSshTrust : Bool) (now : Int) (row : SandboxRow) :
    SandboxRow :=
  { record :=
      { row.record with
        actualState := actual
        sshResolution := if clearSshTrust then none else row.record.sshResolution
        updatedAtMillis := now }
    sshTransport := if clearSshTrust then none else row.sshTransport }

/-- The operation after it ended. -/
def finishRecord (status : OperationStatus) (errorCode : Option String)
    (errorDetails : Option Json) (operation : OperationRecord) : OperationRecord :=
  { operation with status, errorCode, errorDetails }

/-- `Store::finish_operation`. -/
def finishOperation (s : Store) (id : OperationId) (actual : ActualState)
    (status : OperationStatus) (errorCode : Option String) (errorDetails : Option Json)
    (clearSshTrust : Bool) (now : Int) :
    Except StoreError ((OperationRecord × OperationEvent) × Store) :=
  match s.operation? id with
  | none => .error (.operationNotFound id)
  | some operation => do
    validateOperationTransition operation.status status
    match s.row? operation.sandboxId with
    | none => .error (.database "Query returned no rows")
    | some row => do
      validateTerminalActualTransition row.record.actualState actual operation.kind status
      if clearSshTrust && !mayClearSshTrust operation.kind status actual then
        .error (.invalidTransition operation.kind.asDb "clear_ssh_trust")
      else
        let s := s.updateRow operation.sandboxId (finishRow actual clearSshTrust now)
        let s := s.updateOperation id (finishRecord status errorCode errorDetails)
        let (event, s) := s.appendEvent id status errorDetails errorCode now
        return ((finishRecord status errorCode errorDetails operation, event), s)

/-- `Store::append_operation_event`. -/
def appendOperationEvent (s : Store) (id : OperationId) (details : Json) (now : Int) :
    Except StoreError (OperationEvent × Store) :=
  match s.operation? id with
  | none => .error (.operationNotFound id)
  | some operation =>
    if operation.status ≠ .pending then
      .error (.invalidTransition operation.status.asDb OperationStatus.pending.asDb)
    else .ok (s.appendEvent id .pending (some details) none now)

end Store

end Gascan
