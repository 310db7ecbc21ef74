import Gascan.Core.Identity
import Gascan.Daemon.Store
import Gascan.Lib.Result

/-!
# `Gascan.Daemon.Rows`: the columns of the database

The rows of the `sandboxes` table as SQLite has them: texts, numbers and `NULL`. A write encodes a
record into columns, and a loader decodes them again and may fail. The rows of the other two tables
stay decoded, in a `Store` without sandboxes. A `JsonCodec` stands for `serde_json`.
-/

namespace Gascan.Rows

open Lib

/-- The encoding of JSON values as text. -/
structure JsonCodec (Text : Type) where
  toText : Json → Text
  fromText : Text → Option Json
  fromText_toText : ∀ value, fromText (toText value) = some value

/-- The errors of the store, with those of stored values. -/
inductive RowError where
  | store (error : StoreError)
  | json
  | sandboxId
  | invalidOperationId (value : Int)

/-! ### States -/

/-- `DesiredState::as_db`. -/
def desiredAsDb : DesiredState → String
  | .absent => "absent"
  | .running => "running"
  | .stopped => "stopped"

/-- The error of a text that names no value of a type. -/
def invalidValue (type value : String) : RowError :=
  .store (.corruptData ("invalid " ++ type ++ " value " ++ value))

/-- `DesiredState::from_db`. -/
def desiredFromDb (value : String) : Except RowError DesiredState :=
  if value = "absent" then .ok .absent
  else if value = "running" then .ok .running
  else if value = "stopped" then .ok .stopped
  else .error (invalidValue "DesiredState" value)

/-- `ActualState::from_db`. -/
def actualFromDb (value : String) : Except RowError ActualState :=
  if value = "absent" then .ok .absent
  else if value = "creating" then .ok .creating
  else if value = "running" then .ok .running
  else if value = "stopped" then .ok .stopped
  else if value = "destroying" then .ok .destroying
  else .error (invalidValue "ActualState" value)

/-! ### Columns -/

variable {Text : Type} (codec : JsonCodec Text)

/-- `encode_resolution`. -/
def encodeResolution : Option Resolution → Option Nat × Option Text
  | some resolution => (some resolution.version, some (codec.toText resolution.details))
  | none => (none, none)

/-- `decode_resolution`. -/
def decodeResolution : Option Nat × Option Text → Except RowError (Option Resolution)
  | (none, none) => .ok none
  | (some version, some details) =>
    if 0 < version then
      match codec.fromText details with
      | some details => .ok (some ⟨version, details⟩)
      | none => .error .json
    else .error (.store (.corruptData "incomplete or invalid resolution record"))
  | _ => .error (.store (.corruptData "incomplete or invalid resolution record"))

/-- The columns of a policy in `set_ssh_transport_policy_in`. -/
def encodeSshTransportPolicy : Option SshTransportPolicy → Option Int × Option Int
  | some policy => (some (if policy.isEnabled then 1 else 0), policy.hostPort.map (·.toNat))
  | none => (none, none)

/-- `u16::try_from` on a stored port. -/
def decodePort (port : Int) : Except RowError Port :=
  if 0 ≤ port ∧ port < 65536 then .ok (UInt16.ofNat port.toNat)
  else .error (.store (.corruptData "SSH transport host port is out of range"))

/-- `decode_ssh_transport_policy`. -/
def decodeSshTransportPolicy : Option Int × Option Int → Except RowError (Option SshTransportPolicy)
  | (none, none) => .ok none
  | (some enabled, port) =>
    if enabled = 0 ∧ port = none then .ok (some .disabled)
    else if enabled = 1 then
      match port with
      | none => .ok (some (.enabled none))
      | some port => do
        let port ← decodePort port
        return some (.enabled (some port))
    else .error (.store (.corruptData "invalid SSH transport policy"))
  | (none, some _) => .error (.store (.corruptData "invalid SSH transport policy"))

/-- `OperationId::new`. -/
def operationId (value : Int) : Except RowError OperationId :=
  if 0 < value then .ok value.toNat else .error (.invalidOperationId value)

/-- A row of the `sandboxes` table. -/
structure Columns (Text : Type) where
  id : String
  root : String
  desired : String
  actual : String
  setup : Option Nat × Option Text
  tools : Option Nat × Option Text
  image : Option Nat × Option Text
  storage : Option Nat × Option Text
  ssh : Option Nat × Option Text
  transport : Option Int × Option Int
  updatedAtMillis : Int

/-- The `CHECK` constraints of the SSH transport. -/
def Columns.satisfiesChecks (row : Columns Text) : Bool :=
  row.transport.1.all (fun enabled => enabled = 0 || enabled = 1) &&
    row.transport.2.all fun port => 1024 ≤ port && port ≤ 65535

/-- `SandboxId::try_from`. -/
def decodeId (value : String) : Except RowError SandboxId :=
  okOr (SandboxId.tryFrom value) .sandboxId

/-- The identifier of the latest operation, when there is one. -/
def decodeLast : Option Int → Except RowError (Option OperationId)
  | none => .ok none
  | some value => (operationId value).map some

/-- `SandboxRecord::try_from`. -/
def decode (row : Columns Text) (last : Option Int) : Except RowError SandboxRecord := do
  let id ← decodeId row.id
  let desiredState ← desiredFromDb row.desired
  let actualState ← actualFromDb row.actual
  let setupResolution ← decodeResolution codec row.setup
  let toolResolution ← decodeResolution codec row.tools
  let imageResolution ← decodeResolution codec row.image
  let storageResolution ← decodeResolution codec row.storage
  let sshResolution ← decodeResolution codec row.ssh
  let lastOperationId ← decodeLast last
  return {
    id, canonicalRoot := row.root, desiredState, actualState, setupResolution, toolResolution,
    imageResolution, storageResolution, sshResolution, lastOperationId,
    updatedAtMillis := row.updatedAtMillis }

/-! ### The database -/

/-- The content of the database. The `sandboxes` of the journal stay empty. -/
structure Database (Text : Type) where
  sandboxes : List (Columns Text) := []
  journal : Store := {}

namespace Database

variable (d : Database Text)

/-- The row with a primary key. -/
def row? (id : String) : Option (Columns Text) := Table.lookup Columns.id id d.sandboxes

/-- The subselect of the latest operation. -/
def last (row : Columns Text) : Option Int :=
  (((d.journal.operations.filter (·.sandboxId.value = row.id)).map (·.id)).max?).map Int.ofNat

/-- `load_sandbox`. -/
def load (id : String) : Except RowError (Option SandboxRecord) :=
  match d.row? id with
  | none => .ok none
  | some row => (decode codec row (d.last row)).map some

/-- `Store::sandbox`. -/
def sandbox (id : SandboxId) : Except RowError (Option SandboxRecord) := d.load codec id.value

/-- `Store::list_sandboxes`. -/
def listSandboxes : Except RowError (List SandboxRecord) :=
  (d.sandboxes.mergeSort fun left right => left.id ≤ right.id).mapM fun row =>
    decode codec row (d.last row)

/-- `Store::ssh_transport_policy`. -/
def sshTransportPolicy (id : SandboxId) : Except RowError (Option SshTransportPolicy) :=
  match d.row? id.value with
  | none => .ok none
  | some row => decodeSshTransportPolicy row.transport

/-- Changes the row with a primary key. -/
def updateRow (id : String) (f : Columns Text → Columns Text) : Database Text :=
  { d with sandboxes := Table.update Columns.id id f d.sandboxes }

/-- The columns of a record that a conflicting row takes over. -/
def assign (sandbox : SandboxRecord) (now : Int) (row : Columns Text) : Columns Text :=
  { row with
    desired := desiredAsDb sandbox.desiredState
    actual := sandbox.actualState.asDb
    setup := encodeResolution codec sandbox.setupResolution
    tools := encodeResolution codec sandbox.toolResolution
    image := encodeResolution codec sandbox.imageResolution
    storage := encodeResolution codec sandbox.storageResolution
    ssh := encodeResolution codec sandbox.sshResolution
    updatedAtMillis := now }

/-- The columns of a record that has no row yet. -/
def newRow (sandbox : SandboxRecord) (now : Int) : Columns Text where
  id := sandbox.id.value
  root := sandbox.canonicalRoot
  desired := desiredAsDb sandbox.desiredState
  actual := sandbox.actualState.asDb
  setup := encodeResolution codec sandbox.setupResolution
  tools := encodeResolution codec sandbox.toolResolution
  image := encodeResolution codec sandbox.imageResolution
  storage := encodeResolution codec sandbox.storageResolution
  ssh := encodeResolution codec sandbox.sshResolution
  transport := (none, none)
  updatedAtMillis := now

/-- The `INSERT … ON CONFLICT(id) DO UPDATE` of a record. -/
def upsert (sandbox : SandboxRecord) (now : Int) : Database Text :=
  if (d.row? sandbox.id.value).isSome then d.updateRow sandbox.id.value (assign codec sandbox now)
  else { d with sandboxes := d.sandboxes ++ [newRow codec sandbox now] }

/-- An error of the store as one of the database. -/
def lift {α : Type} (result : Except StoreError α) : Except RowError α := result.mapError .store

/-- The first check of `put_sandbox_in`, on the record that is stored under the identity. -/
def checkIdentity (sandbox : SandboxRecord) : Except RowError Unit := do
  match ← d.load codec sandbox.id.value with
  | none => return ()
  | some existing =>
    if !samePath existing.canonicalRoot sandbox.canonicalRoot then
      .error (.store (.duplicateSandboxId sandbox.id existing.canonicalRoot))
    else lift (validateActualTransition existing.actualState sandbox.actualState)

/-- The second check of `put_sandbox_in`, on the row that has the text of the root. -/
def checkRoot (sandbox : SandboxRecord) : Except RowError Unit :=
  match d.sandboxes.find? (·.root = sandbox.canonicalRoot) with
  | none => .ok ()
  | some owner => do
    let existing ← decodeId owner.id
    ensureThat (existing = sandbox.id)
      (.store (.duplicateCanonicalRoot sandbox.canonicalRoot existing))

/-- `put_sandbox_in`. -/
def putSandboxIn (sandbox : SandboxRecord) (now : Int) : Except RowError (Database Text) := do
  d.checkIdentity codec sandbox
  d.checkRoot sandbox
  return d.upsert codec sandbox now

/-- `Store::put_sandbox`. -/
def putSandbox (sandbox : SandboxRecord) (now : Int) : Except RowError (Database Text) := do
  lift (validateResolutions sandbox)
  d.putSandboxIn codec sandbox now

/-- `set_ssh_transport_policy_in`. SQLite refuses the update when a row fails a constraint. -/
def setSshTransportPolicyIn (id : SandboxId) (policy : Option SshTransportPolicy) :
    Except RowError (Database Text) :=
  match d.row? id.value with
  | none => .error (.store (.sandboxNotFound id))
  | some row =>
    if { row with transport := encodeSshTransportPolicy policy }.satisfiesChecks then
      .ok (d.updateRow id.value fun row =>
        { row with transport := encodeSshTransportPolicy policy })
    else .error (.store (.database "CHECK constraint failed"))

/-- `Store::put_sandbox_with_ssh_transport`. -/
def putSandboxWithSshTransport (sandbox : SandboxRecord) (policy : Option SshTransportPolicy)
    (now : Int) : Except RowError (Database Text) := do
  lift (validateResolutions sandbox)
  let d ← d.putSandboxIn codec sandbox now
  d.setSshTransportPolicyIn sandbox.id policy

/-- `Store::set_ssh_resolution`. -/
def setSshResolution (id : SandboxId) (resolution : Option Resolution) (now : Int) :
    Except RowError (Database Text) := do
  lift (validateOptional validateSshResolution resolution)
  ensureThat ((d.row? id.value).isSome = true) (.store (.sandboxNotFound id))
  return d.updateRow id.value fun row =>
    { row with ssh := encodeResolution codec resolution, updatedAtMillis := now }

/-- `Store::begin_operation`. -/
def beginOperation (sandbox : SandboxRecord) (kind : OperationKind) (now : Int) :
    Except RowError (OperationRecord × Database Text) := do
  lift (validateResolutions sandbox)
  let d ← d.putSandboxIn codec sandbox now
  ensureThat (d.journal.hasPending sandbox.id = false) (.store (.pendingOperationExists sandbox.id))
  let operation := d.journal.newOperation sandbox.id kind
  let journal := d.journal.insertOperation operation
  let journal := (journal.appendEvent operation.id .pending none none now).2
  return (operation, { d with journal })

/-- The columns of a sandbox whose operation ended. -/
def finishRow (actual : ActualState) (clearSshTrust : Bool) (now : Int) (row : Columns Text) :
    Columns Text :=
  { row with
    actual := actual.asDb
    ssh := if clearSshTrust then (none, none) else row.ssh
    transport := if clearSshTrust then (none, none) else row.transport
    updatedAtMillis := now }

/-- `Store::finish_operation`. -/
def finishOperation (id : OperationId) (actual : ActualState) (status : OperationStatus)
    (errorCode : Option String) (errorDetails : Option Json) (clearSshTrust : Bool) (now : Int) :
    Except RowError (Database Text) := do
  let operation ← okOr (d.journal.operation? id) (.store (.operationNotFound id))
  lift (validateOperationTransition operation.status status)
  let row ← okOr (d.row? operation.sandboxId.value) (.store (.database "Query returned no rows"))
  let current ← actualFromDb row.actual
  lift (validateTerminalActualTransition current actual operation.kind status)
  ensureThat (clearSshTrust = true → Store.mayClearSshTrust operation.kind status actual = true)
    (.store (.invalidTransition operation.kind.asDb "clear_ssh_trust"))
  let journal := d.journal.updateOperation id (Store.finishRecord status errorCode errorDetails)
  return {
    sandboxes := (d.updateRow operation.sandboxId.value
      (finishRow actual clearSshTrust now)).sandboxes
    journal := (journal.appendEvent id status errorDetails errorCode now).2 }

/-- `Store::append_operation_event`. -/
def appendOperationEvent (id : OperationId) (details : Json) (now : Int) :
    Except RowError (Database Text) := do
  let (_, journal) ← lift (d.journal.appendOperationEvent id details now)
  return { d with journal }

/-! ### Runs -/

/-- The writes of the store. -/
inductive Write where
  | putSandbox (record : SandboxRecord)
  | putSandboxWithSshTransport (record : SandboxRecord) (policy : Option SshTransportPolicy)
  | setSshResolution (id : SandboxId) (resolution : Option Resolution)
  | beginOperation (record : SandboxRecord) (kind : OperationKind)
  | finishOperation (id : OperationId) (actual : ActualState) (status : OperationStatus)
      (errorCode : Option String) (errorDetails : Option Json) (clearSshTrust : Bool)
  | appendOperationEvent (id : OperationId) (details : Json)

/-- What a write does. -/
def write (now : Int) : Write → Except RowError (Database Text)
  | .putSandbox record => d.putSandbox codec record now
  | .putSandboxWithSshTransport record policy =>
    d.putSandboxWithSshTransport codec record policy now
  | .setSshResolution id resolution => d.setSshResolution codec id resolution now
  | .beginOperation record kind => (d.beginOperation codec record kind now).map Prod.snd
  | .finishOperation id actual status errorCode errorDetails clearSshTrust =>
    d.finishOperation id actual status errorCode errorDetails clearSshTrust now
  | .appendOperationEvent id details => d.appendOperationEvent id details now

/-- A sequence of writes. A write that is refused leaves the database as it was. -/
def run : List (Write × Int) → Database Text → Database Text
  | [], d => d
  | (op, now) :: rest, d => run rest ((d.write codec now op).toOption.getD d)

end Database

end Gascan.Rows
