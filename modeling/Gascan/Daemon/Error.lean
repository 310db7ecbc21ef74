import Gascan.Core.Policy
import Gascan.Core.Provision
import Gascan.Daemon.Store

/-!
# `Gascan.Daemon.Error`: the errors of the sandbox service

`ServiceError` collects what can end an operation of the service: errors of the store, the runtime
and the policy compiler, failed guest commands, SSH failures, and pairs of an error with the failure
of its rollback or report. Each has a stable `code` and a `message` for the terminal event.
-/

namespace Gascan

/-! ### Messages of the lower layers -/

/-- The text of an optional exit code, as its debug form prints it. -/
def debugOption : Option Int → String
  | some n => "Some(" ++ toString n ++ ")"
  | none => "None"

/-- The debug form of a runtime version. -/
def debugVersion (v : RuntimeVersion) : String :=
  "RuntimeVersion \x7b major: " ++ toString v.major ++ ", minor: " ++ toString v.minor ++
    ", patch: " ++ toString v.patch ++ " \x7d"

/-- The display form of a runtime error. -/
def RuntimeError.message : RuntimeError → String
  | .commandIo operation message => operation ++ ": " ++ message
  | .commandFailed operation exitCode stderr =>
    operation ++ " failed with exit code " ++ debugOption exitCode ++ ": " ++ stderr
  | .invalidOutput operation message => "invalid output from " ++ operation ++ ": " ++ message
  | .helperError operation code message =>
    operation ++ " helper error " ++ code ++ ": " ++ message
  | .unsupportedVersion found supported =>
    "unsupported runtime version " ++ debugVersion found ++ "; supported versions: " ++ supported
  | .unsupportedCapability capability => "unsupported capability: " ++ capability
  | .ownershipMismatch resource => "resource ownership mismatch: " ++ resource
  | .foreignResourceRefused resource => "refusing to remove foreign resource: " ++ resource
  | .invalidResourceIdentity name => "invalid resource identity: " ++ name.quote
  | .conflict resource message => "resource conflict for " ++ resource ++ ": " ++ message
  | .notFound resource => "resource not found: " ++ resource
  | .invalidState resource message => "invalid state for " ++ resource ++ ": " ++ message
  | .unknownActualState resource state => "unknown actual state for " ++ resource ++ ": " ++ state
  | .injectedFailure boundary => "injected failure at " ++ boundary

/-- The display form of a policy error. -/
def PolicyError.message : PolicyError → String
  | .invalidWorkspaceImage => "workspace image must be an immutable digest-qualified reference"
  | .invalidSshAuthorizedKey => "SSH authorized key must be an OpenSSH public key"
  | .missingSshAuthorizedKey => "enabled SSH requires an authorized public key"
  | .missingSshHostPort => "enabled SSH requires a host port"
  | .invalidSshHostPort => "SSH host port must be in 1024..=65535"
  | .sshHostPortMismatch manifest controlPlane =>
    "control-plane SSH host port " ++ toString controlPlane ++
      " does not match manifest SSH host port " ++ toString manifest
  | .invalidMount => "sandbox must contain exactly the canonical writable /workspace mount"
  | .bindMountsUnavailable => "runtime cannot provide bind mounts"
  | .namedVolumesUnavailable => "runtime cannot provide named volumes"
  | .resourceLimitsUnavailable => "runtime cannot enforce resource limits"
  | .loopbackPublishUnavailable => "runtime cannot publish ports exclusively on loopback"
  | .offlineUnavailable =>
    "this runtime cannot prove that an offline sandbox has no network; " ++
      "use networked mode, or run `gascan doctor` to see which engine build is running " ++
      "and which one has been certified"
  | .offlineUnsupported version =>
    "hard offline isolation has not been verified with Apple Container " ++
      toString version.major ++ "." ++ toString version.minor ++ "." ++ toString version.patch ++
      "; use networked mode or install the certified 1.1.0 release"
  | .offlinePortsForbidden => "offline sandboxes cannot publish ports"
  | .invalidPort => "published ports must be nonzero"
  | .duplicatePort port => "published port " ++ toString port ++ " is declared more than once"
  | .cpusExceedMaximum requested =>
    "requested CPU count " ++ toString requested ++ " exceeds maximum " ++ toString maxCpus
  | .memoryExceedsMaximum requested =>
    "requested memory " ++ toString requested ++ " exceeds maximum " ++ toString maxMemoryBytes
  | .diskControlUnsupported =>
    "the current macOS backend cannot enforce a sandbox disk ceiling"

/-- The display form of a store error. -/
def StoreError.message : StoreError → String
  | .database message => "database error: " ++ message
  | .unknownSchema => "database has no recognized schema"
  | .unsupportedSchemaVersion version =>
    "unsupported database schema version " ++ toString version
  | .schemaMismatch message => "database schema does not match version 1: " ++ message
  | .duplicateSandboxId sandboxId existingRoot =>
    "sandbox ID " ++ sandboxId.value ++ " already belongs to canonical root " ++ existingRoot
  | .duplicateCanonicalRoot canonicalRoot existingId =>
    "canonical root " ++ canonicalRoot ++ " already belongs to sandbox ID " ++ existingId.value
  | .pendingOperationExists sandboxId =>
    "sandbox " ++ sandboxId.value ++ " already has a pending operation"
  | .invalidTransition source target =>
    "invalid transition from " ++ source ++ " to " ++ target
  | .operationNotFound id => "operation " ++ toString id ++ " does not exist"
  | .sandboxNotFound id => "sandbox " ++ id.value ++ " does not exist"
  | .corruptData message => "stored value is invalid: " ++ message

/-! ### Service errors -/

/-- A managed volume whose capacity a manifest changes. -/
structure StorageCapacityChange where
  volume : String
  recordedBytes : Option Nat
  requestedBytes : Nat
  deriving DecidableEq, Repr

/-- A failed commit of the managed SSH configuration. -/
inductive SshConfigCommitError where
  | unpublished (error : String)
  | publishedButUncertain (original restoration : String)
  deriving DecidableEq, Repr

inductive ServiceError where
  | store (error : StoreError)
  | runtime (error : RuntimeError)
  | create (failure : CreateFailure)
  | policy (error : PolicyError)
  | missing (id : SandboxId)
  | ownership (id : SandboxId)
  | storageLayoutRequiresRecreate (recorded : Option Nat)
  | storageChangeRequiresRecreate (changes : List StorageCapacityChange)
  | imageUpgradeRequired (current requested cause : String)
  | storageInvariant (message : String)
  | provision (message : String)
  | provisionCommandFailed (step : String) (action : String) (exitCode signal : Int)
      (stderrTail : String)
  | setupChanged
  | setupCommandFailed (action : String) (exitCode signal : Int) (stderrTail : String)
  | setupChangedStopUnconfirmed
  | setupCommandFailedStopUnconfirmed (action : String) (exitCode signal : Int)
      (stderrTail : String)
  | databaseWorker (message : String)
  | fingerprint (message : String)
  | incompleteDestroy (id : SandboxId)
  | sshPortUnavailable (message : String)
  | sshHostKeyMismatch (message : String)
  | sshNotReady (endpoint : Option String) (detail : String)
  | sshConfigUnsafe (error : String)
  | sshConfigUpdateFailed (error : String)
  | sshConfigPublicationUncertain (error : SshConfigCommitError)
  | sshPublicationUncertain (error : ServiceError)
  | rollback (original : ServiceError) (rollback : RuntimeError)
  | imageRollback (original rollback : ServiceError)
  | failureReporting (original reporting : ServiceError)

/-- `format_binary_size`. -/
def formatBinarySize (bytes : Nat) : String :=
  if bytes % 1024 ^ 4 = 0 then toString (bytes / 1024 ^ 4) ++ "TiB"
  else if bytes % 1024 ^ 3 = 0 then toString (bytes / 1024 ^ 3) ++ "GiB"
  else if bytes % 1024 ^ 2 = 0 then toString (bytes / 1024 ^ 2) ++ "MiB"
  else if bytes % 1024 = 0 then toString (bytes / 1024) ++ "KiB"
  else toString bytes ++ " bytes"

/-- `format_storage_change_message`. -/
def formatStorageChangeMessage (changes : List StorageCapacityChange) : String :=
  let changes := changes.map fun change =>
    change.volume ++ " (" ++ change.recordedBytes.elim "unknown" formatBinarySize ++ " → " ++
      formatBinarySize change.requestedBytes ++ ")"
  "storage settings changed for " ++ ", ".intercalate changes ++
    "; run `gascan destroy --yes` and `gascan up` to recreate the sandbox"

/-- The display form of a commit error. -/
def SshConfigCommitError.message : SshConfigCommitError → String
  | .unpublished error => error
  | .publishedButUncertain original restoration =>
    "managed SSH publication durability is uncertain after " ++ original ++
      "; restoration failed: " ++ restoration

namespace ServiceError

/-- `ServiceError::ssh_not_ready`. -/
def notReady (detail : String) : ServiceError := .sshNotReady none detail

/-- The display form of a service error. -/
def message : ServiceError → String
  | .store error => error.message
  | .runtime error => error.message
  | .create failure => failure.source.message
  | .policy error => error.message
  | .missing id => "sandbox " ++ id.value ++ " does not exist"
  | .ownership id => "sandbox " ++ id.value ++ " is not owned by gascan"
  | .storageLayoutRequiresRecreate _ =>
    "managed storage layout changed; run `gascan destroy --yes` and then `gascan up`"
  | .storageChangeRequiresRecreate changes => formatStorageChangeMessage changes
  | .imageUpgradeRequired current requested cause =>
    "workspace image replacement cannot safely continue: " ++ cause ++ "; current image " ++
      current ++ "; requested image " ++ requested ++ "; run `gascan apply` again"
  | .storageInvariant message => "compiled storage invariant failed: " ++ message
  | .provision message => "provisioning failed: " ++ message
  | .provisionCommandFailed _ _ exitCode signal stderrTail =>
    "provisioning failed: guest provisioning command failed (exit code " ++ toString exitCode ++
      ", signal " ++ toString signal ++ "): " ++ stderrTail
  | .setupChanged => "mounted setup script changed before execution"
  | .setupCommandFailed action exitCode signal stderrTail =>
    "setup action " ++ action ++ " failed with exit code " ++ toString exitCode ++
      ", signal " ++ toString signal ++ ": " ++ stderrTail
  | .setupChangedStopUnconfirmed =>
    "mounted setup script changed before execution; stopped state could not be confirmed"
  | .setupCommandFailedStopUnconfirmed action exitCode signal stderrTail =>
    "setup action " ++ action ++ " failed with exit code " ++ toString exitCode ++
      ", signal " ++ toString signal ++ ": " ++ stderrTail ++
      "; stopped state could not be confirmed"
  | .databaseWorker message => "database worker task failed: " ++ message
  | .fingerprint message => "failed to fingerprint desired setup: " ++ message
  | .incompleteDestroy id => "destroy left expected owned resources for sandbox " ++ id.value
  | .sshPortUnavailable message => "SSH host port is unavailable: " ++ message
  | .sshHostKeyMismatch message => "SSH host key verification failed: " ++ message
  | .sshNotReady _ detail => "SSH is not ready: " ++ detail
  | .sshConfigUnsafe error => "SSH configuration is unsafe: " ++ error
  | .sshConfigUpdateFailed error => "SSH configuration update failed: " ++ error
  | .sshConfigPublicationUncertain error =>
    "SSH configuration publication is uncertain: " ++ error.message
  | .sshPublicationUncertain error => "SSH publication completion is uncertain: " ++ error.message
  | .rollback original undo => original.message ++ "; rollback failed: " ++ undo.message
  | .imageRollback original undo => original.message ++ "; rollback failed: " ++ undo.message
  | .failureReporting original reporting =>
    original.message ++ "; recording operation failure failed: " ++ reporting.message

/-- `ServiceError::code`. -/
def code : ServiceError → String
  | .runtime error => error.code
  | .create failure => failure.source.code
  | .policy error => error.code
  | .missing _ => "not_found"
  | .ownership _ => "ownership_mismatch"
  | .storageLayoutRequiresRecreate _ => "storage_layout_requires_recreate"
  | .storageChangeRequiresRecreate _ => "storage_change_requires_recreate"
  | .imageUpgradeRequired .. => "image_upgrade_required"
  | .storageInvariant _ => "storage_invariant_failed"
  | .provision _ | .provisionCommandFailed .. | .setupChanged | .setupCommandFailed ..
  | .setupChangedStopUnconfirmed | .setupCommandFailedStopUnconfirmed .. => "provision_failed"
  | .store _ => "store_error"
  | .databaseWorker _ => "database_worker_failed"
  | .fingerprint _ => "fingerprint_failed"
  | .incompleteDestroy _ => "incomplete_destroy"
  | .sshPortUnavailable _ => "ssh_port_unavailable"
  | .sshHostKeyMismatch _ => "ssh_host_key_mismatch"
  | .sshNotReady .. => "ssh_not_ready"
  | .sshConfigUnsafe _ => "ssh_config_unsafe"
  | .sshConfigUpdateFailed _ => "ssh_config_update_failed"
  | .sshConfigPublicationUncertain _ => "ssh_config_publication_uncertain"
  | .sshPublicationUncertain _ => "ssh_publication_uncertain"
  | .rollback original _ => original.code
  | .imageRollback original _ => original.code
  | .failureReporting original _ => original.code

/-- `ServiceError::is_setup_failure`. -/
def isSetupFailure : ServiceError → Bool
  | .setupChanged | .setupCommandFailed .. | .setupChangedStopUnconfirmed
  | .setupCommandFailedStopUnconfirmed .. => true
  | _ => false

/-- `ServiceError::is_ssh_publication_uncertain`. -/
def isSshPublicationUncertain : ServiceError → Bool
  | .sshConfigPublicationUncertain _ | .sshPublicationUncertain _ => true
  | _ => false

/-- `ServiceError::setup_stop_confirmed`. -/
def setupStopConfirmed : ServiceError → Bool
  | .setupChanged | .setupCommandFailed .. => true
  | _ => false

/-- `ServiceError::setup_exit_code`. -/
def setupExitCode : ServiceError → Option Int
  | .setupCommandFailed _ exitCode _ _ | .setupCommandFailedStopUnconfirmed _ exitCode _ _ =>
    some exitCode
  | _ => none

/-- `ServiceError::with_unconfirmed_setup_stop`. -/
def withUnconfirmedSetupStop : ServiceError → ServiceError
  | .setupChanged | .setupChangedStopUnconfirmed => .setupChangedStopUnconfirmed
  | .setupCommandFailed action exitCode signal stderrTail
  | .setupCommandFailedStopUnconfirmed action exitCode signal stderrTail =>
    .setupCommandFailedStopUnconfirmed action exitCode signal stderrTail
  | other => other

end ServiceError

/-- The version of the layout of the managed volumes. -/
def storageLayoutVersion : Nat := 2

/-- The members that only a failed setup command adds to its details. -/
def setupCommandMembers : ServiceError → List (String × Json)
  | .setupCommandFailed action _ signal stderrTail
  | .setupCommandFailedStopUnconfirmed action _ signal stderrTail =>
    [("action", .str action), ("signal", .num signal), ("stderr_tail", .str stderrTail)]
  | _ => []

/-- An optional number, `null` when it is absent. -/
def jsonOptNat : Option Nat → Json
  | some n => .num n
  | none => .null

/-- `failure_details`. -/
def failureDetails (error : ServiceError) : Json :=
  match error with
  | .storageLayoutRequiresRecreate recorded => .obj
    [("reason", .str "storage_layout_changed"), ("recorded_layout", jsonOptNat recorded),
     ("requested_layout", .num storageLayoutVersion),
     ("recovery", .str "run `gascan destroy --yes` and then `gascan up`")]
  | .storageChangeRequiresRecreate changes => .obj
    [("message", .str error.message),
     ("changes", .arr (changes.map fun change => .obj
       [("volume", .str change.volume), ("recorded_bytes", jsonOptNat change.recordedBytes),
        ("requested_bytes", .num change.requestedBytes)]))]
  | .imageUpgradeRequired current requested cause => .obj
    [("message", .str error.message), ("reason", .str "image_changed"),
     ("current", .str current), ("requested", .str requested), ("cause", .str cause),
     ("recovery", .str "run `gascan apply` again")]
  | .provisionCommandFailed step action exitCode signal stderrTail => .obj
    [("message", .str error.message), ("step", .str step), ("action", .str action),
     ("exit_code", .num exitCode), ("signal", .num signal), ("stderr_tail", .str stderrTail)]
  | _ =>
    if error.isSetupFailure then .obj
      ([("message", .str error.message), ("phase", .str "setup"), ("retryable", .bool true),
        ("stopped", .bool error.setupStopConfirmed)] ++
        (error.setupExitCode.map fun exitCode => ("exit_code", Json.num exitCode)).toList ++
        setupCommandMembers error)
    else .obj [("message", .str error.message)]

/-- `image_replacement_failure_details`. -/
def imageReplacementFailureDetails (error : ServiceError) : Json :=
  let (primary, rollback) :=
    match error with
    | .imageRollback original rollback => (original, some rollback)
    | other => (other, none)
  .obj
    [("message", .str error.message),
     ("primary", .obj [("code", .str primary.code), ("message", .str primary.message)]),
     ("rollback",
       match rollback with
       | some rollback => .obj [("code", .str rollback.code), ("message", .str rollback.message)]
       | none => .null)]

end Gascan
