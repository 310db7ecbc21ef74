import Gascan.Daemon.Record
import Gascan.Daemon.SshHosts

/-!
# `Gascan.Api.Status`: the status of a sandbox on the wire

`wireStatus` shows a record to a client: its states, what an `apply` would change, and its SSH
endpoint if the published one is the recorded one. Times are milliseconds there, and an address
stands for its text. `timestampFromMillis` and `timestampMillis` convert times.
-/

namespace Gascan.Api

open Lib

/-- `v1::ActualState`. -/
inductive WireState where
  | unspecified
  | pending
  | running
  | stopped
  | absent
  | failed
  | unknown
  deriving DecidableEq

structure ApplyRequirement where
  reason : String
  current : String
  requested : String
  deriving DecidableEq

structure SshStatus where
  enabled : Bool
  active : Bool
  host : Option Ssh.IpAddr := none
  port : Option Nat := none
  hostAlias : Option String := none
  hostKeyFingerprint : Option String := none
  clientKeyFingerprint : Option String := none
  deriving DecidableEq

structure SandboxStatus where
  sandboxId : String
  desiredState : Option DesiredState := none
  actualState : WireState
  lastOperationId : Option OperationId := none
  updatedAt : Option Int := none
  applyRequirements : List ApplyRequirement := []
  ssh : Option SshStatus
  deriving DecidableEq

inductive SshState where
  | disabled
  | starting
  | ready
  | unhealthy
  | unavailable
  deriving DecidableEq

/-- `ssh_status::classify`. -/
def classifySsh (status : SandboxStatus) : SshState :=
  match status.ssh with
  | none => .unavailable
  | some ssh =>
    let hasEndpoint := ssh.host.isSome || ssh.port.isSome || ssh.hostAlias.isSome ||
      ssh.hostKeyFingerprint.isSome || ssh.clientKeyFingerprint.isSome
    if !ssh.enabled then
      if !ssh.active && !hasEndpoint then .disabled else .unhealthy
    else if ssh.active then
      if status.actualState = .running ∧ ssh.host = some .localhost ∧
          ssh.port.any (fun port => 1024 ≤ port ∧ port ≤ 65535) ∧
          ssh.hostAlias = some ("gascan-" ++ status.sandboxId) ∧
          ssh.hostKeyFingerprint.any (!·.isEmpty) ∧ ssh.clientKeyFingerprint.any (!·.isEmpty) then
        .ready
      else .unhealthy
    else if hasEndpoint then .unhealthy
    else
      match status.actualState with
      | .pending => .starting
      | .failed => .unhealthy
      | _ => .unavailable

def wireActual : ActualState → WireState
  | .creating | .destroying => .pending
  | .running => .running
  | .stopped => .stopped
  | .absent => .absent

/-- `wire_ssh_status`. -/
def wireSshStatus (record : SandboxRecord) (active : Option Ssh.ActiveSsh) : Option SshStatus := do
  let resolution ← record.sshResolution
  let details ← resolution.details.asObject
  if resolution.version ≠ 1 ∨ details.length ≠ 3 then none
  let enabled ← (resolution.details.get "enabled").bind Json.asBool
  let expectedHost ← resolution.details.getStr "host_key_fingerprint"
  let expectedClient ← resolution.details.getStr "client_key_fingerprint"
  if !enabled then
    if expectedHost.isEmpty && expectedClient.isEmpty then
      some { enabled := false, active := false }
    else none
  else if expectedHost.isEmpty || expectedClient.isEmpty then none
  else
    let isMatching := active.filter fun active =>
      record.actualState = .running &&
        String.ofList active.hostKeyFingerprint = expectedHost &&
        String.ofList active.clientKeyFingerprint = expectedClient
    let candidate : SshStatus :=
      { enabled := true
        active := isMatching.isSome
        host := isMatching.map (·.host)
        port := isMatching.map (·.port.toNat)
        hostAlias := isMatching.map fun active => .ofList active.hostAlias
        hostKeyFingerprint := isMatching.map fun active => .ofList active.hostKeyFingerprint
        clientKeyFingerprint := isMatching.map fun active => .ofList active.clientKeyFingerprint }
    let probe : SandboxStatus :=
      { sandboxId := record.id.value
        actualState := wireActual record.actualState
        ssh := some candidate }
    if isMatching.isSome ∧ classifySsh probe ≠ .ready then
      some { enabled := true, active := false }
    else some candidate

/-- What an `apply` would change about the storage layout. -/
def storageRequirements (record : SandboxRecord) : List ApplyRequirement :=
  if record.storageResolution.map (·.version) ≠ some 2 then
    [⟨"storage_layout_changed",
      record.storageResolution.elim "unknown" fun resolution => toString resolution.version, "2"⟩]
  else []

/-- What an `apply` would change about the image. -/
def imageRequirements (record : SandboxRecord) (policyImage : String) : List ApplyRequirement :=
  let current := ((record.imageResolution.filter (·.version = 1)).bind (·.details.getStr "digest"))
  (((current.filter immutableImageReference).filter (· ≠ policyImage)).map fun current =>
    [⟨"image_changed", current, policyImage⟩]).getD []

/-- `wire_status`. -/
def wireStatus (record : SandboxRecord) (policyImage : String) (activeSsh : Option Ssh.ActiveSsh) :
    SandboxStatus :=
  { sandboxId := record.id.value
    desiredState := some record.desiredState
    actualState := wireActual record.actualState
    lastOperationId := record.lastOperationId
    updatedAt := some record.updatedAtMillis
    applyRequirements := storageRequirements record ++ imageRequirements record policyImage
    ssh := wireSshStatus record activeSsh }

/-! ### Times -/

/-- An `i64`. -/
abbrev I64 := {n : Int // -9223372036854775808 ≤ n ∧ n < 9223372036854775808}

/-- The result of a checked operation: the exact one, if it is an `i64`. -/
def I64.checked (n : Int) : Option I64 :=
  if h : -9223372036854775808 ≤ n ∧ n < 9223372036854775808 then some ⟨n, h⟩ else none

/-- `prost_types::Timestamp`. -/
structure Timestamp where
  seconds : I64
  /-- An `i32`. -/
  nanos : {n : Int // -2147483648 ≤ n ∧ n < 2147483648}
  deriving DecidableEq

inductive ApiInputError where
  | invalid
  deriving DecidableEq

/-- `timestamp_from_millis`: the division rounds down, so that the rest is never negative. -/
def timestampFromMillis (millis : I64) : Timestamp :=
  { seconds := ⟨millis.1 / 1000, by have := millis.2; omega⟩
    nanos := ⟨millis.1 % 1000 * 1000000, by omega⟩ }

/-- `timestamp_millis`: each of the two operations is checked. -/
def timestampMillis (timestamp : Timestamp) : Except ApiInputError I64 :=
  if ¬(0 ≤ timestamp.nanos.1 ∧ timestamp.nanos.1 < 1000000000) then .error .invalid
  else
    okOr ((I64.checked (timestamp.seconds.1 * 1000)).bind fun seconds =>
      I64.checked (seconds.1 + timestamp.nanos.1 / 1000000)) .invalid

end Gascan.Api
