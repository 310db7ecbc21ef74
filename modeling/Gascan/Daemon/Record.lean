import Gascan.Daemon.Error

/-!
# `Gascan.Daemon.Record`: what the service reads from records, containers and events

The pure decisions of the service: whether the recorded resolutions match a manifest, whether an
image or an SSH transport changed, which managed volumes have another capacity, and what the event
log of an interrupted operation proves.
-/

namespace Gascan

/-! ### Storage -/

/-- The capacities of the three managed volumes by name. -/
abbrev StorageCapacities := List (String × Nat)

/-- `requested_storage_from_manifest`. -/
def requestedStorageFromManifest (storage : Storage) : StorageCapacities :=
  [("tools", storage.tools), ("cache", storage.cache), ("config", storage.config)]

/-- One managed volume of `requested_storage_from_volumes`. -/
def requestedVolume (volumes : List RuntimeVolume) (volume : String) (target : Path) :
    Except ServiceError (String × Nat) :=
  match volumes.filter (·.target = target) with
  | [candidate] => .ok (volume, candidate.capacityBytes)
  | [] => .error (.storageInvariant "managed volume is missing from compiled create request")
  | _ => .error (.storageInvariant "managed volume is duplicated in compiled create request")

/-- `requested_storage`. -/
def requestedStorage (create : CreateRequest) : Except ServiceError StorageCapacities :=
  [("tools", toolsRoot), ("cache", cacheRoot), ("config", configRoot)].mapM fun (volume, target) =>
    requestedVolume create.volumes volume target

/-- `storage_resolution`. -/
def storageResolution (requested : StorageCapacities) : Resolution :=
  ⟨storageLayoutVersion, .obj (requested.map fun (volume, bytes) =>
    (volume ++ "_bytes", .num bytes))⟩

/-- `validate_storage_layout`. -/
def validateStorageLayout (record : SandboxRecord) : Except ServiceError Unit :=
  let recorded := record.storageResolution.map (·.version)
  if recorded = some storageLayoutVersion then .ok ()
  else .error (.storageLayoutRequiresRecreate recorded)

/-- The volumes whose requested capacity is not the recorded one. -/
def storageChanges (recorded : Resolution) (requested : StorageCapacities) :
    List StorageCapacityChange :=
  requested.filterMap fun (volume, requestedBytes) =>
    let recordedBytes := recorded.details.getNat (volume ++ "_bytes")
    if recordedBytes ≠ some requestedBytes then some ⟨volume, recordedBytes, requestedBytes⟩
    else none

/-- `validate_storage_capacities`. -/
def validateStorageCapacities (record : SandboxRecord) (requested : StorageCapacities) :
    Except ServiceError Unit := do
  validateStorageLayout record
  match record.storageResolution with
  | none => .error (.storageLayoutRequiresRecreate none)
  | some recorded =>
    let changes := storageChanges recorded requested
    if changes.isEmpty then return () else .error (.storageChangeRequiresRecreate changes)

/-! ### Provisioning state -/

/-- The recorded digest of the setup script. -/
def recordedSetup (record : SandboxRecord) : Option String :=
  record.setupResolution.bind fun resolution =>
    (resolution.details.get "resolution").bind (·.getStr "sha256")

/-- A text member of the recorded tool resolution. -/
def recordedTool (key : String) (record : SandboxRecord) : Option String :=
  record.toolResolution.bind fun resolution => resolution.details.getStr key

/-- `applied_state`. -/
def appliedState (record : Option SandboxRecord) : AppliedState :=
  { toolHash := record.bind (recordedTool "tool_hash")
    setupSha256 := record.bind recordedSetup
    shellHash := record.bind (recordedTool "shell_hash") }

/-- `replacement_applied_state`: a recreated container has not run any setup script. -/
def replacementAppliedState (record : SandboxRecord) : AppliedState :=
  { toolHash := recordedTool "tool_hash" record
    setupSha256 := none
    shellHash := recordedTool "shell_hash" record }

/-- `stored_tool_resolution`. -/
def storedToolResolution (record : SandboxRecord) : Option Json :=
  record.toolResolution.bind fun resolution => resolution.details.get "resolution"

/-- The desired fingerprint in the details of a resolution. -/
def fingerprintMatches (fingerprint : String) (resolution : Option Resolution) : Bool :=
  resolution.any fun value => value.details.getStr "desired_fingerprint" = some fingerprint

/-- `resolution_matches`. -/
def resolutionMatches (record : SandboxRecord) (fingerprint : String) : Bool :=
  fingerprintMatches fingerprint record.setupResolution &&
    fingerprintMatches fingerprint record.toolResolution

/-- Whether both provisioning resolutions are recorded. -/
def hasCompleteResolution (record : SandboxRecord) : Bool :=
  record.setupResolution.isSome && record.toolResolution.isSome

/-- The hash over the tools, the shell and the setup script that `desired_fingerprint` computes. -/
def fingerprintOf (manifest : Manifest) (setup : Option SetupScript) : String :=
  let message := toolHash manifest.tools ++ desiredShellHash manifest.prompt ++
    (setup.elim "" fun script => script.canonicalRelativePath ++ script.sha256)
  sha256Text (utf8Bytes message)

/-- The setup resolution that a provisioned sandbox records. -/
def setupResolutionOf (fingerprint setup : Json) : Resolution :=
  ⟨1, .obj [("desired_fingerprint", fingerprint), ("resolution", setup)]⟩

/-- The tool resolution that a provisioned sandbox records. -/
def toolResolutionOf (fingerprint toolHash shellHash tools : Json) : Resolution :=
  ⟨1, .obj [("desired_fingerprint", fingerprint), ("tool_hash", toolHash),
    ("shell_hash", shellHash), ("resolution", tools)]⟩

/-- An optional value, `null` when it is absent. -/
def jsonOpt (value : Option Json) : Json := value.getD .null

/-! ### Images -/

/-- The image a record names, the one a container runs, and the approved one. -/
structure ImageState where
  recorded : Option String
  running : String
  approved : String

/-- `ImageState::change_required`. -/
def ImageState.changeRequired (state : ImageState) : Bool :=
  !state.recorded.any (sameImmutableImage · state.approved) ||
    !sameImmutableImage state.running state.approved

/-- `stored_image`. -/
def storedImage (record : SandboxRecord) : Option String :=
  record.imageResolution.bind fun resolution =>
    if resolution.version ≠ 1 then none
    else (resolution.details.getStr "digest").filter immutableImageReference

/-- `image_state`. -/
def imageState (record : Option SandboxRecord) (running approved : String) :
    Except RuntimeError ImageState :=
  if !immutableImageReference running then
    .error (.invalidOutput "runtime image inspection"
      "running workspace image is not digest-qualified")
  else if !immutableImageReference approved then
    .error (.invalidOutput "workspace image policy"
      "approved workspace image is not digest-qualified")
  else .ok ⟨record.bind storedImage, running, approved⟩

/-- The image resolution of a record. -/
def imageResolutionOf (image : String) : Resolution := ⟨1, .obj [("digest", .str image)]⟩

/-! ### Containers -/

/-- Whether the labels of an inspected container name this sandbox. -/
def ownedBy (runtime : RuntimeSandbox) (id : SandboxId) : Bool :=
  runtime.ownership.managedBy = "gascan" && runtime.ownership.sandboxId = id

/-- The actual state a container is in. -/
def actualOf : ContainerState → ActualState
  | .creating => .creating
  | .running => .running
  | .stopped => .stopped

/-- Whether a listed resource is an owned resource that the sandbox is expected to have. -/
def expectedOwned (expected : List ResourceIdentity) (id : SandboxId) (resource : RuntimeResource) :
    Bool :=
  expected.contains resource.identity && resource.sandboxId = some id &&
    resource.ownership = .gasCanOwned

/-- `exact_owned_container`. -/
def exactOwnedContainer (create : CreateRequest) (resources : List RuntimeResource) :
    Except ServiceError (Option RuntimeResource) :=
  match resources.filter fun resource => resource.identity.kind = .container &&
      resource.ownership = .gasCanOwned && resource.sandboxId = some create.id with
  | [] => .ok none
  | [container] =>
    match ResourceIdentity.new .container create.id.value with
    | .error error => .error (.runtime error)
    | .ok expected =>
      if container.identity ≠ expected then
        .error (.runtime (.ownershipMismatch container.identity.name))
      else .ok (some container)
  | _ => .error (.runtime (.invalidState create.id.value
    "expected at most one owned container resource"))

/-! ### SSH -/

/-- `ssh_resolution_enabled`. -/
def sshResolutionEnabled (resolution : Option Resolution) : Bool :=
  resolution.any fun resolution =>
    resolution.version = 1 && (resolution.details.get "enabled").bind Json.asBool = some true

/-- `disabled_resolution`. -/
def disabledResolution : Resolution :=
  ⟨1, .obj [("enabled", .bool false), ("host_key_fingerprint", .str ""),
    ("client_key_fingerprint", .str "")]⟩

/-- The mappings of a container to the SSH server of its guest. -/
def sshMappings (runtime : RuntimeSandbox) : List RuntimePort :=
  runtime.ports.filter (·.guestPort = 22)

/-- `requested_ssh_transport`. -/
def requestedSshTransport (spec : SandboxSpec) : SshTransportPolicy :=
  if spec.manifest.ssh.enabled then .enabled spec.manifest.ssh.hostPort else .disabled

/-- `runtime_ssh_transport_changed`. -/
def runtimeSshTransportChanged (runtime : RuntimeSandbox) (spec : SandboxSpec) : Bool :=
  match sshMappings runtime with
  | [] => spec.manifest.ssh.enabled
  | mapping :: rest =>
    if !spec.manifest.ssh.enabled || !rest.isEmpty then true
    else spec.manifest.ssh.hostPort.any (mapping.hostPort ≠ ·)

/-- `ssh_transport_policy_changed`. -/
def sshTransportPolicyChanged (record : SandboxRecord) (runtime : RuntimeSandbox)
    (spec : SandboxSpec) (recordedPolicy : Option SshTransportPolicy)
    (requireSshResolution requireRecordedPolicy : Bool) : Bool :=
  runtimeSshTransportChanged runtime spec ||
    recordedPolicy.any (· ≠ requestedSshTransport spec) ||
    (requireRecordedPolicy && recordedPolicy.isNone) ||
    (requireSshResolution &&
      spec.manifest.ssh.enabled ≠ sshResolutionEnabled record.sshResolution)

/-- `create_request_ssh_enabled`. -/
def createRequestSshEnabled (request : CreateRequest) : Bool :=
  request.environment.get? "GASCAN_SSH_ENABLED" = some "1"

/-- The rule for the SSH mapping of a container: exactly one, on the loopback address and
unprivileged. `inspected_native_ssh_port` and the activation of SSH share it. -/
def nativeSshPort (runtime : RuntimeSandbox) : Except ServiceError Port :=
  match sshMappings runtime with
  | [] => .error (.notReady "runtime inspection is missing the native SSH mapping")
  | mapping :: rest =>
    if !rest.isEmpty || mapping.hostAddress ≠ .localhost || mapping.hostPort < 1024 then
      .error (.notReady "runtime inspection has an invalid native SSH mapping")
    else .ok mapping.hostPort

/-- `validate_inspected_ssh_policy`. -/
def validateInspectedSshPolicy (policy : Option SshTransportPolicy) (inspectedPort : Port) :
    Except ServiceError Unit :=
  match policy with
  | none => .ok ()
  | some policy =>
    if !policy.isEnabled then .error (.notReady "durable SSH transport policy is disabled")
    else if policy.hostPort.any (· ≠ inspectedPort) then
      .error (.notReady "runtime SSH mapping differs from durable explicit port")
    else .ok ()

/-! ### Events -/

/-- The phase, fingerprint and resolution version of an event, if it has a phase. -/
def eventPhase (event : OperationEvent) : Option (String × Option String × Option Nat) :=
  event.details.bind fun details =>
    (details.getStr "phase").map fun phase =>
      (phase, details.getStr "desired_fingerprint", details.getNat "resolution_version")

/-- The index of the last element with a property. -/
def lastIdxOf {α : Type} (p : α → Bool) (l : List α) : Option Nat :=
  (l.reverse.findIdx? p).map fun i => l.length - 1 - i

/-- `ordered_hook_evidence`: the log shows a health check after the provisioning it belongs to. -/
def orderedHookEvidence (events : List OperationEvent) (record : SandboxRecord) : Bool :=
  let phases := events.filterMap eventPhase
  match phases.findIdx? (·.1 = "before_health"), lastIdxOf (·.1 = "after_health") phases with
  | some beforeHealth, some afterHealth =>
    if afterHealth ≤ beforeHealth then false
    else
      match phases[afterHealth]?.bind (·.2.1) with
      | none => false
      | some healthFingerprint =>
        match phases.findIdx? (·.1 = "before_provision"),
            phases.findIdx? (fun phase => phase.1 = "after_provision" && phase.2.2 = some 1) with
        | some before, some after =>
          before < after && after < beforeHealth &&
            phases[after]?.bind (·.2.1) = some healthFingerprint
        | none, none => resolutionMatches record healthFingerprint
        | _, _ => false
  | _, _ => false

/-- Whether an event has the given phase. -/
def hasPhase (phase : String) (event : OperationEvent) : Bool :=
  event.details.any fun details => details.getStr "phase" = some phase

end Gascan
