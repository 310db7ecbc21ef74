import Gascan.Core.Runtime

/-!
# `Gascan.Core.Policy`: from a specification to a create request

`PolicyCompiler` turns a sandbox specification, the capabilities of the runtime and an optional SSH
control plane into a `CreateRequest`. `restoreSshTransport` exchanges only the SSH part of a
request, which the daemon uses to rebuild the transport of an existing container.
-/

namespace Gascan

open Lib Lib.Text

def defaultCpus : Nat := 4
def maxCpus : Nat := 16
def defaultMemoryBytes : Nat := 8 * 1024 ^ 3
def maxMemoryBytes : Nat := 64 * 1024 ^ 3

def workspaceHome : Path := "/home/workspace"
def toolsRoot : Path := "/home/workspace/.local"
def cacheRoot : Path := "/home/workspace/.cache"
def configRoot : Path := "/home/workspace/.config"
def cargoHome : Path := "/home/workspace/.local/share/cargo"
def rustupHome : Path := "/home/workspace/.local/share/rustup"
def npmCacheDir : Path := "/home/workspace/.cache/npm"
def goPath : Path := "/home/workspace/.local/share/go"
def goBin : Path := "/home/workspace/.local/bin"
def miseDataDir : Path := "/home/workspace/.local/share/mise"
def miseCacheDir : Path := "/home/workspace/.cache/mise"
def miseGlobalConfigFile : Path := "/home/workspace/.config/gascan/mise.toml"
def miseStateDir : Path := "/home/workspace/.config/gascan/mise-state"
def miseSystemConfigFile : Path := "/etc/mise/config.toml"
def miseSystemDataDir : Path := "/opt/gascan/mise"
def containerPath : String :=
  "/home/workspace/.local/bin:" ++
  "/home/workspace/.local/share/cargo/bin:" ++
  "/home/workspace/.local/share/go/bin:" ++
  "/home/workspace/.local/share/gem/bin:" ++
  "/home/workspace/.local/share/mise/shims:" ++
  "/opt/gascan/mise/shims:" ++
  "/usr/local/sbin:/usr/local/bin:" ++
  "/opt/gascan/workstation/bin:" ++
  "/usr/sbin:/usr/bin:/sbin:/bin"

/-- The SSH key and host port the daemon selects for a sandbox. -/
structure ControlPlanePolicy where
  sshAuthorizedKey : Option String := none
  sshHostPort : Option Port := none
  deriving DecidableEq

inductive PolicyError where
  | invalidWorkspaceImage
  | invalidSshAuthorizedKey
  | missingSshAuthorizedKey
  | missingSshHostPort
  | invalidSshHostPort
  | sshHostPortMismatch (manifest controlPlane : Port)
  | invalidMount
  | bindMountsUnavailable
  | namedVolumesUnavailable
  | resourceLimitsUnavailable
  | loopbackPublishUnavailable
  | offlineUnavailable
  | offlineUnsupported (version : RuntimeVersion)
  | offlinePortsForbidden
  | invalidPort
  | duplicatePort (port : Port)
  | cpusExceedMaximum (requested : Nat)
  | memoryExceedsMaximum (requested : Nat)
  | diskControlUnsupported
  deriving DecidableEq, Repr

/-- `PolicyError::code`. -/
def PolicyError.code : PolicyError → String
  | .invalidWorkspaceImage => "invalid_workspace_image"
  | .invalidSshAuthorizedKey => "invalid_ssh_authorized_key"
  | .missingSshAuthorizedKey => "missing_ssh_authorized_key"
  | .missingSshHostPort => "missing_ssh_host_port"
  | .invalidSshHostPort => "invalid_ssh_host_port"
  | .sshHostPortMismatch .. => "ssh_host_port_mismatch"
  | .invalidMount => "invalid_mount"
  | .bindMountsUnavailable => "bind_mounts_unavailable"
  | .namedVolumesUnavailable => "named_volumes_unavailable"
  | .resourceLimitsUnavailable => "resource_limits_unavailable"
  | .loopbackPublishUnavailable => "loopback_publish_unavailable"
  | .offlineUnavailable | .offlineUnsupported .. => "offline_unavailable"
  | .offlinePortsForbidden => "offline_ports_forbidden"
  | .invalidPort => "invalid_port"
  | .duplicatePort .. => "duplicate_port"
  | .cpusExceedMaximum .. => "cpus_exceed_maximum"
  | .memoryExceedsMaximum .. => "memory_exceeds_maximum"
  | .diskControlUnsupported => "disk_control_unsupported"

/-! ### SSH public keys -/

/-- `ssh_wire_string`: a string with its length in four big-endian bytes, and what follows it. -/
def sshWireString : List Nat → Option (List Nat × List Nat)
  | a :: b :: c :: d :: content =>
    let length := ((a * 256 + b) * 256 + c) * 256 + d
    if length ≤ content.length then some (content.take length, content.drop length) else none
  | _ => none

/-- `is_ssh_public_key`: an Ed25519 key in OpenSSH form without a comment. -/
def isSshPublicKey (key : String) : Bool :=
  match fields key.toList with
  | [kind, encoded] =>
    kind = "ssh-ed25519".toList && key.toList.length = kind.length + 1 + encoded.length &&
      (key.toList.drop kind.length).head? = some ' ' &&
      match decodeBase64 encoded with
      | none => false
      | some blob =>
        match sshWireString blob with
        | none => false
        | some (wireKind, keyData) =>
          match sshWireString keyData with
          | none => false
          | some (publicKey, trailing) =>
            wireKind = kind.map Char.toNat && publicKey.length = 32 && trailing.isEmpty
  | _ => false

/-! ### The parts of a request -/

/-- `managed_volume_names`. -/
def managedVolumeNames (sandboxId : String) : List String :=
  ["mise", "cache", "config"].map fun kind => "gascan-" ++ kind ++ "-" ++ sandboxId

/-- `PolicyCompiler::managed_network_name`. -/
def managedNetworkName (id : SandboxId) : String := "gascan-network-" ++ id.value

/-- `PolicyCompiler::expected_resource_identities`. -/
def expectedResourceIdentities (id : SandboxId) : Except RuntimeError (List ResourceIdentity) := do
  let container ← ResourceIdentity.new .container id.value
  let volumes ← (managedVolumeNames id.value).mapM (ResourceIdentity.new .volume)
  let network ← ResourceIdentity.new .network (managedNetworkName id)
  return container :: volumes ++ [network]

/-- `managed_volumes`. -/
def managedVolumes (sandboxId : String) (storage : Storage) (ownership : OwnershipMetadata) :
    List RuntimeVolume :=
  ((managedVolumeNames sandboxId).zip
    [(toolsRoot, storage.tools), (cacheRoot, storage.cache), (configRoot, storage.config)]).map
    fun (name, target, capacityBytes) =>
      { name, target, writable := true, capacityBytes, ownership }

/-- `workspace_environment`. -/
def workspaceEnvironment : OrdMap String String := .ofList
  [("CARGO_HOME", cargoHome),
   ("GEM_HOME", "/home/workspace/.local/share/gem"),
   ("GOCACHE", "/home/workspace/.cache/go-build"),
   ("GOBIN", goBin),
   ("GOMODCACHE", "/home/workspace/.cache/go-mod"),
   ("GOPATH", goPath),
   ("HEX_HOME", "/home/workspace/.local/share/hex"),
   ("HOME", workspaceHome),
   ("MISE_CARGO_HOME", cargoHome),
   ("MISE_CACHE_DIR", miseCacheDir),
   ("MISE_DATA_DIR", miseDataDir),
   ("MISE_GLOBAL_CONFIG_FILE", miseGlobalConfigFile),
   ("MISE_STATE_DIR", miseStateDir),
   ("MISE_SYSTEM_CONFIG_FILE", miseSystemConfigFile),
   ("MISE_SYSTEM_DATA_DIR", miseSystemDataDir),
   ("MISE_RUSTUP_HOME", rustupHome),
   ("MIX_HOME", "/home/workspace/.local/share/mix"),
   ("NPM_CONFIG_CACHE", npmCacheDir),
   ("NPM_CONFIG_PREFIX", toolsRoot),
   ("PATH", containerPath),
   ("PYTHONUSERBASE", toolsRoot),
   ("REBAR_CACHE_DIR", "/home/workspace/.cache/rebar3"),
   ("RUSTUP_HOME", rustupHome),
   ("XDG_CACHE_HOME", cacheRoot),
   ("XDG_CONFIG_HOME", configRoot),
   ("XDG_DATA_HOME", "/home/workspace/.local/share")]

/-- `guest_environment`. -/
def guestEnvironment (sshEnabled : Bool) (control : ControlPlanePolicy) : OrdMap String String :=
  let environment :=
    workspaceEnvironment.insert "GASCAN_SSH_ENABLED" (if sshEnabled then "1" else "0")
  match sshEnabled, control.sshAuthorizedKey with
  | true, some key => environment.insert "GASCAN_SSH_AUTHORIZED_KEY" key
  | _, _ => environment

/-- `validate_spec`: exactly the canonical writable workspace mount. -/
def validateSpec (spec : SandboxSpec) : Except PolicyError Unit :=
  match spec.bindMounts with
  | [mount] =>
    if mount.source ≠ spec.canonicalRoot || mount.target ≠ workspaceTarget || !mount.writable then
      .error .invalidMount
    else .ok ()
  | _ => .error .invalidMount

/-- `validate_capabilities`. -/
def validateCapabilities (spec : SandboxSpec) (capabilities : RuntimeCapabilities)
    (sshEnabled : Bool) : Except PolicyError Unit :=
  if !capabilities.bindMounts then .error .bindMountsUnavailable
  else if !capabilities.namedVolumes then .error .namedVolumesUnavailable
  else if !capabilities.resourceLimits then .error .resourceLimitsUnavailable
  else if (!spec.manifest.ports.isEmpty || sshEnabled) && !capabilities.loopbackPublish then
    .error .loopbackPublishUnavailable
  else
    match spec.manifest.network, capabilities.offline with
    | .offline, .unsupported => .error (.offlineUnsupported capabilities.version)
    | .offline, .unverified => .error .offlineUnavailable
    | _, _ => .ok ()

/-- The mapping of a declared port: the same port on the loopback address and in the guest. -/
def declaredPort (port : Port) : RuntimePort := ⟨.localhost, port, port⟩

/-- The mapping of a host port to the SSH server of the guest. -/
def sshPort (port : Port) : RuntimePort := ⟨.localhost, port, 22⟩

/-- The walk over the declared ports in `compile_ports`. -/
def compileDeclaredPorts : List Port → List Port → Except PolicyError (List RuntimePort)
  | [], _ => .ok []
  | port :: rest, seen =>
    if port = 0 then .error .invalidPort
    else if seen.contains port then .error (.duplicatePort port)
    else do
      let ports ← compileDeclaredPorts rest (port :: seen)
      return declaredPort port :: ports

/-- `compile_ports`. -/
def compilePorts (network : NetworkMode) (declared : OrdMap String Port)
    (sshHostPort : Option Port) : Except PolicyError (List RuntimePort) :=
  if network = .offline && !declared.isEmpty then .error .offlinePortsForbidden
  else do
    let ports ← compileDeclaredPorts declared.values []
    match sshHostPort with
    | none => return ports
    | some hostPort =>
      if declared.values.contains hostPort then .error (.duplicatePort hostPort)
      else return ports ++ [sshPort hostPort]

/-- `compile_resources`. -/
def compileResources (declared : Resources) : Except PolicyError RuntimeResourceLimits :=
  let cpus := declared.cpus.getD defaultCpus
  let memory := declared.memory.getD defaultMemoryBytes
  if maxCpus < cpus then .error (.cpusExceedMaximum cpus)
  else if maxMemoryBytes < memory then .error (.memoryExceedsMaximum memory)
  else if declared.disk.isSome then .error .diskControlUnsupported
  else .ok ⟨some cpus, some memory, none, none⟩

/-- The network of a request. -/
def compileNetwork (id : SandboxId) : NetworkMode → RuntimeNetwork
  | .networked => .networked (managedNetworkName id)
  | .offline => .offline

/-- The user of a request. -/
def compileUser : UserMode → RuntimeUser
  | .workspace => .workspace
  | .root => .root

/-- The checks on an SSH control plane that compilation and restoring share. -/
def checkControlPlane (control : ControlPlanePolicy) : Except PolicyError (String × Port) :=
  match control.sshAuthorizedKey with
  | none => .error .missingSshAuthorizedKey
  | some key =>
    if !isSshPublicKey key then .error .invalidSshAuthorizedKey
    else
      match control.sshHostPort with
      | none => .error .missingSshHostPort
      | some hostPort =>
        if hostPort < 1024 then .error .invalidSshHostPort else .ok (key, hostPort)

/-- The host port under which a request publishes SSH, if it does. -/
def compileSshHostPort (manifest : Manifest) (sshEnabled : Bool) (control : ControlPlanePolicy) :
    Except PolicyError (Option Port) :=
  if sshEnabled then do
    let (_, hostPort) ← checkControlPlane control
    match manifest.ssh.hostPort with
    | none => return some hostPort
    | some manifestHostPort =>
      if manifestHostPort ≠ hostPort then
        .error (.sshHostPortMismatch manifestHostPort hostPort)
      else return some hostPort
  else return none

namespace PolicyCompiler

/-- `compile_for_image_internal`. -/
def compileForImageInternal (spec : SandboxSpec) (capabilities : RuntimeCapabilities)
    (workspaceImage : String) (control : Option ControlPlanePolicy) :
    Except PolicyError CreateRequest :=
  if !immutableImageReference workspaceImage then .error .invalidWorkspaceImage
  else do
    validateSpec spec
    let manifest := spec.manifest
    let sshEnabled := manifest.ssh.enabled && control.isSome
    validateCapabilities spec capabilities sshEnabled
    let control := control.getD {}
    let sshHostPort ← compileSshHostPort manifest sshEnabled control
    let ports ← compilePorts manifest.network manifest.ports sshHostPort
    let resources ← compileResources manifest.resources
    let ownership : OwnershipMetadata := ⟨managedBy, spec.id⟩
    return {
      id := spec.id
      image := workspaceImage
      bindMounts := spec.bindMounts.map fun mount => ⟨mount.source, mount.target, mount.writable⟩
      volumes := managedVolumes spec.id.value manifest.storage ownership
      ports
      environment := guestEnvironment sshEnabled control
      resources
      network := compileNetwork spec.id manifest.network
      user := compileUser manifest.user
      init := true
      ownership }

/-- `compile_for_image`. -/
def compileForImage (spec : SandboxSpec) (capabilities : RuntimeCapabilities)
    (workspaceImage : String) : Except PolicyError CreateRequest :=
  compileForImageInternal spec capabilities workspaceImage none

/-- `compile_for_image_with_control_plane`. -/
def compileForImageWithControlPlane (spec : SandboxSpec) (capabilities : RuntimeCapabilities)
    (workspaceImage : String) (control : ControlPlanePolicy) : Except PolicyError CreateRequest :=
  compileForImageInternal spec capabilities workspaceImage (some control)

/-- `restore_ssh_transport`: replaces only the SSH transport of a request. -/
def restoreSshTransport (request : CreateRequest) (control : Option ControlPlanePolicy) :
    Except PolicyError CreateRequest :=
  let ports := request.ports.filter (·.guestPort ≠ 22)
  let environment := (request.environment.erase "GASCAN_SSH_AUTHORIZED_KEY").insert
    "GASCAN_SSH_ENABLED" (if control.isSome then "1" else "0")
  match control with
  | none => .ok { request with ports, environment }
  | some control =>
    if request.network = .offline then .error .offlinePortsForbidden
    else do
      let (key, hostPort) ← checkControlPlane control
      if ports.any (·.hostPort = hostPort) then .error (.duplicatePort hostPort)
      else return { request with
        ports := ports ++ [sshPort hostPort]
        environment := environment.insert "GASCAN_SSH_AUTHORIZED_KEY" key }

end PolicyCompiler

end Gascan
