import Gascan.Core.Sandbox
import Gascan.Lib.OrdMap

/-!
# `Gascan.Core.Manifest`: the validated manifest and the sandbox specification

A `Manifest` carries what its validation checks, as fields: SSH is only enabled on a networked
sandbox, a fixed SSH host port belongs to an enabled SSH setting and is unprivileged, and the
managed volumes stay within their limit. `RawManifest.validate` makes a manifest from the parsed
text, and proves these facts from its checks. A `SandboxSpec` adds the identity and the canonical
root.
-/

namespace Gascan

open Lib Lib.Text

/-- A TCP port. -/
abbrev Port := UInt16

/-- A file system path, as text. -/
abbrev Path := String

inductive NetworkMode where
  | networked
  | offline
  deriving DecidableEq, Repr

inductive UserMode where
  | workspace
  | root
  deriving DecidableEq, Repr

inductive ShellPrompt where
  | standard
  | starship
  | starshipNerdFont
  deriving DecidableEq, Repr

/-- `ShellPrompt::as_str`. -/
def ShellPrompt.asStr : ShellPrompt → String
  | .standard => "standard"
  | .starship => "starship"
  | .starshipNerdFont => "starship-nerd-font"

/-- Where Gascamp comes from: the image, or a path in the workspace. -/
inductive GascampSource where
  | bundled
  | workspace (path : Path)
  deriving DecidableEq, Repr

/-- The resource limits a manifest declares. -/
structure Resources where
  cpus : Option Nat
  memory : Option Nat
  disk : Option Nat
  deriving DecidableEq, Repr

/-- The capacities of the managed volumes in bytes. -/
structure Storage where
  tools : Nat
  cache : Nat
  config : Nat
  deriving DecidableEq, Repr

def defaultToolsStorageBytes : Nat := 10 * 1024 ^ 3
def defaultCacheStorageBytes : Nat := 10 * 1024 ^ 3
def defaultConfigStorageBytes : Nat := 1024 ^ 3
def maxManagedVolumeBytes : Nat := 512 * 1024 ^ 3

/-- `Storage::defaults`. -/
def Storage.defaults : Storage :=
  ⟨defaultToolsStorageBytes, defaultCacheStorageBytes, defaultConfigStorageBytes⟩

/-- The SSH policy of a manifest. A fixed host port needs SSH to be enabled. -/
structure Ssh where
  enabled : Bool
  hostPort : Option Port
  enabled_of_hostPort : hostPort.isSome → enabled = true
  unprivileged : ∀ port, hostPort = some port → 1024 ≤ port
  deriving DecidableEq

/-- A validated manifest. -/
structure Manifest where
  name : Option String
  network : NetworkMode
  user : UserMode
  gascamp : GascampSource
  setup : Option Path
  resources : Resources
  storage : Storage
  tools : OrdMap String String
  ports : OrdMap String Port
  ssh : Ssh
  prompt : ShellPrompt
  canonicalRoot : Path
  networked_of_ssh : ssh.enabled = true → network = .networked
  cpus_ne_zero : resources.cpus ≠ some 0
  tools_le : storage.tools ≤ maxManagedVolumeBytes
  cache_le : storage.cache ≤ maxManagedVolumeBytes
  config_le : storage.config ≤ maxManagedVolumeBytes
  deriving DecidableEq

/-! ### Validation -/

structure RawSsh where
  enabled : Option Bool := none
  hostPort : Option Port := none

structure RawStorage where
  tools : Option Nat := none
  cache : Option Nat := none
  config : Option Nat := none

/-- A parsed manifest, with the defaults of its fields. -/
structure RawManifest where
  version : Nat
  name : Option String := none
  network : NetworkMode := .offline
  user : UserMode := .workspace
  gascamp : Option String := none
  setup : Option Path := none
  resources : Resources := ⟨none, none, none⟩
  storage : RawStorage := {}
  tools : OrdMap String String := .empty
  ports : OrdMap String Port := .empty
  ssh : RawSsh := {}
  prompt : ShellPrompt := .standard

/-- The errors of validation. The last one stands for what the file system answers. -/
inductive ManifestError where
  | unsupportedVersion (found : Nat)
  | invalid (message : String)
  | setupOutsideRoot (setup root : Path)
  | io (path : Path)
  deriving DecidableEq

/-- `validate_workspace_relative_path`. -/
def validateWorkspaceRelativePath (label : String) (path : Path) : Except ManifestError Unit :=
  if (components path.toList).any fun part => part = .rootDir || part = .parentDir then
    .error (.invalid (label ++ " path must remain beneath the workspace root"))
  else .ok ()

/-- The source of Gascamp: a path in the workspace lies beneath `/workspace/gascamp`. -/
def gascampSource : Option String → Except ManifestError GascampSource
  | none => .ok .bundled
  | some value =>
    if value = "bundled" then .ok .bundled
    else if (components "/workspace/gascamp".toList).isPrefixOf (components value.toList) &&
        !(components value.toList).contains .parentDir then .ok (.workspace value)
    else .error (.invalid "gascamp workspace path must be beneath /workspace/gascamp")

namespace RawManifest

/-- Whether SSH is enabled: by default it is on a networked sandbox. -/
def sshEnabled (raw : RawManifest) : Bool := raw.ssh.enabled.getD (raw.network = .networked)

/-- The capacities of the volumes, with the defaults for those that are not given. -/
def capacities (raw : RawManifest) : Storage where
  tools := raw.storage.tools.getD Storage.defaults.tools
  cache := raw.storage.cache.getD Storage.defaults.cache
  config := raw.storage.config.getD Storage.defaults.config

/-- SSH is enabled on networked sandboxes only. -/
theorem networked_of_sshEnabled {raw : RawManifest}
    (hnot : ¬ (raw.network = .offline ∧ raw.ssh.enabled = some true))
    (henabled : raw.sshEnabled = true) : raw.network = .networked := by
  cases hnetwork : raw.network with
  | networked => rfl
  | offline =>
    cases hssh : raw.ssh.enabled with
    | none => simp [sshEnabled, hssh, hnetwork] at henabled
    | some enabled =>
      simp only [sshEnabled, hssh, Option.getD_some] at henabled
      exact absurd ⟨hnetwork, by rw [hssh, henabled]⟩ hnot

/-- `RawManifest::validate`. What the file system says about the setup path, whether it stays in the
root after symbolic links, is the parameter `validateSetupContainment`. -/
def validate (validateSetupContainment : Path → Path → Except ManifestError Unit)
    (raw : RawManifest) (canonicalRoot : Path) : Except ManifestError Manifest :=
  if raw.version ≠ 1 then .error (.unsupportedVersion raw.version)
  else if hcpus : raw.resources.cpus = some 0 then
    .error (.invalid "resources.cpus must be greater than zero")
  else if hnetwork : raw.network = .offline ∧ raw.ssh.enabled = some true then
    .error (.invalid
      "ssh requires network = \"networked\"; disable SSH or enable sandbox networking")
  else if hfixed : raw.sshEnabled = false ∧ raw.ssh.hostPort.isSome then
    .error (.invalid "ssh.host_port cannot be set when ssh.enabled is false")
  else if hport : raw.ssh.hostPort.any (· < 1024) then
    .error (.invalid "ssh.host_port must be in 1024..=65535")
  -- The loop over the three volumes.
  else if htools : maxManagedVolumeBytes < raw.capacities.tools then
    .error (.invalid "storage.tools must not exceed 512GiB")
  else if hcache : maxManagedVolumeBytes < raw.capacities.cache then
    .error (.invalid "storage.cache must not exceed 512GiB")
  else if hconfig : maxManagedVolumeBytes < raw.capacities.config then
    .error (.invalid "storage.config must not exceed 512GiB")
  else do
    if let some setup := raw.setup then
      validateWorkspaceRelativePath "setup" setup
      validateSetupContainment canonicalRoot setup
    let gascamp ← gascampSource raw.gascamp
    return {
      name := raw.name
      network := raw.network
      user := raw.user
      gascamp
      setup := raw.setup
      resources := raw.resources
      storage := raw.capacities
      tools := raw.tools
      ports := raw.ports
      ssh := {
        enabled := raw.sshEnabled
        hostPort := raw.ssh.hostPort
        enabled_of_hostPort := fun h => Bool.of_not_eq_false fun hoff => hfixed ⟨hoff, h⟩
        unprivileged := fun port h => by simpa [h] using hport }
      prompt := raw.prompt
      canonicalRoot
      networked_of_ssh := networked_of_sshEnabled hnetwork
      cpus_ne_zero := hcpus
      tools_le := Nat.le_of_not_lt htools
      cache_le := Nat.le_of_not_lt hcache
      config_le := Nat.le_of_not_lt hconfig }

end RawManifest

/-! ### Paths -/

/-- Paths are compared by their components. -/
def samePath (left right : Path) : Bool := components left.toList = components right.toList

/-! ### Specifications -/

/-- The target of the one bind mount of a sandbox. -/
def workspaceTarget : Path := "/workspace"

/-- A bind mount of a specification. -/
structure BindMount where
  source : Path
  target : Path
  writable : Bool
  deriving DecidableEq, Repr

/-- A sandbox specification. Its one mount is the canonical root at `/workspace`, which is how
`SandboxSpec::from_root` builds it. -/
structure SandboxSpec where
  id : SandboxId
  canonicalRoot : Path
  manifest : Manifest
  deriving DecidableEq

/-- The bind mounts of a specification. -/
def SandboxSpec.bindMounts (spec : SandboxSpec) : List BindMount :=
  [⟨spec.canonicalRoot, workspaceTarget, true⟩]

end Gascan
