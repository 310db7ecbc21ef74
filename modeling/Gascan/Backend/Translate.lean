import Gascan.Core.Policy
import Gascan.Lib.Result

/-!
# `Gascan.Backend.Translate`: what the backends make of a create request

Each backend translates a `CreateRequest` for its runtime and checks it once more on the way.
Apple's backend writes the arguments of the `container` command (`Apple.create`). Arca's backend
fills the message of its engine (`Arca.createRequest`), and it reads ports and images of the engine
back (`Arca.runtimePorts`, `Arca.runtimeImage`). The canonical form of the workspace root, which
Apple's checks ask of the machine, is an argument here (`canonicalize`).
-/

namespace Gascan.Backend

open Lib Lib.Text

/-- A decimal number. -/
def decimalText (n : Nat) : String := String.ofList (Nat.toDigits 10 n)

namespace Apple

/-! ### The command of Apple's runtime -/

structure CommandSpec where
  program : String
  args : List String
  stdin : List UInt8 := []
  deriving DecidableEq, Repr

inductive TranslationError where
  | missingImageDigest
  | invalidOwnership
  | invalidWorkspaceMount
  | invalidOwnedVolume
  | nonLoopbackPort
  | unsupportedControl (control : String)
  | missingControl (control : String)
  | unsupportedUser
  | initRequired
  deriving DecidableEq, Repr

structure BindMountView where
  source : Path
  target : Path
  writable : Bool

structure VolumeView where
  name : String
  target : Path
  writable : Bool
  ownership : OwnershipMetadata

/-- The parts of a request that the translation reads. -/
structure CreateView where
  id : SandboxId
  image : String
  bindMounts : List BindMountView
  volumes : List VolumeView
  ports : List RuntimePort
  environment : OrdMap String String
  resources : RuntimeResourceLimits
  network : RuntimeNetwork
  user : RuntimeUser
  init : Bool
  ownership : OwnershipMetadata

/-- `CreateView::from_request`. -/
def CreateView.fromRequest (request : CreateRequest) : CreateView where
  id := request.id
  image := request.image
  bindMounts := request.bindMounts.map fun mount => ⟨mount.source, mount.target, mount.writable⟩
  volumes := request.volumes.map fun volume =>
    ⟨volume.name, volume.target, volume.writable, volume.ownership⟩
  ports := request.ports
  environment := request.environment
  resources := request.resources
  network := request.network
  user := request.user
  init := request.init
  ownership := request.ownership

def validateImage (image : String) : Except TranslationError Unit :=
  match splitOnce "@sha256:".toList image.toList with
  | none => .error .missingImageDigest
  | some (name, digest) =>
    if name.isEmpty || digest.length ≠ 64 || !digest.all isLowerHex then
      .error .missingImageDigest
    else .ok ()

/-- The volumes that a request must have, with their targets. -/
def expectedVolumes (id : SandboxId) : List (String × Path) :=
  [("gascan-mise-" ++ id.value, "/home/workspace/.local"),
   ("gascan-cache-" ++ id.value, "/home/workspace/.cache"),
   ("gascan-config-" ++ id.value, "/home/workspace/.config")]

/-- Whether a volume is the one that is expected in its place. -/
def VolumeView.isExpected (ownership : OwnershipMetadata) (volume : VolumeView)
    (expected : String × Path) : Bool :=
  volume.name = expected.1 && volume.target = expected.2 && volume.writable &&
    volume.ownership = ownership

/-- The check of the bind mounts: there is one, and it is the canonical writable workspace. -/
def validateMounts (canonicalize : Path → Option Path) :
    List BindMountView → Except TranslationError Unit
  | [mount] =>
    ensureThat (mount.target = workspaceTarget ∧ mount.writable ∧
      canonicalize mount.source = some mount.source) .invalidWorkspaceMount
  | _ => .error .invalidWorkspaceMount

/-- `validate_view`. -/
def validateView (canonicalize : Path → Option Path) (view : CreateView) :
    Except TranslationError Unit := do
  validateImage view.image
  ensureThat (view.ownership.managedBy = managedBy ∧ view.ownership.sandboxId = view.id)
    .invalidOwnership
  validateMounts canonicalize view.bindMounts
  ensureThat (view.volumes.length = (expectedVolumes view.id).length) .invalidOwnedVolume
  ensureThat ((view.volumes.zip (expectedVolumes view.id)).all fun (volume, expected) =>
    volume.isExpected view.ownership expected) .invalidOwnedVolume
  ensureThat (view.ports.all fun port => port.hostAddress = .localhost) .nonLoopbackPort
  ensureThat view.resources.diskBytes.isNone (.unsupportedControl "disk")
  ensureThat view.resources.processCount.isNone (.unsupportedControl "process_count")
  ensureThat view.resources.cpus.isSome (.missingControl "cpus")
  ensureThat view.resources.memoryBytes.isSome (.missingControl "memory")
  ensureThat (view.user = .workspace) .unsupportedUser
  ensureThat view.init .initRequired

/-- The text of an address in an argument. Only the loopback address passes the checks, so no IPv6
address is ever written. -/
def addressText : IpAddr → String
  | .v4 bits => ".".intercalate
    [decimalText (bits / 2 ^ 24 % 256), decimalText (bits / 2 ^ 16 % 256),
      decimalText (bits / 2 ^ 8 % 256), decimalText (bits % 256)]
  | .v6 _ => "::"

/-- The value of `--mount` for the workspace. -/
def mountArgument (source : Path) : String :=
  "type=bind,source=" ++ source ++ ",target=" ++ workspaceTarget

/-- The name of the network of a container. -/
def networkArgument : RuntimeNetwork → String
  | .networked name => name
  | .offline => "none"

/-- The arguments of a checked request. -/
def arguments (view : CreateView) (mount : BindMountView) (cpus memory : Nat) : List String :=
  ["run", "--name", view.id.value,
    "--label", "dev.gascan.managed-by=" ++ managedBy,
    "--label", "dev.gascan.sandbox-id=" ++ view.id.value,
    "--mount", mountArgument mount.source] ++
  view.volumes.flatMap (fun volume => ["--volume", volume.name ++ ":" ++ volume.target]) ++
  view.environment.entries.flatMap (fun entry => ["--env", entry.1 ++ "=" ++ entry.2]) ++
  ["--cpus", decimalText cpus, "--memory", decimalText memory, "--init", "--detach"] ++
  view.ports.flatMap (fun port => ["--publish",
    addressText port.hostAddress ++ ":" ++ decimalText port.hostPort.toNat ++ ":" ++
      decimalText port.guestPort.toNat]) ++
  ["--network", networkArgument view.network, view.image]

/-- `AppleCommandBuilder::create`. The checks leave exactly one bind mount. -/
def create (canonicalize : Path → Option Path) (request : CreateRequest) :
    Except TranslationError CommandSpec := do
  let view := CreateView.fromRequest request
  validateView canonicalize view
  let mount ← okOr view.bindMounts.head? .invalidWorkspaceMount
  let cpus ← okOr view.resources.cpus (.missingControl "cpus")
  let memory ← okOr view.resources.memoryBytes (.missingControl "memory")
  return { program := "container", args := arguments view mount cpus memory }

end Apple

namespace Arca

/-! ### The messages of Arca's engine -/

structure ImageDigest where
  repository : String
  sha256Hex : String
  deriving DecidableEq, Repr

structure ProjectMount where
  hostPath : String
  guestPath : String
  deriving DecidableEq, Repr

structure Volume where
  name : String
  guestPath : String
  capacityBytes : Nat
  deriving DecidableEq, Repr

/-- A port mapping on the wire, where ports have 32 bits. -/
structure PortMapping where
  hostPort : UInt32
  guestPort : UInt32
  deriving DecidableEq, Repr

structure EnvironmentVariable where
  name : String
  value : String
  deriving DecidableEq, Repr

structure OwnerLabels where
  managedBy : String
  sandboxId : String
  deriving DecidableEq, Repr

inductive NetworkMessage where
  | offline
  | networkedName (name : String)
  deriving DecidableEq, Repr

inductive UserMessage where
  | workspace
  | root
  deriving DecidableEq, Repr

/-- `v1::CreateRequest`. -/
structure CreateMessage where
  sandboxId : String
  image : ImageDigest
  project : ProjectMount
  volumes : List Volume
  ports : List PortMapping
  environment : List EnvironmentVariable
  resources : RuntimeResourceLimits
  network : NetworkMessage
  user : UserMessage
  init : Bool
  owner : OwnerLabels
  deriving DecidableEq, Repr

/-- A request shape that the engine's messages cannot express. -/
def boundary (resource message : String) : RuntimeError := .invalidState resource message

/-- A message of the engine that cannot be read. -/
def invalidOutput (operation message : String) : RuntimeError := .invalidOutput operation message

def imageDigest (image : String) : Except RuntimeError ImageDigest :=
  match immutableImageIdentity image with
  | none => .error (boundary "engine image"
    ("image \"" ++ image ++ "\" is not a named sha256 digest reference"))
  | some (repository, digest) =>
    .ok { repository := String.ofList repository, sha256Hex := String.ofList digest }

def ownerLabels (ownership : OwnershipMetadata) : OwnerLabels where
  managedBy := ownership.managedBy
  sandboxId := ownership.sandboxId.value

def projectMount (mounts : List RuntimeBindMount) : Except RuntimeError ProjectMount :=
  match mounts with
  | [mount] => do
    ensureThat mount.writable
      (boundary "engine project mount" "a read-only project mount is not expressible")
    return { hostPath := mount.source, guestPath := mount.target }
  | _ => .error (boundary "engine project mount"
    ("exactly one project mount is expressible, found " ++ decimalText mounts.length))

def volume (volume : RuntimeVolume) : Except RuntimeError Volume := do
  ensureThat volume.writable (boundary "engine volume"
    ("volume \"" ++ volume.name ++ "\" is read-only, which is not expressible"))
  return { name := volume.name, guestPath := volume.target, capacityBytes := volume.capacityBytes }

/-- `volumes`. -/
def volumes (vs : List RuntimeVolume) : Except RuntimeError (List Volume) := vs.mapM volume

/-- `port_mappings`, with the host ports that were mapped before. -/
def portMappingsAfter : List Port → List RuntimePort → Except RuntimeError (List PortMapping)
  | _, [] => .ok []
  | seen, port :: rest => do
    ensureThat (port.hostAddress = .localhost) (boundary "engine port mapping"
      ("loopback is implied, so host address " ++ Apple.addressText port.hostAddress ++
        " cannot be requested"))
    ensureThat (port.hostPort ≠ 0 ∧ port.guestPort ≠ 0) (boundary "engine port mapping"
      ("port 0 is not a mapping: " ++ decimalText port.hostPort.toNat ++ ":" ++
        decimalText port.guestPort.toNat))
    ensureThat (port.hostPort ∉ seen) (boundary "engine port mapping"
      ("host port " ++ decimalText port.hostPort.toNat ++ " is mapped twice"))
    let mappings ← portMappingsAfter (port.hostPort :: seen) rest
    return { hostPort := port.hostPort.toUInt32, guestPort := port.guestPort.toUInt32 } ::
      mappings

/-- `port_mappings`. -/
def portMappings (ports : List RuntimePort) : Except RuntimeError (List PortMapping) :=
  portMappingsAfter [] ports

def network : RuntimeNetwork → NetworkMessage
  | .offline => .offline
  | .networked name => .networkedName name

def user : RuntimeUser → UserMessage
  | .workspace => .workspace
  | .root => .root

/-- `create_request`. -/
def createRequest (request : CreateRequest) : Except RuntimeError CreateMessage := do
  let image ← imageDigest request.image
  let project ← projectMount request.bindMounts
  let vs ← volumes request.volumes
  let ports ← portMappings request.ports
  return {
    sandboxId := request.id.value
    image, project, volumes := vs, ports
    environment := request.environment.entries.map fun entry => ⟨entry.1, entry.2⟩
    resources := request.resources
    network := network request.network
    user := user request.user
    init := request.init
    owner := ownerLabels request.ownership }

/-! ### Reading them back -/

/-- `runtime_image`. -/
def runtimeImage (image : ImageDigest) : Except RuntimeError String :=
  let reference := image.repository ++ "@sha256:" ++ image.sha256Hex
  if immutableImageReference reference then .ok reference
  else .error (invalidOutput "inspect"
    ("engine image \"" ++ reference ++ "\" is not a named sha256 digest reference"))

/-- `u16::try_from` of one of the two ports of a mapping. -/
def narrowPort (which : String) (port : UInt32) : Except RuntimeError Port := do
  ensureThat (port.toNat < 2 ^ 16) (invalidOutput "inspect"
    (which ++ " port " ++ decimalText port.toNat ++ " is out of range"))
  return port.toUInt16

/-- `runtime_ports`, with the host ports that were published before. -/
def runtimePortsAfter : List Port → List PortMapping → Except RuntimeError (List RuntimePort)
  | _, [] => .ok []
  | seen, port :: rest => do
    let hostPort ← narrowPort "host" port.hostPort
    let guestPort ← narrowPort "guest" port.guestPort
    ensureThat (hostPort ≠ 0 ∧ guestPort ≠ 0) (invalidOutput "inspect"
      ("port 0 is not a mapping: " ++ decimalText hostPort.toNat ++ ":" ++
        decimalText guestPort.toNat))
    ensureThat (hostPort ∉ seen) (invalidOutput "inspect"
      ("host port " ++ decimalText hostPort.toNat ++ " is published twice"))
    let ports ← runtimePortsAfter (hostPort :: seen) rest
    return ⟨.localhost, hostPort, guestPort⟩ :: ports

/-- `runtime_ports`. -/
def runtimePorts (ports : List PortMapping) : Except RuntimeError (List RuntimePort) :=
  runtimePortsAfter [] ports

end Arca

end Gascan.Backend
