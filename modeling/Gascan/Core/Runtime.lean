import Gascan.Core.Manifest

/-!
# `Gascan.Core.Runtime`: what the daemon asks of a container runtime

A `CreateRequest` is the compiled policy of a sandbox. A `RuntimeResource` is an observation of a
container, a volume or a network, with an opaque removal proof: two observations are equal only when
they saw the same instance. `RecreateRequest` pairs a request with exactly the volumes and the
network it keeps, and carries that check as a field.

Image references are compared by `sameImmutableImage`: the repository without its tag, and the
digest.
-/

namespace Gascan

open Lib Lib.Text

structure RuntimeVersion where
  major : Nat
  minor : Nat
  patch : Nat
  deriving DecidableEq, Repr

/-- What a runtime proves about sandboxes without a network. -/
inductive NetworkIsolation where
  | proven
  | unsupported
  | unverified
  deriving DecidableEq, Repr

structure RuntimeCapabilities where
  version : RuntimeVersion
  bindMounts : Bool
  namedVolumes : Bool
  loopbackPublish : Bool
  resourceLimits : Bool
  offline : NetworkIsolation
  deriving DecidableEq, Repr

/-- The labels the daemon attaches to what it creates. -/
structure OwnershipMetadata where
  managedBy : String
  sandboxId : SandboxId
  deriving DecidableEq

/-- The `managed_by` value of everything Gas Can creates. -/
def managedBy : String := "gascan"

/-- An IP address by its bits. -/
inductive IpAddr where
  | v4 (bits : Nat)
  | v6 (bits : Nat)
  deriving DecidableEq, Repr

/-- The loopback address 127.0.0.1. -/
def IpAddr.localhost : IpAddr := .v4 0x7f000001

structure RuntimePort where
  hostAddress : IpAddr
  hostPort : Port
  guestPort : Port
  deriving DecidableEq, Repr

structure RuntimeBindMount where
  source : Path
  target : Path
  writable : Bool
  deriving DecidableEq, Repr

structure RuntimeVolume where
  name : String
  target : Path
  writable : Bool
  capacityBytes : Nat
  ownership : OwnershipMetadata
  deriving DecidableEq

structure RuntimeResourceLimits where
  cpus : Option Nat
  memoryBytes : Option Nat
  diskBytes : Option Nat
  processCount : Option Nat
  deriving DecidableEq, Repr

inductive RuntimeNetwork where
  | networked (name : String)
  | offline
  deriving DecidableEq, Repr

/-- `RuntimeNetwork::managed_name`. -/
def RuntimeNetwork.managedName : RuntimeNetwork → Option String
  | .networked name => some name
  | .offline => none

inductive RuntimeUser where
  | workspace
  | root
  deriving DecidableEq, Repr

/-- A policy-validated request to create a sandbox. -/
structure CreateRequest where
  id : SandboxId
  image : String
  bindMounts : List RuntimeBindMount
  volumes : List RuntimeVolume
  ports : List RuntimePort
  environment : OrdMap String String
  resources : RuntimeResourceLimits
  network : RuntimeNetwork
  user : RuntimeUser
  init : Bool
  ownership : OwnershipMetadata
  deriving DecidableEq

inductive ContainerState where
  | creating
  | running
  | stopped
  deriving DecidableEq, Repr

/-- What `inspect` reports about a container. -/
structure RuntimeSandbox where
  id : SandboxId
  image : String
  state : ContainerState
  ownership : OwnershipMetadata
  ports : List RuntimePort
  deriving DecidableEq

inductive ResourceKind where
  | container
  | volume
  | network
  deriving DecidableEq, Repr

inductive ResourceOwnership where
  | gasCanOwned
  | foreign
  | mismatched
  deriving DecidableEq, Repr

structure ResourceIdentity where
  kind : ResourceKind
  name : String
  deriving DecidableEq, Repr

/-- An observation of a runtime resource. The removal proof stands for the address the source
compares: it differs for every instance. -/
structure RuntimeResource where
  identity : ResourceIdentity
  sandboxId : Option SandboxId
  ownership : ResourceOwnership
  removalProof : Nat
  deriving DecidableEq

inductive RuntimeError where
  | commandIo (operation message : String)
  | commandFailed (operation : String) (exitCode : Option Int) (stderr : String)
  | invalidOutput (operation message : String)
  | helperError (operation code message : String)
  | unsupportedVersion (found : RuntimeVersion) (supported : String)
  | unsupportedCapability (capability : String)
  | ownershipMismatch (resource : String)
  | foreignResourceRefused (resource : String)
  | invalidResourceIdentity (name : String)
  | conflict (resource message : String)
  | notFound (resource : String)
  | invalidState (resource message : String)
  | unknownActualState (resource state : String)
  | injectedFailure (boundary : String)
  deriving DecidableEq, Repr

/-- `RuntimeError::code`. -/
def RuntimeError.code : RuntimeError → String
  | .commandIo .. => "command_io"
  | .commandFailed .. => "command_failed"
  | .invalidOutput .. => "invalid_output"
  | .helperError .. => "helper_error"
  | .unsupportedVersion .. => "unsupported_version"
  | .unsupportedCapability .. => "unsupported_capability"
  | .ownershipMismatch .. => "ownership_mismatch"
  | .foreignResourceRefused .. => "foreign_resource_refused"
  | .invalidResourceIdentity .. => "invalid_resource_identity"
  | .conflict .. => "resource_conflict"
  | .notFound .. => "not_found"
  | .invalidState .. => "invalid_state"
  | .unknownActualState .. => "unknown_actual_state"
  | .injectedFailure .. => "injected_failure"

/-! ### Identities -/

/-- `ResourceIdentity::new`: a name that is not blank and has no control character. -/
def ResourceIdentity.new (kind : ResourceKind) (name : String) :
    Except RuntimeError ResourceIdentity :=
  if name.toList.all isWhitespace || name.toList.any isControl then
    .error (.invalidResourceIdentity name)
  else .ok ⟨kind, name⟩

/-! ### Image references -/

/-- The index of the colon before the tag: the last colon, if it is after the last slash. -/
def tagSeparator (name : List Char) : Option Nat :=
  match lastIndexOf ':' name, lastIndexOf '/' name with
  | some separator, some slash => if slash < separator then some separator else none
  | some separator, none => some separator
  | none, _ => none

/-- `valid_repository_component`. Only the first component may end in a port. -/
def validRepositoryComponent (component : List Char) (allowPort : Bool) : Bool :=
  let (host, port) :=
    match if allowPort then splitOnce [':'] component else none with
    | some (host, port) => (host, some port)
    | none => (component, none)
  port.all (fun port => !port.isEmpty && port.all isDigit) &&
    host.head?.any (fun c => isLower c || isDigit c) &&
    host.getLast?.any (fun c => isLower c || isDigit c) &&
    host.all (fun c => isLower c || isDigit c || c = '.' || c = '_' || c = '-')

/-- The tag rule of `valid_image_name`. -/
def validTag (tag : List Char) : Bool :=
  !tag.isEmpty && tag.length ≤ 128 && tag.head?.any (fun c => isAlpha c || isDigit c || c = '_') &&
    tag.all (fun c => isAlpha c || isDigit c || c = '_' || c = '.' || c = '-')

/-- `valid_image_name`. -/
def validImageName (name : List Char) : Bool :=
  let separator := tagSeparator name
  let repository := separator.elim name name.take
  let tag := separator.map fun i => name.drop (i + 1)
  !name.isEmpty && name.all (fun c => c.toNat < 128) && !name.any isSpace && tag.all validTag &&
    ((splitOn '/' repository).zipIdx).all fun (component, index) =>
      validRepositoryComponent component (index = 0)

/-- `immutable_image_reference`. -/
def immutableImageReference (image : String) : Bool :=
  match splitOnce "@sha256:".toList image.toList with
  | none => false
  | some (name, digest) => validImageName name && digest.length = 64 && digest.all isLowerHex

/-- `immutable_image_identity`: the repository without the tag, and the digest. -/
def immutableImageIdentity (image : String) : Option (List Char × List Char) :=
  if immutableImageReference image then
    (splitOnce "@sha256:".toList image.toList).map fun (name, digest) =>
      ((tagSeparator name).elim name name.take, digest)
  else none

/-- `same_immutable_image`. -/
def sameImmutableImage (left right : String) : Bool :=
  match immutableImageIdentity left, immutableImageIdentity right with
  | some left, some right => left = right
  | _, _ => false

/-! ### Evidence -/

/-- The identity of the managed network of a request. -/
def allowedNetwork (request : CreateRequest) : Option ResourceIdentity :=
  request.network.managedName.map (⟨.network, ·⟩)

/-- The identities of the volumes of a request. -/
def volumeIdentities (request : CreateRequest) : Except RuntimeError (List ResourceIdentity) :=
  request.volumes.mapM fun volume => ResourceIdentity.new .volume volume.name

/-- The walk over observed resources in `validate_retained_resources` and
`validate_created_resources`: each one is allowed, owned by this sandbox and seen once. Returns the
identities seen. -/
def checkEvidence (allowed : ResourceIdentity → Bool) (id : SandboxId) :
    List RuntimeResource → List ResourceIdentity → Except RuntimeError (List ResourceIdentity)
  | [], seen => .ok seen
  | resource :: rest, seen =>
    if !allowed resource.identity || resource.ownership ≠ .gasCanOwned ||
        resource.sandboxId ≠ some id || seen.contains resource.identity then
      .error (.ownershipMismatch resource.identity.name)
    else checkEvidence allowed id rest (resource.identity :: seen)

/-- `validate_retained_resources`: exactly the volumes and the network of the request. -/
def validateRetainedResources (request : CreateRequest) (resources : List RuntimeResource) :
    Except RuntimeError Unit := do
  let expectedVolumes ← volumeIdentities request
  let expectedNetwork := allowedNetwork request
  let identities ← checkEvidence
    (fun identity => expectedVolumes.contains identity || expectedNetwork = some identity)
    request.id resources []
  if identities.length = expectedVolumes.dedup.length + (if expectedNetwork.isSome then 1 else 0)
  then .ok ()
  else .error (.invalidState request.id.value
    "retained resources do not exactly match the requested topology")

/-- `validate_created_resources`. A complete outcome has the container and the managed network. -/
def validateCreatedResources (request : CreateRequest) (created : List RuntimeResource)
    (requireContainer : Bool) : Except RuntimeError Unit := do
  let container ← ResourceIdentity.new .container request.id.value
  let allowedVolumes ← volumeIdentities request
  let identities ← checkEvidence
    (fun identity => identity = container || allowedVolumes.contains identity ||
      allowedNetwork request = some identity)
    request.id created []
  if requireContainer && !identities.contains container then
    .error (.invalidState request.id.value
      "create outcome does not contain the requested container")
  else if requireContainer && (allowedNetwork request).any (!identities.contains ·) then
    .error (.invalidState request.id.value
      "create outcome does not contain the requested managed network")
  else .ok ()

/-- Observed resources that a create request may keep. -/
structure RetainedResources where
  resources : List RuntimeResource
  deriving DecidableEq

/-- `RetainedResources::new`. -/
def RetainedResources.new (request : CreateRequest) (resources : List RuntimeResource) :
    Except RuntimeError RetainedResources := do
  validateRetainedResources request resources
  return ⟨resources⟩

/-- A request to create only the container, on exactly the resources it retains. -/
structure RecreateRequest where
  create : CreateRequest
  retained : RetainedResources
  valid : validateRetainedResources create retained.resources = .ok ()

/-- `RecreateRequest::new`. -/
def RecreateRequest.new (create : CreateRequest) (retained : RetainedResources) :
    Except RuntimeError RecreateRequest :=
  match h : validateRetainedResources create retained.resources with
  | .ok () => .ok ⟨create, retained, h⟩
  | .error e => .error e

/-- `RecreateRequest::for_image`. -/
def RecreateRequest.forImage (create : CreateRequest) (image : String)
    (retained : RetainedResources) : Except RuntimeError RecreateRequest :=
  if immutableImageReference image then RecreateRequest.new { create with image } retained
  else .error (.invalidState "recreate image"
    "image must be a nonempty named sha256 digest reference")

/-- The resources a successful creation made. -/
structure CreateOutcome where
  created : List RuntimeResource
  deriving DecidableEq

/-- A failed creation, with the resources it made before it failed. -/
structure CreateFailure where
  created : List RuntimeResource
  source : RuntimeError
  deriving DecidableEq

/-- A nonempty list of resources to remove, all owned by Gas Can. -/
structure RemoveRequest where
  resources : List RuntimeResource
  nonempty : resources ≠ []
  owned : ∀ resource ∈ resources, resource.ownership = .gasCanOwned

/-- `RemoveRequest::from_resources`. -/
def RemoveRequest.fromResources (resources : List RuntimeResource) :
    Except RuntimeError RemoveRequest :=
  if hempty : resources = [] then
    .error (.invalidState "remove request" "at least one exact resource is required")
  else if howned : ∀ resource ∈ resources, resource.ownership = .gasCanOwned then
    .ok ⟨resources, hempty, howned⟩
  else .error (.ownershipMismatch "remove request")

end Gascan
