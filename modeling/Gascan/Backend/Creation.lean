import Gascan.Backend.Listing
import Gascan.Backend.Translate
import Gascan.Lib.Program

/-!
# `Gascan.Backend.Creation`: how the backends create a sandbox, and what a failure reports

Apple's backend creates the network, the volumes and the container of a request with one command
each, and it looks at the inventory after each command (`Apple.createSandbox`). When a step fails,
it reports what it made so far, so that the daemon can remove it. `Apple.createContainer` creates a
container on retained volumes. Arca's engine creates everything in one call and lists what it made
(`Arca.createOutcome`).

A reply to Apple's `inventory` stands for the replies to the three listings, put together with the
cache of removal proofs.
-/

namespace Gascan

open Lib

/-! ### Evidence -/

/-- The identities that a request may create: the container, the volumes, the network. -/
def CreateRequest.allows (request : CreateRequest) (identity : ResourceIdentity) : Bool :=
  identity = ⟨.container, request.id.value⟩ ||
    (request.volumes.map fun volume => (⟨.volume, volume.name⟩ : ResourceIdentity)).contains
      identity ||
    allowedNetwork request = some identity

/-- Whether a resource is owned by a sandbox. -/
def RuntimeResource.ownedBy (id : SandboxId) (resource : RuntimeResource) : Bool :=
  resource.ownership = .gasCanOwned && resource.sandboxId = some id

/-- The filter of `from_created_evidence`: what is allowed, owned and not seen before. -/
def validEvidence (request : CreateRequest) :
    List ResourceIdentity → List RuntimeResource → List RuntimeResource
  | _, [] => []
  | seen, resource :: rest =>
    if request.allows resource.identity && resource.ownedBy request.id &&
        !seen.contains resource.identity then
      resource :: validEvidence request (resource.identity :: seen) rest
    else validEvidence request seen rest

/-- `CreateFailure::from_created_evidence`. -/
def CreateFailure.fromCreatedEvidence (request : CreateRequest) (created : List RuntimeResource)
    (source : RuntimeError) : CreateFailure where
  created := validEvidence request [] created
  source

/-- `CreateFailure::from_source`. -/
def CreateFailure.fromSource (source : RuntimeError) : CreateFailure := ⟨[], source⟩

/-- `CreateOutcome::new`. -/
def CreateOutcome.new (request : CreateRequest) (created : List RuntimeResource) :
    Except RuntimeError CreateOutcome := do
  validateCreatedResources request created true
  return ⟨created⟩

/-- `validate_recreated_container`. -/
def validateRecreatedContainer (request : CreateRequest) (created : List RuntimeResource) :
    Except RuntimeError Unit := do
  let expected ← ResourceIdentity.new .container request.id.value
  match created with
  | [container] =>
    ensureThat (container.identity = expected ∧ container.ownedBy request.id)
      (.ownershipMismatch container.identity.name)
  | _ => .error (.invalidState request.id.value
    "recreate outcome must contain exactly the requested container")

/-- `CreateOutcome::for_recreate`. -/
def CreateOutcome.forRecreate (request : RecreateRequest) (created : List RuntimeResource) :
    Except RuntimeError CreateOutcome := do
  validateRecreatedContainer request.create created
  return ⟨created⟩

namespace Backend

namespace Apple

/-! ### Apple's backend -/

/-- `TranslationError::code`. -/
def TranslationError.code : TranslationError → String
  | .missingImageDigest => "missing_image_digest"
  | .invalidOwnership => "invalid_ownership"
  | .invalidWorkspaceMount => "invalid_workspace_mount"
  | .invalidOwnedVolume => "invalid_owned_volume"
  | .nonLoopbackPort => "non_loopback_port"
  | .unsupportedControl _ => "unsupported_control"
  | .missingControl _ => "missing_control"
  | .unsupportedUser => "unsupported_user"
  | .initRequired => "init_required"

/-- The text of a translation error. -/
def TranslationError.text : TranslationError → String
  | .missingImageDigest => "image reference must contain an immutable sha256 digest"
  | .invalidOwnership => "request ownership does not match the Gas Can sandbox"
  | .invalidWorkspaceMount => "request must contain one canonical writable /workspace mount"
  | .invalidOwnedVolume => "request contains a missing, unowned, or unexpected managed volume"
  | .nonLoopbackPort => "published ports must bind to IPv4 loopback"
  | .unsupportedControl control =>
    "Apple runtime translation does not support the " ++ control ++ " control"
  | .missingControl control => "Apple runtime translation requires the " ++ control ++ " control"
  | .unsupportedUser =>
    "Apple runtime translation supports only the locked image workspace user"
  | .initRequired => "Apple runtime translation requires init"

def translationError (error : TranslationError) : RuntimeError :=
  .unsupportedCapability (error.code ++ ": " ++ error.text)

inductive Cmd where
  | run (spec : CommandSpec)
  | inventory

/-- The output of a command that succeeds is not read here. -/
def Reply : Cmd → Type
  | .run _ => Except RuntimeError Unit
  | .inventory => Except RuntimeError (List RuntimeResource)

/-- Programs of Apple's backend that create resources. -/
abbrev Io (α : Type) : Type := Prog Cmd Reply CreateFailure α

/-- Whether an error leaves open if the command did its work. -/
def isCommandIo : RuntimeError → Bool
  | .commandIo .. => true
  | _ => false

/-- `current_for`, as the reply that it makes of an inventory. -/
def currentFor (identity : ResourceIdentity)
    (inventory : Except RuntimeError (List RuntimeResource)) :
    Except RuntimeError (Option RuntimeResource) :=
  inventory.map fun resources => resources.find? (·.identity = identity)

variable (request : CreateRequest)

/-- Whether a resource has one of the names that a request uses. -/
def usesName (resource : RuntimeResource) : Bool :=
  resource.identity.name = request.id.value ||
    request.volumes.any (·.name = resource.identity.name) ||
    request.network.managedName = some resource.identity.name

/-- The loop of `reconcile_created` over the current resources. -/
def addCreated (before : List RuntimeResource) :
    List RuntimeResource → List RuntimeResource → List RuntimeResource
  | created, [] => created
  | created, resource :: rest =>
    if resource.ownedBy request.id && !(before.any (·.identity = resource.identity)) &&
        usesName request resource && !(created.any (·.identity = resource.identity)) then
      addCreated before (created ++ [resource]) rest
    else addCreated before created rest

/-- `reconcile_created`. -/
def reconcileCreated (before created : List RuntimeResource) : Io (List RuntimeResource) :=
  .call .inventory fun
    | .error _ => .pure created
    | .ok current => .pure (addCreated request before created current)

/-- A failure that first looks for what was made. -/
def failReconciled {α : Type} (before created : List RuntimeResource) (error : RuntimeError) :
    Io α :=
  (reconcileCreated request before created).bind fun created =>
    .throw (.fromCreatedEvidence request created error)

/-- One command of `create` and the look at the inventory that follows it: the network, a volume or
the container. -/
def createResource (before created : List RuntimeResource) (spec : CommandSpec)
    (identity : ResourceIdentity) : Io RuntimeResource :=
  .call (.run spec) fun
    | .error error =>
      if isCommandIo error then failReconciled request before created error
      else .throw (.fromCreatedEvidence request created error)
    | .ok () =>
      match ResourceIdentity.new identity.kind identity.name with
      | .error error => .throw (.fromCreatedEvidence request created error)
      | .ok identity =>
        .call .inventory fun reply =>
          match currentFor identity reply with
          | .ok (some resource) =>
            if resource.ownedBy request.id then .pure resource
            else failReconciled request before created (.ownershipMismatch identity.name)
          | .ok none =>
            failReconciled request before created (.ownershipMismatch identity.name)
          | .error error => failReconciled request before created error

/-- The labels of everything that is created. -/
def ownerArguments : List String :=
  ["--label", "dev.gascan.managed-by=" ++ managedBy,
    "--label", "dev.gascan.sandbox-id=" ++ request.id.value]

/-- The command that creates the network. -/
def networkCommand (name : String) : CommandSpec where
  program := "container"
  args := ["network", "create"] ++ ownerArguments request ++ [name]

/-- The command that creates a volume. -/
def volumeCommand (volume : RuntimeVolume) : CommandSpec where
  program := "container"
  args := ["volume", "create"] ++ ownerArguments request ++
    ["-s", decimalText volume.capacityBytes, volume.name]

/-- The network of `create`. -/
def createNetwork (before : List RuntimeResource) : Io (List RuntimeResource) :=
  match request.network.managedName with
  | none => .pure []
  | some name => do
    let resource ← createResource request before [] (networkCommand request name) ⟨.network, name⟩
    return [resource]

/-- The volumes of `create`. -/
def createVolumes (before : List RuntimeResource) :
    List RuntimeResource → List RuntimeVolume → Io (List RuntimeResource)
  | created, [] => .pure created
  | created, volume :: rest => do
    let resource ← createResource request before created (volumeCommand request volume)
      ⟨.volume, volume.name⟩
    createVolumes before (created ++ [resource]) rest

variable (canonicalize : Path → Option Path)

/-- `AppleBackend::create`. -/
def createSandbox : Io CreateOutcome :=
  .call .inventory fun
    | .error error => .throw (.fromSource error)
    | .ok before =>
      match before.find? (usesName request) with
      | some resource =>
        .throw (.fromSource (.conflict resource.identity.name "resource already exists"))
      | none => do
        let created ← createNetwork request before
        let created ← createVolumes request before created request.volumes
        match Apple.create canonicalize request with
        | .error error =>
          .throw (.fromCreatedEvidence request created (translationError error))
        | .ok spec => do
          let resource ← createResource request before created spec
            ⟨.container, request.id.value⟩
          let created := created ++ [resource]
          match CreateOutcome.new request created with
          | .ok outcome => return outcome
          | .error error => .throw (.fromCreatedEvidence request created error)

variable (recreate : RecreateRequest)

/-- `AppleCommandBuilder::create_with_retained`. -/
def createWithRetained : Except TranslationError CommandSpec :=
  Apple.create canonicalize recreate.create

/-- `reconcile_recreated_container`. -/
def reconcileRecreatedContainer : Io (List RuntimeResource) :=
  match ResourceIdentity.new .container recreate.create.id.value with
  | .error _ => .pure []
  | .ok identity =>
    .call .inventory fun reply =>
      match currentFor identity reply with
      | .ok (some resource) =>
        if resource.ownedBy recreate.create.id then .pure [resource] else .pure []
      | _ => .pure []

/-- The part of `create_container` that follows the run of its command. -/
def confirmContainer : Io CreateOutcome :=
  match ResourceIdentity.new .container recreate.create.id.value with
  | .error error => .throw (.fromSource error)
  | .ok identity =>
    .call .inventory fun reply =>
      match currentFor identity reply with
      | .ok (some resource) =>
        if resource.ownedBy recreate.create.id then
          match CreateOutcome.forRecreate recreate [resource] with
          | .ok outcome => .pure outcome
          | .error error => .throw (.fromSource error)
        else .throw (.fromSource (.ownershipMismatch recreate.create.id.value))
      | .ok none => .throw (.fromSource (.ownershipMismatch recreate.create.id.value))
      | .error error => .throw (.fromSource error)

/-- `AppleBackend::create_container`. -/
def createContainer : Io CreateOutcome :=
  .call .inventory fun
    | .error error => .throw (.fromSource error)
    | .ok inventory =>
      match recreate.retained.resources.find? fun retained =>
          inventory.find? (·.identity = retained.identity) ≠ some retained with
      | some retained => .throw (.fromSource (.ownershipMismatch retained.identity.name))
      | none =>
        if inventory.any (·.identity = ⟨.container, recreate.create.id.value⟩) then
          .throw (.fromSource
            (.conflict recreate.create.id.value "container already exists"))
        else
          match createWithRetained canonicalize recreate with
          | .error error => .throw (.fromSource (translationError error))
          | .ok spec =>
            .call (.run spec) fun
              | .error error =>
                if isCommandIo error then
                  (reconcileRecreatedContainer recreate).bind fun created =>
                    .throw (.fromCreatedEvidence recreate.create created error)
                else .throw (.fromCreatedEvidence recreate.create [] error)
              | .ok () => confirmContainer recreate

end Apple

namespace Arca

/-! ### Arca's backend -/

/-- Which call the engine answered. -/
inductive CreatePath where
  | create (request : CreateRequest)
  | recreate (request : RecreateRequest)

def CreatePath.request : CreatePath → CreateRequest
  | .create request => request
  | .recreate request => request.create

def CreatePath.outcome (path : CreatePath) (created : List RuntimeResource) :
    Except RuntimeError CreateOutcome :=
  match path with
  | .create request => CreateOutcome.new request created
  | .recreate request => CreateOutcome.forRecreate request created

/-- `v1::create_response::Outcome`. The error of a failure is the one that the engine's stands
for. -/
inductive CreateResponse where
  | created (listed : List Resource)
  | failed (error : Option RuntimeError) (listed : List Resource)
  | unset

def missingOutcome (operation : String) : RuntimeError :=
  invalidOutput operation "response carried no outcome"

/-- `create_outcome`. The resources get removal proofs from `fresh` on. A label that makes
`SandboxId::try_from` panic ends the call without a result. -/
def createOutcome (path : CreatePath) (operation : String) (fresh : Nat) :
    CreateResponse → Option (Except CreateFailure CreateOutcome)
  | .created listed =>
    match runtimeResources fresh listed with
    | .ok resources => some ((path.outcome resources).mapError .fromSource)
    | .error (.error error) => some (.error (.fromSource error))
    | .error .panicked => none
  | .failed error listed =>
    match runtimeResources fresh listed with
    | .ok resources => some (.error (.fromCreatedEvidence path.request resources
      (error.getD (missingOutcome operation))))
    | .error (.error error) => some (.error (.fromSource error))
    | .error .panicked => none
  | .unset => some (.error (.fromSource (missingOutcome operation)))

end Arca

end Backend

end Gascan
