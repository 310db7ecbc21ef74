import Gascan.Daemon.Error
import Gascan.Lib.Program

/-!
# `Gascan.Daemon.World`: the boundary of the service

The service talks to its store, to the container runtime, to the guest, to the managed SSH
configuration and to the file system. Each request is a command `Cmd` with a reply type. `World` is
what lies behind the boundary and `perform` is what a command does to it. The container runtime
follows the repository's fake runtime: a container is stopped when it is created, a recreated
container keeps exactly the resources it was given, and a removal takes effect only on resources
that are exactly the ones observed.

A transaction names the event of its result that the service sends to the client, if any. What
becomes of that event is the subject of `Gascan.Daemon.Stream`.

A `Choice` says how the environment decides one command: the clock, the failure that happens, how
far a runtime call got before it, or how a guest command ended. Its default is success.

A container and the volume of its configuration also carry what was last done inside the guest.
-/

namespace Gascan

open Lib

/-! ### The container runtime -/

/-- What the guest keeps on its configuration volume. No configuration file means no tools. -/
structure ConfigHome where
  tools : OrdMap String String := .empty
  prompt : Option ShellPrompt := none
  deriving DecidableEq

structure Volume where
  resource : RuntimeResource
  home : ConfigHome := {}
  deriving DecidableEq

/-- A container with the request it was created from. `setup` is the digest of the last setup
script that was executed in it, `gascamp` the last Gascamp selection. -/
structure Container where
  request : CreateRequest
  state : ContainerState
  ownership : OwnershipMetadata
  resource : RuntimeResource
  setup : Option String := none
  gascamp : Option GascampSource := none
  deriving DecidableEq

/-- The name of a container is the identity of its sandbox. -/
abbrev Container.id (c : Container) : SandboxId := c.request.id

/-- The name of a volume. -/
abbrev Volume.name (v : Volume) : String := v.resource.identity.name

/-- The runtime. `removed` lists every resource the daemon's removals took away. -/
structure Runtime where
  containers : List Container := []
  volumes : List Volume := []
  networks : List RuntimeResource := []
  nextProof : Nat := 0
  removed : List RuntimeResource := []
  deriving DecidableEq

/-- A failure of a runtime call after `progress` of its changes. -/
structure RuntimeFault where
  error : RuntimeError
  progress : Nat := 0
  deriving DecidableEq

namespace Runtime

/-- The container of a sandbox. -/
def container? (rt : Runtime) (id : SandboxId) : Option Container :=
  Table.lookup Container.id id rt.containers

/-- What `inspect` reports about a container. -/
def observe (c : Container) : RuntimeSandbox :=
  ⟨c.request.id, c.request.image, c.state, c.ownership, c.request.ports⟩

/-- The volume with the given name. -/
def volume? (rt : Runtime) (name : String) : Option Volume :=
  Table.lookup Volume.name name rt.volumes

/-- Every resource of the runtime. -/
def resources (rt : Runtime) : List RuntimeResource :=
  rt.containers.map (·.resource) ++ rt.volumes.map (·.resource) ++ rt.networks

/-- Changes the container of a sandbox. -/
def updateContainer (rt : Runtime) (id : SandboxId) (f : Container → Container) : Runtime :=
  { rt with containers := Table.update Container.id id f rt.containers }

/-- Changes the volume with the given name. -/
def updateVolume (rt : Runtime) (name : String) (f : Volume → Volume) : Runtime :=
  { rt with volumes := Table.update Volume.name name f rt.volumes }

/-- An owned resource with a proof no earlier instance has. -/
def fresh (rt : Runtime) (id : SandboxId) (kind : ResourceKind) (name : String) :
    RuntimeResource :=
  ⟨⟨kind, name⟩, some id, .gasCanOwned, rt.nextProof⟩

/-- Whether a call with this fault fails once it made `n` changes. -/
def stopsAt (fault : Option RuntimeFault) (n : Nat) : Option RuntimeError :=
  fault.bind fun f => if f.progress = n then some f.error else none

/-- Adds the stopped container of a request. -/
def addContainer (rt : Runtime) (request : CreateRequest) : RuntimeResource × Runtime :=
  let resource := rt.fresh request.id .container request.id.value
  (resource, { rt with
    containers := rt.containers ++ [⟨request, .stopped, request.ownership, resource, none, none⟩]
    nextProof := rt.nextProof + 1 })

/-- Adds a volume. -/
def addVolume (rt : Runtime) (id : SandboxId) (name : String) : RuntimeResource × Runtime :=
  let resource := rt.fresh id .volume name
  (resource, { rt with volumes := rt.volumes ++ [⟨resource, {}⟩], nextProof := rt.nextProof + 1 })

/-- Adds a network. -/
def addNetwork (rt : Runtime) (id : SandboxId) (name : String) : RuntimeResource × Runtime :=
  let resource := rt.fresh id .network name
  (resource, { rt with networks := rt.networks ++ [resource], nextProof := rt.nextProof + 1 })

/-- The managed network of a new sandbox. -/
def createNetwork (rt : Runtime) (request : CreateRequest) (fault : Option RuntimeFault) :
    Except CreateFailure (List RuntimeResource) × Runtime :=
  match request.network.managedName with
  | none => (.ok [], rt)
  | some name =>
    if rt.networks.any (·.identity.name = name) then
      (.error ⟨[], .conflict name "network already exists"⟩, rt)
    else
      let (resource, rt) := rt.addNetwork request.id name
      match stopsAt fault 1 with
      | some error => (.error ⟨[resource], error⟩, rt)
      | none => (.ok [resource], rt)

/-- The volumes of a new sandbox. A volume that is there and owned is used again. -/
def createVolumes (request : CreateRequest) (fault : Option RuntimeFault) :
    List RuntimeVolume → List RuntimeResource → Runtime →
      Except CreateFailure (List RuntimeResource) × Runtime
  | [], created, rt => (.ok created, rt)
  | volume :: rest, created, rt =>
    match rt.volume? volume.name with
    | some existing =>
      if existing.resource.ownership = .gasCanOwned ∧
          existing.resource.sandboxId = some request.id then
        createVolumes request fault rest created rt
      else
        (.error ⟨created, .conflict volume.name "volume exists with different ownership"⟩, rt)
    | none =>
      let (resource, rt) := rt.addVolume request.id volume.name
      match stopsAt fault (created.length + 1) with
      | some error => (.error ⟨created ++ [resource], error⟩, rt)
      | none => createVolumes request fault rest (created ++ [resource]) rt

/-- `RuntimeBackend::create`. -/
def create (rt : Runtime) (request : CreateRequest) (fault : Option RuntimeFault) :
    Except CreateFailure CreateOutcome × Runtime :=
  match stopsAt fault 0 with
  | some error => (.error ⟨[], error⟩, rt)
  | none =>
    if request.id ≠ request.ownership.sandboxId then
      (.error ⟨[], .ownershipMismatch request.id.value⟩, rt)
    else if (rt.container? request.id).isSome then
      (.error ⟨[], .conflict request.id.value "sandbox already exists"⟩, rt)
    else
      match rt.createNetwork request fault with
      | (.error failure, rt) => (.error failure, rt)
      | (.ok created, rt) =>
        match createVolumes request fault request.volumes created rt with
        | (.error failure, rt) => (.error failure, rt)
        | (.ok created, rt) =>
          let (resource, rt) := rt.addContainer request
          match stopsAt fault (created.length + 1) with
          | some error => (.error ⟨created ++ [resource], error⟩, rt)
          | none => (.ok ⟨created ++ [resource]⟩, rt)

/-- `RuntimeBackend::create_container`. -/
def createContainer (rt : Runtime) (request : RecreateRequest) (fault : Option RuntimeFault) :
    Except CreateFailure CreateOutcome × Runtime :=
  match stopsAt fault 0 with
  | some error => (.error ⟨[], error⟩, rt)
  | none =>
    if (rt.container? request.create.id).isSome then
      (.error ⟨[], .conflict request.create.id.value "sandbox already exists"⟩, rt)
    else
      match request.retained.resources.find? (!rt.resources.contains ·) with
      | some missing => (.error ⟨[], .ownershipMismatch missing.identity.name⟩, rt)
      | none =>
        let (resource, rt) := rt.addContainer request.create
        match stopsAt fault 1 with
        | some error => (.error ⟨[resource], error⟩, rt)
        | none => (.ok ⟨[resource]⟩, rt)

/-- `RuntimeBackend::start` and `stop`: the container of a sandbox enters a state. -/
def setState (rt : Runtime) (id : SandboxId) (state : ContainerState)
    (fault : Option RuntimeFault) : Except RuntimeError Unit × Runtime :=
  match stopsAt fault 0 with
  | some error => (.error error, rt)
  | none =>
    if (rt.container? id).isNone then (.error (.notFound id.value), rt)
    else
      let rt := rt.updateContainer id fun c => { c with state }
      match fault with
      | some fault => (.error fault.error, rt)
      | none => (.ok (), rt)

/-- The runtime without the given resources. -/
def without (rt : Runtime) (gone : List RuntimeResource) : Runtime :=
  { rt with
    containers := rt.containers.filter (!gone.contains ·.resource)
    volumes := rt.volumes.filter (!gone.contains ·.resource)
    networks := rt.networks.filter (!gone.contains ·)
    removed := rt.removed ++ gone }

/-- `RuntimeBackend::remove`. Every resource has to be exactly the one observed. -/
def remove (rt : Runtime) (request : RemoveRequest) (fault : Option RuntimeFault) :
    Except RuntimeError Unit × Runtime :=
  match stopsAt fault 0 with
  | some error => (.error error, rt)
  | none =>
    match request.resources.find? (!rt.resources.contains ·) with
    | some missing => (.error (.ownershipMismatch missing.identity.name), rt)
    | none =>
      match fault with
      | some fault => (.error fault.error, rt.without (request.resources.take fault.progress))
      | none => (.ok (), rt.without request.resources)

end Runtime

/-! ### Guest commands -/

/-- The commands the service runs in a guest to provision it. -/
inductive GuestCommand where
  /-- `install -d` of the tool and cache roots. -/
  | initializeManagedVolumeRoots
  /-- `install -d` of the configuration roots. -/
  | secureManagedConfigRoot
  /-- `/usr/local/bin/initialize-rust-home`. -/
  | initializeRustHome
  /-- `/usr/local/bin/configure-workstation-home`. -/
  | initializeWorkstationHome
  /-- `rm` of the directory mise runs in. -/
  | resetSafeMiseWorkdir
  /-- `install -d` of the directory mise runs in. -/
  | createSafeMiseWorkdir
  /-- `install` of the managed mise configuration for the given tools from standard input. -/
  | writeSafeMiseConfig (tools : OrdMap String String)
  /-- `mise install --yes`. -/
  | installTools
  /-- `mise ls --current --installed --json`. -/
  | listInstalledTools
  /-- `/usr/local/bin/configure-shell-home`. -/
  | configureShell (prompt : ShellPrompt)
  /-- `sha256sum` of a file of the workspace. -/
  | sha256sum (path : Path)
  /-- `bash` on a file of the workspace. -/
  | runSetup (path : Path)
  /-- `/usr/local/bin/select-gascamp`. -/
  | selectGascamp (source : GascampSource)
  deriving DecidableEq

/-- The standard output of a guest command: its text, and the value when it parses as JSON. -/
structure GuestOutput where
  text : String := ""
  json : Option Json := none

/-- How a guest command ended. -/
structure GuestExecOutcome where
  stdout : GuestOutput
  stderrTail : String
  code : Int
  signal : Int

/-- What the environment decides about a guest command. A `failure` is a broken transport, with
the text the service reports for it. `applied` says whether the command took effect. -/
structure ExecChoice where
  applied : Bool := true
  failure : Option String := none
  code : Int := 0
  signal : Int := 0
  stderr : String := ""
  output : Option GuestOutput := none

namespace Runtime

/-- The name of the volume that holds the configuration of a container. -/
def configVolume (c : Container) : Option String :=
  (c.request.volumes.find? (·.target = configRoot)).map (·.name)

/-- The configuration a container sees. -/
def home (rt : Runtime) (c : Container) : ConfigHome :=
  ((configVolume c).bind rt.volume?).elim {} (·.home)

/-- Changes the configuration a container sees. -/
def updateHome (rt : Runtime) (c : Container) (f : ConfigHome → ConfigHome) : Runtime :=
  match configVolume c with
  | none => rt
  | some name => rt.updateVolume name fun v => { v with home := f v.home }

/-- The root directory mounted at the workspace of a container. -/
def workspaceRoot (c : Container) : Path :=
  ((c.request.bindMounts.find? (·.target = workspaceTarget)).map (·.source)).getD ""

/-- The effect of a guest command. `content` is the content of a workspace file. -/
def runGuest (rt : Runtime) (c : Container) (content : Path → Except ProvisionError (List Nat)) :
    GuestCommand → Runtime
  | .writeSafeMiseConfig tools => rt.updateHome c fun home => { home with tools }
  | .configureShell prompt => rt.updateHome c fun home => { home with prompt := some prompt }
  | .runSetup path => rt.updateContainer c.request.id fun c =>
    { c with setup := (content path).toOption.map sha256Text }
  | .selectGascamp source => rt.updateContainer c.request.id fun c =>
    { c with gascamp := some source }
  | _ => rt

/-- The entry of an installed tool in the inventory of mise. -/
def inventoryEntry (tool : String) : String × Json :=
  (tool, .arr [.obj
    [("version", .str "1"), ("installed", .bool true), ("active", .bool true),
     ("source", .obj [("path", .str miseGlobalConfigFile)])]])

/-- The standard output of a guest command that succeeds. -/
def guestOutput (rt : Runtime) (c : Container)
    (content : Path → Except ProvisionError (List Nat)) : GuestCommand → GuestOutput
  | .sha256sum path =>
    match content path with
    | .ok bytes => { text := Text.hexLower (Sha256.digest bytes) ++ "  " ++ path }
    | .error _ => {}
  | .listInstalledTools =>
    { json := some (.obj ((rt.home c).tools.entries.map fun e => inventoryEntry e.1)) }
  | .selectGascamp _ => { json := some (.obj []) }
  | _ => {}

end Runtime

/-! ### SSH -/

/-- The client key of the host. -/
structure HostIdentity where
  publicKey : String
  fingerprint : String
  deriving DecidableEq

/-- A published SSH endpoint. -/
structure ActiveSsh where
  port : Port
  hostAlias : String
  hostKeyFingerprint : String
  clientKeyFingerprint : String
  deriving DecidableEq

/-! ### Commands -/

/-- The transactions of the store. -/
inductive StoreOp where
  | sandbox (id : SandboxId)
  | sshTransportPolicy (id : SandboxId)
  | listSandboxes
  | pendingOperations
  | operationEvents (id : OperationId)
  | beginOperation (record : SandboxRecord) (kind : OperationKind)
  | putSandbox (record : SandboxRecord)
  | putSandboxWithSshTransport (record : SandboxRecord) (policy : Option SshTransportPolicy)
  | setSshResolution (id : SandboxId) (resolution : Option Resolution)
  | appendOperationEvent (id : OperationId) (details : Json)
  | finishOperation (id : OperationId) (actual : ActualState) (status : OperationStatus)
      (errorCode : Option String) (errorDetails : Option Json) (clearSshTrust : Bool)

/-- What a transaction returns. -/
def StoreOp.Result : StoreOp → Type
  | .sandbox _ => Option SandboxRecord
  | .sshTransportPolicy _ => Option SshTransportPolicy
  | .listSandboxes => List SandboxRecord
  | .pendingOperations => List OperationRecord
  | .operationEvents _ => List OperationEvent
  | .beginOperation .. => OperationRecord
  | .putSandbox _ => Unit
  | .putSandboxWithSshTransport .. => Unit
  | .setSshResolution .. => Unit
  | .appendOperationEvent .. => OperationEvent
  | .finishOperation .. => OperationRecord × OperationEvent

/-- A transaction that returns nothing. -/
def StoreOp.unit (s : Except StoreError Store) : Except StoreError (Unit × Store) :=
  s.map fun s => ((), s)

/-- What a transaction does. -/
def StoreOp.run (s : Store) (now : Int) :
    (op : StoreOp) → Except StoreError (op.Result × Store)
  | .sandbox id => .ok (s.sandbox id, s)
  | .sshTransportPolicy id => .ok (s.sshTransportPolicy id, s)
  | .listSandboxes => .ok (s.listSandboxes, s)
  | .pendingOperations => .ok (s.pendingOperations, s)
  | .operationEvents id => .ok (s.operationEvents id, s)
  | .beginOperation record kind => s.beginOperation record kind now
  | .putSandbox record => StoreOp.unit (s.putSandbox record now)
  | .putSandboxWithSshTransport record policy =>
    StoreOp.unit (s.putSandboxWithSshTransport record policy now)
  | .setSshResolution id resolution => StoreOp.unit (s.setSshResolution id resolution now)
  | .appendOperationEvent id details => s.appendOperationEvent id details now
  | .finishOperation id actual status errorCode errorDetails clearSshTrust =>
    s.finishOperation id actual status errorCode errorDetails clearSshTrust now

/-- What a provisioner resolved. -/
structure ProvisionResolution where
  setup : Option Json := none
  tools : Option Json := none

/-- The requests of the service. `send` picks the event of the result of a transaction that is sent
to the client right after it. -/
inductive Cmd where
  | store (op : StoreOp) (send : op.Result → Option OperationEvent)
  | capabilities
  | inspect (id : SandboxId)
  | create (request : CreateRequest)
  | prepareImage (image : String)
  | createContainer (request : RecreateRequest)
  | start (id : SandboxId)
  | stop (id : SandboxId)
  | remove (request : RemoveRequest)
  | exec (id : SandboxId) (command : GuestCommand)
  | listResources
  | provision (spec : SandboxSpec) (create : CreateRequest)
  | healthCheck (id : SandboxId)
  | hostIdentity
  | reservePort
  | portInUse (port : Port)
  | readHostKey (id : SandboxId)
  | activeHosts
  | prepareFiles (hosts : List ActiveSsh)
  | readiness (host : ActiveSsh)
  | commitFiles (hosts : List ActiveSsh)
  | readSetup (root path : Path)

/-- The type of the reply to a command. -/
def Reply : Cmd → Type
  | .store op _ => Except ServiceError op.Result
  | .capabilities => Except RuntimeError RuntimeCapabilities
  | .inspect _ => Except RuntimeError (Option RuntimeSandbox)
  | .create _ => Except CreateFailure CreateOutcome
  | .prepareImage _ => Except RuntimeError Unit
  | .createContainer _ => Except CreateFailure CreateOutcome
  | .start _ => Except RuntimeError Unit
  | .stop _ => Except RuntimeError Unit
  | .remove _ => Except RuntimeError Unit
  | .exec .. => Except String GuestExecOutcome
  | .listResources => Except RuntimeError (List RuntimeResource)
  | .provision .. => Except ServiceError ProvisionResolution
  | .healthCheck _ => Except ServiceError Unit
  | .hostIdentity => Except String HostIdentity
  | .reservePort => Except String Port
  | .portInUse _ => Bool
  | .readHostKey _ => Except ServiceError String
  | .activeHosts => Except ServiceError (List ActiveSsh)
  | .prepareFiles _ => Except String Unit
  | .readiness _ => Except ServiceError Unit
  | .commitFiles _ => Except SshConfigCommitError Unit
  | .readSetup .. => Except ProvisionError (List Nat)

/-- Everything behind the boundary of the service. `files` gives the content of a file below a
workspace root, by its path without single dots. -/
structure World where
  store : Store := {}
  runtime : Runtime := {}
  identity : HostIdentity
  published : List ActiveSsh := []
  files : Path → Path → Except ProvisionError (List Nat) := fun _ _ => .error .setupUnreadable

/-- The environment's decision about one command. The default is success. -/
structure Choice where
  now : Int := 0
  storeFault : Option ServiceError := none
  fault : Option RuntimeFault := none
  capabilities : RuntimeCapabilities := ⟨⟨1, 1, 0⟩, true, true, true, true, .proven⟩
  exec : ExecChoice := {}
  provisioned : Except ServiceError ProvisionResolution := .ok {}
  serviceFault : Option ServiceError := none
  sshFault : Option String := none
  port : Port := 40000
  portBusy : Bool := false
  hostKey : String := "SHA256:host"
  commitFault : Option SshConfigCommitError := none

/-- An error if there is one. -/
def orElseOk {ε α : Type} (error : Option ε) (value : α) : Except ε α :=
  match error with
  | some error => .error error
  | none => .ok value

/-- A transaction of the store. An error leaves the store as it was. -/
def performStore (op : StoreOp) (x : Choice) (w : World) : Except ServiceError op.Result × World :=
  match x.storeFault with
  | some error => (.error error, w)
  | none =>
    match op.run w.store x.now with
    | .ok (result, store) => (.ok result, { w with store })
    | .error error => (.error (.store error), w)

/-- A guest command. It needs a running container. -/
def performExec (id : SandboxId) (command : GuestCommand) (x : ExecChoice) (w : World) :
    Except String GuestExecOutcome × World :=
  match w.runtime.container? id with
  | none => (.error "guest provisioning transport failed", w)
  | some c =>
    if c.state ≠ .running then (.error "guest provisioning transport failed", w)
    else
      let content := w.files (Runtime.workspaceRoot c)
      let next :=
        if x.applied then { w with runtime := w.runtime.runGuest c content command } else w
      match x.failure with
      | some message => (.error message, next)
      | none =>
        let stdout := x.output.getD (w.runtime.guestOutput c content command)
        (.ok ⟨stdout, x.stderr, x.code, x.signal⟩, next)

/-- Replaces the runtime after a runtime call. -/
def World.after {α : Type} (w : World) (r : α × Runtime) : α × World :=
  (r.1, { w with runtime := r.2 })

/-- What a command does, and its reply. -/
def perform : (c : Cmd) → Choice → World → Reply c × World
  | .store op _, x, w => performStore op x w
  | .capabilities, x, w => (orElseOk (x.fault.map (·.error)) x.capabilities, w)
  | .inspect id, x, w =>
    (orElseOk (x.fault.map (·.error)) ((w.runtime.container? id).map Runtime.observe), w)
  | .create request, x, w => w.after (w.runtime.create request x.fault)
  | .prepareImage _, x, w => (orElseOk (x.fault.map (·.error)) (), w)
  | .createContainer request, x, w => w.after (w.runtime.createContainer request x.fault)
  | .start id, x, w => w.after (w.runtime.setState id .running x.fault)
  | .stop id, x, w => w.after (w.runtime.setState id .stopped x.fault)
  | .remove request, x, w => w.after (w.runtime.remove request x.fault)
  | .exec id command, x, w => performExec id command x.exec w
  | .listResources, x, w => (orElseOk (x.fault.map (·.error)) w.runtime.resources, w)
  | .provision _ _, x, w => (x.provisioned, w)
  | .healthCheck _, x, w => (orElseOk x.serviceFault (), w)
  | .hostIdentity, x, w => (orElseOk x.sshFault w.identity, w)
  | .reservePort, x, w => (orElseOk x.sshFault x.port, w)
  | .portInUse _, x, w => (x.portBusy, w)
  | .readHostKey _, x, w => (orElseOk x.serviceFault x.hostKey, w)
  | .activeHosts, x, w => (orElseOk x.serviceFault w.published, w)
  | .prepareFiles _, x, w => (orElseOk x.sshFault (), w)
  | .readiness _, x, w => (orElseOk x.serviceFault (), w)
  | .commitFiles hosts, x, w =>
    match x.commitFault with
    | none => (.ok (), { w with published := hosts })
    | some (.unpublished error) => (.error (.unpublished error), w)
    | some error => (.error error, { w with published := hosts })
  | .readSetup root path, _, w => (w.files root path, w)

/-- How every command of a run is resolved. -/
abbrev Script := List (Prog.Tick World Choice)

/-- The script that makes the given choices, while nobody else changes anything. -/
def Script.of (choices : List Choice) : Script := choices.map fun choice => { choice }

end Gascan
