import Gascan.Daemon.Service

/-!
# `Gascan.Daemon.Provisioning`: provisioning a guest

`provisionWithApplied` runs the steps of a plan inside the guest: the managed directories, the
tools, the shell, the setup script and the Gascamp selection. The guest is changed step by step, and
the hashes are returned at the end. A failed setup script also stops the container.
-/

namespace Gascan

open Lib Lib.Text

namespace Service

/-! ### Guest commands -/

/-- `exec_guest_raw`. -/
def execGuestRaw (id : SandboxId) (command : GuestCommand) : Svc GuestExecOutcome :=
  .call (.exec id command) fun result => Prog.ofExcept (result.mapError .provision)

/-- The result of a guest command that has to succeed. -/
def requireSuccess (step : String) (action : String) (outcome : GuestExecOutcome) :
    Except ServiceError GuestOutput :=
  if outcome.code = 0 ∧ outcome.signal = 0 then .ok outcome.stdout
  else .error (.provisionCommandFailed step action outcome.code outcome.signal outcome.stderrTail)

/-- `exec_guest`. -/
def execGuest (id : SandboxId) (step : String) (action : String) (command : GuestCommand) :
    Svc GuestOutput := do
  let outcome ← execGuestRaw id command
  Prog.ofExcept (requireSuccess step action outcome)

/-- A guest command whose output is not read. -/
def execGuestUnit (id : SandboxId) (step : String) (action : String) (command : GuestCommand) :
    Svc Unit := do
  let _ ← execGuest id step action command
  pure ()

/-- `emit_provision_step`. -/
def emitProvisionStep (operationId : OperationId) (step : String) : Svc Unit :=
  emit operationId (.obj [("phase", .str "provision_step"), ("step", .str step)])

/-- The name of the step that initializes the runtime home, which no plan contains. -/
def initializeRuntimeHome : String := "initialize_runtime_home"

/-! ### Steps -/

/-- `initialize_managed_volume_roots`. -/
def initializeManagedVolumeRoots (spec : SandboxSpec) (operationId : OperationId) : Svc Unit := do
  let writeConfig := ProvisionStep.writeSafeMiseConfig.asStr
  execGuestUnit spec.id writeConfig "initialize_managed_volume_roots" .initializeManagedVolumeRoots
  execGuestUnit spec.id writeConfig "secure_managed_config_root" .secureManagedConfigRoot
  emitProvisionStep operationId initializeRuntimeHome
  execGuestUnit spec.id initializeRuntimeHome "initialize_rust_home" .initializeRustHome
  execGuestUnit spec.id writeConfig "initialize_workstation_home" .initializeWorkstationHome

/-- A record of the inventory: version, installed, active, and the declaring file. -/
abbrev MiseToolRecord := String × Bool × Bool × Path

/-- Reads a record of the inventory. -/
def inventoryRecord (value : Json) : Option MiseToolRecord := do
  let version ← value.getStr "version"
  let installed ← (value.get "installed").bind Json.asBool
  let active ← (value.get "active").bind Json.asBool
  let source ← value.get "source"
  let path ← source.getStr "path"
  return (version, installed, active, path)

/-- The inventory of mise as a map from tools to their records. A repeated key is refused. -/
def inventoryEntries : List (String × Json) → Option (OrdMap String (List MiseToolRecord))
  | [] => some .empty
  | (tool, value) :: rest => do
    let entries ← inventoryEntries rest
    if (entries.get? tool).isSome then none
    else
      let items ← value.asArray
      let records ← items.mapM inventoryRecord
      return entries.insert tool records

/-- The rules of `parse_mise_versions` for one tool. -/
def inventoryVersion (desired : OrdMap String String) (tool : String)
    (records : List MiseToolRecord) : Except ServiceError (Option String) :=
  match records with
  | [(version, installed, active, path)] =>
    if !installed || !active || version.toList.all isWhitespace ||
        version.toList.any isControl then
      .error (.provision "mise returned an invalid tool record")
    else if (desired.get? tool).isSome then
      if path ≠ miseGlobalConfigFile then
        .error (.provision "mise returned an unexpected tool set")
      else .ok (some version)
    else if path ≠ miseSystemConfigFile then
      .error (.provision "mise returned an unexpected tool set")
    else .ok none
  | _ => .error (.provision "mise returned an invalid tool record")

/-- The walk over the inventory in `parse_mise_versions`. -/
def resolveVersions (desired : OrdMap String String) :
    List (String × List MiseToolRecord) → Except ServiceError (OrdMap String String)
  | [] => .ok .empty
  | (tool, records) :: rest => do
    let version ← inventoryVersion desired tool records
    let resolved ← resolveVersions desired rest
    match version with
    | some version => return resolved.insert tool version
    | none => return resolved

/-- `parse_mise_versions`. -/
def parseMiseVersions (output : GuestOutput) (desired : OrdMap String String) :
    Except ServiceError (OrdMap String String) :=
  match (output.json.bind Json.asObject).bind inventoryEntries with
  | none => .error (.provision "invalid mise tool inventory")
  | some records => do
    let resolved ← resolveVersions desired records.entries
    if resolved.entries.map Prod.fst = desired.entries.map Prod.fst then return resolved
    else .error (.provision "mise returned an unexpected tool set")

/-- The JSON value of a tool map. -/
def toolsValue (tools : OrdMap String String) : Json :=
  .obj (tools.entries.map fun e => (e.1, .str e.2))

/-- `install_tools`. -/
def installTools (spec : SandboxSpec) (plan : ProvisionPlan) (operationId : OperationId) :
    Svc Json := do
  let writeConfig := ProvisionStep.writeSafeMiseConfig.asStr
  let install := ProvisionStep.installTools.asStr
  emitProvisionStep operationId writeConfig
  execGuestUnit spec.id writeConfig "reset_safe_mise_workdir" .resetSafeMiseWorkdir
  execGuestUnit spec.id writeConfig "create_safe_mise_workdir" .createSafeMiseWorkdir
  execGuestUnit spec.id writeConfig "write_safe_mise_config"
    (.writeSafeMiseConfig plan.desiredTools)
  emitProvisionStep operationId install
  execGuestUnit spec.id install "install_tools" .installTools
  let output ← execGuest spec.id install "list_installed_tools" .listInstalledTools
  let resolved ← Prog.ofExcept (parseMiseVersions output spec.manifest.tools)
  pure (toolsValue resolved)

/-- `configure_shell`. -/
def configureShell (spec : SandboxSpec) (plan : ProvisionPlan) (operationId : OperationId) :
    Svc Unit := do
  let step := ProvisionStep.configureShell.asStr
  emitProvisionStep operationId step
  execGuestUnit spec.id step "configure_shell" (.configureShell plan.shellPrompt)

/-- `setup_command_failure`. -/
def setupCommandFailure (action : String) (outcome : GuestExecOutcome) : ServiceError :=
  .setupCommandFailed action outcome.code outcome.signal outcome.stderrTail

/-- A setup command that has to succeed. -/
def requireSetupSuccess (action : String) (outcome : GuestExecOutcome) :
    Except ServiceError GuestOutput :=
  if outcome.code = 0 ∧ outcome.signal = 0 then .ok outcome.stdout
  else .error (setupCommandFailure action outcome)

/-- The digest in the output of `sha256sum`: the first field, if it is one. -/
def digestField (output : GuestOutput) : Option (List Char) :=
  (fields output.text.toList).head?.filter fun digest =>
    digest.length = 64 && digest.all fun c => isLowerHex c || ('A' ≤ c && c ≤ 'F')

/-- The mounted script has to have the planned digest. -/
def checkDigest (setup : SetupScript) (output : GuestOutput) : Except ServiceError Unit :=
  match digestField output with
  | none => .error .setupChanged
  | some digest =>
    if setup.sha256.toList = "sha256:".toList ++ digest then .ok () else .error .setupChanged

/-- `run_setup`: the mounted script is hashed in the guest and then executed. -/
def runSetup (id : SandboxId) (setup : SetupScript) : Svc Unit := do
  let digested ← execGuestRaw id (.sha256sum setup.canonicalRelativePath)
  let output ← Prog.ofExcept (requireSetupSuccess "verify_setup_digest" digested)
  Prog.ofExcept (checkDigest setup output)
  let outcome ← execGuestRaw id (.runSetup setup.canonicalRelativePath)
  let _ ← Prog.ofExcept (requireSetupSuccess "run_setup" outcome)
  pure ()

/-- Whether an inspection shows a stopped container. -/
def showsStopped (inspected : Except ServiceError (Option RuntimeSandbox)) : Bool :=
  match inspected with
  | .ok (some runtime) => runtime.state = .stopped
  | _ => false

/-- `finalize_setup_failure`: stops the container, and says so in the error when it is uncertain. -/
def finalizeSetupFailure {α : Type} (id : SandboxId) (error : ServiceError) : Svc α := do
  let stopped ← (stop id).attempt (δ := ServiceError)
  let inspected ← (inspect id).attempt (δ := ServiceError)
  if stopped.isOk && showsStopped inspected then .throw error
  else .throw error.withUnconfirmedSetupStop

/-- The setup step of a plan. -/
def setupStep (spec : SandboxSpec) (setup : SetupScript) (operationId : OperationId) :
    Svc Unit := do
  emitProvisionStep operationId ProvisionStep.runSetup.asStr
  let ran ← (runSetup spec.id setup).attempt (δ := ServiceError)
  match ran with
  | .ok () => pure ()
  | .error error => finalizeSetupFailure spec.id error

/-- `verify_gascamp`. -/
def verifyGascamp (spec : SandboxSpec) : Svc Unit := do
  let output ← execGuest spec.id ProvisionStep.verifyGascamp.asStr "verify_gascamp"
    (.selectGascamp spec.manifest.gascamp)
  if (output.json.bind Json.asObject).isSome then pure ()
  else .throw (.provision "invalid Gascamp verification output")

/-- The JSON value of a setup script. -/
def setupValue (setup : SetupScript) : Json :=
  .obj [("canonical_relative_path", .str setup.canonicalRelativePath),
    ("sha256", .str setup.sha256)]

/-- What provisioning resolved, with the hashes it stands for. -/
structure ProvisionedResolution where
  setup : Option Json
  tools : Option Json
  toolHash : String
  shellHash : String

/-- The tools after provisioning: newly installed, or as recorded. -/
def provisionTools (spec : SandboxSpec) (plan : ProvisionPlan) (prior : Option SandboxRecord)
    (operationId : OperationId) : Svc (Option Json) :=
  if plan.toolsChanged then do
    let tools ← installTools spec plan operationId
    pure (some tools)
  else pure (prior.bind storedToolResolution)

/-- The setup script of a plan that runs it. -/
def plannedSetup (plan : ProvisionPlan) : Option SetupScript :=
  if plan.setupChanged then plan.setupScript else none

/-- `provision_with_applied`. -/
def provisionWithApplied (spec : SandboxSpec) (create : CreateRequest)
    (prior : Option SandboxRecord) (applied : AppliedState) (operationId : OperationId) :
    Svc ProvisionedResolution := do
  initializeManagedVolumeRoots spec operationId
  let plan ← planForRoot spec applied
  let resolvedTools ← provisionTools spec plan prior operationId
  Prog.when plan.shellChanged (configureShell spec plan operationId)
  (plannedSetup plan).elim (pure ()) fun setup => setupStep spec setup operationId
  let resolution ← Prog.call (.provision spec create) Prog.ofExcept
  emitProvisionStep operationId ProvisionStep.verifyGascamp.asStr
  verifyGascamp spec
  pure
    { setup := (plan.setupScript.map setupValue).or resolution.setup
      tools := resolvedTools.or resolution.tools
      toolHash := plan.desiredToolHash
      shellHash := plan.desiredShellHash }

/-- `provision_explicit`. -/
def provisionExplicit (spec : SandboxSpec) (create : CreateRequest)
    (prior : Option SandboxRecord) (operationId : OperationId) : Svc ProvisionedResolution :=
  provisionWithApplied spec create prior (appliedState prior) operationId

/-- The members of an `after_provision` event that describe what was provisioned. -/
def provisionedMembers (provisioned : ProvisionedResolution) : List (String × Json) :=
  [("setup", jsonOpt provisioned.setup), ("tools", jsonOpt provisioned.tools),
   ("tool_hash", .str provisioned.toolHash), ("shell_hash", .str provisioned.shellHash)]

/-- The event before a health check. -/
def emitBeforeHealth (operationId : OperationId) : Svc Unit :=
  emit operationId (.obj
    [("phase", .str "before_health"), ("step", .str ProvisionStep.healthCheck.asStr)])

end Service

end Gascan
