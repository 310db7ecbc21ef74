import Gascan.Core.Manifest
import Gascan.Lib.Sha256

/-!
# `Gascan.Core.Provision`: what has to be done inside a guest

`ProvisioningPlanner` compares the hashes of the state that was applied last with the hashes of
what a manifest asks for, and lists the steps that are left. The tools are hashed in their JSON
form, the shell by the name of its prompt, and the setup script by its content.
-/

namespace Gascan

open Lib Lib.Text

/-! ### Hashes -/

/-- The UTF-8 bytes of a text. -/
def utf8Bytes (text : String) : List Nat := text.toUTF8.toList.map UInt8.toNat

/-- The form in which the daemon writes a SHA-256 digest. -/
def sha256Text (message : List Nat) : String := "sha256:" ++ hexLower (Sha256.digest message)

/-- The escape of one character inside a JSON string, as `serde_json` writes it. -/
def jsonEscape (c : Char) : List Char :=
  if c = '"' then ['\\', '"']
  else if c = '\\' then ['\\', '\\']
  else if c = '\x08' then ['\\', 'b']
  else if c = '\x0c' then ['\\', 'f']
  else if c = '\n' then ['\\', 'n']
  else if c = '\r' then ['\\', 'r']
  else if c = '\t' then ['\\', 't']
  else if c.toNat < 32 then
    ['\\', 'u', '0', '0', Nat.digitChar (c.toNat / 16), Nat.digitChar (c.toNat % 16)]
  else [c]

/-- A JSON string literal. -/
def jsonString (text : String) : List Char := '"' :: text.toList.flatMap jsonEscape ++ ['"']

/-- The members of a JSON object of strings, separated by commas. -/
def jsonMembers : List (String × String) → List Char
  | [] => []
  | [(key, value)] => jsonString key ++ ':' :: jsonString value
  | (key, value) :: rest => jsonString key ++ ':' :: jsonString value ++ ',' :: jsonMembers rest

/-- The JSON text of a tool map, with its members in key order. -/
def toolsJson (tools : OrdMap String String) : String :=
  String.ofList ('{' :: jsonMembers tools.entries ++ ['}'])

/-- The hash of a tool map. -/
def toolHash (tools : OrdMap String String) : String := sha256Text (utf8Bytes (toolsJson tools))

def managedShellConfigVersion : String := "gascan-managed-shell-v1"

/-- `desired_shell_hash`. -/
def desiredShellHash (prompt : ShellPrompt) : String :=
  sha256Text (utf8Bytes managedShellConfigVersion ++ [0] ++ utf8Bytes prompt.asStr)

/-! ### Plans -/

/-- The hashes of what was applied to a guest last. -/
structure AppliedState where
  toolHash : Option String := none
  setupSha256 : Option String := none
  shellHash : Option String := none
  deriving DecidableEq, Repr

/-- A setup script, by its path below the root and the digest of its content. -/
structure SetupScript where
  canonicalRelativePath : Path
  sha256 : String
  deriving DecidableEq, Repr

inductive ProvisionStep where
  | writeSafeMiseConfig
  | installTools
  | configureShell
  | runSetup
  | verifyGascamp
  | healthCheck
  deriving DecidableEq, Repr

/-- `ProvisionStep::as_str`. -/
def ProvisionStep.asStr : ProvisionStep → String
  | .writeSafeMiseConfig => "write_safe_mise_config"
  | .installTools => "install_tools"
  | .configureShell => "configure_shell"
  | .runSetup => "run_setup"
  | .verifyGascamp => "verify_gascamp"
  | .healthCheck => "health_check"

inductive ProvisionError where
  | setupOutsideRoot
  | setupSymlink
  | setupNotRegular
  | setupUnreadable
  deriving DecidableEq, Repr

structure ProvisionPlan where
  steps : List ProvisionStep
  desiredTools : OrdMap String String
  desiredToolHash : String
  toolsChanged : Bool
  desiredShellHash : String
  shellPrompt : ShellPrompt
  shellChanged : Bool
  setupScript : Option SetupScript
  setupChanged : Bool

/-- Whether the tools have to be written again. With no recorded hash only a manifest that
declares tools counts as changed. -/
def toolsChanged (applied : Option String) (tools : OrdMap String String) : Bool :=
  match applied with
  | some hash => hash ≠ toolHash tools
  | none => !tools.isEmpty

/-- Whether a setup script has to be run. -/
def setupChanged (applied : Option String) (setup : Option SetupScript) : Bool :=
  setup.any fun script => applied ≠ some script.sha256

namespace ProvisioningPlanner

/-- `ProvisioningPlanner::plan_for_root`, given the setup script as it was read. -/
def planForRoot (manifest : Manifest) (applied : AppliedState) (setup : Option SetupScript) :
    ProvisionPlan :=
  let tools := toolsChanged applied.toolHash manifest.tools
  let shellHash := Gascan.desiredShellHash manifest.prompt
  let shell := applied.shellHash ≠ some shellHash
  let script := Gascan.setupChanged applied.setupSha256 setup
  { steps :=
      (if tools then [.writeSafeMiseConfig, .installTools] else []) ++
      (if shell then [.configureShell] else []) ++
      (if script then [.runSetup] else []) ++ [.verifyGascamp, .healthCheck]
    desiredTools := manifest.tools
    desiredToolHash := toolHash manifest.tools
    toolsChanged := tools
    desiredShellHash := shellHash
    shellPrompt := manifest.prompt
    shellChanged := shell
    setupScript := setup
    setupChanged := script }

end ProvisioningPlanner

/-- The path of a setup script below the root, without single dots. -/
def canonicalRelativePath (path : Path) : Path :=
  "/".intercalate ((names path.toList).map String.ofList)

/-- `resolve_setup`, given the outcome of opening and reading the file without following links. -/
def resolveSetup (path : Path) (content : Except ProvisionError (List Nat)) :
    Except ProvisionError SetupScript :=
  if (components path.toList).any fun part => part = .rootDir || part = .parentDir then
    .error .setupOutsideRoot
  else if names path.toList = [] then .error .setupNotRegular
  else content.map fun bytes => ⟨canonicalRelativePath path, sha256Text bytes⟩

end Gascan
