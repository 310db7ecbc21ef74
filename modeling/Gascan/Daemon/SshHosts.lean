import Mathlib.Data.Char
import Mathlib.Data.List.Dedup
import Mathlib.Data.List.DropRight
import Mathlib.Data.List.Lex
import Mathlib.Data.List.Sort
import Gascan.Core.Sandbox
import Gascan.Lib.Directory
import Gascan.Lib.Result
import Gascan.Lib.Sha256

/-!
# `Gascan.Daemon.SshHosts`: the text of the managed SSH configuration

The daemon publishes its SSH hosts in two files: a configuration for the client and a list of known
hosts, whose name is the digest of its contents. `renderFiles` checks the hosts and writes both
texts. `parseKnownHosts` reads the hosts back for the next publication, and
`verifyHostGenerationRecord` looks for one host before a connection is tried.
`loadActiveHostsFromInspection` is the whole way back, over a directory in which no system call
fails. Texts and paths are lists of characters.
-/

namespace Gascan.Ssh

open Lib Lib.Text

/-! ### Errors and paths -/

/-- The errors of the managed SSH files. `keygen` stands for all errors of `ssh-keygen`. -/
inductive SshError where
  | invalidState (message : String)
  | io (action : String) (source : Errno)
  | keygen (message : String)
  deriving DecidableEq, Repr

/-- `Utf8Path::join`. -/
def joinPath (base name : List Char) : List Char :=
  if base.isEmpty || base.getLast? = some '/' then base ++ name else base ++ '/' :: name

/-- `Utf8Path::parent` and `Utf8Path::file_name` of a path that ends with a name. -/
def splitPath (path : List Char) : Option (List Char × List Char) :=
  (lastIndexOf '/' path).map fun i => (path.take i, path.drop (i + 1))

/-- The paths of the managed files, below the home of the user. -/
structure SshPaths where
  home : List Char
  expectedUid : Nat
  deriving DecidableEq, Repr

def SshPaths.gascanDirectory (paths : SshPaths) : List Char :=
  joinPath (joinPath paths.home ".config".toList) "gascan".toList

def SshPaths.directory (paths : SshPaths) : List Char :=
  joinPath paths.gascanDirectory "ssh".toList

def SshPaths.privateKey (paths : SshPaths) : List Char :=
  joinPath paths.directory "identity_ed25519".toList

def SshPaths.config (paths : SshPaths) : List Char := joinPath paths.directory "config".toList

/-! ### Keys -/

/-- `MAX_SUBPROCESS_OUTPUT`. -/
def maxSubprocessOutput : Nat := 16 * 1024

structure ParsedPublicKey where
  normalized : List Char
  fingerprint : List Char
  deriving DecidableEq, Repr

def malformedKey : SshError := .invalidState "managed SSH public key is malformed"

/-- The name of the algorithm. -/
def ed25519 : List Char := "ssh-ed25519".toList

/-- The bytes that every Ed25519 key begins with: the length of the algorithm, its name, and the
length of the key. -/
def ed25519Header : List Nat :=
  [0, 0, 0, 11] ++ ed25519.map Char.toNat ++ [0, 0, 0, 32]

def validateEd25519Blob (blob : List Nat) : Bool :=
  blob.length = ed25519Header.length + 32 && blob.take ed25519Header.length = ed25519Header

/-- `trim_end_matches(['\r', '\n'])`. -/
def trimLineEnd (text : List Char) : List Char :=
  text.rdropWhile fun c => c = '\r' || c = '\n'

/-- The text of a key in its normal form. -/
def keyText (encoded : List Char) : List Char := ed25519 ++ [' '] ++ encoded

/-- The text of the fingerprint of a key. -/
def fingerprintText (blob : List Nat) : List Char :=
  "SHA256:".toList ++ encodeBase64NoPad (Sha256.digest blob)

def parsePublicKey (text : List Char) : Except SshError ParsedPublicKey := do
  ensureThat (text ≠ [] ∧ byteLength text ≤ maxSubprocessOutput ∧ '\x00' ∉ text) malformedKey
  let trimmed := trimLineEnd text
  ensureThat (trimmed ≠ [] ∧ '\r' ∉ trimmed ∧ '\n' ∉ trimmed) malformedKey
  ensureThat ((fields trimmed).head? = some ed25519)
    (.invalidState "managed SSH key is not Ed25519")
  let encoded ← okOr (fields trimmed)[1]? malformedKey
  let blob ← okOr (decodeBase64 encoded) malformedKey
  ensureThat (validateEd25519Blob blob) malformedKey
  return { normalized := keyText encoded, fingerprint := fingerprintText blob }

/-- The key pair of the daemon. -/
structure HostIdentity where
  privateKey : List Char
  publicKey : List Char
  fingerprint : List Char
  deriving DecidableEq, Repr

def validateIdentityMetadata (paths : SshPaths) (identity : HostIdentity) :
    Except SshError Unit := do
  ensureThat (identity.privateKey = paths.privateKey)
    (.invalidState "SSH config identity is outside managed state")
  let parsed ← parsePublicKey identity.publicKey
  ensureThat (parsed.normalized = identity.publicKey ∧ parsed.fingerprint = identity.fingerprint)
    (.invalidState "SSH config identity metadata is inconsistent")

/-! ### Hosts -/

inductive IpAddr where
  | v4 (a b c d : UInt8)
  | v6 (bits : BitVec 128)
  deriving DecidableEq, Repr

/-- `Ipv4Addr::LOCALHOST`. -/
def IpAddr.localhost : IpAddr := .v4 127 0 0 1

structure ActiveSsh where
  host : IpAddr
  port : UInt16
  hostAlias : List Char
  hostKeyFingerprint : List Char
  clientKeyFingerprint : List Char
  deriving DecidableEq, Repr

structure ManagedSshHost where
  active : ActiveSsh
  hostPublicKey : List Char
  deriving DecidableEq, Repr

/-- What every alias begins with. -/
def aliasStart : List Char := "gascan-".toList

/-- `alias`. -/
def aliasOf (id : SandboxId) : List Char := aliasStart ++ id.value.toList

def validateAlias (name : List Char) : Except SshError Unit := do
  let invalid := SshError.invalidState "managed SSH alias is invalid"
  let suffix ← okOr (name.dropPrefix? aliasStart) invalid
  ensureThat
    (suffix ≠ [] ∧ byteLength name ≤ 128 ∧
      suffix.all (fun c => isLower c || isDigit c || c = '-') ∧
      suffix.head? ≠ some '-' ∧ suffix.getLast? ≠ some '-' ∧ ¬containsPair '-' '-' suffix)
    invalid

/-- `validate_host`: the normal form of the host's key. -/
def validateHost (identity : HostIdentity) (host : ManagedSshHost) :
    Except SshError (List Char) := do
  validateAlias host.active.hostAlias
  ensureThat (host.active.host = .localhost ∧ host.active.port ≠ 0)
    (.invalidState "managed SSH endpoint must be IPv4 loopback with a nonzero port")
  ensureThat (host.active.clientKeyFingerprint = identity.fingerprint)
    (.invalidState "managed SSH client fingerprint is inconsistent")
  let parsed ← parsePublicKey host.hostPublicKey
  ensureThat (parsed.fingerprint = host.active.hostKeyFingerprint)
    (.invalidState "managed SSH host fingerprint is inconsistent")
  return parsed.normalized

/-- A host with the normal form of its key. -/
abbrev ValidatedHost := ManagedSshHost × List Char

/-- The order of the hosts in both files. -/
def byAlias (left right : ManagedSshHost) : Prop :=
  left.active.hostAlias ≤ right.active.hostAlias

instance : DecidableRel byAlias := fun left right =>
  inferInstanceAs (Decidable (left.active.hostAlias ≤ right.active.hostAlias))

/-- Whether two neighbours have one alias. -/
def repeatsAlias : List ValidatedHost → Bool
  | first :: second :: rest =>
    first.1.active.hostAlias = second.1.active.hostAlias || repeatsAlias (second :: rest)
  | _ => false

def validateHosts (identity : HostIdentity) (hosts : List ManagedSshHost) :
    Except SshError (List ValidatedHost) := do
  let validated ← hosts.mapM fun host => return (host, ← validateHost identity host)
  let sorted := validated.insertionSort fun left right => byAlias left.1 right.1
  ensureThat (¬repeatsAlias sorted) (.invalidState "managed SSH aliases are not unique")
  return sorted

/-! ### The two texts -/

/-- A number in decimal. -/
def decimal (n : Nat) : List Char := Nat.toDigits 10 n

/-- `str::replace` of one character. -/
def replaceChar (c : Char) (replacement : List Char) (text : List Char) : List Char :=
  text.flatMap fun d => if d = c then replacement else [d]

/-- `is_ascii_control`. -/
def isAsciiControl (c : Char) : Bool := c.toNat < 32 || c.toNat = 127

def opensshPath (path : List Char) : Except SshError (List Char) :=
  if path.any fun c => isAsciiControl c || c = '$' then
    .error (.invalidState "managed SSH path cannot be represented in OpenSSH config")
  else if path.all fun c => isAlpha c || isDigit c || c ∈ ['/', '.', '_', '-', ':'] then .ok path
  else
    let escaped := replaceChar '%' ['%', '%']
      (replaceChar '"' ['\\', '"'] (replaceChar '\\' ['\\', '\\'] path))
    .ok ('"' :: escaped ++ ['"'])

/-- The line that begins with a keyword. -/
def configLine (keyword : String) (value : List Char) : List Char :=
  keyword.toList ++ value ++ ['\n']

/-- The part of the configuration for one host. -/
def renderHost (identityPath knownHostsPath : List Char) (host : ManagedSshHost) : List Char :=
  configLine "\nHost " host.active.hostAlias ++
  configLine "    HostName 127.0.0.1" [] ++
  configLine "    Port " (decimal host.active.port.toNat) ++
  configLine "    User workspace" [] ++
  configLine "    IdentityFile " identityPath ++
  configLine "    IdentitiesOnly yes" [] ++
  configLine "    HostKeyAlias " host.active.hostAlias ++
  configLine "    UserKnownHostsFile " knownHostsPath ++
  configLine "    StrictHostKeyChecking yes" [] ++
  configLine "    ForwardAgent no" []

def renderConfig (identity : HostIdentity) (hosts : List ValidatedHost)
    (knownHostsPath : List Char) : Except SshError (List Char) := do
  let identityPath ← opensshPath identity.privateKey
  let knownHostsPath ← opensshPath knownHostsPath
  return configLine "# Generated by Gas Can. Do not edit." [] ++
    hosts.flatMap fun host => renderHost identityPath knownHostsPath host.1

/-- What stands before the port of an endpoint. -/
def loopbackStart : List Char := "[127.0.0.1]:".toList

/-- The record of one host. -/
def knownHostsRecord (name : List Char) (port : Nat) (key : List Char) : List Char :=
  name ++ ',' :: loopbackStart ++ decimal port ++ [' '] ++ key

def renderKnownHosts (hosts : List ValidatedHost) : List Char :=
  hosts.flatMap fun host =>
    knownHostsRecord host.1.active.hostAlias host.1.active.port.toNat host.2 ++ ['\n']

/-- `KNOWN_HOSTS_PREFIX`. -/
def knownHostsStart : List Char := "known_hosts.".toList

def generationName (contents : List UInt8) : List Char :=
  knownHostsStart ++ (hexLower (Sha256.digest (contents.map UInt8.toNat))).toList

def validGenerationName (name : List Char) : Bool :=
  match name.dropPrefix? knownHostsStart with
  | none => false
  | some digest => digest.length = 64 && digest.all isLowerHex

/-- What a publication consists of. -/
structure RenderedFiles where
  generation : List Char
  knownHosts : List Char
  config : List Char
  deriving DecidableEq, Repr

/-- The part of `prepare_openssh_files` that comes before the directory is opened. -/
def renderFiles (paths : SshPaths) (identity : HostIdentity) (hosts : List ManagedSshHost) :
    Except SshError RenderedFiles := do
  validateIdentityMetadata paths identity
  let validated ← validateHosts identity hosts
  let knownHosts := renderKnownHosts validated
  let generation := generationName (encodeUtf8 knownHosts)
  let config ← renderConfig identity validated (joinPath paths.directory generation)
  return { generation, knownHosts, config }

/-! ### Reading them back -/

/-- The characters of a quoted path, without their escapes. -/
def unescapePath : List Char → Option (List Char)
  | [] => some []
  | '\\' :: c :: rest => if c = '\\' || c = '"' then (c :: ·) <$> unescapePath rest else none
  | '\\' :: [] => none
  | '%' :: c :: rest => if c = '%' then ('%' :: ·) <$> unescapePath rest else none
  | '%' :: [] => none
  | c :: rest => (c :: ·) <$> unescapePath rest

/-- The inside of a text in quotation marks. -/
def unquote : List Char → Option (List Char)
  | '"' :: rest => if rest.getLast? = some '"' then some rest.dropLast else none
  | _ => none

def parseRenderedPath (value : List Char) : Except SshError (List Char) :=
  let malformed := SshError.invalidState "managed SSH config path is malformed"
  match unquote value with
  | some quoted => (unescapePath quoted).elim (.error malformed) .ok
  | none => if value.isEmpty || value.any isWhitespace then .error malformed else .ok value

/-- The paths of the known hosts that a configuration refers to. -/
def configReferences (text : List Char) : Except SshError (List (List Char)) := do
  let references ← ((lines text).filterMap
    (·.dropPrefix? "    UserKnownHostsFile ".toList)).mapM parseRenderedPath
  return references.dedup.insertionSort (· ≤ ·)

/-- The fields of a record. -/
def threeFields (line : List Char) : Option (List Char × List Char × List Char) :=
  match fields line with
  | [first, second, third] => some (first, second, third)
  | _ => none

/-- One record of `parse_known_hosts`. The hosts read so far have the aliases and the ports that
were seen. -/
def parseRecord (identity : HostIdentity) (seen : List ManagedSshHost) (line : List Char) :
    Except SshError ManagedSshHost := do
  ensureThat (line ≠ []) (.invalidState "managed known-hosts contains an empty record")
  let (pattern, kind, encoded) ← okOr (threeFields line)
    (.invalidState "managed known-hosts record is malformed")
  let (name, endpoint) ← okOr (splitOnce (',' :: loopbackStart) pattern)
    (.invalidState "managed known-hosts endpoint is malformed")
  let _ ← okOr ((name.dropPrefix? aliasStart).bind (SandboxId.tryFrom ∘ String.ofList))
    (.invalidState "managed known-hosts alias is malformed")
  let port ← okOr
    ((parseUnsigned 65536 endpoint).filter fun port => 1024 ≤ port && decimal port = endpoint)
    (.invalidState "managed known-hosts port is malformed")
  let parsed ← parsePublicKey (kind ++ [' '] ++ encoded)
  ensureThat
    (line = knownHostsRecord name port parsed.normalized ∧
      name ∉ seen.map (·.active.hostAlias) ∧ port ∉ seen.map (·.active.port.toNat))
    (.invalidState "managed known-hosts record is inconsistent")
  return {
    active := {
      host := .localhost
      port := UInt16.ofNat port
      hostAlias := name
      hostKeyFingerprint := parsed.fingerprint
      clientKeyFingerprint := identity.fingerprint }
    hostPublicKey := parsed.normalized }

def parseRecords (identity : HostIdentity) (seen : List ManagedSshHost) :
    List (List Char) → Except SshError (List ManagedSshHost)
  | [] => .ok seen
  | line :: rest => do
    let host ← parseRecord identity seen line
    parseRecords identity (seen ++ [host]) rest

def parseKnownHosts (contents : List UInt8) (identity : HostIdentity) :
    Except SshError (List ManagedSshHost) :=
  match decodeUtf8 contents with
  | none => .error (.invalidState "managed known-hosts is not UTF-8")
  | some text => parseRecords identity [] (lines text)

def invalidContents : SshError :=
  .invalidState "managed known-hosts generation contents are invalid"

/-- What `verify_host_generation_record` remembers of the records it has read. -/
structure RecordsSeen where
  aliases : List (List Char) := []
  endpoints : List Nat := []
  targets : Nat := 0

/-- One record of `verify_host_generation_record`. -/
def verifyRecord (host : ManagedSshHost) (key : List Char) (seen : RecordsSeen)
    (line : List Char) : Except SshError RecordsSeen := do
  let (pattern, algorithm, encoded) ← okOr (threeFields line) invalidContents
  let (name, endpoint) ← okOr (splitOnce [','] pattern) invalidContents
  validateAlias name
  let portText ← okOr (endpoint.dropPrefix? loopbackStart) invalidContents
  let port ← okOr (parseUnsigned 65536 portText) invalidContents
  ensureThat (port ≠ 0 ∧ decimal port = portText) invalidContents
  let parsed ← parsePublicKey (algorithm ++ [' '] ++ encoded)
  ensureThat
    (line = knownHostsRecord name port parsed.normalized ∧ name ∉ seen.aliases ∧
      port ∉ seen.endpoints)
    invalidContents
  let found := name = host.active.hostAlias ∧ port = host.active.port.toNat ∧
    parsed.normalized = key
  return {
    aliases := name :: seen.aliases
    endpoints := port :: seen.endpoints
    targets := if found then seen.targets + 1 else seen.targets }

/-- `verify_host_generation_record`. The source counts the records of the host in eight bits, and a
second one is an error before the count could matter. -/
def verifyHostGenerationRecord (contents : List UInt8) (host : ManagedSshHost) (key : List Char) :
    Except SshError Unit :=
  match decodeUtf8 contents with
  | none => .error invalidContents
  | some text => do
    let seen ← ((lines text).filter (!·.isEmpty)).foldlM (verifyRecord host key) {}
    ensureThat (seen.targets = 1)
      (.invalidState "managed known-hosts generation does not match endpoint")

/-! ### Publishing and loading -/

/-- `MAX_MANAGED_FILE_BYTES`. -/
def maxManagedFileBytes : Nat := 1024 * 1024

/-- The contents of the managed files, by their names. -/
abbrev StateDirectory : Type := List Char → Option (List UInt8)

def ensureGeneration (directory : StateDirectory) (generation : List Char)
    (contents : List UInt8) : Except SshError StateDirectory := do
  ensureThat (contents.length ≤ maxManagedFileBytes)
    (.invalidState "generated managed SSH file is too large")
  match directory generation with
  | some existing =>
    ensureThat (existing.length ≤ maxManagedFileBytes)
      (.invalidState "managed SSH file is too large")
    ensureThat (existing = contents)
      (.invalidState "managed known-hosts generation contents are inconsistent")
    return directory
  | none => return Function.update directory generation (some contents)

structure PreparedSshFiles where
  generation : List Char
  knownHosts : List Char
  config : List UInt8
  deriving DecidableEq, Repr

def prepareOpensshFiles (paths : SshPaths) (identity : HostIdentity)
    (hosts : List ManagedSshHost) (directory : StateDirectory) :
    Except SshError (PreparedSshFiles × StateDirectory) := do
  let rendered ← renderFiles paths identity hosts
  let directory ← ensureGeneration directory rendered.generation (encodeUtf8 rendered.knownHosts)
  let prepared : PreparedSshFiles := {
    generation := rendered.generation
    knownHosts := joinPath paths.directory rendered.generation
    config := encodeUtf8 rendered.config }
  return (prepared, directory)

inductive DiagnosticKind where
  | missing
  | inconsistent
  deriving DecidableEq, Repr

/-- `ManagedSshDiagnostic`. -/
structure Diagnostic where
  kind : DiagnosticKind
  path : List Char
  source : SshError
  deriving DecidableEq, Repr

/-- An error about the configuration. -/
def inconsistentConfig (paths : SshPaths) (source : SshError) : Diagnostic :=
  { kind := .inconsistent, path := paths.config, source }

structure InspectedSshPublication where
  config : Option (List UInt8)
  generation : Option (List Char × List UInt8)

/-- `read_file_inspected` of a generation. -/
def readGeneration (directory : StateDirectory) (path generation : List Char) :
    Except Diagnostic (List UInt8) := do
  let contents ← okOr (directory generation)
    { kind := .missing, path, source := .io "open managed SSH file" .noEntry }
  ensureThat (contents.length ≤ maxManagedFileBytes)
    { kind := .inconsistent, path, source := .invalidState "managed SSH file is too large" }
  return contents

/-- The part of `inspect_publication_files` that follows the reading of the configuration. -/
def inspectConfig (paths : SshPaths) (directory : StateDirectory) (config : List UInt8) :
    Except Diagnostic InspectedSshPublication := do
  let failed (message : String) := inconsistentConfig paths (.invalidState message)
  let text ← okOr (decodeUtf8 config) (failed "managed SSH config is not UTF-8")
  ensureThat ('\x00' ∉ text) (failed "managed SSH config contains a null byte")
  match ← (configReferences text).mapError (inconsistentConfig paths) with
  | [] => return ⟨some config, none⟩
  | [path] =>
    let (parent, generation) ← okOr (splitPath path)
      (failed "managed SSH config generation is outside state")
    ensureThat (parent = paths.directory)
      (failed "managed SSH config generation is outside state")
    let knownHosts ← readGeneration directory path generation
    return ⟨some config, some (path, knownHosts)⟩
  | _ => throw (failed "managed SSH config generations are inconsistent")

/-- What is left of loading hosts once they are known: they have to give the same files again. -/
def checkPublished (paths : SshPaths) (identity : HostIdentity) (hosts : List ManagedSshHost)
    (directory : StateDirectory) (same : PreparedSshFiles → Bool) :
    Except Diagnostic (List ManagedSshHost × StateDirectory) := do
  let (prepared, directory) ← (prepareOpensshFiles paths identity hosts directory).mapError
    (inconsistentConfig paths)
  ensureThat (same prepared)
    (inconsistentConfig paths (.invalidState "managed SSH config is inconsistent"))
  return (hosts, directory)

def loadActiveHostsFromInspection (paths : SshPaths) (identity : HostIdentity)
    (publication : InspectedSshPublication) (directory : StateDirectory) :
    Except Diagnostic (List ManagedSshHost × StateDirectory) :=
  match publication.config, publication.generation with
  | none, _ => .ok ([], directory)
  | some config, none => checkPublished paths identity [] directory (·.config = config)
  | some config, some (knownHostsPath, knownHosts) => do
    let hosts ← (parseKnownHosts knownHosts identity).mapError fun source =>
      { kind := .inconsistent, path := knownHostsPath, source }
    checkPublished paths identity hosts directory fun prepared =>
      prepared.knownHosts = knownHostsPath ∧ prepared.config = config

end Gascan.Ssh
