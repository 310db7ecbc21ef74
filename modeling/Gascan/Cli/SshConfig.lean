import Gascan.Lib.Directory
import Gascan.Lib.Text

/-!
# `Gascan.Cli.SshConfig`: replacing the user's SSH configuration

The command-line client edits `~/.ssh/config`, a file that other programs edit too.
`atomicReplaceWithHooks` writes the new text to a staging file beside the target and then lets the
two names trade their files. What comes out under the staging name has to be the file the new text
was computed from. If it is another one, somebody edited the target in between: the names trade
back, and a file that cannot go back to the target is kept under a recovery name.

Every system call is one command, so that other programs can act between any two of them. What a
hook does to the directory is an act of another program; only its result is known here.
-/

namespace Gascan.SshConfig

open Lib Lib.Text

/-! ### Errors -/

inductive SshConfigErrorKind where
  | unsafePath
  | updateFailed
  deriving DecidableEq, Repr

structure SshConfigError where
  kind : SshConfigErrorKind
  message : String
  source : Option Errno
  deriving DecidableEq, Repr

/-- `SshConfigError::unsafe_path`. -/
def SshConfigError.unsafePath (message : String) : SshConfigError :=
  { kind := .unsafePath, message, source := none }

/-- `SshConfigError::io`. -/
def SshConfigError.io (message : String) (source : Errno) : SshConfigError :=
  { kind := .updateFailed, message, source := some source }

/-- `SshConfigError::open_path`. -/
def SshConfigError.openPath (message : String) : Errno → SshConfigError
  | .access | .loop | .notDirectory => .unsafePath "SSH configuration path type is unsafe"
  | source => .io message source

/-- Programs of the client on the directory of the configuration. -/
abbrev ConfigIo (α : Type) : Type := Prog (DirCmd String) DirReply SshConfigError α

/-- One system call, where a failure ends the program. -/
def call (toError : Errno → SshConfigError) (c : DirCmd String) : ConfigIo (DirResult c) :=
  .call c fun
    | .ok result => .pure result
    | .error error => .throw (toError error)

/-- A check of the program itself. -/
def ensure (condition : Bool) (message : String) : ConfigIo Unit :=
  if condition then .pure () else .throw (.unsafePath message)

/-! ### Files of the directory -/

/-- `MAX_CONFIG_BYTES`. -/
def maxConfigBytes : Nat := 4 * 1024 * 1024

/-- `FILE_MODE`. -/
def fileMode : Nat := 0o600

structure FileIdentity where
  device : Nat
  inode : Nat
  mode : Nat
  deriving DecidableEq, Repr

/-- `FileIdentity::from_stat`. -/
def FileIdentity.fromStat (stat : Stat) : FileIdentity :=
  { device := stat.device, inode := stat.inode, mode := stat.mode &&& 0o7777 }

structure PreviousFile where
  identity : FileIdentity
  contents : List UInt8
  deriving DecidableEq, Repr

structure SecureDirectory where
  expectedUid : Nat
  deriving DecidableEq, Repr

variable (directory : SecureDirectory)

def validateFileStat (stat : Stat) : ConfigIo Unit :=
  ensure
    (stat.kind = .regular ∧ stat.uid = directory.expectedUid ∧ stat.nlink = 1 ∧
      stat.mode &&& 0o022 = 0)
    "SSH configuration ownership, type, links, or permissions are unsafe"

def fileIdentity (name : String) : ConfigIo (Option FileIdentity) :=
  .call (.stat name) fun
    | .ok stat => do
      validateFileStat directory stat
      return some (.fromStat stat)
    | .error .noEntry => return none
    | .error error => .throw (.io "inspect SSH configuration" error)

/-- The part of `read_file` that owns the descriptor. -/
def readOpened (expected : FileIdentity) (fd : Nat) : ConfigIo (List UInt8) := do
  let stat ← call (.io "inspect open SSH configuration") (.fstat fd)
  validateFileStat directory stat
  ensure (FileIdentity.fromStat stat = expected) "SSH configuration changed while opening it"
  call (.io "read SSH configuration") (.read fd (maxConfigBytes + 1))

def readFile (name : String) : ConfigIo (Option (List UInt8 × FileIdentity)) := do
  match ← fileIdentity directory name with
  | none => return none
  | some expected =>
    let fd ← call (.openPath "open SSH configuration") (.openRead name)
    let contents ← closing fd (readOpened directory expected fd)
    ensure (contents.length ≤ maxConfigBytes) "SSH configuration is too large"
    let current ← fileIdentity directory name
    ensure (current = some expected) "SSH configuration changed while reading it"
    return some (contents, expected)

/-- `entry_has_contents`: a file that cannot be read does not have the contents. -/
def entryHasContents {ε : Type} (name : String) (expected : FileIdentity) (contents : List UInt8) :
    Prog (DirCmd String) DirReply ε Bool :=
  (readFile directory name).attempt.bind fun observed =>
    return observed.toOption.join = some (contents, expected)

def entryIdentity (name : String) : ConfigIo (Option FileIdentity) :=
  .call (.stat name) fun
    | .ok stat => return some (.fromStat stat)
    | .error .noEntry => return none
    | .error error => .throw (.io "inspect SSH recovery source" error)

/-! ### Names beside the target -/

/-- The name of a staging file, from the twelve random bytes it is made of. -/
def stagingNameOf (random : List UInt8) : String :=
  ".gascan-" ++ hexLower (random.map UInt8.toNat)

def stagingName : ConfigIo String := do
  let random ← call (.io "create SSH configuration staging name") (.random 12)
  return stagingNameOf random

/-- A number as sixteen lower-case hexadecimal digits, or more when it needs more. -/
def hex16 (n : Nat) : String :=
  let digits := Nat.toDigits 16 n
  String.ofList (List.replicate (16 - digits.length) '0' ++ digits)

/-- The name a file is kept under when it cannot go back to the target. -/
def recoveryName (target : String) (expected : FileIdentity) : String :=
  ".gascan-recovery-" ++ target ++ "-" ++ hex16 expected.device ++ "-" ++ hex16 expected.inode

def preserveStagingForRecovery (target staging : String) (expected : FileIdentity) :
    ConfigIo Unit := do
  let source ← entryIdentity staging
  ensure (source = some expected) "SSH recovery source changed before preservation"
  let recovery := recoveryName target expected
  call (.io "preserve concurrent SSH configuration") (.renameNew staging recovery)
  let kept ← entryIdentity recovery
  ensure (kept = some expected) "preserved SSH recovery file changed unexpectedly"
  call (.io "sync SSH recovery file") .syncDirectory

/-! ### The replacement -/

/-- What the caller of `atomic_replace_with_hooks` passes beside the directory. -/
structure Replacement where
  target : String
  previous : Option PreviousFile
  contents : List UInt8
  beforePublish : Except SshConfigError Unit := .ok ()
  beforeRollback : Except SshConfigError Unit := .ok ()

variable (r : Replacement)

/-- The mode of the new file. -/
def Replacement.mode : Nat := (r.previous.map (·.identity.mode)).getD fileMode

/-- Everything before the new file takes the target's name. Its identity is the result. -/
def writeStaging (fd : Nat) : ConfigIo FileIdentity := do
  call (.io "secure SSH configuration staging file") (.chmod fd r.mode)
  let stat ← call (.io "inspect SSH configuration staging file") (.fstat fd)
  validateFileStat directory stat
  let staged := FileIdentity.fromStat stat
  ensure (staged.mode = r.mode) "SSH configuration staging permissions changed unexpectedly"
  call (.io "write SSH configuration") (.write fd r.contents)
  call (.io "flush SSH configuration") (.flush fd)
  call (.io "sync SSH configuration") (.sync fd)
  let current ← fileIdentity directory r.target
  ensure (current = r.previous.map (·.identity)) "SSH configuration changed before replacement"
  .ofExcept r.beforePublish
  return staged

/-- What is at the staging name after the exchange: whether it is the previous file, and its
identity, also when it could not be read. -/
def observeStaging (staging : String) (previous : PreviousFile) :
    ConfigIo (Bool × Option FileIdentity) := do
  let observed ← (readFile directory staging).attempt
  let entry ← entryIdentity staging
  let found := observed.toOption.join
  return (found = some (previous.contents, previous.identity), (found.map Prod.snd).or entry)

/-- Errors of the replacement with `cleanup_staging` as it is when the error arises. -/
abbrev Publishing (α : Type) : Type := Prog (DirCmd String) DirReply (SshConfigError × Bool) α

/-- The exchange has brought out another file than the previous one. The new file leaves the target
again if it is still there. The program always ends with an error. -/
def rollBack (staging : String) (staged : FileIdentity) (observed : Option FileIdentity) :
    Publishing Unit := do
  let keep (error : SshConfigError) := (error, false)
  (Prog.ofExcept r.beforeRollback : ConfigIo Unit).mapError keep
  let untouched ← entryHasContents directory r.target staged r.contents
  if untouched then
    (call (.io "restore concurrently changed SSH configuration")
      (.exchange staging r.target)).mapError keep
    (call (.io "sync restored SSH directory") .syncDirectory).mapError keep
    let back ← entryHasContents directory staging staged r.contents
    if back then
      .throw (.unsafePath "SSH configuration changed during replacement", true)
    else
      let restored ← (entryIdentity staging).mapError keep
      restored.elim (return ()) fun identity =>
        (preserveStagingForRecovery r.target staging identity).mapError keep
      .throw (.unsafePath "SSH configuration changed during concurrent-update recovery", false)
  else
    observed.elim (return ()) fun identity =>
      (preserveStagingForRecovery r.target staging identity).mapError keep
    .throw (.unsafePath "SSH configuration changed before concurrent-update recovery", false)

/-- The previous file has come out: it is removed if the new one is still at the target. -/
def removePrevious (staging : String) (staged : FileIdentity) : ConfigIo Unit := do
  let current ← fileIdentity directory r.target
  ensure (current = some staged) "SSH configuration changed after replacement"
  call (.io "remove previous SSH configuration") (.unlink staging)

/-- The end of a replacement. -/
def confirm : ConfigIo Unit := do
  call (.io "sync SSH directory") .syncDirectory
  let current ← fileIdentity directory r.target
  ensure current.isSome "SSH configuration disappeared after replacement"

/-- The closure of `atomic_replace_with_hooks`. -/
def publish (staging : String) (fd : Nat) : Publishing Unit := do
  let staged ← (writeStaging directory r fd).mapError (·, true)
  match r.previous with
  | some previous =>
    (call (.io "exchange SSH configuration") (.exchange staging r.target)).mapError (·, true)
    let (preserved, observed) ← (observeStaging directory staging previous).mapError (·, false)
    if preserved then
      (removePrevious directory r staging staged).mapError (·, false)
      (confirm directory r).mapError (·, false)
    else
      rollBack directory r staging staged observed
  | none =>
    (call (.io "install SSH configuration") (.renameNew staging r.target)).mapError (·, true)
    (confirm directory r).mapError (·, true)

def atomicReplaceWithHooks : ConfigIo Unit := do
  ensure (r.contents.length ≤ maxConfigBytes) "SSH configuration is too large"
  let staging ← stagingName
  let fd ← call (.io "create SSH configuration staging file") (.create staging r.mode)
  match ← (closing fd (publish directory r staging fd)).attempt with
  | .ok () => return ()
  | .error (error, cleanup) =>
    if cleanup then
      let _ ← Prog.perform (.unlink staging)
    .throw error

end Gascan.SshConfig
