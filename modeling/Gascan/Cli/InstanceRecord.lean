import Gascan.Cli.Supervisor
import Gascan.Daemon.Socket

/-!
# `Gascan.Cli.InstanceRecord`: the command line reads the record of the daemon

`read_instance_record_with_hook_and_directory_mode` of `gascan/src/daemon.rs` on an open runtime
directory, without its test hooks. The file at the instance name is looked at, opened, looked at
again, read and closed, and the name is looked at once more before the bytes are parsed.
-/

namespace Gascan.RuntimeDir

open Lib

/-- `MAX_INSTANCE_BYTES` -/
def maxInstanceBytes : Nat := 64 * 1024

inductive GuardedFile where
  | lifecycleLock
  | instanceRecord
  deriving DecidableEq, Repr

inductive StatFault where
  | notRegularFile
  | foreignOwner
  | unlinked
  | extraLinks
  | inertTombstone
  | unpublishedRecord
  | wrongMode
  deriving DecidableEq, Repr

def StatFault.detail : StatFault → String
  | .notRegularFile => "not a regular file"
  | .foreignOwner => "owned by another user"
  | .unlinked => "link count is zero: unlinked while it was held"
  | .extraLinks => "link count is not one"
  | .inertTombstone => "mode is 0200 and the file is empty: not yet published"
  | .unpublishedRecord => "mode is 0200 and the file has content: written but never published"
  | .wrongMode => "mode is not 0600"

def StatFault.isTransitionalFor (fault : StatFault) (guarded : GuardedFile) : Bool :=
  guarded = .instanceRecord ∧ (fault = .unlinked ∨ fault = .inertTombstone)

/-- What an error is displayed as. The texts of the system are left out. -/
def IoError.text : IoError → String
  | .os errno => reprStr errno
  | .custom _ detail | .raced detail => detail

/-- A mode as `format!("{mode:04o}")` writes it. -/
def octal (mode : Nat) : String := String.ofList ((Nat.toDigits 8 mode).leftpad 4 '0')

/-- The fault that `validate_file_stat` finds first. -/
def statFault (stat : NodeStat) (expectedUid : Nat) : Option StatFault :=
  let mode := stat.mode &&& 0o777
  if stat.kind ≠ .regular then some .notRegularFile
  else if stat.uid ≠ expectedUid then some .foreignOwner
  else if stat.nlink = 0 then some .unlinked
  else if stat.nlink ≠ 1 then some .extraLinks
  else if mode = instanceTombstoneMode ∧ stat.size = 0 then some .inertTombstone
  else if mode = instanceTombstoneMode then some .unpublishedRecord
  else if mode ≠ privateFileMode then some .wrongMode
  else none

def validateFileStat (stat : NodeStat) (expectedUid : Nat) (guarded : GuardedFile) :
    Except IoError Unit :=
  match statFault stat expectedUid with
  | none => .ok ()
  | some fault =>
    let detail := "protected runtime file is unsafe: " ++ fault.detail ++ " (mode " ++
      octal (stat.mode &&& 0o777) ++ ", size " ++ toString stat.size ++ ", links " ++
      toString stat.nlink ++ ", uid " ++ toString stat.uid ++ ", expected uid " ++
      toString expectedUid ++ ")"
    .error (if fault.isTransitionalFor guarded then .raced detail
      else .custom .permissionDenied detail)

def fileIdentityAt (name : RuntimeName) (expectedUid : Nat) (guarded : GuardedFile) :
    Sys FileIdentity :=
  .call (.stat name) fun
    | .error e =>
      .throw (if e = .noEntry ∧ guarded = .instanceRecord then
          .raced "the daemon instance record's name stopped resolving while validating it"
        else .os e)
    | .ok stat => (Prog.ofExcept (validateFileStat stat expectedUid guarded)).bind fun _ =>
      .pure (.ofStat stat)

def validateOpenFile (name : RuntimeName) (fd expectedUid : Nat) (guarded : GuardedFile) :
    Sys FileIdentity :=
  (sys (.fstat fd)).bind fun stat =>
    (Prog.ofExcept (validateFileStat stat expectedUid guarded)).bind fun _ =>
      (fileIdentityAt name expectedUid guarded).bind fun named =>
        if named ≠ .ofStat stat then
          let detail := "protected runtime file changed while opening it"
          .throw (match guarded with
            | .instanceRecord => .raced detail
            | .lifecycleLock => .custom .permissionDenied detail)
        else .pure (.ofStat stat)

/-- Why the record could not be opened, after another look at its name. -/
def classifyUnreadableInstanceRecord (e : Errno) (name : RuntimeName) (expectedUid : Nat)
    (guarded : GuardedFile) : Sys IoError :=
  if e = .noEntry ∧ guarded = .instanceRecord then
    .pure (.raced "the daemon instance record was unlinked before it could be opened")
  else if e ≠ .access then .pure (.os e)
  else
    .call (.stat name) fun
      | .ok stat =>
        .pure (match validateFileStat stat expectedUid guarded with
          | .ok () => .raced
            ("a publication committed over the daemon instance record between resolving it and "
              ++ "opening it, or the open was refused for another reason: "
              ++ (IoError.os e).text ++ " (it wears mode " ++ octal (stat.mode &&& 0o777)
              ++ ", size " ++ toString stat.size ++ ", links " ++ toString stat.nlink
              ++ ", uid " ++ toString stat.uid ++ ")")
          | .error (.raced moving) => .raced
            ("the daemon instance record was retired between resolving it and opening it: "
              ++ (IoError.os e).text ++ ": " ++ moving)
          | .error fault => .custom .permissionDenied
            ("daemon instance record could not be opened: " ++ (IoError.os e).text ++ ": "
              ++ fault.text))
      | .error .noEntry =>
        .pure (.raced ("the daemon instance record was unlinked between resolving its identity "
          ++ "and opening it"))
      | .error other =>
        .pure (.custom .permissionDenied ("daemon instance record could not be opened: "
          ++ (IoError.os e).text ++ ", and rechecking the name failed too: "
          ++ (IoError.os other).text))

def isInstanceTombstone (expectedUid : Nat) (stat : NodeStat) : Bool :=
  stat.kind = .regular ∧ stat.uid = expectedUid ∧ stat.nlink = 1 ∧
    stat.mode &&& 0o777 = instanceTombstoneMode ∧ stat.size = 0

/-- A system call on a name that was there before: if it is gone now, the look was torn. -/
def settled (c : NodeCmd RuntimeName) (detail : String) : Sys (NodeResult c) :=
  .call c fun
    | .ok a => .pure a
    | .error e => .throw (if e = .noEntry then .raced detail else .os e)

def validateInstanceTombstone (name : RuntimeName) (initial : NodeStat) (expectedUid : Nat) :
    Sys Unit :=
  let unchanged (stat : NodeStat) : Bool :=
    isInstanceTombstone expectedUid stat ∧ FileIdentity.ofStat stat = .ofStat initial
  (settled (.openFile name .write)
      "the daemon instance tombstone was unlinked while validating it").bind fun fd =>
    closing fd
      ((sys (.fstat fd)).bind fun stat =>
        if unchanged stat then
          (settled (.stat name) ("the daemon instance tombstone was unlinked between validating " ++
              "its descriptor and rechecking its name")).bind fun rechecked =>
            if unchanged rechecked then .pure ()
            else .throw (.raced "daemon instance tombstone changed while validating it")
        else .throw (.raced "daemon instance tombstone changed while opening it"))

/-- `Read::read_to_end` on `take(limit)`, with the bytes that were read so far. Every round reads at
least one byte, so that `limit` rounds are enough. -/
def readToEnd (fd limit : Nat) : Nat → List UInt8 → Sys (List UInt8)
  | 0, bytes => .pure bytes
  | rounds + 1, bytes =>
    if limit ≤ bytes.length then .pure bytes
    else
      (sys (.readAt fd bytes.length (limit - bytes.length))).bind fun (chunk : List UInt8) =>
        if chunk = [] then .pure bytes else readToEnd fd limit rounds (bytes ++ chunk)

/-- What the reader takes from other crates: `serde_json::from_slice` and `Version::parse`, with the
texts of their errors. -/
structure RecordCodec where
  decode : List UInt8 → Except String DaemonInstanceRecord
  version : String → Except String Unit

def validateRecord (codec : RecordCodec) (record : DaemonInstanceRecord) : Except IoError Unit :=
  match codec.version record.releaseVersion with
  | .error error => .error (.custom .invalidData
    ("daemon record release version is not valid SemVer: " ++ error))
  | .ok () =>
    if record.pid = 0 ∨ record.ownerToken = "" ∨ record.executable.toList.head? ≠ some '/' ∨
        record.startIdentity = "" ∨ record.instanceToken.utf8ByteSize ≠ 64 ∨
        record.instanceToken.toList.all (fun c => c.isDigit || 'a' ≤ c && c ≤ 'f') = false ∨
        record.startedAt.seconds ≤ 0 ∨
        ¬ (0 ≤ record.startedAt.nanos ∧ record.startedAt.nanos < 1000000000) then
      .error (.custom .invalidData "daemon instance record fields are invalid")
    else .ok ()

/-- Opens the record that was looked at, and reads it. The descriptor is closed at the end. -/
def openAndRead (expectedUid : Nat) (expected : FileIdentity) : Sys (List UInt8) :=
  .call (.openFile .instanceRecord .read) fun
    | .error e =>
      (classifyUnreadableInstanceRecord e .instanceRecord expectedUid .instanceRecord).bind
        fun error => .throw error
    | .ok fd =>
      closing fd
        ((validateOpenFile .instanceRecord fd expectedUid .instanceRecord).bind fun actual =>
          if actual ≠ expected then
            .throw (.raced "daemon instance record changed while opening it")
          else readToEnd fd (maxInstanceBytes + 1) (maxInstanceBytes + 1) [])

/-- The record that a reader takes from bytes. -/
def parseRecord (codec : RecordCodec) (bytes : List UInt8) :
    Except IoError DaemonInstanceRecord :=
  match codec.decode bytes with
  | .error error => .error (.custom .invalidData error)
  | .ok record => (validateRecord codec record).map fun _ => record

def readInstanceRecord (codec : RecordCodec) (expectedUid : Nat) :
    Sys (Option DaemonInstanceRecord) :=
  .call (.stat .instanceRecord) fun
    | .error .noEntry => .pure none
    | .error e => .throw (.os e)
    | .ok initial =>
      if isInstanceTombstone expectedUid initial then
        (validateInstanceTombstone .instanceRecord initial expectedUid).bind fun _ => .pure none
      else
        (fileIdentityAt .instanceRecord expectedUid .instanceRecord).bind fun expected =>
          (openAndRead expectedUid expected).bind fun bytes =>
            if maxInstanceBytes < bytes.length then
              .throw (.custom .invalidData "daemon instance record is too large")
            else
              (fileIdentityAt .instanceRecord expectedUid .instanceRecord).bind fun current =>
                if current ≠ expected then
                  .throw (.raced "daemon instance record changed while reading it")
                else (Prog.ofExcept (parseRecord codec bytes)).bind fun record =>
                  .pure (some record)

end Gascan.RuntimeDir
