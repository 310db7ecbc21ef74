import Gascan.Core.DaemonProtocol

/-!
# `Gascan.Daemon.Socket`: the socket and the instance record of the daemon

The functions of `gascand/src/socket.rs` on the runtime directory. Nodes are removed by identity:
`removeNamedIdentity` moves whatever is at a name aside, looks at it, and unlinks it or puts it
back. The instance record is published and retired by renames of staged files.

A `Process` is what a running daemon knows about itself. The search for a free name to move a node
to has no bound in the source; `tries` bounds it here, and results hold for every bound.
-/

namespace Gascan.RuntimeDir

open Lib

/-- The process id, the effective user id, and the bound of the loop over quarantine names. -/
structure Process where
  pid : Nat
  user : Nat
  tries : Nat
  deriving DecidableEq, Repr

structure Identity where
  device : Nat
  inode : Nat
  uid : Nat
  deriving DecidableEq, Repr

def Identity.ofStat (stat : NodeStat) : Identity where
  device := stat.device
  inode := stat.inode
  uid := stat.uid

def identityAt (name : RuntimeName) : Sys Identity :=
  (sys (.stat name)).bind fun stat => .pure (.ofStat stat)

/-! ### Removal by identity -/

/-- The loop of `remove_named_identity` that moves a node to a name nobody has. -/
def quarantineNode (pid : Nat) (source : RuntimeName) (expected : Identity) (purpose : Purpose) :
    Nat → Sys RuntimeName
  | 0 => .throw (.custom .other "no quarantine name is free")
  | tries + 1 =>
    (sys .count).bind fun sequence =>
      let candidate := RuntimeName.quarantine purpose pid expected.inode sequence
      .call (.renameNew source candidate) fun
        | .ok () => .pure candidate
        | .error .exists => quarantineNode pid source expected purpose tries
        | .error e => .throw (.os e)

def changedDuringCleanup : IoError :=
  .custom .alreadyExists "runtime node changed during cleanup"

/-- The rest of `remove_named_identity`: the node that was moved aside is unlinked if it is the
expected one, and otherwise put back if nothing is at the name. -/
def settleQuarantine (source : RuntimeName) (expected : Identity) (kind : NodeKind)
    (quarantine : RuntimeName) : Sys Unit :=
  (identityAt quarantine).bind fun moved =>
    (sys (.stat quarantine)).bind fun stat =>
      if moved = expected ∧ stat.kind = kind then sys (.unlink quarantine)
      else
        .call (.stat source) fun
          | .ok _ => .throw changedDuringCleanup
          | .error _ => .call (.rename quarantine source) fun _ => .throw changedDuringCleanup

def removeNamedIdentity (p : Process) (source : RuntimeName) (expected : Identity)
    (kind : NodeKind) (purpose : Purpose) : Sys Unit :=
  (quarantineNode p.pid source expected purpose p.tries).bind
    (settleQuarantine source expected kind)

/-- `StagingGuard`: what a program staged is removed again if the program fails. -/
def guarded {α : Type} (p : Process) (name : RuntimeName) (identity : Identity) (kind : NodeKind)
    (purpose : Purpose) (program : Sys α) : Sys α :=
  program.attempt.bind fun
    | .ok a => .pure a
    | .error e =>
      (removeNamedIdentity p name identity kind purpose).attempt.bind
        fun (_ : Except IoError Unit) => .throw e

/-- A program that owns a descriptor, which is closed when the program ends. -/
def closing {α : Type} (fd : Nat) (program : Sys α) : Sys α :=
  program.attempt.bind fun result => .call (.close fd) fun _ => .ofExcept result

/-! ### The instance record -/

/-- The checks of an inert private file: a regular file of the user with one link, mode `0200` and
no contents. -/
def isInertFile (user : Nat) (stat : NodeStat) : Bool :=
  stat.kind = .regular ∧ stat.uid = user ∧ stat.nlink = 1 ∧
    stat.mode &&& 0o777 = instanceTombstoneMode ∧ stat.size = 0

def validateRegularFile (user : Nat) (stat : NodeStat) : Except IoError Unit :=
  if stat.kind ≠ .regular ∨ stat.uid ≠ user ∨ stat.nlink ≠ 1 ∨
      stat.mode &&& 0o777 ≠ privateFileMode then
    .error (.custom .permissionDenied
      "daemon instance record ownership, type, links, or mode is unsafe")
  else .ok ()

/-- A staged file: its descriptor, its name and its identity. -/
structure Staged where
  file : Nat
  name : RuntimeName
  identity : Identity
  deriving DecidableEq, Repr

/-- The checks of `stage_inert_instance_file` on the file it created. -/
def inspectStaged (p : Process) (file : Nat) (name : RuntimeName) : Sys Identity :=
  (sys (.chmod file instanceTombstoneMode)).bind fun _ =>
    (sys (.fstat file)).bind fun stat =>
      if isInertFile p.user stat then
        (identityAt name).bind fun named =>
          if named = .ofStat stat then .pure (.ofStat stat)
          else .throw (.custom .permissionDenied
            "daemon instance staging file changed while opening it")
      else .throw (.custom .permissionDenied
        "daemon instance staging file is not an inert private file")

def stageInertInstanceFile (p : Process) : Sys Staged :=
  (sys .token).bind fun token =>
    let name := RuntimeName.instanceStaging token
    (sys (.create name instanceTombstoneMode)).bind fun file =>
      (inspectStaged p file name).attempt.bind fun
        | .ok identity => .pure { file, name, identity }
        | .error e => .call (.unlink name) fun _ => .call (.close file) fun _ => .throw e

/-- The names that `sweep_abandoned_staging` looks at, by their prefixes. -/
def RuntimeName.isStaging : RuntimeName → Bool
  | .instanceStaging _ | .reclaimStaging _ => true
  | _ => false

/-- One round of the sweep. Whatever fails is passed over. -/
def sweepEntry (p : Process) (name : RuntimeName) : Sys Unit :=
  if name.isStaging then
    .call (.stat name) fun
      | .error _ => .pure ()
      | .ok stat =>
        if stat.kind = .regular ∧ stat.uid = p.user then
          (removeNamedIdentity p name (.ofStat stat) .regular .abandoned).attempt.bind
            fun (_ : Except IoError Unit) => .pure ()
        else .pure ()
  else .pure ()

def sweepEntries (p : Process) : List RuntimeName → Sys Unit
  | [] => .pure ()
  | name :: names => (sweepEntry p name).bind fun _ => sweepEntries p names

def sweepAbandonedStaging (p : Process) : Sys Unit :=
  .call .list fun
    | .error _ => .pure ()
    | .ok names => sweepEntries p names

def clearInertDestination (p : Process) (name : RuntimeName) : Sys Unit :=
  .call (.stat name) fun
    | .error .noEntry => .pure ()
    | .error e => .throw (.os e)
    | .ok stat =>
      if isInertFile p.user stat then
        removeNamedIdentity p name (.ofStat stat) .regular .retired
      else .throw (.custom .permissionDenied
        "daemon instance destination is not an inert private file")

/-- The commit of a publication: the staged record is renamed to a name that has to be free. An
inert tombstone at the name is cleared away once. -/
def commitRecord (p : Process) (staged : RuntimeName) : Sys Unit :=
  .call (.renameNew staged .instanceRecord) fun
    | .ok () => .pure ()
    | .error .exists =>
      (clearInertDestination p .instanceRecord).bind fun _ =>
        sys (.renameNew staged .instanceRecord)
    | .error e => .throw (.os e)

def publishStaged (p : Process) (staged : Staged) (contents : List UInt8) : Sys Unit :=
  (writeAll staged.file contents.length contents).bind fun _ =>
    (sys (.sync staged.file)).bind fun _ =>
      (sys (.chmod staged.file privateFileMode)).bind fun _ =>
        (sys (.fstat staged.file)).bind fun published =>
          (Prog.ofExcept (validateRegularFile p.user published)).bind fun _ =>
            (identityAt staged.name).bind fun named =>
              if named = staged.identity then commitRecord p staged.name
              else .throw (.custom .permissionDenied
                "daemon instance staging file changed while publishing it")

structure OwnedInstanceRecord where
  identity : Identity
  file : Nat
  deriving DecidableEq, Repr

/-- `write_instance_record` on an open runtime directory. -/
def writeInstanceRecord (p : Process) (contents : List UInt8) : Sys OwnedInstanceRecord :=
  (sweepAbandonedStaging p).bind fun _ =>
    (stageInertInstanceFile p).bind fun staged =>
      (guarded p staged.name staged.identity .regular .rejectedPublication
          (publishStaged p staged contents)).attempt.bind fun
        | .ok () => .pure { identity := staged.identity, file := staged.file }
        | .error e => .call (.close staged.file) fun _ => .throw e

/-- The replacement of a published record by a tombstone. The rename takes the record out of the
directory before it is emptied. -/
def replaceByTombstone (p : Process) (name : RuntimeName) (file : Nat) : Sys Unit :=
  (stageInertInstanceFile p).bind fun staged =>
    closing staged.file
      ((guarded p staged.name staged.identity .regular .rejectedRetirement
          ((sys (.sync staged.file)).bind fun _ => sys (.rename staged.name name))).bind fun _ =>
        (sys (.truncate file)).bind fun _ =>
          (sys (.chmod file instanceTombstoneMode)).bind fun _ => sys (.sync file))

/-- The record is not at its name, so only the file itself is made inert. -/
def retireInPlace (file : Nat) : Sys Unit :=
  (sys (.chmod file instanceTombstoneMode)).bind fun _ =>
    (sys (.truncate file)).bind fun _ => sys (.sync file)

/-- `retire_instance_record_with_hook` without its test hook. -/
def retireInstanceRecord (p : Process) (name : RuntimeName) (record : OwnedInstanceRecord) :
    Sys Unit :=
  (sys (.fstat record.file)).bind fun stat =>
    (Prog.ofExcept (validateRegularFile p.user stat)).bind fun _ =>
      if Identity.ofStat stat = record.identity then
        (identityAt name).attempt.bind fun current =>
          -- Any failure to look the name up counts as a name that leads elsewhere.
          match current with
          | .ok current =>
            if current = record.identity then replaceByTombstone p name record.file
            else retireInPlace record.file
          | .error _ => retireInPlace record.file
      else .throw (.custom .permissionDenied
        "daemon instance descriptor identity changed before retirement")

end Gascan.RuntimeDir
