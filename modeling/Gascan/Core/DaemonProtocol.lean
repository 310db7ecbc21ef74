import Gascan.Lib.Nodes

/-!
# `Gascan.Core.DaemonProtocol`: the runtime directory of the daemon

The names, modes and errors that the daemon and the command line share. The instance record has
three faces: absent, inert (mode `0200` and empty) and published (mode `0600` with a whole record).
-/

namespace Gascan.RuntimeDir

open Lib

/-- `PRIVATE_FILE_MODE` -/
def privateFileMode : Nat := 0o600

/-- `INSTANCE_TOMBSTONE_MODE` -/
def instanceTombstoneMode : Nat := 0o200

/-- What a node was moved aside for. -/
inductive Purpose where
  | rejectedBind
  | escapedBind
  | cleanup
  | stale
  | rejectedPublication
  | rejectedRetirement
  | retired
  | abandoned
  deriving DecidableEq, Repr

/-- The names of the runtime directory: `SOCKET_NAME`, `INSTANCE_NAME`, the staging names with their
random tokens (`.TOKEN`, `.instance-TOKEN` and `.reclaim-TOKEN`), the names
`.PURPOSE-PID-INODE-SEQUENCE` under which nodes are moved aside, and all others. -/
inductive RuntimeName where
  | socket
  | instanceRecord
  | bindStaging (token : Nat)
  | instanceStaging (token : Nat)
  | reclaimStaging (token : Nat)
  | quarantine (purpose : Purpose) (pid inode sequence : Nat)
  | other (text : String)
  deriving DecidableEq, Repr

/-- The kinds of `io::Error` that the code makes or tells apart. -/
inductive IoErrorKind where
  | notFound
  | permissionDenied
  | alreadyExists
  | addrInUse
  | invalidInput
  | invalidData
  | wouldBlock
  | unexpectedEof
  | timedOut
  | other
  deriving DecidableEq, Repr

/-- An `io::Error`: one of the system, one with a text, or a `RacedObservation`. -/
inductive IoError where
  | os (errno : Errno)
  | custom (kind : IoErrorKind) (detail : String)
  | raced (detail : String)
  deriving DecidableEq, Repr

/-- Programs on the runtime directory. -/
abbrev Sys (α : Type) : Type := Prog (NodeCmd RuntimeName) NodeReply IoError α

/-- A system call whose failure ends the program. -/
def sys (c : NodeCmd RuntimeName) : Sys (NodeResult c) :=
  .call c fun
    | .ok a => .pure a
    | .error e => .throw (.os e)

/-- `File::write_all`: a `write` may take only a part of the data. -/
def writeAll (fd : Nat) : Nat → List UInt8 → Sys Unit
  | _, [] => .pure ()
  | 0, _ :: _ => .throw (.custom .other "failed to write whole buffer")
  | tries + 1, bytes =>
    (sys (.write fd bytes)).bind fun count => writeAll fd tries (bytes.drop count)

end Gascan.RuntimeDir
