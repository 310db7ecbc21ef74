import Gascan.Core.DaemonProtocol

/-!
# `Gascan.Cli.Supervisor`: what the command line knows about the daemon

The types of `gascan/src/daemon.rs` that the reading of the instance record uses.
-/

namespace Gascan.RuntimeDir

open Lib

structure FileIdentity where
  device : Nat
  inode : Nat
  deriving DecidableEq, Repr

def FileIdentity.ofStat (stat : NodeStat) : FileIdentity where
  device := stat.device
  inode := stat.inode

structure InstanceTimestamp where
  seconds : Int
  nanos : Int
  deriving DecidableEq, Repr

structure DaemonInstanceRecord where
  pid : Nat
  ownerToken : String
  executable : String
  startIdentity : String
  instanceToken : String
  releaseVersion : String
  backend : String
  startedAt : InstanceTimestamp
  deriving DecidableEq, Repr

end Gascan.RuntimeDir
