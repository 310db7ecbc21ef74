import Gascan.Core.Identity
import Gascan.Lib.WeakMap

/-!
# `Gascan.Daemon.Locks`: locks by key

The service has a lock for each sandbox, and the SSH manager one for each directory that it
publishes to. Both keep a map of weak references to their locks, which `lockFor` cleans up and looks
the key up in. A poisoned mutex is left out: nothing panics while it is held.

`keyedTask` and `publicationTask` are what a task does with such a lock: it waits for the lock,
works while it has it, and drops it. A task that is cancelled earlier is a process that stops.
-/

namespace Gascan.Locks

open Lib Lib.WeakMap

variable {κ : Type}

/-- A program of a task that uses a map of locks. -/
abbrev Task (κ α : Type) : Type := Prog (Command κ) Command.Reply Empty α

def command (c : Command κ) : Task κ c.Reply := Prog.perform c

/-- `retain(|_, lock| lock.strong_count() > 0)`, one entry after the other. -/
def retainAll : List κ → Task κ Unit
  | [] => Pure.pure ()
  | key :: keys => do
    command (.retain key)
    retainAll keys

/-- The end of a call: the lock that was found, or a new one. -/
def lockFound (key : κ) : Option Nat → Task κ Nat
  | some lock => do
    command .unlockMap
    Pure.pure lock
  | none => do
    let lock : Nat ← command (.newLock key)
    command (.insert key lock)
    command .unlockMap
    Pure.pure lock

/-- The lock of a key: the one of the map if it is still alive, and a new one if not. -/
def lockFor (key : κ) : Task κ Nat := do
  command .lockMap
  let keys : List κ ← command .keys
  retainAll keys
  let found : Option Nat ← command (.upgrade key)
  lockFound key found

/-- `SandboxService::keyed_lock`. -/
def keyedLock (id : SandboxId) : Task SandboxId Nat := lockFor id

/-- `publication_guard`, for a directory. -/
def publicationGuard {Directory : Type} (directory : Directory) : Task Directory Nat := do
  let publication ← lockFor directory
  command (.acquire directory publication)
  Pure.pure publication

/-- A task that works on a sandbox. -/
def keyedTask (id : SandboxId) : Task SandboxId Unit := do
  let lock ← keyedLock id
  command (.acquire id lock)
  command (.release id lock)
  command (.drop id lock)

/-- A task that publishes to a directory. -/
def publicationTask {Directory : Type} (directory : Directory) : Task Directory Unit := do
  let publication ← publicationGuard directory
  command (.release directory publication)
  command (.drop directory publication)

/-- A map of locks and the tasks that use it. -/
abbrev Tasks (κ : Type) : Type := Pool (Command κ) Command.Reply Empty Unit (WeakMap κ)

/-- No tasks, and an empty map. -/
def start (κ : Type) : Tasks κ where
  world := .empty
  running _ := none

/-- What can happen: a task is started for some key, a command that does not have to wait is done,
and a task ends or is cancelled. -/
def Possible (task : κ → Task κ Unit) (s : Tasks κ) :
    Pool.Event (Command κ) Command.Reply Empty Unit (List κ) → Prop
  | .start _ program => ∃ key, program = task key
  | .act pid _ => ∀ c k, s.running pid = some (.call c k) → s.world.Enabled c
  | .stop _ => True

end Gascan.Locks
