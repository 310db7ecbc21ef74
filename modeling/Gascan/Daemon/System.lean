import Gascan.Daemon.Apply
import Gascan.Daemon.Recover
import Mathlib.Logic.Relation

/-!
# `Gascan.Daemon.System`: the daemon over its whole life

A daemon is down, recovers the operations of its predecessor, or serves requests. It serves any
number of requests at once, but only one for each sandbox: that is the lock a request holds. A step
lets one program issue its next command, accepts or ends a request, boots the daemon, or kills it
at any point. Everything but the store may change from outside at any time, also by what `reconcile`
does after `recover_pending`: it writes nothing to the store.
-/

namespace Gascan

open Lib Service

/-- A request that changes a sandbox. -/
inductive Request where
  | up (spec : SandboxSpec)
  | start (id : SandboxId)
  | stop (id : SandboxId)
  | apply (spec : SandboxSpec)
  | destroy (id : SandboxId)

namespace Request

/-- The sandbox a request is about. -/
def id : Request → SandboxId
  | .up spec => spec.id
  | .start id => id
  | .stop id => id
  | .apply spec => spec.id
  | .destroy id => id

/-- What the service runs for a request. -/
def program (image : String) : Request → Svc OperationId
  | .up spec => upInner image spec
  | .start id => startSandbox id
  | .stop id => stopSandbox id
  | .apply spec => applyInner image spec
  | .destroy id => destroyInner id

end Request

/-- A request that is served, and what is left to run of it. -/
structure Task where
  request : Request
  program : Svc OperationId

/-- The sandbox a task holds the lock of. -/
abbrev Task.id (task : Task) : SandboxId := task.request.id

/-- The daemon. `image` is the workspace image it approves. -/
inductive Daemon where
  | down
  | recovering (image : String) (program : Svc (List ReconcileFinding))
  | serving (image : String) (tasks : List Task)

structure System where
  world : World
  daemon : Daemon

/-- What happens in a step of the system. -/
inductive Event where
  | boot (image : String)
  | recover (c : Cmd) (x : Choice)
  | recovered
  | refused
  | request (request : Request)
  | advance (request : Request) (c : Cmd) (x : Choice)
  | returned (request : Request) (operationId : OperationId)
  | threw (request : Request) (error : ServiceError)
  | crash
  | outside

namespace System

/-- One step of the system. -/
inductive Step : System → Event → System → Prop where
  | boot (w : World) (image : String) :
      Step ⟨w, .down⟩ (.boot image) ⟨w, .recovering image recoverPending⟩
  | recover (w : World) (image : String) (c : Cmd) (k : Reply c → Svc (List ReconcileFinding))
      (x : Choice) :
      Step ⟨w, .recovering image (.call c k)⟩ (.recover c x)
        ⟨(perform c x w).2, .recovering image (k (perform c x w).1)⟩
  | recovered (w : World) (image : String) (findings : List ReconcileFinding) :
      Step ⟨w, .recovering image (.pure findings)⟩ .recovered ⟨w, .serving image []⟩
  | refused (w : World) (image : String) (error : ServiceError) :
      Step ⟨w, .recovering image (.throw error)⟩ .refused ⟨w, .down⟩
  | request (w : World) (image : String) (tasks : List Task) (request : Request)
      (hfree : ∀ task ∈ tasks, task.id ≠ request.id) :
      Step ⟨w, .serving image tasks⟩ (.request request)
        ⟨w, .serving image (tasks ++ [⟨request, request.program image⟩])⟩
  | advance (w : World) (image : String) (before after : List Task) (request : Request) (c : Cmd)
      (k : Reply c → Svc OperationId) (x : Choice) :
      Step ⟨w, .serving image (before ++ ⟨request, .call c k⟩ :: after)⟩ (.advance request c x)
        ⟨(perform c x w).2, .serving image (before ++ ⟨request, k (perform c x w).1⟩ :: after)⟩
  | returned (w : World) (image : String) (before after : List Task) (request : Request)
      (operationId : OperationId) :
      Step ⟨w, .serving image (before ++ ⟨request, .pure operationId⟩ :: after)⟩
        (.returned request operationId) ⟨w, .serving image (before ++ after)⟩
  | threw (w : World) (image : String) (before after : List Task) (request : Request)
      (error : ServiceError) :
      Step ⟨w, .serving image (before ++ ⟨request, .throw error⟩ :: after)⟩ (.threw request error)
        ⟨w, .serving image (before ++ after)⟩
  | crash (s : System) : Step s .crash ⟨s.world, .down⟩
  | outside (w w' : World) (daemon : Daemon) (hstore : w'.store = w.store) :
      Step ⟨w, daemon⟩ .outside ⟨w', daemon⟩

/-- Runs of the system whose steps all satisfy `allowed`. -/
def RunsWithin (allowed : System → Event → Prop) : System → System → Prop :=
  Relation.ReflTransGen fun s s' => ∃ event, allowed s event ∧ Step s event s'

/-- Runs of the system. -/
abbrev Steps : System → System → Prop :=
  Relation.ReflTransGen fun s s' => ∃ event, Step s event s'

/-- A system can be reached when some run leads to it from an empty store. -/
def Reachable (s : System) : Prop := ∃ w, w.store = {} ∧ Steps ⟨w, .down⟩ s

end System

end Gascan
