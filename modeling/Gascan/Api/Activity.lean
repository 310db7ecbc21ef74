import Mathlib.Data.List.Basic

/-!
# `Gascan.Api.Activity`: admission of operations and shutdown

`ActivityTracker` counts the operations of the daemon. `admit_operation` checks that the daemon
accepts operations, counts itself, and checks again; when the second check fails it takes its count
back. `begin_shutdown` closes the admission, and `wait_for_operations` returns when the count is
zero. Every access to shared memory is one move, so that any number of calls can interleave
(`Tracker.run`).
-/

namespace Gascan.Activity

/-! ### Calls -/

/-- What a call of `admit_operation` or `operation` does next. -/
inductive Phase where
  /-- The first check of `accepting`. -/
  | check
  /-- `fetch_add` on the counter. -/
  | start
  /-- The two steps of `touch` after the count went up. -/
  | startBump
  | startNotify
  /-- The second check of `accepting`. -/
  | recheck
  /-- The call returned an `OperationLease`, which is alive. -/
  | lease
  /-- `decrement`, of a refused call or of a lease that is dropped. -/
  | finish
  /-- The two steps of `touch` after the count went down. -/
  | finishBump
  | finishNotify
  | ended
  deriving DecidableEq, Repr

/-- Whether the counter includes a call in this phase. -/
def Phase.counted : Phase → Bool
  | .startBump | .startNotify | .recheck | .lease | .finish => true
  | _ => false

/-- A call of `admit_operation`, or of `operation`, which checks nothing. -/
structure Call where
  admitting : Bool
  phase : Phase
  deriving DecidableEq, Repr

/-- What a call of `wait_for_operations` does next. -/
inductive WaitPhase where
  /-- Creates the future of the next notification. -/
  | subscribe
  /-- Reads the counter. -/
  | load
  /-- Waits for the notification. -/
  | await
  | returned
  deriving DecidableEq, Repr

/-- A call of `wait_for_operations`. `late` records that it began after `begin_shutdown`, and
`notified` that `notify_waiters` was called since its future was created. -/
structure Waiter where
  late : Bool
  phase : WaitPhase := .subscribe
  notified : Bool := false
  deriving DecidableEq, Repr

/-- The shared memory of the tracker with the calls in progress. The counter is a `usize`; that
many calls at once do not fit into memory, so it never wraps around. -/
structure Tracker where
  accepting : Bool := true
  operations : Nat := 0
  generation : Nat := 0
  calls : List Call := []
  waiters : List Waiter := []
  deriving DecidableEq, Repr

namespace Tracker

/-! ### Moves -/

/-- Lets call `i` go on in another phase. -/
def enter (t : Tracker) (i : Nat) (call : Call) (phase : Phase) : Tracker :=
  { t with calls := t.calls.set i { call with phase } }

/-- The first step of `touch`. -/
def bump (t : Tracker) : Tracker := { t with generation := t.generation + 1 }

/-- `notify_waiters`: reaches every future that exists. -/
def notifyWaiters (t : Tracker) : Tracker :=
  { t with waiters := t.waiters.map fun w => { w with notified := true } }

/-- `decrement`, which leaves zero as it is. -/
def decrement (t : Tracker) : Tracker := { t with operations := t.operations - 1 }

/-- The next step of call `i`. -/
def moveCall (t : Tracker) (i : Nat) (call : Call) : Tracker :=
  match call.phase with
  | .check => t.enter i call (if t.accepting then .start else .ended)
  | .start => { t with operations := t.operations + 1 }.enter i call .startBump
  | .startBump => t.bump.enter i call .startNotify
  | .startNotify => t.notifyWaiters.enter i call (if call.admitting then .recheck else .lease)
  | .recheck => t.enter i call (if t.accepting then .lease else .finish)
  -- The holder of the lease drops it.
  | .lease => t.enter i call .finish
  | .finish => t.decrement.enter i call .finishBump
  | .finishBump => t.bump.enter i call .finishNotify
  | .finishNotify => t.notifyWaiters.enter i call .ended
  | .ended => t

/-- The next step of a waiter, which stays where it is while it waits. -/
def moveWaiter (t : Tracker) (waiter : Waiter) : Waiter :=
  match waiter.phase with
  | .subscribe => { waiter with phase := .load, notified := false }
  | .load => { waiter with phase := if t.operations = 0 then .returned else .await }
  | .await => if waiter.notified then { waiter with phase := .subscribe } else waiter
  | .returned => waiter

/-- What can happen next: a new call, `begin_shutdown`, a `touch` of an `ActivityLease`, or the
next step of a call or a waiter. -/
inductive Event where
  | admitOperation
  | operation
  | beginShutdown
  | waitForOperations
  | bump
  | notify
  | call (i : Nat)
  | waiter (i : Nat)
  deriving DecidableEq, Repr

/-- One event. -/
def step (t : Tracker) : Event → Tracker
  | .admitOperation => { t with calls := t.calls ++ [⟨true, .check⟩] }
  | .operation => { t with calls := t.calls ++ [⟨false, .start⟩] }
  | .beginShutdown => { t with accepting := false }
  | .waitForOperations => { t with waiters := t.waiters ++ [{ late := !t.accepting }] }
  | .bump => t.bump
  | .notify => t.notifyWaiters
  | .call i =>
    match t.calls[i]? with
    | none => t
    | some call => t.moveCall i call
  | .waiter i =>
    match t.waiters[i]? with
    | none => t
    | some waiter => { t with waiters := t.waiters.set i (t.moveWaiter waiter) }

/-- A run: any events in any order. -/
def run (t : Tracker) (events : List Event) : Tracker := events.foldl step t

/-! ### Observations -/

/-- The leases of `admit_operation` that are alive. -/
def admittedLeases (t : Tracker) : List Call :=
  t.calls.filter fun call => call.admitting && call.phase = .lease

/-- Whether a `wait_for_operations` that began after `begin_shutdown` has returned. -/
def drained (t : Tracker) : Bool :=
  t.waiters.any fun waiter => waiter.late && waiter.phase = .returned

end Tracker

end Gascan.Activity
