import Mathlib.Data.List.Basic

/-!
# `Gascan.Lib.Channel`: bounded channels

A bounded queue with one receiver, and a channel for a single value. A sender of the queue waits
for room or gives up, the receiver polls. A channel whose senders were dropped still delivers what
was sent before.
-/

namespace Gascan.Lib

/-- The result of polling a future. -/
inductive Poll (α : Type) where
  | ready (a : α)
  | pending
  deriving DecidableEq, Repr

/-- A bounded queue. `closed` says that all its senders were dropped. -/
structure Mpsc (α : Type) where
  capacity : Nat
  queue : List α := []
  closed : Bool := false
  deriving DecidableEq, Repr

namespace Mpsc

variable {α : Type}

/-- Whether there is room for one more value. -/
def hasRoom (c : Mpsc α) : Bool := c.queue.length < c.capacity

/-- Puts a value at the end of the queue. -/
def push (c : Mpsc α) (a : α) : Mpsc α := { c with queue := c.queue ++ [a] }

/-- `Sender::try_send` with its result ignored: without room the value is lost. -/
def trySend (c : Mpsc α) (a : α) : Mpsc α := if c.hasRoom then c.push a else c

/-- The queue without its first value. -/
def pop (c : Mpsc α) : Mpsc α := { c with queue := c.queue.tail }

/-- Drops the last sender. -/
def close (c : Mpsc α) : Mpsc α := { c with closed := true }

/-- `Receiver::poll_recv`. -/
def pollRecv (c : Mpsc α) : Poll (Option α) × Mpsc α :=
  match c.queue with
  | a :: _ => (.ready (some a), c.pop)
  | [] => (if c.closed then .ready none else .pending, c)

end Mpsc

/-- A channel for one value. `closed` says that its sender was used or dropped. -/
structure Oneshot (α : Type) where
  value : Option α := none
  closed : Bool := false
  deriving DecidableEq, Repr

namespace Oneshot

variable {α : Type}

/-- `oneshot::Sender::send`. It uses the sender up. -/
def send (c : Oneshot α) (a : α) : Oneshot α := if c.closed then c else ⟨some a, true⟩

/-- Drops the sender, if it is still there. -/
def close (c : Oneshot α) : Oneshot α := { c with closed := true }

/-- The poll of the receiver. It is not polled again once it was ready. -/
def poll (c : Oneshot α) : Poll (Option α) :=
  match c.value with
  | some a => .ready (some a)
  | none => if c.closed then .ready none else .pending

end Oneshot

end Gascan.Lib
