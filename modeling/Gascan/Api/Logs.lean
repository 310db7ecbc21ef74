import Gascan.Daemon.Store
import Gascan.Lib.Channel

/-!
# `Gascan.Api.Logs`: following the log of a sandbox

The task behind a `logs` call with `follow`. It sends the log it starts with, and then loops: a
`select!` waits for the notification of a shutdown, for the end of the client, or for 50 ms, after
which the task reads the log again and sends what was appended. `cancel_streams` stores a flag and
notifies the waiters that are registered then; the task registers anew in each iteration and does
not read the flag.
-/

namespace Gascan

open Lib

namespace Logs

/-- An event of the stream, without the fields that no event of this stream sets. -/
structure LogEvent where
  payload : List UInt8 := []
  error : Option (String × String) := none
  sequence : Nat
  status : OperationStatus
  contentType : String := ""
  deriving DecidableEq

/-- What the task does once a send is through. -/
inductive Then where
  | loop (previous : List UInt8)
  | leave
  deriving DecidableEq

/-- Where the task waits. In `selecting`, `woken` says that its notification has arrived. -/
inductive Phase where
  | sending (event : LogEvent) (next : Then)
  | selecting (woken : Bool)
  | polling
  | exited
  deriving DecidableEq

/-- The task, its channel and its client. `polls` counts the calls of `service.logs` in the loop,
`sent` lists the events that were sent, `connected` says that the client still holds the stream. -/
structure Follow where
  phase : Phase
  previous : List UInt8
  sequence : Nat := 1
  channel : Mpsc LogEvent := { capacity := 2 }
  sent : List LogEvent := []
  connected : Bool := true
  shuttingDown : Bool := false
  polls : Nat := 0
  deriving DecidableEq

inductive Move where
  /-- `cancel_streams` stores `shutting_down`. -/
  | store
  /-- `cancel_streams` calls `notify_waiters`. -/
  | notify
  /-- The send that the task waits for is through. -/
  | send
  /-- The `select!` takes the branch of the notification. -/
  | wake
  /-- The `select!` takes the branch of the closed client. -/
  | closed
  /-- The `select!` takes the branch of the timer, and `service.logs` is called. -/
  | elapse
  /-- `service.logs` returns. -/
  | logs (result : Except (String × String) (List UInt8))
  /-- The client reads an event. -/
  | receive
  /-- The client drops the stream. -/
  | disconnect

/-- `u64::saturating_add` of one. -/
def nextSequence (sequence : Nat) : Nat := min (sequence + 1) (2 ^ 64 - 1)

/-- The task of a call whose first read returned `baseline`. -/
def Follow.start (baseline : List UInt8) : Follow where
  phase := .sending
    { payload := baseline, sequence := 1, status := .pending
      contentType := "application/octet-stream" } (.loop baseline)
  previous := baseline

namespace Follow

/-- What the task does with a new log. -/
def read (s : Follow) (current : List UInt8) : Follow :=
  match current.dropPrefix? s.previous with
  | some appended =>
    if appended.isEmpty then { s with previous := current, phase := .selecting false }
    else
      { s with
        sequence := nextSequence s.sequence
        phase := .sending
          { payload := appended, sequence := nextSequence s.sequence, status := .pending
            contentType := "application/octet-stream" } (.loop current) }
  | none => { s with previous := current, phase := .selecting false }

/-- The event and the phase of a task that leaves its loop. -/
def leave (s : Follow) (status : OperationStatus) (error : Option (String × String)) : Follow :=
  { s with
    sequence := nextSequence s.sequence
    phase := .sending { error, sequence := nextSequence s.sequence, status } .leave }

/-- The phase after a send that is through. -/
def proceed (s : Follow) : Then → Follow
  | .loop previous => { s with previous, phase := .selecting false }
  | .leave => { s with phase := .exited }

/-- One move. There is no result when the move is not possible. -/
def step (s : Follow) : Move → Option Follow
  | .store => some { s with shuttingDown := true }
  | .notify =>
    match s.phase with
    | .selecting _ => some { s with phase := .selecting true }
    | _ => some s
  | .send =>
    match s.phase with
    | .sending event next =>
      if !s.connected then some { s with phase := .exited }
      else if s.channel.hasRoom then
        some (proceed { s with channel := s.channel.push event, sent := s.sent ++ [event] } next)
      else none
    | _ => none
  | .wake => if s.phase = .selecting true then some (s.leave .completed none) else none
  | .closed =>
    match s.phase with
    | .selecting _ => if s.connected then none else some { s with phase := .exited }
    | _ => none
  | .elapse =>
    match s.phase with
    | .selecting _ => some { s with phase := .polling, polls := s.polls + 1 }
    | _ => none
  | .logs result =>
    if s.phase = .polling then
      match result with
      | .ok current => some (s.read current)
      | .error error => some (s.leave .failed (some error))
    else none
  | .receive => some { s with channel := s.channel.pop }
  | .disconnect => some { s with connected := false }

/-- A run. There is no result when one of the moves is not possible. -/
def run (s : Follow) : List Move → Option Follow
  | [] => some s
  | move :: moves => (s.step move).bind fun s' => s'.run moves

end Follow

end Logs

end Gascan
