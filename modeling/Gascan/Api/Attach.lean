import Gascan.Daemon.Error
import Gascan.Lib.Channel

/-!
# `Gascan.Api.Attach`: the frames of an attached process

The bridge of an attached process (`run_attach_bridge`) sends its output on a bounded channel and
its last frame on a channel of its own. `AttachStream` reads both: `poll_next` polls the channel of
the last frame first and the data second, and gives the last frame out when the data ended.

The bridge is a function of what its `select!` loop meets. The two polls of `poll_next` are two
moves of an `Attachment`, so that the bridge can act between them.
-/

namespace Gascan

open Lib

namespace Attach

/-! ### Frames -/

/-- What the runtime reports of an attached process. -/
inductive ExecOutput where
  | stdout (bytes : List UInt8)
  | stderr (bytes : List UInt8)
  | exit (code signal : Int)
  deriving DecidableEq

/-- A frame of the response. -/
inductive ServerFrame where
  | stdout (bytes : List UInt8)
  | stderr (bytes : List UInt8)
  | exit (code signal : Int)
  | error (code message : String)
  deriving DecidableEq

/-- `server_output`. -/
def serverOutput : ExecOutput → ServerFrame
  | .stdout bytes => .stdout bytes
  | .stderr bytes => .stderr bytes
  | .exit code signal => .exit code signal

/-- `server_error` for an error of the runtime. -/
def serverError (error : RuntimeError) : ServerFrame := .error error.code error.message

/-- `attach_runtime_error`. -/
def attachRuntimeError (message : String) : RuntimeError := .commandIo "attach_bridge" message

/-- An item of the response: a frame, or the status that ends the call. -/
inductive Item where
  | frame (frame : ServerFrame)
  | status (message : String)
  deriving DecidableEq

/-! ### The bridge -/

/-- What the bridge does with its two senders. -/
inductive Send where
  | data (item : Item)
  | terminal (item : Item)
  | drop
  deriving DecidableEq

/-- How `finish_attach_session` went: the output that was still forwarded, the last frame of the
session (none when the grace period expired), and whether the receiver of the data was closed. -/
structure Finish where
  drained : List ExecOutput
  last : Option ServerFrame
  closed : Bool

/-- The frame that stands for a session that had to be cancelled. -/
def graceExpired : ServerFrame := serverError (attachRuntimeError
  "runtime session required forced termination after attach cancellation grace expired")

/-- `finish_attach_session`. -/
def finishAttachSession (finish : Finish) (forwardTerminal : Bool) : List Send :=
  finish.drained.map (fun output => .data (.frame (serverOutput output))) ++
    if forwardTerminal then [.terminal (.frame (finish.last.getD graceExpired))] else []

/-- How a frame of output was sent. -/
inductive AttachDataSend where
  | sent
  | disconnected (finish : Finish)
  | shutdown (finish : Finish)

/-- What the loop of the bridge meets in one iteration. -/
inductive BridgeEvent where
  | output (output : ExecOutput) (send : AttachDataSend)
  | outputError (error : RuntimeError)
  | outputClosed
  | input
  | inputRefused (error : RuntimeError)
  | frameRejected (code : String) (finish : Finish)
  | inputError (message : String)
  | inputClosed (finish : Finish)
  | disconnected (finish : Finish)
  | shutdown (finish : Finish)

/-- The frame for a session that ended without a last frame. -/
def closedWithoutTerminal : ServerFrame :=
  serverError (attachRuntimeError "runtime session closed without a terminal output")

/-- The loop of `run_attach_bridge`. It sends nothing more after it left the loop. -/
def bridgeLoop : List BridgeEvent → List Send
  | [] => []
  | .output (.exit code signal) _ :: _ => [.terminal (.frame (.exit code signal)), .drop]
  | .output output .sent :: rest => .data (.frame (serverOutput output)) :: bridgeLoop rest
  | .output _ (.disconnected finish) :: _ => finishAttachSession finish false ++ [.drop]
  | .output _ (.shutdown finish) :: _ => finishAttachSession finish (!finish.closed) ++ [.drop]
  | .outputError error :: _ => [.terminal (.frame (serverError error)), .drop]
  | .outputClosed :: _ => [.terminal (.frame closedWithoutTerminal), .drop]
  | .input :: rest => bridgeLoop rest
  | .inputRefused error :: _ => [.terminal (.frame (serverError error)), .drop]
  | .frameRejected code finish :: _ => finishAttachSession finish false ++
    [.terminal (.frame (.error code "attach frame rejected")), .drop]
  | .inputError message :: _ => [.terminal (.status message), .drop]
  | .inputClosed finish :: _ => finishAttachSession finish (!finish.closed) ++ [.drop]
  | .disconnected finish :: _ => finishAttachSession finish false ++ [.drop]
  | .shutdown finish :: _ => finishAttachSession finish (!finish.closed) ++ [.drop]

/-- How the first input of the client was sent to the session. -/
inductive FirstInput where
  | sent
  | failed (error : RuntimeError)
  | disconnected (finish : Finish)
  | shutdown (finish : Finish)

/-- `run_attach_bridge`: what it sends. -/
def runAttachBridge (first : FirstInput) (events : List BridgeEvent) : List Send :=
  match first with
  | .sent => bridgeLoop events
  | .failed error => [.terminal (.frame (serverError error)), .drop]
  | .disconnected finish => finishAttachSession finish false ++ [.drop]
  | .shutdown finish => finishAttachSession finish (!finish.closed) ++ [.drop]

/-! ### The stream -/

/-- `AttachStream`. -/
structure AttachStream where
  data : Mpsc Item
  terminal : Oneshot Item
  pendingTerminal : Option Item := none
  ended : Bool := false
  deriving DecidableEq

namespace AttachStream

/-- The first part of `poll_next`: it answers at once, or goes on to the data. -/
def pollTerminal (s : AttachStream) : Option (Poll (Option Item)) × AttachStream :=
  if s.ended then (some (.ready none), s)
  else if s.pendingTerminal.isSome then (none, s)
  else
    match s.terminal.poll with
    | .ready (some terminal) => (none, { s with pendingTerminal := some terminal })
    | .ready none => (some (.ready none), { s with ended := true })
    | .pending => (none, s)

/-- The second part of `poll_next`. -/
def pollData (s : AttachStream) : Poll (Option Item) × AttachStream :=
  match s.data.pollRecv with
  | (.ready none, data) =>
    (.ready s.pendingTerminal, { s with data, ended := true, pendingTerminal := none })
  | (other, data) => (other, { s with data })

end AttachStream

/-- A bridge and the stream that reads from it. `script` is what the bridge has still to send,
`polling` says that `poll_next` is between its two polls, `yielded` lists what it gave out, and
`finished` says that it gave out its first `None`. -/
structure Attachment where
  script : List Send
  stream : AttachStream
  polling : Bool := false
  yielded : List Item := []
  finished : Bool := false
  deriving DecidableEq

inductive Move where
  | send
  | pollTerminal
  | pollData
  deriving DecidableEq

namespace Attachment

/-- The start of an attachment. -/
def start (script : List Send) : Attachment := ⟨script, ⟨{ capacity := 16 }, {}, none, false⟩,
  false, [], false⟩

/-- The next send of the bridge. Data waits for room. -/
def send (s : Attachment) : Attachment :=
  match s.script with
  | [] => s
  | .data item :: rest =>
    if s.stream.data.hasRoom then
      { s with script := rest, stream := { s.stream with data := s.stream.data.push item } }
    else s
  | .terminal item :: rest =>
    { s with script := rest, stream := { s.stream with terminal := s.stream.terminal.send item } }
  | .drop :: rest =>
    { s with script := rest, stream :=
      { s.stream with data := s.stream.data.close, terminal := s.stream.terminal.close } }

/-- The answer of a `poll_next`. -/
def answer (s : Attachment) (stream : AttachStream) : Poll (Option Item) → Attachment
  | .pending => { s with stream, polling := false }
  | .ready (some item) => { s with stream, polling := false, yielded := s.yielded ++ [item] }
  | .ready none => { s with stream, polling := false, finished := true }

/-- One move. A poll that is not due changes nothing. -/
def step (s : Attachment) : Move → Attachment
  | .send => s.send
  | .pollTerminal =>
    if s.polling || s.finished then s
    else
      match s.stream.pollTerminal with
      | (some result, stream) => s.answer stream result
      | (none, stream) => { s with stream, polling := true }
  | .pollData =>
    if s.polling then s.answer s.stream.pollData.2 s.stream.pollData.1 else s

/-- A run. -/
def run (s : Attachment) (moves : List Move) : Attachment := moves.foldl step s

/-- The second poll comes too late: the data has ended, everything was read, and the first poll did
not see the last frame. -/
def late (s : Attachment) : Move → Bool
  | .pollData => s.polling && s.stream.pendingTerminal.isNone && s.stream.data.queue.isEmpty &&
    s.stream.data.closed
  | _ => false

/-- No move of a run is late. -/
def Timely : Attachment → List Move → Prop
  | _, [] => True
  | s, move :: moves => s.late move = false ∧ Timely (s.step move) moves

end Attachment

end Attach

end Gascan
