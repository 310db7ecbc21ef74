import Gascan.Daemon.System
import Gascan.Lib.Channel

/-!
# `Gascan.Daemon.Stream`: the events that reach the client of an operation

A request sends the events of its operation into a bounded channel with `try_send`, whose failure it
ignores. `Session` keeps account of what one request recorded and sent. A task of the API moves the
events from that channel into a second one, which the client reads (`Stream`). A `Streaming` is a
daemon with one request whose stream is watched: the system, the draining task and the client take
steps in any order. A `Closing` may also cancel its streams, as the daemon does before it exits.
-/

namespace Gascan

open Lib

/-! ### What a request sends -/

/-- The events that a command sends to the client, given its reply. -/
def Cmd.sent : (c : Cmd) → Reply c → List OperationEvent
  | .store _ send, .ok result => (send result).toList
  | _, _ => []

/-- The operation that a command records, given its reply. -/
def Cmd.recorded : (c : Cmd) → Reply c → Option OperationId
  | .store (.beginOperation ..) _, .ok operation => some operation.id
  | _, _ => none

/-- The world as a request sees it, the operation that the request recorded, and the events that it
sent. -/
structure Session where
  world : World
  operation : Option OperationId := none
  sent : List OperationEvent := []

/-- What a command of a request does, and its reply. -/
def Session.perform (c : Cmd) (x : Choice) (s : Session) : Reply c × Session :=
  let r := Gascan.perform c x s.world
  (r.1, ⟨r.2, (c.recorded r.1).or s.operation, s.sent ++ c.sent r.1⟩)

/-! ### The two channels -/

/-- The stream of an operation: the channel of the service, the event that the draining task holds
while it waits for room in the second channel, that channel, the events the client has read, and
whether the client has seen the end. -/
structure Stream where
  source : Mpsc OperationEvent := { capacity := 16 }
  held : Option OperationEvent := none
  wire : Mpsc OperationEvent := { capacity := 16 }
  delivered : List OperationEvent := []
  ended : Bool := false

namespace Stream

/-- `Sender::try_send` of the events of a command. -/
def offer (stream : Stream) (events : List OperationEvent) : Stream :=
  { stream with source := events.foldl Mpsc.trySend stream.source }

/-- The service drops its sender. -/
def hangUp (stream : Stream) : Stream := { stream with source := stream.source.close }

/-- The draining task of `ApiEventStream::new` receives. It ends when the channel is closed and
empty, and drops its own sender. -/
def receive (stream : Stream) : Stream :=
  if stream.held.isSome ∨ stream.wire.closed then stream
  else
    match stream.source.pollRecv with
    | (.ready (some event), source) => { stream with source, held := some event }
    | (.ready none, _) => { stream with wire := stream.wire.close }
    | (.pending, _) => stream

/-- The draining task gets a permit for the second channel and sends the event it holds. -/
def forward (stream : Stream) : Stream :=
  match stream.held with
  | some event =>
    if stream.wire.hasRoom then { stream with wire := stream.wire.push event, held := none }
    else stream
  | none => stream

/-- `ApiEventStream::poll_next`. -/
def poll (stream : Stream) : Stream :=
  match stream.wire.pollRecv with
  | (.ready (some event), wire) => { stream with wire, delivered := stream.delivered ++ [event] }
  | (.ready none, _) => { stream with ended := true }
  | (.pending, _) => stream

/-- The draining task sees that the daemon is shutting down. It drops the event it holds, what is
still in the first channel, and its own sender. -/
def stop (stream : Stream) : Stream := { stream with held := none, wire := stream.wire.close }

end Stream

/-! ### The daemon and one stream -/

/-- A daemon, whether it still serves the request that is watched, the operation that this request
recorded, and its stream. -/
structure Streaming where
  system : System
  serving : Bool := true
  operation : Option OperationId := none
  stream : Stream := {}

namespace Streaming

/-- What happens in a step. -/
inductive Move where
  | system (event : Event)
  | receive
  | forward
  | poll

/-- What the stream of the request on `id` sees of a step of the daemon. -/
def observe (id : SandboxId) (s : Streaming) (event : Event) (system : System) : Streaming :=
  match event with
  | .advance request c x =>
    if s.serving ∧ request.id = id then
      let reply := (perform c x s.system.world).1
      { s with
        system
        operation := (c.recorded reply).or s.operation
        stream := s.stream.offer (c.sent reply) }
    else { s with system }
  | .returned request _ | .threw request _ =>
    if s.serving ∧ request.id = id then
      { s with system, serving := false, stream := s.stream.hangUp }
    else { s with system }
  | _ => { s with system }

/-- One step of a daemon that is not killed, of the draining task or of the client. -/
inductive Step (id : SandboxId) : Streaming → Move → Streaming → Prop where
  | system (s : Streaming) (event : Event) (system : System) (hlives : event ≠ .crash)
      (hstep : System.Step s.system event system) :
      Step id s (.system event) (s.observe id event system)
  | receive (s : Streaming) : Step id s .receive { s with stream := s.stream.receive }
  | forward (s : Streaming) : Step id s .forward { s with stream := s.stream.forward }
  | poll (s : Streaming) : Step id s .poll { s with stream := s.stream.poll }

/-- Runs whose steps all satisfy `allowed`. -/
def RunsWithin (id : SandboxId) (allowed : Streaming → Move → Prop) :
    Streaming → Streaming → Prop :=
  Relation.ReflTransGen fun s s' => ∃ move, allowed s move ∧ Step id s move s'

end Streaming

/-! ### Shutdown -/

/-- A daemon with one stream, and whether it has cancelled its streams. -/
structure Closing where
  streaming : Streaming
  shuttingDown : Bool := false

namespace Closing

/-- What happens in a step. -/
inductive Move where
  | serve (move : Streaming.Move)
  | cancelStreams
  | stop

/-- One step of a daemon that may shut down. `cancel_streams` comes after `wait_for_operations`, so
the request is over by then. -/
inductive Step (id : SandboxId) : Closing → Move → Closing → Prop where
  | serve (s : Closing) (move : Streaming.Move) (t : Streaming)
      (hstep : Streaming.Step id s.streaming move t) :
      Step id s (.serve move) { s with streaming := t }
  | cancelStreams (s : Closing) (hover : s.streaming.serving = false) :
      Step id s .cancelStreams { s with shuttingDown := true }
  | stop (s : Closing) (hdown : s.shuttingDown = true) :
      Step id s .stop
        { s with streaming := { s.streaming with stream := s.streaming.stream.stop } }

/-- Runs whose steps all satisfy `allowed`. -/
def RunsWithin (id : SandboxId) (allowed : Closing → Move → Prop) : Closing → Closing → Prop :=
  Relation.ReflTransGen fun s s' => ∃ move, allowed s move ∧ Step id s move s'

end Closing

end Gascan
