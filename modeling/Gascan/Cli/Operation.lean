import Gascan.Daemon.Stream

/-!
# `Gascan.Cli.Operation`: how the command line follows an operation

The commands `up`, `apply`, `down` and `destroy` read the events of their operation from a stream of
the daemon until it ends. `wireEvent` is the event as the daemon sends it, with an error exactly
when the operation failed. `operation` is the loop over the stream: with JSON it prints every event,
otherwise it draws a progress line.
-/

namespace Gascan.Cli

/-! ### Events on the wire -/

/-- The error of an event. -/
structure WireError where
  code : String
  message : String
  details : Json

/-- The part of an event that the command line reads. -/
structure WireEvent where
  operationId : OperationId
  sequence : Nat
  phase : String
  status : OperationStatus
  error : Option WireError

/-- `wire_event`. -/
def wireEvent (event : OperationEvent) : WireEvent :=
  let details := event.details.getD .null
  { operationId := event.operationId
    sequence := event.sequence
    phase := (details.getStr "phase").getD "operation"
    status := event.status
    error :=
      if event.status = .failed then
        some
          { code := event.errorCode.getD "internal"
            message := (details.getStr "message").getD "operation failed"
            details }
      else none }

/-! ### Reading the stream -/

/-- A status that a call of the daemon ends with. -/
structure RpcStatus where
  code : Nat
  message : String
  deriving DecidableEq

/-- How a stream ends after its last event. -/
inductive Ending where
  | closed
  | failed (status : RpcStatus)
  deriving DecidableEq

/-- The errors of `operation`. -/
inductive CliError where
  | rpc (status : RpcStatus)
  | operation (code : String) (message : String)
  deriving DecidableEq

/-- The exit status of a failure at run time. -/
def exitRuntime : Nat := 70

/-- What `message` of a stream returns when there are no more events, and what the loops make of
it. -/
def Ending.exit : Ending → Except CliError Nat
  | .closed => .ok 0
  | .failed status => .error (.rpc status)

/-- The loop of `operation` with JSON. Every event is printed, up to the first with an error. -/
def operationJson : List WireEvent → Ending → List WireEvent × Except CliError Nat
  | [], ending => ([], ending.exit)
  | event :: events, ending =>
    if event.error.isSome then ([event], .ok exitRuntime)
    else
      let rest := operationJson events ending
      (event :: rest.1, rest.2)

/-- The loop of `operation` without JSON. -/
def operationText : List WireEvent → Ending → Except CliError Nat
  | [], ending => ending.exit
  | event :: events, ending =>
    match event.error with
    | some error => .error (.operation error.code error.message)
    | none => operationText events ending

/-- `operation`: the exit status, or the error that it is taken from. -/
def operation (json : Bool) (events : List WireEvent) (ending : Ending) : Except CliError Nat :=
  if json then (operationJson events ending).2 else operationText events ending

end Gascan.Cli
