import Gascan.Cli.Operation
import Gascan.Proofs.Stream

/-!
# `Gascan.Proofs.Operation`: what an exit status of zero says

`operation` exits with zero when the stream closes and no event on it had an error
(`operation_eq_zero_iff`). It does not ask for the event that completes the operation, and the
daemon closes the stream in the same way when the last events found no room, or when the draining
task was stopped by a shutdown.

In the runs in which nothing is lost, zero does say that the operation was completed
(`operation_zero_completed`). Otherwise an `up` that failed may be reported as a success
(`operation_zero_failed`).
-/

namespace Gascan

open Lib Service

namespace Cli

/-! ### The command line -/

theorem wireEvent_error_eq_none_iff {event : OperationEvent} :
    (wireEvent event).error = none ↔ event.status ≠ .failed := by
  rw [wireEvent]
  by_cases h : event.status = .failed <;> simp [h]

variable {ending : Ending} {events : List WireEvent}

theorem Ending.exit_eq_zero_iff : ending.exit = .ok 0 ↔ ending = .closed := by
  cases ending <;> simp [Ending.exit]

theorem operationJson_eq_zero_iff :
    (operationJson events ending).2 = .ok 0 ↔
      ending = .closed ∧ ∀ event ∈ events, event.error = none := by
  induction events with
  | nil => simp [operationJson, Ending.exit_eq_zero_iff]
  | cons event events ih =>
    rw [operationJson]
    cases herror : event.error with
    | some error => simp [exitRuntime, herror]
    | none => simp [ih, herror]

theorem operationText_eq_zero_iff :
    operationText events ending = .ok 0 ↔
      ending = .closed ∧ ∀ event ∈ events, event.error = none := by
  induction events with
  | nil => simp [operationText, Ending.exit_eq_zero_iff]
  | cons event events ih =>
    rw [operationText]
    cases herror : event.error with
    | some error => simp [herror]
    | none => simp [ih, herror]

/-- Both loops exit with zero when the stream closes after events without an error. -/
theorem operation_eq_zero_iff {json : Bool} :
    operation json events ending = .ok 0 ↔
      ending = .closed ∧ ∀ event ∈ events, event.error = none := by
  cases json with
  | false => exact operationText_eq_zero_iff
  | true => exact operationJson_eq_zero_iff

end Cli

namespace Closing

open Streaming

/-! ### The daemon -/

/-- The daemon serves its requests, every `try_send` of the watched one finds room, and the draining
task is stopped only when it has passed everything on. -/
def Lossless (id : SandboxId) (s : Closing) : Move → Prop
  | .serve move => s.streaming.Prompt id move
  | .cancelStreams => True
  | .stop => s.streaming.stream.held = none ∧ s.streaming.stream.source.queue = []

/-- The daemon serves its requests, and every `try_send` of the watched one finds room. The draining
task may be stopped at any time. -/
def InTime (id : SandboxId) (s : Closing) : Move → Prop
  | .serve move => s.streaming.Prompt id move
  | _ => True

variable {id : SandboxId}

theorem serving_of_step {s t : Streaming} {move : Streaming.Move}
    (hstep : Streaming.Step id s move t) (hover : s.serving = false) : t.serving = false := by
  cases hstep with
  | receive => exact hover
  | forward => exact hover
  | poll => exact hover
  | system event system _ _ =>
    rw [Streaming.observe.eq_def]
    cases event with
    | advance request c x => simp [hover]
    | returned request o => simp [hover]
    | threw request error => simp [hover]
    | _ => exact hover

/-- In a run that loses nothing, the stream is the one of a daemon that serves its requests, and the
streams are cancelled only after the request. -/
theorem watched_of_runsWithin {w : World} {image : String}
    (hs : System.Reachable ⟨w, .serving image []⟩) {s s1 : System}
    (hrun : System.RunsWithin System.Undisrupted ⟨w, .serving image []⟩ s) {request : Request}
    (hrequest : System.Step s (.request request) s1) {t : Closing}
    (hclosing : RunsWithin request.id (Lossless request.id) { streaming := { system := s1 } } t) :
    (∃ tasks accounts offered, Watched (· ∈ w.store.operations) request.id image tasks
        accounts offered t.streaming) ∧
      (t.shuttingDown = true → t.streaming.serving = false) := by
  induction hclosing with
  | refl => exact ⟨Watched.start hs hrun hrequest, nofun⟩
  | tail _ hstep ih =>
    obtain ⟨⟨tasks, accounts, offered, h⟩, hdown⟩ := ih
    obtain ⟨move, hlossless, hstep⟩ := hstep
    cases hstep with
    | serve move t hstep =>
      exact ⟨h.step hstep hlossless, fun hclosing => serving_of_step hstep (hdown hclosing)⟩
    | cancelStreams hover => exact ⟨⟨tasks, accounts, offered, h⟩, fun _ => hover⟩
    | stop hclosing =>
      have hover := hdown hclosing
      exact ⟨⟨tasks, accounts, offered, h.stop hover hlossless.1 hlossless.2⟩, fun _ => hover⟩

/-- In every run of a daemon after a request was accepted, in which the daemon serves its requests,
every `try_send` of that request finds room, and a shutdown stops the draining task only when it has
passed everything on, the command line exits with zero only if it has read the event that completes
the operation of the request. It sees the stream close when the daemon closes it. -/
theorem operation_zero_completed {w : World} {image : String}
    (hs : System.Reachable ⟨w, .serving image []⟩) {s s₁ : System}
    (hrun : System.RunsWithin System.Undisrupted ⟨w, .serving image []⟩ s) {request : Request}
    (hrequest : System.Step s (.request request) s₁) {t : Closing}
    (hclosing : RunsWithin request.id (Lossless request.id) { streaming := { system := s₁ } } t)
    {o : OperationId} (hoperation : t.streaming.operation = some o) {ending : Cli.Ending}
    (hending : ending = .closed → t.streaming.stream.ended = true) {json : Bool}
    (hzero : Cli.operation json (t.streaming.stream.delivered.map Cli.wireEvent) ending = .ok 0) :
    ∃ event ∈ t.streaming.stream.delivered, event.operationId = o ∧ event.status = .completed := by
  obtain ⟨⟨tasks, accounts, offered, h⟩, -⟩ :=
    watched_of_runsWithin hs hrun hrequest hclosing
  obtain ⟨hclosed, hnone⟩ := Cli.operation_eq_zero_iff.1 hzero
  have hlog := h.delivered (hending hclosed)
  rw [hoperation] at hlog
  obtain ⟨hevents, last, hlast, hstatus⟩ := hlog
  have hmem : last ∈ t.streaming.stream.delivered := List.mem_of_getLast? hlast
  refine ⟨last, hmem, ?_, ?_⟩
  · rw [hevents] at hmem
    simpa [Store.operationEvents] using (List.mem_filter.1 hmem).2
  · -- The last event ends the operation, and it is not a failure, which has an error.
    have hfailed := Cli.wireEvent_error_eq_none_iff.1
      (hnone _ (List.mem_map_of_mem hmem))
    cases hcase : last.status with
    | pending => exact absurd hcase hstatus
    | completed => rfl
    | failed => exact absurd hcase hfailed

/-! ### Runs of one request -/

/-- A run without a shutdown. -/
theorem runsWithin_serve {allowed : Streaming → Streaming.Move → Prop}
    {allowed' : Closing → Move → Prop}
    (hallowed : ∀ s b move, allowed s move → allowed' ⟨s, b⟩ (.serve move)) {b : Bool}
    {s t : Streaming} (h : Streaming.RunsWithin id allowed s t) :
    RunsWithin id allowed' ⟨s, b⟩ ⟨t, b⟩ := by
  induction h with
  | refl => exact .refl
  | tail _ hstep ih =>
    obtain ⟨move, hmove, hstep⟩ := hstep
    exact ih.tail ⟨.serve move, hallowed _ _ _ hmove, .serve _ _ _ hstep⟩

/-- The events of an `up` without tools, setup and SSH reach the command line, which exits with
zero. -/
theorem operation_zero_completed_offline :
    let t := drainedLate demoWorld demoSpec 13
    Cli.operation true (t.stream.delivered.map Cli.wireEvent) .closed = .ok 0 ∧
      ∃ event ∈ t.stream.delivered, event.operationId = 1 ∧ event.status = .completed := by
  intro t
  have hfacts : t.operation = some 1 ∧ t.stream.ended = true ∧
      Cli.operation true (t.stream.delivered.map Cli.wireEvent) .closed = .ok 0 := by decide +kernel
  have hrun : RunsWithin demoId (Lossless demoId)
      { streaming := Alone.serving { world := demoWorld } demoImage (.up demoSpec)
          (upInner demoImage demoSpec) } { streaming := t } :=
    runsWithin_serve (fun _ _ _ h => h) (runsWithin_offline_up 13)
  exact ⟨hfacts.2.2, operation_zero_completed demoWorld_reachable .refl
    (.request demoWorld demoImage [] (.up demoSpec) (by simp)) hrun hfacts.1 (fun _ => hfacts.2.1)
    hfacts.2.2⟩

def setupChanges : Choice := { provisioned := .error .setupChanged }

/-- An `up` whose provisioning fails, served alone and not drained meanwhile. -/
def failedUp : Streaming :=
  ((upInner demoImage demoSpec).exec Alone.perform setupChanges
    { world := demoWorld }).2.served demoImage

def failedUpClosed : Closing :=
  { streaming := { failedUp with stream := failedUp.stream.stop.poll }, shuttingDown := true }

/-- An `up` fails, and the daemon shuts down before the draining task has passed the events on.
Every event found room. The client sees its stream close without any event, and both forms of
`operation` exit with zero. -/
theorem operation_zero_failed :
    System.Reachable ⟨demoWorld, .serving demoImage []⟩ ∧
      RunsWithin demoId (InTime demoId)
        { streaming := Alone.serving { world := demoWorld } demoImage (.up demoSpec)
            (upInner demoImage demoSpec) } failedUpClosed ∧
      failedUpClosed.streaming.stream.ended = true ∧
      failedUpClosed.streaming.stream.delivered = [] ∧
      (failedUpClosed.streaming.system.world.store.operationEvents 1).map (·.status) =
        List.replicate 7 .pending ++ [.failed] ∧
      ∀ json, Cli.operation json
        (failedUpClosed.streaming.stream.delivered.map Cli.wireEvent) .closed = .ok 0 := by
  refine ⟨demoWorld_reachable, ?_, by decide +kernel⟩
  have hserved : Streaming.RunsWithin demoId (Prompt demoId)
      (Alone.serving { world := demoWorld } demoImage (.up demoSpec)
        (upInner demoImage demoSpec)) failedUp := by
    have hcheck : (upInner demoImage demoSpec).check Alone.perform promptTest
        setupChanges { world := demoWorld } = true := by decide +kernel
    exact runsWithin_alone prompt_of_isQuiet promptTest
      (fun _ _ _ => prompt_of_promptTest) _ hcheck
  have hfirst : RunsWithin demoId (InTime demoId) ⟨_, false⟩ ⟨failedUp, false⟩ :=
    runsWithin_serve (fun _ _ _ h => h) hserved
  -- The request is over, so the streams may be cancelled.
  have hcancelled := hfirst.tail ⟨.cancelStreams, trivial, .cancelStreams _ rfl⟩
  have hstopped := hcancelled.tail ⟨.stop, trivial, .stop _ rfl⟩
  exact hstopped.tail ⟨.serve .poll, ⟨trivial, trivial⟩, .serve _ _ _ (.poll _)⟩

end Closing

end Gascan
