import Gascan.Api.Attach

/-!
# `Gascan.Proofs.Attach`: what an attached client receives

`runAttachBridge_shape` gives the order in which a bridge sends. For a bridge that sends its data
and one last frame, `Flow` says where its items are while the stream is open, and
`yielded_iff_timely` which runs deliver all of them: those in which `poll_next` never asks for data
after the bridge went away between its two polls.
-/

namespace Gascan

open Lib

namespace Attach

/-! ### The bridge -/

/-- Data, then at most one last frame, then the end of both senders. A bridge that still runs has
sent only data. -/
inductive Shape : List Send → Prop where
  | running : Shape []
  | dropped : Shape [.drop]
  | ended (item : Item) : Shape [.terminal item, .drop]
  | data (item : Item) (rest : List Send) (h : Shape rest) : Shape (.data item :: rest)

theorem Shape.finish {rest : List Send} (h : Shape rest) (finish : Finish) :
    Shape (finishAttachSession finish false ++ rest) := by
  unfold finishAttachSession
  induction finish.drained with
  | nil => exact h
  | cons output outputs ih => exact .data _ _ ih

theorem Shape.forward (finish : Finish) (forwardTerminal : Bool) :
    Shape (finishAttachSession finish forwardTerminal ++ [.drop]) := by
  cases forwardTerminal with
  | false => exact Shape.dropped.finish finish
  | true =>
    unfold finishAttachSession
    induction finish.drained with
    | nil => exact .ended _
    | cons output outputs ih => exact .data _ _ ih

theorem shape_bridgeLoop (events : List BridgeEvent) : Shape (bridgeLoop events) := by
  induction events with
  | nil => exact .running
  | cons event rest ih =>
    cases event with
    | output output send =>
      cases output with
      | exit code signal => exact .ended _
      | stdout bytes | stderr bytes =>
        cases send with
        | sent => exact .data _ _ ih
        | disconnected finish => exact .forward finish false
        | shutdown finish => exact .forward finish _
    | outputError error | outputClosed | inputRefused error | inputError message =>
      exact .ended _
    | input => exact ih
    | frameRejected code finish => exact (Shape.ended _).finish finish
    | inputClosed finish | disconnected finish | shutdown finish => exact .forward finish _

/-- Whatever a bridge meets, it sends data first, then at most one last frame, and then drops both
its senders. -/
theorem runAttachBridge_shape (first : FirstInput) (events : List BridgeEvent) :
    Shape (runAttachBridge first events) := by
  cases first with
  | sent => exact shape_bridgeLoop events
  | failed error => exact .ended _
  | disconnected finish | shutdown finish => exact .forward finish _

/-! ### The stream -/

/-- What a bridge sends that forwards the data and ends with one last frame. -/
def fullScript (data : List Item) (terminal : Item) : List Send :=
  data.map .data ++ [.terminal terminal, .drop]

/-- How far the bridge is: it has `rest` and everything after it to send, it has to drop its
senders, or it is gone. The last frame can be pending only after it was sent. -/
inductive Stage (terminal : Item) (s : Attachment) : List Item → Prop where
  | sending (rest : List Item) (hscript : s.script = fullScript rest terminal)
      (hterminal : s.stream.terminal = {}) (hclosed : s.stream.data.closed = false)
      (hpending : s.stream.pendingTerminal = none) : Stage terminal s rest
  | sent (hscript : s.script = [.drop]) (hterminal : s.stream.terminal = ⟨some terminal, true⟩)
      (hclosed : s.stream.data.closed = false)
      (hpending : ∀ item ∈ s.stream.pendingTerminal, item = terminal) : Stage terminal s []
  | gone (hscript : s.script = []) (hterminal : s.stream.terminal = ⟨some terminal, true⟩)
      (hclosed : s.stream.data.closed = true)
      (hpending : ∀ item ∈ s.stream.pendingTerminal, item = terminal) : Stage terminal s []

/-- Where the items are while the stream is open: given out, in the queue, or still to be sent. -/
structure Flow (data : List Item) (terminal : Item) (s : Attachment) : Prop where
  opened : s.stream.ended = false
  unfinished : s.finished = false
  items : ∃ rest, data = s.yielded ++ s.stream.data.queue ++ rest ∧ Stage terminal s rest

/-- The stream gave out everything. -/
structure Delivered (data : List Item) (terminal : Item) (s : Attachment) : Prop where
  ended : s.stream.ended = true
  idle : s.polling = false
  yielded : s.yielded = data ++ [terminal]

/-- The stream ended without the last frame. -/
structure Truncated (data : List Item) (s : Attachment) : Prop where
  finished : s.finished = true
  idle : s.polling = false
  yielded : s.yielded = data

variable {data : List Item} {terminal : Item} {s : Attachment}

theorem flow_start : Flow data terminal (.start (fullScript data terminal)) :=
  ⟨rfl, rfl, data, rfl, .sending data rfl rfl rfl rfl⟩

/-- The stage does not depend on the queue and on what was given out. -/
theorem Stage.congr {s s' : Attachment} {rest : List Item} (h : Stage terminal s rest)
    (hscript : s'.script = s.script) (hterminal : s'.stream.terminal = s.stream.terminal)
    (hclosed : s'.stream.data.closed = s.stream.data.closed)
    (hpending : s'.stream.pendingTerminal = s.stream.pendingTerminal) : Stage terminal s' rest := by
  cases h with
  | sending _ h1 h2 h3 h4 =>
    exact .sending _ (hscript.trans h1) (hterminal.trans h2) (hclosed.trans h3)
      (hpending.trans h4)
  | sent h1 h2 h3 h4 =>
    exact .sent (hscript.trans h1) (hterminal.trans h2) (hclosed.trans h3) (hpending ▸ h4)
  | gone h1 h2 h3 h4 =>
    exact .gone (hscript.trans h1) (hterminal.trans h2) (hclosed.trans h3) (hpending ▸ h4)

/-! ### One move -/

/-- The bridge moves items from its script to the queue. -/
theorem Flow.send (h : Flow data terminal s) : Flow data terminal s.send := by
  obtain ⟨hopened, hunfinished, rest, hdata, hstage⟩ := h
  cases hstage with
  | sending rest hscript hterminal hclosed hpending =>
    cases rest with
    | nil =>
      have hsend : s.send = { s with script := [.drop], stream := { s.stream with
          terminal := s.stream.terminal.send terminal } } := by
        simp [Attachment.send, hscript, fullScript]
      rw [hsend]
      refine ⟨hopened, hunfinished, [], hdata, .sent rfl ?_ hclosed ?_⟩
      · simp [hterminal, Oneshot.send]
      · simp [hpending]
    | cons item rest =>
      have hsend : s.send = if s.stream.data.hasRoom then
          { s with script := fullScript rest terminal, stream := { s.stream with
            data := s.stream.data.push item } } else s := by
        simp [Attachment.send, hscript, fullScript]
      rw [hsend]
      split
      · refine ⟨hopened, hunfinished, rest, ?_, .sending rest rfl hterminal hclosed hpending⟩
        simp [hdata, Mpsc.push]
      · exact ⟨hopened, hunfinished, _, hdata, .sending _ hscript hterminal hclosed hpending⟩
  | sent hscript hterminal hclosed hpending =>
    have hsend : s.send = { s with script := [], stream := { s.stream with
        data := s.stream.data.close, terminal := s.stream.terminal.close } } := by
      simp [Attachment.send, hscript]
    rw [hsend]
    refine ⟨hopened, hunfinished, [], hdata, .gone rfl ?_ rfl hpending⟩
    simp [hterminal, Oneshot.close]
  | gone hscript hterminal hclosed hpending =>
    have hsend : s.send = s := by simp [Attachment.send, hscript]
    rw [hsend]
    exact ⟨hopened, hunfinished, [], hdata, .gone hscript hterminal hclosed hpending⟩

/-- The first poll sees the last frame once it was sent. -/
theorem Flow.pollTerminal (h : Flow data terminal s) :
    Flow data terminal (s.step .pollTerminal) := by
  obtain ⟨hopened, hunfinished, rest, hdata, hstage⟩ := h
  by_cases hpolling : s.polling = true
  · have hstep : s.step .pollTerminal = s := by simp [Attachment.step, hpolling]
    rw [hstep]
    exact ⟨hopened, hunfinished, rest, hdata, hstage⟩
  by_cases hseen : s.stream.pendingTerminal.isSome = true
  · have hstep : s.step .pollTerminal = { s with polling := true } := by
      simp [Attachment.step, AttachStream.pollTerminal, hpolling, hunfinished, hopened, hseen]
    rw [hstep]
    exact ⟨hopened, hunfinished, rest, hdata, hstage.congr rfl rfl rfl rfl⟩
  have hstep (hterminal : s.stream.terminal = ⟨some terminal, true⟩) :
      s.step .pollTerminal = { s with polling := true, stream := { s.stream with
        pendingTerminal := some terminal } } := by
    simp [Attachment.step, AttachStream.pollTerminal, hpolling, hunfinished, hopened, hseen,
      hterminal, Oneshot.poll]
  -- Only here the channel of the last frame is polled: it is empty or holds that frame.
  cases hstage with
  | sending _ hscript hterminal hclosed hpending =>
    have hstep : s.step .pollTerminal = { s with polling := true } := by
      simp [Attachment.step, AttachStream.pollTerminal, hpolling, hunfinished, hopened, hpending,
        hterminal, Oneshot.poll]
    rw [hstep]
    exact ⟨hopened, hunfinished, rest, hdata, .sending _ hscript hterminal hclosed hpending⟩
  | sent hscript hterminal hclosed hpending =>
    rw [hstep hterminal]
    exact ⟨hopened, hunfinished, [], hdata, .sent hscript hterminal hclosed (by simp)⟩
  | gone hscript hterminal hclosed hpending =>
    rw [hstep hterminal]
    exact ⟨hopened, hunfinished, [], hdata, .gone hscript hterminal hclosed (by simp)⟩

/-- The second poll gives out the next item of the queue. When the data has ended it gives out the
last frame if it is pending, and ends the stream without it otherwise. -/
theorem Flow.pollData (h : Flow data terminal s) :
    (s.late .pollData = false →
      Flow data terminal (s.step .pollData) ∨ Delivered data terminal (s.step .pollData)) ∧
    (s.late .pollData = true → Truncated data (s.step .pollData)) := by
  obtain ⟨hopened, hunfinished, rest, hdata, hstage⟩ := h
  cases hpolling : s.polling with
  | false =>
    have hstep : s.step .pollData = s := by simp [Attachment.step, hpolling]
    rw [hstep]
    refine ⟨fun _ => .inl ⟨hopened, hunfinished, rest, hdata, hstage⟩, fun hlate => ?_⟩
    simp [Attachment.late, hpolling] at hlate
  | true =>
    cases hqueue : s.stream.data.queue with
    | cons item queue =>
      have hstep : s.step .pollData =
          { s with
            polling := false
            yielded := s.yielded ++ [item]
            stream := { s.stream with data := s.stream.data.pop } } := by
        simp [Attachment.step, hpolling, AttachStream.pollData, Mpsc.pollRecv, hqueue,
          Attachment.answer]
      rw [hstep]
      refine ⟨fun _ => .inl ⟨hopened, hunfinished, rest, ?_, hstage.congr rfl rfl rfl rfl⟩,
        fun hlate => ?_⟩
      · simp [hdata, Mpsc.pop, hqueue]
      · simp [Attachment.late, hqueue] at hlate
    | nil =>
      cases hclosed : s.stream.data.closed with
      | false =>
        have hstep : s.step .pollData = { s with polling := false } := by
          simp [Attachment.step, hpolling, AttachStream.pollData, Mpsc.pollRecv, hqueue,
            hclosed, Attachment.answer]
        rw [hstep]
        refine ⟨fun _ => .inl ⟨hopened, hunfinished, rest, hdata,
          hstage.congr rfl rfl rfl rfl⟩, fun hlate => ?_⟩
        simp [Attachment.late, hclosed] at hlate
      | true =>
        have hrest : rest = [] := by
          cases hstage with
          | sending _ _ _ hopen _ => simp [hopen] at hclosed
          | sent _ _ _ _ | gone _ _ _ _ => rfl
        have hall : s.yielded = data := by simp [hdata, hqueue, hrest]
        have hlast : ∀ item ∈ s.stream.pendingTerminal, item = terminal := by
          cases hstage with
          | sending _ _ _ _ hnone => simp [hnone]
          | sent _ _ _ hlast | gone _ _ _ hlast => exact hlast
        have hstep : s.step .pollData = s.answer
            { s.stream with ended := true, pendingTerminal := none }
            (.ready s.stream.pendingTerminal) := by
          simp [Attachment.step, hpolling, AttachStream.pollData, Mpsc.pollRecv, hqueue,
            hclosed]
        rw [hstep]
        cases hpending : s.stream.pendingTerminal with
        | none =>
          refine ⟨fun hlate => ?_, fun _ => ⟨rfl, rfl, hall⟩⟩
          simp [Attachment.late, hpolling, hpending, hqueue, hclosed] at hlate
        | some item =>
          have hitem : item = terminal := hlast item hpending
          refine ⟨fun _ => .inr ⟨rfl, rfl, ?_⟩, fun hlate => ?_⟩
          · show s.yielded ++ [item] = data ++ [terminal]
            rw [hall, hitem]
          · simp [Attachment.late, hpending] at hlate

theorem Flow.step (h : Flow data terminal s) (move : Move) :
    (s.late move = false →
      Flow data terminal (s.step move) ∨ Delivered data terminal (s.step move)) ∧
    (s.late move = true → Truncated data (s.step move)) := by
  cases move with
  | send => exact ⟨fun _ => .inl h.send, fun hlate => by cases hlate⟩
  | pollTerminal => exact ⟨fun _ => .inl h.pollTerminal, fun hlate => by cases hlate⟩
  | pollData => exact h.pollData

theorem send_keeps (s : Attachment) :
    s.send.stream.ended = s.stream.ended ∧ s.send.finished = s.finished ∧
      s.send.polling = s.polling ∧ s.send.yielded = s.yielded := by
  unfold Attachment.send
  repeat' split
  all_goals exact ⟨rfl, rfl, rfl, rfl⟩

theorem Delivered.step (h : Delivered data terminal s) (move : Move) :
    s.late move = false ∧ Delivered data terminal (s.step move) := by
  obtain ⟨hended, hidle, hyielded⟩ := h
  cases move with
  | send =>
    obtain ⟨h1, -, h2, h3⟩ := send_keeps s
    exact ⟨rfl, h1.trans hended, h2.trans hidle, h3.trans hyielded⟩
  | pollTerminal =>
    refine ⟨rfl, ?_⟩
    cases hfinished : s.finished <;>
      simp only [Attachment.step, hidle, hfinished, AttachStream.pollTerminal, hended,
        Attachment.answer] <;> exact ⟨hended, by first | exact hidle | rfl, hyielded⟩
  | pollData =>
    have hstep : s.step .pollData = s := by simp [Attachment.step, hidle]
    rw [hstep]
    exact ⟨by simp [Attachment.late, hidle], hended, hidle, hyielded⟩

theorem Truncated.step (h : Truncated data s) (move : Move) : Truncated data (s.step move) := by
  obtain ⟨hfinished, hidle, hyielded⟩ := h
  cases move with
  | send =>
    obtain ⟨-, h1, h2, h3⟩ := send_keeps s
    exact ⟨h1.trans hfinished, h2.trans hidle, h3.trans hyielded⟩
  | pollTerminal =>
    have hstep : s.step .pollTerminal = s := by simp [Attachment.step, hfinished]
    rw [hstep]
    exact ⟨hfinished, hidle, hyielded⟩
  | pollData =>
    have hstep : s.step .pollData = s := by simp [Attachment.step, hidle]
    rw [hstep]
    exact ⟨hfinished, hidle, hyielded⟩

/-! ### Whole runs -/

theorem Delivered.run (h : Delivered data terminal s) (moves : List Move) :
    s.Timely moves ∧ Delivered data terminal (s.run moves) := by
  induction moves generalizing s with
  | nil => exact ⟨trivial, h⟩
  | cons move moves ih =>
    obtain ⟨hlate, hnext⟩ := h.step move
    exact ⟨⟨hlate, (ih hnext).1⟩, (ih hnext).2⟩

theorem Truncated.run (h : Truncated data s) (moves : List Move) :
    Truncated data (s.run moves) := by
  induction moves generalizing s with
  | nil => exact h
  | cons move moves ih => exact ih (h.step move)

/-- A timely run keeps every item, any other run loses the last frame. -/
theorem Flow.run (h : Flow data terminal s) (moves : List Move) :
    (s.Timely moves →
      Flow data terminal (s.run moves) ∨ Delivered data terminal (s.run moves)) ∧
    (¬s.Timely moves → Truncated data (s.run moves)) := by
  induction moves generalizing s with
  | nil => exact ⟨fun _ => .inl h, fun hlate => (hlate trivial).elim⟩
  | cons move moves ih =>
    obtain ⟨htimely, hlate⟩ := h.step move
    cases hcase : s.late move with
    | true =>
      refine ⟨fun hrun => ?_, fun _ => (hlate hcase).run moves⟩
      rw [hrun.1] at hcase
      cases hcase
    | false =>
      rcases htimely hcase with hflow | hdone
      · obtain ⟨hok, hlost⟩ := ih hflow
        exact ⟨fun hrun => hok hrun.2, fun hrun => hlost fun hrest => hrun ⟨hcase, hrest⟩⟩
      · obtain ⟨hall, hend⟩ := hdone.run moves
        exact ⟨fun _ => .inr hend, fun hrun => (hrun ⟨hcase, hall⟩).elim⟩

/-- For every data and last frame of a bridge and every interleaving of its sends with the polls of
the stream: when the stream has given out its first `None`, it gave out the data in order and then
the last frame exactly when no second poll of a `poll_next` came too late. -/
theorem yielded_iff_timely (data : List Item) (terminal : Item) (moves : List Move)
    (hend : ((Attachment.start (fullScript data terminal)).run moves).finished = true) :
    ((Attachment.start (fullScript data terminal)).run moves).yielded = data ++ [terminal] ↔
      (Attachment.start (fullScript data terminal)).Timely moves := by
  have hstart : Flow data terminal (.start (fullScript data terminal)) := flow_start
  obtain ⟨htimely, hlate⟩ := hstart.run moves
  constructor
  · intro hyielded
    by_contra hnot
    rw [(hlate hnot).yielded] at hyielded
    simp at hyielded
  · intro hrun
    rcases htimely hrun with hflow | hdone
    · rw [hflow.unfinished] at hend
      cases hend
    · exact hdone.yielded

def printAndExit : List Send :=
  runAttachBridge .sent [.output (.stdout [104, 105]) .sent, .output (.exit 42 0) .sent]

/-- Both frames and the exit code arrive when the bridge is done before the stream is read. -/
theorem exit_code_delivered :
    ((Attachment.start (fullScript [.frame (.stdout [104, 105])] (.frame (.exit 42 0)))).run
      [.send, .send, .send, .pollTerminal, .pollData, .pollTerminal, .pollData,
        .pollTerminal]).yielded =
      [.frame (.stdout [104, 105])] ++ [.frame (.exit 42 0)] :=
  (yielded_iff_timely _ _ _ (by decide)).2
    ⟨by decide, by decide, by decide, by decide, by decide, by decide, by decide, by decide,
      trivial⟩

/-- The exit code is lost when the bridge sends it and goes away between the two polls of one
`poll_next`. -/
theorem exit_code_lost :
    printAndExit = fullScript [.frame (.stdout [104, 105])] (.frame (.exit 42 0)) ∧
      (let s := (Attachment.start printAndExit).run
        [.send, .pollTerminal, .pollData, .pollTerminal, .send, .send, .pollData]
       s.finished = true ∧ s.yielded = [.frame (.stdout [104, 105])]) := by
  decide

end Attach

end Gascan
