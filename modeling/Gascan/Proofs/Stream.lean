import Gascan.Proofs.Served

/-!
# `Gascan.Proofs.Stream`: what the client of an operation reads

The draining task and the client move every event from one end of the two channels to the other and
lose none (`Flow`). An event can be lost only in the `try_send` of the service, when the first
channel is full. In a run in which every `try_send` finds room, the client therefore reads the log
of its operation (`stream_delivers_log`). An `up` with all its steps logs eighteen events, so a task
that does not drain meanwhile costs the last two (`stream_loses_terminal`).
-/

namespace Gascan

open Lib Service List

/-! ### The channels -/

/-- What holds of a stream to which the events `offered` were sent. The channel is open as long as
the request is served. -/
structure Stream.Flow (offered : List OperationEvent) (serving : Bool) (stream : Stream) :
    Prop where
  order : stream.delivered ++ (stream.wire.queue ++ (stream.held.toList ++ stream.source.queue)) =
    offered
  sender : stream.source.closed = !serving
  drained : stream.wire.closed = true →
    serving = false ∧ stream.held = none ∧ stream.source.queue = []
  finished : stream.ended = true → stream.wire.closed = true ∧ stream.wire.queue = []
  room : 0 < stream.wire.capacity

namespace Stream.Flow

variable {offered : List OperationEvent} {serving : Bool} {stream : Stream}

theorem initial : Flow [] true {} := ⟨rfl, rfl, nofun, nofun, by decide⟩

/-- The draining task takes an event out of the first channel, or drops its sender. -/
theorem receive (h : Flow offered serving stream) : Flow offered serving stream.receive := by
  unfold Stream.receive
  split
  · exact h
  · next hidle =>
    rw [not_or] at hidle
    obtain ⟨hheld, hopen⟩ := hidle
    rw [Option.not_isSome_iff_eq_none] at hheld
    have horder := h.order
    rw [hheld] at horder
    cases hqueue : stream.source.queue with
    | cons event rest =>
      rw [hqueue] at horder
      simp only [Mpsc.pollRecv, hqueue]
      refine ⟨?_, h.sender, fun hclosed => absurd hclosed hopen, h.finished, h.room⟩
      simpa [Mpsc.pop, hqueue] using horder
    | nil =>
      simp only [Mpsc.pollRecv, hqueue]
      cases hclosed : stream.source.closed with
      | false => exact h
      | true =>
        -- Nothing is left and nothing will come, since the request is over.
        have hserving : serving = false := by
          have hsender := h.sender
          rw [hclosed] at hsender
          simpa using hsender.symm
        refine ⟨h.order, h.sender, fun _ => ⟨hserving, hheld, hqueue⟩, fun hended => ?_,
          h.room⟩
        exact ⟨rfl, (h.finished hended).2⟩

/-- The draining task puts the event it holds into the second channel. -/
theorem forward (h : Flow offered serving stream) : Flow offered serving stream.forward := by
  unfold Stream.forward
  cases hheld : stream.held with
  | none => exact h
  | some event =>
    dsimp only
    split
    · have hopen : stream.wire.closed ≠ true := by
        intro hclosed
        rw [(h.drained hclosed).2.1] at hheld
        cases hheld
      refine ⟨?_, h.sender, fun hclosed => absurd hclosed hopen,
        fun hended => absurd (h.finished hended).1 hopen, h.room⟩
      have horder := h.order
      rw [hheld] at horder
      simpa [Mpsc.push] using horder
    · exact h

/-- The client reads an event, or sees the end. -/
theorem poll (h : Flow offered serving stream) : Flow offered serving stream.poll := by
  unfold Stream.poll
  cases hqueue : stream.wire.queue with
  | cons event rest =>
    simp only [Mpsc.pollRecv, hqueue]
    refine ⟨?_, h.sender, h.drained, fun hended => ?_, h.room⟩
    · have horder := h.order
      rw [hqueue] at horder
      simpa [Mpsc.pop, hqueue] using horder
    · rw [(h.finished hended).2] at hqueue
      cases hqueue
  | nil =>
    simp only [Mpsc.pollRecv, hqueue]
    cases hclosed : stream.wire.closed with
    | false => exact h
    | true => exact ⟨h.order, h.sender, h.drained, fun _ => ⟨hclosed, hqueue⟩, h.room⟩

/-- Events that find room are not lost. -/
theorem offer (h : Flow offered true stream) {event : Option OperationEvent}
    (hroom : event = none ∨ stream.source.hasRoom = true) :
    Flow (offered ++ event.toList) true (stream.offer event.toList) := by
  cases event with
  | none =>
    rw [Option.toList_none, append_nil]
    exact h
  | some event =>
    have hpush : stream.source.trySend event = stream.source.push event :=
      if_pos (hroom.resolve_left nofun)
    refine ⟨?_, ?_, fun hclosed => ?_, h.finished, h.room⟩
    · show stream.delivered ++ (stream.wire.queue ++ (stream.held.toList ++
        (stream.source.trySend event).queue)) = offered ++ [event]
      rw [hpush, ← h.order]
      simp [Mpsc.push]
    · show (stream.source.trySend event).closed = _
      rw [hpush]
      exact h.sender
    · exact absurd (h.drained hclosed).1 (by decide)

theorem hangUp (h : Flow offered true stream) : Flow offered false stream.hangUp :=
  ⟨h.order, rfl, fun hclosed => ⟨rfl, (h.drained hclosed).2⟩, h.finished, h.room⟩

/-- Nothing is lost when the draining task stops after it has passed everything on. -/
theorem stop (h : Flow offered false stream) (hheld : stream.held = none)
    (hsource : stream.source.queue = []) : Flow offered false stream.stop where
  order := by
    have horder := h.order
    rw [hheld] at horder
    exact horder
  sender := h.sender
  drained _ := ⟨rfl, rfl, hsource⟩
  finished hended := ⟨rfl, (h.finished hended).2⟩
  room := h.room

/-- A client that has seen the end has read everything, and the request is over. -/
theorem delivered (h : Flow offered serving stream) (hended : stream.ended = true) :
    serving = false ∧ stream.delivered = offered := by
  obtain ⟨hclosed, hwire⟩ := h.finished hended
  obtain ⟨hserving, hheld, hsource⟩ := h.drained hclosed
  have horder := h.order
  rw [hwire, hheld, hsource] at horder
  exact ⟨hserving, by simpa using horder⟩

/-- The events that the client has not read yet. -/
def unread (stream : Stream) : Nat :=
  stream.wire.queue.length + stream.held.toList.length + stream.source.queue.length

theorem unread_receive (stream : Stream) : unread stream.receive = unread stream := by
  unfold Stream.receive
  split
  · rfl
  · next hidle =>
    have hheld : stream.held = none := Option.not_isSome_iff_eq_none.1 (not_or.1 hidle).1
    cases hqueue : stream.source.queue with
    | nil =>
      simp only [Mpsc.pollRecv, hqueue]
      split
      · next heq => split at heq <;> cases heq
      · rfl
      · rfl
    | cons event rest =>
      simp [unread, Mpsc.pollRecv, Mpsc.pop, hqueue, hheld]
      omega

theorem unread_forward (stream : Stream) : unread stream.forward = unread stream := by
  unfold Stream.forward
  cases hheld : stream.held with
  | none => rfl
  | some event =>
    dsimp only
    split
    · simp [unread, Mpsc.push, hheld]
    · rfl

/-- The next event is at hand once the draining task had its turn. -/
theorem wire_round (h : Flow offered serving stream) (hunread : unread stream ≠ 0) :
    stream.receive.forward.wire.queue ≠ [] := by
  by_cases hwire : stream.wire.queue = []
  · -- The second channel is empty, so it has room for the event that is held or received now.
    have hopen : ¬ stream.wire.closed = true := by
      intro hclosed
      obtain ⟨-, hheld, hsource⟩ := h.drained hclosed
      exact hunread (by simp [unread, hwire, hheld, hsource])
    have hroom : stream.wire.hasRoom = true := by
      simp [Mpsc.hasRoom, hwire, h.room]
    cases hheld : stream.held with
    | some event => simp [Stream.receive, Stream.forward, Mpsc.push, hheld, hroom]
    | none =>
      cases hsource : stream.source.queue with
      | nil => exact absurd (by simp [unread, hwire, hheld, hsource]) hunread
      | cons event rest =>
        simp [Stream.receive, Stream.forward, Mpsc.pollRecv, Mpsc.push, hheld, hopen, hsource,
          hroom]
  · have hreceive : stream.receive.wire.queue = stream.wire.queue := by
      unfold Stream.receive
      split
      · rfl
      · split <;> rfl
    unfold Stream.forward
    cases stream.receive.held with
    | none =>
      dsimp only
      rw [hreceive]
      exact hwire
    | some event =>
      dsimp only
      split
      · simp [Mpsc.push]
      · rw [hreceive]
        exact hwire

/-- A round of the draining task and the client brings one more event to the client, as long as
there is one. -/
theorem unread_round (h : Flow offered serving stream) (hunread : unread stream ≠ 0) :
    unread stream.receive.forward.poll < unread stream := by
  have hsame : unread stream.receive.forward = unread stream := by
    rw [unread_forward, unread_receive]
  have hwire := wire_round h hunread
  rw [← hsame]
  unfold Stream.poll
  cases hqueue : stream.receive.forward.wire.queue with
  | nil => exact absurd hqueue hwire
  | cons event rest => simp [unread, Mpsc.pollRecv, Mpsc.pop, hqueue]

/-- Once the request is over and everything was read, the next round shows the end. -/
theorem ended_round (h : Flow offered false stream) (hunread : unread stream = 0) :
    stream.receive.forward.poll.ended = true := by
  have hclosed : stream.source.closed = true := h.sender
  have hwire : stream.wire.queue = [] :=
    eq_nil_of_length_eq_zero (by unfold unread at hunread; omega)
  have hsource : stream.source.queue = [] :=
    eq_nil_of_length_eq_zero (by unfold unread at hunread; omega)
  have hheld : stream.held = none := by
    cases hheld : stream.held with
    | none => rfl
    | some event => simp [unread, hheld] at hunread
  by_cases hdone : stream.wire.closed = true
  · simp [Stream.receive, Stream.forward, Stream.poll, Mpsc.pollRecv, hheld, hdone, hwire]
  · simp [Stream.receive, Stream.forward, Stream.poll, Mpsc.pollRecv, Mpsc.close, hheld, hdone,
      hwire, hsource, hclosed]

/-- Once the request is over, the client sees the end after finitely many rounds. -/
theorem ends (h : Flow offered false stream) :
    ∃ n, ((fun stream => stream.receive.forward.poll)^[n] stream).ended = true := by
  induction hunread : unread stream using Nat.strong_induction_on generalizing stream with
  | _ rounds ih =>
    by_cases hzero : unread stream = 0
    · exact ⟨1, ended_round h hzero⟩
    · obtain ⟨n, hn⟩ := ih _ (hunread ▸ unread_round h hzero) h.receive.forward.poll rfl
      exact ⟨n + 1, hn⟩

end Stream.Flow

/-! ### The log of an operation that ended -/

variable {o : OperationId} {w : World} {operation : Option OperationId}
  {events : List OperationEvent}

/-- The log of an operation that ended does not change any more. -/
theorem StoreOp.run_log {s s' : Store} (hs : s.Inv) {now : Int} {op : StoreOp}
    {result : op.Result} (h : op.run s now = .ok (result, s')) (ho : s.Ended o) :
    s'.operationEvents o = s.operationEvents o := by
  obtain ⟨operation, hfound, hended⟩ := ho
  refine run_operationEvents hs h hfound fun ho => ?_
  -- A transaction that appends to a log finds its operation pending.
  have hwrites := StoreOp.writes_of_run h
  cases op with
  | appendOperationEvent o' details =>
    obtain rfl := Option.some.inj ho
    obtain ⟨pending, hpending, hstatus, -⟩ := hwrites
    exact hended (Option.some.inj (hpending.symm.trans hfound) ▸ hstatus)
  | finishOperation o' actual status code details clear =>
    obtain ⟨pending, row, rfl, hpending, hstatus, -⟩ := hwrites
    obtain rfl := Option.some.inj ho
    exact hended (Option.some.inj (hpending.symm.trans hfound) ▸ hstatus)
  | _ => cases ho

theorem perform_log (hw : w.store.Inv) (c : Cmd) (x : Choice) (ho : w.store.Ended o) :
    (perform c x w).2.store.operationEvents o = w.store.operationEvents o :=
  perform_rel (R := fun s s' => s'.operationEvents o = s.operationEvents o) (fun _ => rfl) x
    fun _ _ _ _ _ _ hrun => StoreOp.run_log hw hrun ho

/-- What a request that is over told its client: the whole log of its operation, which has ended, or
nothing when it recorded none. -/
def Told (operation : Option OperationId) (events : List OperationEvent) (w : World) : Prop :=
  match operation with
  | none => events = []
  | some o => w.store.Ended o ∧ w.store.operationEvents o = events ∧
    ∃ last ∈ events.getLast?, last.status ≠ .pending

theorem Told.of_answered {known : OperationRecord → Prop} {id : SandboxId} {s : Session}
    (h : Answered known id s) : Told s.operation s.sent s.world := by
  rcases h with ⟨_, h⟩ | ⟨o, h⟩
  · rw [h.unrecorded, h.silent]
    rfl
  · rw [h.recorded]
    have hlog : s.world.store.operationEvents o = s.sent := by
      rw [h.log, append_nil]
    obtain ⟨operation, hmem, rfl, hid⟩ := h.mine
    refine ⟨⟨operation, h.free.1.operation?_eq_some.2 ⟨hmem, rfl⟩, fun hpending => ?_⟩, hlog,
      hlog ▸ h.terminal⟩
    exact h.free.2 operation hmem hid hpending

theorem Told.perform (h : Told operation events w) (hw : w.store.Inv) (c : Cmd) (x : Choice) :
    Told operation events (Gascan.perform c x w).2 := by
  cases operation with
  | none => exact h
  | some o =>
    obtain ⟨hended, hlog, hlast⟩ := h
    exact ⟨hended.extends (perform_extends c x w), (perform_log hw c x hended).trans hlog, hlast⟩

theorem Told.outside {w' : World} (h : Told operation events w) (hstore : w'.store = w.store) :
    Told operation events w' := by
  cases operation with
  | none => exact h
  | some o =>
    unfold Told
    rw [hstore]
    exact h

/-! ### The daemon and the stream -/

/-- A command sends at most one event. -/
theorem Cmd.exists_sent (c : Cmd) (r : Reply c) :
    ∃ event : Option OperationEvent, c.sent r = event.toList := by
  unfold Cmd.sent
  split
  · exact ⟨_, rfl⟩
  · exact ⟨none, rfl⟩

namespace Streaming

/-- The steps of a daemon that serves its requests, with its client and the draining task. -/
def Undisrupted (s : Streaming) : Move → Prop
  | .system event => System.Undisrupted s.system event
  | _ => True

/-- Every `try_send` of the watched request finds room. -/
def HasRoom (id : SandboxId) (s : Streaming) : Move → Prop
  | .system (.advance request c x) => s.serving = true → request.id = id →
    c.sent (perform c x s.system.world).1 = [] ∨ s.stream.source.hasRoom = true
  | _ => True

/-- The steps of a daemon that serves its requests, while the stream is drained in time. -/
def Prompt (id : SandboxId) (s : Streaming) (move : Move) : Prop :=
  s.Undisrupted move ∧ s.HasRoom id move

/-- What holds of a daemon and the stream of its request on `id`, after `offered` was sent. -/
structure Watched (known : OperationRecord → Prop) (id : SandboxId) (image : String)
    (tasks : List Task) (accounts : Accounts) (offered : List OperationEvent) (s : Streaming) :
    Prop where
  daemon : s.system.daemon = .serving image tasks
  serves : Serving known s.system.world tasks accounts
  flow : s.stream.Flow offered s.serving
  running : s.serving = true → id ∈ tasks.map Task.id ∧ accounts id = (s.operation, offered)
  told : s.serving = false → Told s.operation offered s.system.world

namespace Watched

variable {known : OperationRecord → Prop} {id : SandboxId} {image : String}
  {tasks before after : List Task} {accounts : Accounts} {offered : List OperationEvent}
  {s : Streaming}

theorem advance {request : Request} {c : Cmd} {k : Reply c → Svc OperationId} {x : Choice}
    (h : Watched known id image (before ++ ⟨request, .call c k⟩ :: after) accounts offered s)
    (hallows : requestAllows request.id c x s.system.world = true)
    (hroom : s.HasRoom id (.system (.advance request c x))) :
    ∃ offered', Watched known id image
      (before ++ ⟨request, k (perform c x s.system.world).1⟩ :: after)
      (accounts.after s.system.world (.advance request c x)) offered'
      (s.observe id (.advance request c x) ⟨(perform c x s.system.world).2,
        .serving image (before ++ ⟨request, k (perform c x s.system.world).1⟩ :: after)⟩) := by
  have hids : (before ++ ⟨request, k (perform c x s.system.world).1⟩ :: after).map Task.id =
      (before ++ ⟨request, .call c k⟩ :: after).map Task.id := by
    simp only [map_append, map_cons]
  by_cases hmine : s.serving = true ∧ request.id = id
  · obtain ⟨hserving, rfl⟩ := hmine
    obtain ⟨hheld, haccount⟩ := h.running hserving
    refine ⟨offered ++ c.sent (perform c x s.system.world).1, ?_⟩
    simp only [observe, hserving, and_self, if_true]
    refine ⟨rfl, h.serves.advance hallows, ?_, fun _ => ⟨hids ▸ hheld, ?_⟩, nofun⟩
    · obtain ⟨event, hevent⟩ := c.exists_sent (perform c x s.system.world).1
      have hfree := hroom hserving rfl
      rw [hevent] at hfree ⊢
      refine (hserving ▸ h.flow).offer (hfree.imp_left fun hnil => ?_)
      exact Option.toList_eq_nil_iff.1 hnil
    · simp only [Accounts.after, if_true, haccount]
  · refine ⟨offered, ?_⟩
    simp only [observe, if_neg hmine]
    refine ⟨rfl, h.serves.advance hallows, h.flow, fun hserving => ?_, fun hserving => ?_⟩
    · obtain ⟨hheld, haccount⟩ := h.running hserving
      have hne : request.id ≠ id := fun heq => hmine ⟨hserving, heq⟩
      refine ⟨hids ▸ hheld, ?_⟩
      simp only [Accounts.after, if_neg hne]
      exact haccount
    · exact (h.told hserving).perform h.serves.inv c x

theorem ended {task : Task}
    (h : Watched known id image (before ++ task :: after) accounts offered s)
    (hanswered : Answered known task.id (accounts.session task.id s.system.world)) :
    Watched known id image (before ++ after) accounts offered
      (if s.serving = true ∧ task.id = id then
        ⟨⟨s.system.world, .serving image (before ++ after)⟩, false, s.operation, s.stream.hangUp⟩
      else { s with system := ⟨s.system.world, .serving image (before ++ after)⟩ }) := by
  have hserves := h.serves.ended hanswered.ready
  by_cases hmine : s.serving = true ∧ task.id = id
  · rw [if_pos hmine]
    obtain ⟨hserving, rfl⟩ := hmine
    refine ⟨rfl, hserves, (hserving ▸ h.flow).hangUp, nofun, fun _ => ?_⟩
    have htold := Told.of_answered hanswered
    rw [Accounts.session, (h.running hserving).2] at htold
    exact htold
  · rw [if_neg hmine]
    refine ⟨rfl, hserves, h.flow, fun hserving => ?_, h.told⟩
    obtain ⟨hheld, haccount⟩ := h.running hserving
    refine ⟨?_, haccount⟩
    obtain ⟨other, hother, hid⟩ := mem_map.1 hheld
    rcases Serving.mem_around.1 hother with rfl | hother
    · exact absurd ⟨hserving, hid⟩ hmine
    · exact mem_map.2 ⟨other, hother, hid⟩

section

variable (h : Watched known id image tasks accounts offered s)

include h

/-- A new request. It is one on another sandbox while the watched one is served. -/
theorem request {request : Request} (hfree : ∀ task ∈ tasks, task.id ≠ request.id) :
    Watched known id image (tasks ++ [⟨request, request.program image⟩])
      (accounts.after s.system.world (.request request)) offered
      { s with system := ⟨s.system.world,
          .serving image (tasks ++ [⟨request, request.program image⟩])⟩ } := by
  refine ⟨rfl, h.serves.request image request hfree, h.flow, fun hserving => ?_, h.told⟩
  obtain ⟨hheld, haccount⟩ := h.running hserving
  obtain ⟨task, htask, rfl⟩ := mem_map.1 hheld
  have hne : request.id ≠ task.id := (hfree task htask).symm
  refine ⟨?_, ?_⟩
  · rw [map_append]
    exact mem_append_left _ hheld
  · simp only [Accounts.after, if_neg hne]
    exact haccount

theorem outside {w : World} (hstore : w.store = s.system.world.store) :
    Watched known id image tasks accounts offered
      { s with system := ⟨w, .serving image tasks⟩ } :=
  ⟨rfl, h.serves.outside hstore, h.flow, h.running, fun hserving =>
    (h.told hserving).outside hstore⟩

theorem step {move : Move} {s' : Streaming}
    (hstep : Step id s move s') (hprompt : s.Prompt id move) :
    ∃ tasks' accounts' offered', Watched known id image tasks' accounts' offered' s' := by
  cases hstep with
  | receive =>
    exact ⟨tasks, accounts, offered, h.daemon, h.serves, h.flow.receive, h.running, h.told⟩
  | forward =>
    exact ⟨tasks, accounts, offered, h.daemon, h.serves, h.flow.forward, h.running, h.told⟩
  | poll => exact ⟨tasks, accounts, offered, h.daemon, h.serves, h.flow.poll, h.running, h.told⟩
  | system event system hlives hstep =>
    obtain ⟨⟨w, daemon⟩, serving, operation, stream⟩ := s
    obtain rfl : daemon = .serving image tasks := h.daemon
    obtain ⟨hallowed, hroom⟩ := hprompt
    cases hstep with
    | request _ _ _ request hfree => exact ⟨_, _, offered, h.request hfree⟩
    | advance _ _ before after request c k x =>
      obtain ⟨offered', h'⟩ := h.advance hallowed hroom
      exact ⟨_, _, offered', h'⟩
    | returned _ _ before after request o =>
      exact ⟨_, accounts, offered, h.ended (h.serves.serves _ (Serving.mem_around.2 (.inl rfl)))⟩
    | threw _ _ before after request error =>
      exact ⟨_, accounts, offered, h.ended (h.serves.serves _ (Serving.mem_around.2 (.inl rfl)))⟩
    | crash => exact absurd rfl hlives
    | outside _ w' _ hstore => exact ⟨tasks, accounts, offered, h.outside hstore⟩

/-- The draining task is stopped after the request, when it has passed everything on. -/
theorem stop (hover : s.serving = false)
    (hheld : s.stream.held = none) (hsource : s.stream.source.queue = []) :
    Watched known id image tasks accounts offered { s with stream := s.stream.stop } where
  daemon := h.daemon
  serves := h.serves
  flow := by
    have hflow := h.flow
    rw [hover] at hflow
    show s.stream.stop.Flow offered s.serving
    rw [hover]
    exact hflow.stop hheld hsource
  running := h.running
  told := h.told

end

/-- A request was accepted, and its stream is empty. -/
theorem start {w : World} (hs : System.Reachable ⟨w, .serving image []⟩) {s s1 : System}
    (hrun : System.RunsWithin System.Undisrupted ⟨w, .serving image []⟩ s) {request : Request}
    (hrequest : System.Step s (.request request) s1) :
    ∃ tasks accounts offered, Watched (· ∈ w.store.operations) request.id image tasks accounts
      offered { system := s1 } := by
  obtain ⟨w0, tasks, accounts, rfl, hserving⟩ := serving_of_runsWithin hs hrun
  cases hrequest with
  | request _ _ _ _ hfree =>
    refine ⟨_, _, [], rfl, hserving.request image request hfree, .initial, fun _ => ⟨?_, ?_⟩,
      nofun⟩
    · simp
    · simp [Accounts.after]

/-- A client that has seen the end has read the log of the operation. -/
theorem delivered (h : Watched known id image tasks accounts offered s)
    (hended : s.stream.ended = true) :
    match s.operation with
    | none => s.stream.delivered = []
    | some o => s.stream.delivered = s.system.world.store.operationEvents o ∧
      ∃ last ∈ s.stream.delivered.getLast?, last.status ≠ .pending := by
  obtain ⟨hover, hdelivered⟩ := h.flow.delivered hended
  have htold := h.told hover
  rw [hdelivered]
  cases hoperation : s.operation with
  | none =>
    rw [hoperation] at htold
    exact htold
  | some o =>
    rw [hoperation] at htold
    exact ⟨htold.2.1.symm, htold.2.2⟩

end Watched

/-- In every run of a daemon that serves its requests, after a request was accepted, if every
`try_send` of that request finds room in the channel, then a client that has seen the end of its
stream has read exactly the log of the operation that the request recorded, up to its `Completed` or
`Failed` event, and nothing when it recorded none. Once the request is over, the client does see the
end. -/
theorem stream_delivers_log {w : World} {image : String}
    (hs : System.Reachable ⟨w, .serving image []⟩) {s s₁ : System}
    (hrun : System.RunsWithin System.Undisrupted ⟨w, .serving image []⟩ s) {request : Request}
    (hrequest : System.Step s (.request request) s₁) {t : Streaming}
    (hstream : RunsWithin request.id (Prompt request.id) { system := s₁ } t) :
    (t.stream.ended = true →
      match t.operation with
      | none => t.stream.delivered = []
      | some o => t.stream.delivered = t.system.world.store.operationEvents o ∧
        ∃ last ∈ t.stream.delivered.getLast?, last.status ≠ .pending) ∧
      (t.serving = false →
        ∃ n, ((fun stream => stream.receive.forward.poll)^[n] t.stream).ended = true) := by
  have hwatched : ∃ tasks accounts offered, Watched (· ∈ w.store.operations) request.id image tasks
      accounts offered t := by
    induction hstream with
    | refl => exact Watched.start hs hrun hrequest
    | tail _ hstep ih =>
      obtain ⟨tasks', accounts', offered', h⟩ := ih
      obtain ⟨move, hprompt, hstep⟩ := hstep
      exact h.step hstep hprompt
  obtain ⟨tasks, accounts, offered, h⟩ := hwatched
  exact ⟨h.delivered, fun hover => (hover ▸ h.flow).ends⟩

/-! ### A request that is served alone -/

/-- The world, the operation and the stream of a request that is served alone. -/
structure Alone where
  world : World
  operation : Option OperationId := none
  stream : Stream := {}

/-- What a command does while nobody drains the stream. -/
def Alone.perform (c : Cmd) (x : Choice) (s : Alone) : Reply c × Alone :=
  let r := Gascan.perform c x s.world
  (r.1, ⟨r.2, (c.recorded r.1).or s.operation, s.stream.offer (c.sent r.1)⟩)

/-- The daemon that serves the request, with the program that is left. -/
def Alone.serving (s : Alone) (image : String) (request : Request) (p : Svc OperationId) :
    Streaming :=
  ⟨⟨s.world, .serving image [⟨request, p⟩]⟩, true, s.operation, s.stream⟩

/-- The daemon after the request. -/
def Alone.served (s : Alone) (image : String) : Streaming :=
  ⟨⟨s.world, .serving image []⟩, false, s.operation, s.stream.hangUp⟩

/-- The steps that are no command: the end of a request, and the turns of the draining task and the
client. -/
def Move.isQuiet : Move → Bool
  | .system (.returned ..) | .system (.threw ..) | .receive | .forward | .poll => true
  | _ => false

theorem undisrupted_of_isQuiet {s : Streaming} {move : Move} (h : move.isQuiet = true) :
    s.Undisrupted move := by
  cases move with
  | system event => cases event <;> trivial
  | _ => trivial

variable {id : SandboxId}

theorem hasRoom_of_isQuiet {s : Streaming} {move : Move} (h : move.isQuiet = true) :
    s.HasRoom id move := by
  cases move with
  | system event => cases event <;> trivial
  | _ => trivial

section Runs

variable {image : String} {request : Request} {allowed : Streaming → Move → Prop}
  (hquiet : ∀ s move, move.isQuiet = true → allowed s move)

include hquiet

/-- A request alone, with one choice for every command, as a run of the daemon. -/
theorem runsWithin_alone (test : Cmd → Choice → Alone → Bool) {x : Choice}
    (hadvance : ∀ (c : Cmd) (s : Alone) p, test c x s = true →
      allowed (s.serving image request p) (.system (.advance request c x)))
    (p : Svc OperationId) {s : Alone} (h : p.check Alone.perform test x s = true) :
    RunsWithin request.id allowed (s.serving image request p)
      ((p.exec Alone.perform x s).2.served image) := by
  induction p generalizing s with
  | pure a =>
    have hstep : System.Step ⟨s.world, .serving image [⟨request, .pure a⟩]⟩ (.returned request a)
        ⟨s.world, .serving image []⟩ := .returned s.world image [] [] request a
    refine .single ⟨.system (.returned request a), hquiet _ _ rfl, ?_⟩
    simpa [observe, Alone.serving, Alone.served] using
      (Step.system (s.serving image request (.pure a)) _ _ (by nofun) hstep : Step request.id _ _ _)
  | throw e =>
    have hstep : System.Step ⟨s.world, .serving image [⟨request, .throw e⟩]⟩ (.threw request e)
        ⟨s.world, .serving image []⟩ := .threw s.world image [] [] request e
    refine .single ⟨.system (.threw request e), hquiet _ _ rfl, ?_⟩
    simpa [observe, Alone.serving, Alone.served] using
      (Step.system (s.serving image request (.throw e)) _ _ (by nofun) hstep :
        Step request.id _ _ _)
  | call c k ih =>
    obtain ⟨hc, hk⟩ := Bool.and_eq_true_iff.1 h
    have hstep : System.Step ⟨s.world, .serving image [⟨request, .call c k⟩]⟩
        (.advance request c x) ⟨(Gascan.perform c x s.world).2,
          .serving image [⟨request, k (Gascan.perform c x s.world).1⟩]⟩ :=
      .advance s.world image [] [] request c k x
    refine .head ⟨_, hadvance c s _ hc, ?_⟩ (ih _ hk)
    simpa [observe, Alone.serving, Alone.perform] using
      (Step.system (s.serving image request (.call c k)) _ _ (by nofun) hstep :
        Step request.id _ _ _)

/-- The draining task and the client may always take their turns. -/
theorem runsWithin_rounds {id : SandboxId} (rounds : Nat) (s : Streaming) :
    RunsWithin id allowed s
      { s with stream := (fun stream => stream.receive.forward.poll)^[rounds] s.stream } := by
  induction rounds generalizing s with
  | zero => exact .refl
  | succ rounds ih =>
    refine .head ⟨.receive, hquiet s _ rfl, .receive s⟩
      (.head ⟨.forward, hquiet _ _ rfl, .forward _⟩ (.head ⟨.poll, hquiet _ _ rfl, .poll _⟩ ?_))
    exact ih _

end Runs

/-- The daemon after an `up` that was served alone, when everything succeeds, nobody drains the
stream meanwhile, and the given number of rounds follows. -/
def drainedLate (world : World) (spec : SandboxSpec) (rounds : Nat) : Streaming :=
  let served := ((upInner demoImage spec).exec Alone.perform {} { world }).2.served demoImage
  { served with stream := (fun stream => stream.receive.forward.poll)^[rounds] served.stream }

theorem runsWithin_drainedLate {allowed : Streaming → Move → Prop}
    (hquiet : ∀ s move, move.isQuiet = true → allowed s move) (world : World) (spec : SandboxSpec)
    (rounds : Nat) (test : Cmd → Choice → Alone → Bool)
    (hadvance : ∀ (c : Cmd) (s : Alone) p, test c {} s = true →
      allowed (s.serving demoImage (.up spec) p) (.system (.advance (.up spec) c {})))
    (h : (upInner demoImage spec).check Alone.perform test {} { world } = true) :
    RunsWithin spec.id allowed
      (Alone.serving { world } demoImage (.up spec) (upInner demoImage spec))
      (drainedLate world spec rounds) :=
  .trans (runsWithin_alone hquiet test hadvance (upInner demoImage spec) h)
    (runsWithin_rounds hquiet rounds _)

/-- Whether a command finds the environment it needs, and room in the channel. -/
def promptTest (c : Cmd) (x : Choice) (s : Alone) : Bool :=
  requestAllows demoId c x s.world &&
    ((c.sent (perform c x s.world).1).isEmpty || s.stream.source.hasRoom)

theorem prompt_of_isQuiet (s : Streaming) (move : Move) (h : move.isQuiet = true) :
    s.Prompt id move :=
  ⟨undisrupted_of_isQuiet h, hasRoom_of_isQuiet h⟩

theorem prompt_of_promptTest {c : Cmd} {x : Choice} {s : Alone} {p : Svc OperationId}
    (h : promptTest c x s = true) :
    (s.serving demoImage (.up demoSpec) p).Prompt demoId
      (.system (.advance (.up demoSpec) c x)) := by
  obtain ⟨hallows, hroom⟩ := Bool.and_eq_true_iff.1 h
  refine ⟨hallows, fun _ _ => ?_⟩
  show c.sent (perform c x s.world).1 = [] ∨ s.stream.source.hasRoom = true
  simpa using hroom

/-- Without tools, setup and SSH an `up` finds room for all its events. -/
theorem runsWithin_offline_up (rounds : Nat) :
    RunsWithin demoId (Prompt demoId)
      (Alone.serving { world := demoWorld } demoImage (.up demoSpec) (upInner demoImage demoSpec))
      (drainedLate demoWorld demoSpec rounds) :=
  runsWithin_drainedLate prompt_of_isQuiet demoWorld demoSpec rounds promptTest
    (fun _ _ _ => prompt_of_promptTest) (by decide +kernel)

/-- Without tools, setup and SSH an `up` logs twelve events, and the channel holds them all. -/
theorem stream_delivers_offline_up :
    let t := drainedLate demoWorld demoSpec 13
    t.stream.ended = true ∧
      match t.operation with
      | none => t.stream.delivered = []
      | some o => t.stream.delivered = t.system.world.store.operationEvents o ∧
        ∃ last ∈ t.stream.delivered.getLast?, last.status ≠ .pending := by
  have hended : (drainedLate demoWorld demoSpec 13).stream.ended = true := by decide +kernel
  exact ⟨hended, (stream_delivers_log demoWorld_reachable .refl
    (.request demoWorld demoImage [] (.up demoSpec) (by simp)) (runsWithin_offline_up 13)).1 hended⟩

/-- With tools, setup and SSH an `up` that succeeds logs eighteen events. When the stream is drained
only after the request, the client sees its end after sixteen of them, and not the `Completed`
event. -/
theorem stream_loses_terminal :
    let t := drainedLate fullWorld fullSpec 17
    System.Reachable ⟨fullWorld, .serving demoImage []⟩ ∧
      RunsWithin demoId Undisrupted
        (Alone.serving { world := fullWorld } demoImage (.up fullSpec)
          (upInner demoImage fullSpec)) t ∧
      t.stream.ended = true ∧ t.operation = some 1 ∧ t.stream.delivered.length = 16 ∧
      (∀ event ∈ t.stream.delivered, event.status = .pending) ∧
      (t.system.world.store.operationEvents 1).map (·.status) =
        List.replicate 17 .pending ++ [.completed] := by
  refine ⟨fullWorld_reachable, ?_, by decide +kernel⟩
  exact runsWithin_drainedLate (fun _ _ => undisrupted_of_isQuiet) fullWorld fullSpec 17
    (fun c x s => requestAllows demoId c x s.world) (fun _ _ _ htest => htest) (by decide +kernel)

end Streaming

end Gascan
