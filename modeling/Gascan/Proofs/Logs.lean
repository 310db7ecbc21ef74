import Gascan.Api.Logs

/-!
# `Gascan.Proofs.Logs`: how a followed log ends, and what it tells

A task that waits in its `select!` when `cancel_streams` notifies leaves its loop and exits within
two moves of its own, provided that the `select!` takes the branch of the notification
(`follow_stops`). A notification that comes while the task reads or sends is lost
(`notification_lost`). What the task sends is the log that it read last (`follow_tells`).
-/

namespace Gascan

open Lib List

namespace Logs

/-- The moves that the task makes itself. -/
def Move.own : Move → Bool
  | .send | .wake | .closed | .elapse | .logs _ => true
  | _ => false

namespace Follow

variable {s s' : Follow}

/-- Whether a move keeps a notification: it is given while the task is registered or has left its
loop, and a `select!` that was woken does not take the branch of the timer. -/
def heeds (s : Follow) : Move → Bool
  | .notify =>
    match s.phase with
    | .selecting _ | .sending _ .leave | .exited => true
    | _ => false
  | .elapse => s.phase ≠ .selecting true
  | _ => true

/-- Every move of a run keeps a notification. -/
def Heeds (s : Follow) : List Move → Prop
  | [] => True
  | move :: moves => s.heeds move = true ∧ ∀ s', s.step move = some s' → s'.Heeds moves

/-- The task has to leave its loop. If it was woken by the notification (`notified`), its last event
is a completed one, unless the client is gone. -/
inductive Leaving (notified : Prop) (s : Follow) : Prop where
  | woken (h : s.phase = .selecting true)
  | sending (event : LogEvent) (h : s.phase = .sending event .leave)
      (hstatus : notified → event.status = .completed)
  | exited (h : s.phase = .exited)
      (hlast : notified → s.connected = true →
        ∃ event ∈ s.sent.getLast?, event.status = .completed)

/-- How many moves of its own a task that has to leave can still make. -/
def movesLeft (s : Follow) : Nat :=
  match s.phase with
  | .selecting _ => 2
  | .sending _ _ => 1
  | _ => 0

/-! ### One move -/

theorem leaving_of_notify (hheeds : s.heeds .notify = true) (hstep : s.step .notify = some s') :
    Leaving (∃ woken, s.phase = .selecting woken) s' ∧ s'.polls = s.polls := by
  cases hphase : s.phase <;> simp only [step, hphase, Option.some.injEq] at hstep <;> subst hstep
  case selecting => exact ⟨.woken rfl, rfl⟩
  case sending event next =>
    cases next with
    | leave => exact ⟨.sending event hphase nofun, rfl⟩
    | loop previous => simp [heeds, hphase] at hheeds
  case exited => exact ⟨.exited hphase nofun, rfl⟩
  case polling => simp [heeds, hphase] at hheeds

variable {notified : Prop}

/-- A task that has to leave reads the log no more, and each of its own moves brings it closer to
its end. -/
theorem Leaving.step (h : Leaving notified s) {move : Move} (hheeds : s.heeds move = true)
    (hstep : s.step move = some s') :
    Leaving notified s' ∧ s'.polls = s.polls ∧
      s'.movesLeft + (if move.own then 1 else 0) ≤ s.movesLeft := by
  cases h with
  | woken hphase =>
    cases move with
    | store | receive | disconnect =>
      cases hstep
      exact ⟨.woken hphase, rfl, le_refl _⟩
    | notify =>
      simp only [Follow.step, hphase, Option.some.injEq] at hstep
      subst hstep
      exact ⟨.woken rfl, rfl, by simp [movesLeft, hphase, Move.own]⟩
    | wake =>
      simp only [Follow.step, hphase, if_true, Option.some.injEq] at hstep
      subst hstep
      exact ⟨.sending _ rfl fun _ => rfl, rfl, by simp [movesLeft, hphase, leave, Move.own]⟩
    | closed =>
      simp only [Follow.step, hphase] at hstep
      split at hstep
      · cases hstep
      · rename_i hgone
        cases hstep
        exact ⟨.exited rfl fun _ hconnected => absurd hconnected hgone, rfl,
          by simp [movesLeft, hphase, Move.own]⟩
    | elapse => simp [heeds, hphase] at hheeds
    | send | logs result => simp [Follow.step, hphase] at hstep
  | sending event hphase hstatus =>
    cases move with
    | store | receive | disconnect =>
      cases hstep
      exact ⟨.sending event hphase hstatus, rfl, le_refl _⟩
    | notify =>
      simp only [Follow.step, hphase, Option.some.injEq] at hstep
      subst hstep
      exact ⟨.sending event hphase hstatus, rfl, le_refl _⟩
    | send =>
      simp only [Follow.step, hphase] at hstep
      split at hstep
      · rename_i hgone
        cases hstep
        refine ⟨.exited rfl fun _ hconnected => ?_, rfl, by simp [movesLeft, hphase, Move.own]⟩
        simp [show s.connected = true from hconnected] at hgone
      · split at hstep
        · cases hstep
          refine ⟨.exited rfl fun hnotified _ => ⟨event, ?_, hstatus hnotified⟩, rfl,
            by simp [movesLeft, hphase, proceed, Move.own]⟩
          simp [proceed]
        · cases hstep
    | wake | closed | elapse | logs result => simp [Follow.step, hphase] at hstep
  | exited hphase hlast =>
    cases move with
    | store | receive =>
      cases hstep
      exact ⟨.exited hphase hlast, rfl, le_refl _⟩
    | notify =>
      simp only [Follow.step, hphase, Option.some.injEq] at hstep
      subst hstep
      exact ⟨.exited hphase hlast, rfl, le_refl _⟩
    | disconnect =>
      cases hstep
      exact ⟨.exited hphase fun _ hconnected => (by cases hconnected), rfl, le_refl _⟩
    | send | wake | closed | elapse | logs result => simp [Follow.step, hphase] at hstep

/-! ### Whole runs -/

theorem Leaving.run (h : Leaving notified s) {moves : List Move} (hheeds : s.Heeds moves)
    (hrun : s.run moves = some s') :
    Leaving notified s' ∧ s'.polls = s.polls ∧
      s'.movesLeft + (moves.filter Move.own).length ≤ s.movesLeft := by
  induction moves generalizing s with
  | nil =>
    cases hrun
    exact ⟨h, rfl, by simp⟩
  | cons move moves ih =>
    obtain ⟨s1, hstep, hrest⟩ := Option.bind_eq_some_iff.1 hrun
    obtain ⟨h1, hpolls1, hleft1⟩ := h.step hheeds.1 hstep
    obtain ⟨h2, hpolls2, hleft2⟩ := ih h1 (hheeds.2 s1 hstep) hrest
    refine ⟨h2, hpolls2.trans hpolls1, ?_⟩
    rw [filter_cons]
    split at hleft1
    · rename_i hown
      rw [if_pos hown, length_cons]
      omega
    · rename_i hown
      rw [if_neg hown]
      omega

/-! ### The end of the task -/

/-- The task exits with a completed event sent last, by at most two moves of its own, once the
client has read enough events. -/
def Finishes (s : Follow) : Prop :=
  ∃ reads moves s', moves.length ≤ 2 ∧ (∀ move ∈ moves, move.own = true) ∧
    s.run (replicate reads .receive ++ moves) = some s' ∧ s'.phase = .exited ∧
    ∃ event ∈ s'.sent.getLast?, event.status = .completed

/-- The client reads events while the task waits. -/
theorem run_receive (s : Follow) (reads : Nat) (moves : List Move) :
    s.run (replicate reads .receive ++ moves) =
      { s with
        channel := { s.channel with queue := s.channel.queue.drop reads } : Follow }.run moves := by
  induction reads generalizing s with
  | zero => rfl
  | succ reads ih =>
    refine (ih { s with channel := s.channel.pop }).trans ?_
    simp only [Mpsc.pop, drop_tail]

/-- A task that has to leave is never stuck: as soon as the channel has room, its own moves take it
to its end. -/
theorem Leaving.finishes (h : Leaving notified s) (hnotified : notified)
    (hconnected : s.connected = true) (hcapacity : 0 < s.channel.capacity) : s.Finishes := by
  cases h with
  | woken hphase =>
    refine ⟨s.channel.queue.length, [.wake, .send], ?_⟩
    simp [run_receive, Follow.run, Follow.step, leave, proceed, hphase, hconnected, hcapacity,
      Mpsc.hasRoom, Move.own]
  | sending event hphase hstatus =>
    refine ⟨s.channel.queue.length, [.send], ?_⟩
    simp [run_receive, Follow.run, Follow.step, proceed, hphase, hconnected, hcapacity,
      Mpsc.hasRoom, Move.own, hstatus hnotified]
  | exited hphase hlast =>
    exact ⟨0, [], s, Nat.zero_le 2, nofun, rfl, hphase, hlast hnotified hconnected⟩

end Follow

/-- After `cancel_streams`, in every run in which the notification finds the task registered (or on
its way out) and a woken `select!` takes the branch of the notification, the task reads the log at
most once more and makes at most two moves.

If it was waiting in its loop and the client is still connected, it exits: two moves of its own are
enough, from every state of the run they can be made once the client has made room in the channel,
and when the task has exited, a completed event was sent last. -/
theorem follow_stops {s s' : Follow} {moves : List Move} (hheeds : s.Heeds (.notify :: moves))
    (hrun : s.run (.notify :: moves) = some s') :
    s'.polls ≤ s.polls + 1 ∧ (moves.filter Move.own).length ≤ 2 ∧
      ((∃ woken, s.phase = .selecting woken) → s'.connected = true →
        ((moves.filter Move.own).length = 2 → s'.phase = .exited) ∧
        (0 < s'.channel.capacity → s'.Finishes) ∧
        (s'.phase = .exited → ∃ event ∈ s'.sent.getLast?, event.status = .completed)) := by
  obtain ⟨s₁, hstep, hrest⟩ := Option.bind_eq_some_iff.1 hrun
  obtain ⟨h₁, hpolls₁⟩ := Follow.leaving_of_notify hheeds.1 hstep
  obtain ⟨h₂, hpolls₂, hleft⟩ := h₁.run (hheeds.2 s₁ hstep) hrest
  have htwo : s₁.movesLeft ≤ 2 := by
    unfold Follow.movesLeft
    split <;> omega
  refine ⟨by omega, by omega, fun hwaiting hconnected => ⟨fun hmoves => ?_, fun hcapacity =>
    h₂.finishes hwaiting hconnected hcapacity, fun hexited => ?_⟩⟩
  · -- No move is left, so the task neither waits nor sends.
    have hnone : s'.movesLeft = 0 := by omega
    cases h₂ with
    | woken h => simp [Follow.movesLeft, h] at hnone
    | sending event h _ => simp [Follow.movesLeft, h] at hnone
    | exited h _ => exact h
  · cases h₂ with
    | woken h => rw [h] at hexited; cases hexited
    | sending event h _ => rw [h] at hexited; cases hexited
    | exited _ hlast => exact hlast hwaiting hconnected

def waiting : Follow := { phase := .selecting false, previous := [97], sequence := 1 }

/-- The task sends its completed event and exits. -/
theorem shutdown_ends_waiting :
    ∃ s', waiting.run [.notify, .wake, .receive, .send] = some s' ∧ s'.polls ≤ 1 ∧
      ∃ event ∈ s'.sent.getLast?, event.status = .completed := by
  have hheeds : waiting.Heeds [.notify, .wake, .receive, .send] := by
    refine ⟨rfl, fun s₁ h₁ => ⟨rfl, fun s₂ h₂ => ⟨rfl, fun s₃ h₃ => ⟨rfl, fun _ _ => trivial⟩⟩⟩⟩
  have hrun : ∃ s', waiting.run [.notify, .wake, .receive, .send] = some s' ∧
      s'.connected = true := ⟨_, rfl, rfl⟩
  obtain ⟨s', hrun, hconnected⟩ := hrun
  obtain ⟨hpolls, -, hends⟩ := follow_stops hheeds hrun
  obtain ⟨hexited, -, hlast⟩ := hends ⟨false, rfl⟩ hconnected
  exact ⟨s', hrun, hpolls, hlast (hexited rfl)⟩

/-- The notification comes while the task reads the log. It is lost: after `cancel_streams` the task
reads the log twice more and still has not left its loop. -/
theorem notification_lost :
    ∃ s s' : Follow, (Follow.start [97]).run [.send, .elapse, .store] = some s ∧
      s.run [.notify, .logs (.ok [97]), .elapse, .logs (.ok [97]), .elapse, .logs (.ok [97])] =
        some s' ∧
      s'.shuttingDown = true ∧ s'.connected = true ∧ s'.polls = s.polls + 2 ∧
      s'.phase = .selecting false :=
  ⟨_, _, rfl, rfl, rfl, rfl, rfl, rfl⟩

/-! ### What a followed log tells -/

/-- The log that a move reads. -/
def Move.log? : Move → Option (List UInt8)
  | .logs (.ok current) => some current
  | _ => none

/-- The log that was read last. -/
def lastLog (log : List UInt8) (moves : List Move) : List UInt8 :=
  moves.foldl (fun log move => move.log?.getD log) log

/-- Every log that is read extends the one before. -/
def Grows (log : List UInt8) : List Move → Prop
  | [] => True
  | move :: moves => log <+: move.log?.getD log ∧ Grows (move.log?.getD log) moves

/-- The events are numbered from one on, as far as the numbers go. -/
def Numbered (events : List LogEvent) : Prop :=
  ∀ event i, (event, i) ∈ events.zipIdx → event.sequence = min (i + 1) (2 ^ 64 - 1)

theorem numbered_append {events : List LogEvent} {event : LogEvent} :
    Numbered (events ++ [event]) ↔
      Numbered events ∧ event.sequence = min (events.length + 1) (2 ^ 64 - 1) := by
  simp [Numbered, zipIdx_append, or_imp, forall_and]

theorem Numbered.increasing {events : List LogEvent} (h : Numbered events)
    (hfew : events.length < 2 ^ 64) : events.Pairwise fun a b => a.sequence < b.sequence := by
  rw [pairwise_iff_getElem]
  intro i j hi hj hij
  have hfirst := h events[i] i (by simp [mk_mem_zipIdx_iff_getElem?])
  have hsecond := h events[j] j (by simp [mk_mem_zipIdx_iff_getElem?])
  omega

/-- The events that a task began to send while it read `log`. -/
structure Begun (log : List UInt8) (sequence : Nat) (events : List LogEvent) : Prop where
  payloads : events.flatMap (·.payload) = log
  numbered : Numbered events
  sequence : sequence = min events.length (2 ^ 64 - 1)
  pending : ∀ event ∈ events.dropLast, event.status = .pending

namespace Follow

variable {s s' : Follow} {log current : List UInt8} {events : List LogEvent} {move : Move}

/-- Where a task is that began these events. -/
def Tells (log : List UInt8) (events : List LogEvent) (s : Follow) : Prop :=
  match s.phase with
  | .selecting _ | .polling =>
    s.sent = events ∧ s.previous = log ∧ ∀ event ∈ events, event.status = .pending
  | .sending event next =>
    s.sent ++ [event] = events ∧ (next = .leave ∨ next = .loop log ∧ event.status = .pending)
  | .exited => s.sent <+: events ∧ (s.connected = true → s.sent = events)

/-- What holds of a task whose last read returned `log`. -/
def Told (log : List UInt8) (s : Follow) : Prop :=
  ∃ events, Begun log s.sequence events ∧ Tells log events s

/-- A task in its loop begins an event. -/
theorem Told.push (h : Told log s) (hphase : s.phase = .polling ∨ s.phase = .selecting true)
    {event : LogEvent} {next : Then} (hpayload : log ++ event.payload = current)
    (hnumber : event.sequence = nextSequence s.sequence)
    (hnext : next = .leave ∨ next = .loop current ∧ event.status = .pending) :
    Told current
      { s with sequence := nextSequence s.sequence, phase := .sending event next } := by
  obtain ⟨events, hbegun, htells⟩ := h
  have hloop : s.sent = events ∧ s.previous = log ∧ ∀ event ∈ events, event.status = .pending := by
    rcases hphase with hphase | hphase <;> simpa only [Tells, hphase] using htells
  have hsequence : nextSequence s.sequence = min (events.length + 1) (2 ^ 64 - 1) := by
    rw [hbegun.sequence, nextSequence]
    omega
  refine ⟨events ++ [event], ⟨?_, ?_, ?_, ?_⟩, congrArg (· ++ [event]) hloop.1, hnext⟩
  · rw [flatMap_append, hbegun.payloads, flatMap_singleton, hpayload]
  · exact numbered_append.2 ⟨hbegun.numbered, hnumber.trans hsequence⟩
  · rw [hsequence, length_append, length_singleton]
  · rw [dropLast_concat]
    exact hloop.2.2

theorem Told.read (h : Told log s) (hphase : s.phase = .polling) (hgrows : log <+: current) :
    Told current (s.read current) := by
  obtain ⟨appended, rfl⟩ := hgrows
  obtain ⟨events, hbegun, htells⟩ := id h
  simp only [Tells, hphase] at htells
  have hdrop : (log ++ appended).dropPrefix? s.previous = some appended :=
    dropPrefix?_eq_some_iff.2 ⟨log, rfl, by simp [htells]⟩
  rw [Follow.read, hdrop]
  dsimp only
  split
  next hempty =>
    obtain rfl := List.isEmpty_iff.1 hempty
    rw [append_nil]
    exact ⟨events, hbegun, htells.1, rfl, htells.2.2⟩
  next => exact h.push (.inl hphase) rfl rfl (.inr ⟨rfl, rfl⟩)

theorem Told.step (h : Told log s) (hgrows : log <+: move.log?.getD log)
    (hstep : s.step move = some s') : Told (move.log?.getD log) s' := by
  cases move with
  | wake =>
    simp only [Follow.step] at hstep
    split at hstep <;> cases hstep
    next hphase => exact h.push (.inr hphase) (append_nil log) rfl (.inl rfl)
  | logs result =>
    simp only [Follow.step] at hstep
    split at hstep
    next hphase =>
      cases result with
      | ok current =>
        cases hstep
        exact h.read hphase hgrows
      | error error =>
        cases hstep
        exact h.push (.inl hphase) (append_nil log) rfl (.inl rfl)
    next => cases hstep
  | store | notify | send | closed | elapse | receive | disconnect =>
    -- No event begins. The one that is through, or given up, is the last that was begun.
    obtain ⟨events, hbegun, htells⟩ := h
    have hpending := hbegun.pending
    have hkept : Tells log events s' ∧ s'.sequence = s.sequence := by
      unfold Tells at htells ⊢
      simp only [Follow.step] at hstep
      grind [proceed]
    exact ⟨events, hkept.2 ▸ hbegun, hkept.1⟩

theorem Told.run (h : Told log s) {moves : List Move} (hgrows : Grows log moves)
    (hrun : s.run moves = some s') : Told (lastLog log moves) s' := by
  induction moves generalizing s log with
  | nil =>
    cases hrun
    exact h
  | cons move moves ih =>
    obtain ⟨s1, hstep, hrest⟩ := Option.bind_eq_some_iff.1 hrun
    exact ih (h.step hgrows.1 hstep) hgrows.2 hrest

theorem told_start (baseline : List UInt8) : Told baseline (start baseline) := by
  refine ⟨_, ⟨?_, ?_, ?_, ?_⟩, rfl, .inr ⟨rfl, rfl⟩⟩ <;> simp [start, Numbered]

end Follow

/-- Following a log that only grows. What the task has sent is the beginning of the log that was
read last, and all of it while the client stays connected, up to an event that waits for room in
the channel. The events are numbered in order, and only the last one can be completed or failed. -/
theorem follow_tells {baseline : List UInt8} {moves : List Move} (hgrows : Grows baseline moves)
    {s : Follow} (hrun : (Follow.start baseline).run moves = some s) :
    s.sent.flatMap (·.payload) <+: lastLog baseline moves ∧
      (s.connected = true →
        s.sent.flatMap (·.payload) = lastLog baseline moves ∨
          ∃ event next, s.phase = .sending event next ∧
            s.sent.flatMap (·.payload) ++ event.payload = lastLog baseline moves) ∧
      (s.sent.length < 2 ^ 64 → s.sent.Pairwise fun a b => a.sequence < b.sequence) ∧
      ∀ event ∈ s.sent.dropLast, event.status = .pending := by
  obtain ⟨events, hbegun, htells⟩ := (Follow.told_start baseline).run hgrows hrun
  have hprefix : s.sent <+: events := by
    unfold Follow.Tells at htells
    grind
  obtain ⟨rest, rfl⟩ := hprefix
  obtain ⟨hpayloads, hnumbered, -, hpending⟩ := hbegun
  rw [flatMap_append] at hpayloads
  refine ⟨hpayloads ▸ prefix_append .., fun hconnected => ?_, fun hfew => ?_, ?_⟩
  · unfold Follow.Tells at htells
    split at htells
    all_goals grind
  · refine Numbered.increasing (fun event i hmem => hnumbered event i ?_) hfew
    rw [zipIdx_append]
    exact mem_append_left _ hmem
  · intro event hevent
    have hmem := dropLast_subset _ hevent
    grind

def grownOnce : List Move :=
  [.send, .elapse, .logs (.ok [97, 98]), .receive, .send, .notify, .wake, .receive, .send]

theorem grownOnce_told :
    ∃ s, (Follow.start [97]).run grownOnce = some s ∧ s.sent.length = 3 ∧
      s.sent.flatMap (·.payload) <+: lastLog [97] grownOnce := by
  have hgrows : Grows [97] grownOnce := by simp [grownOnce, Grows, Move.log?]
  exact ⟨_, rfl, rfl, (follow_tells hgrows rfl).1⟩

end Logs

end Gascan
