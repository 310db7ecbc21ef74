import Gascan.Api.Activity

/-!
# `Gascan.Proofs.Activity`: no operation survives the shutdown

The counter of the tracker is the number of calls that are counted, in every run. A waiter that
reads zero therefore reads it in a state without leases, and once `accepting` is false the second
check of `admit_operation` grants no new one: `no_lease_after_drain`. The waiter is not left asleep
either: `wait_returns` says that it returns once the calls have ended.
-/

namespace Gascan.Activity

open Tracker List

/-! ### What one move does -/

/-- The phase that a call enters when it moves. -/
def Tracker.nextPhase (t : Tracker) (call : Call) : Phase :=
  match call.phase with
  | .check => if t.accepting then .start else .ended
  | .start => .startBump
  | .startBump => .startNotify
  | .startNotify => if call.admitting then .recheck else .lease
  | .recheck => if t.accepting then .lease else .finish
  | .lease => .finish
  | .finish => .finishBump
  | .finishBump => .finishNotify
  | .finishNotify => .ended
  | .ended => .ended

section

variable (t : Tracker) (i : Nat) (call : Call)

@[simp] theorem accepting_moveCall : (t.moveCall i call).accepting = t.accepting := by
  unfold moveCall
  cases call.phase <;> rfl

/-- A call that moves leaves the waiters as they are, or notifies them all. -/
theorem waiters_moveCall :
    (t.moveCall i call).waiters =
      if call.phase = .startNotify ∨ call.phase = .finishNotify then t.notifyWaiters.waiters
      else t.waiters := by
  unfold moveCall
  cases call.phase <;> rfl

theorem calls_moveCall (h : t.calls[i]? = some call) :
    (t.moveCall i call).calls = t.calls.set i ⟨call.admitting, t.nextPhase call⟩ := by
  obtain ⟨admitting, phase⟩ := call
  cases phase with
  | ended =>
    -- A call that has ended stays as it is, so its entry is set to what it was.
    obtain ⟨hi, hcall⟩ := List.getElem?_eq_some_iff.1 h
    show t.calls = t.calls.set i ⟨admitting, .ended⟩
    rw [← hcall, set_getElem_self]
  | _ => rfl

theorem operations_moveCall :
    (t.moveCall i call).operations =
      match call.phase with
      | .start => t.operations + 1
      | .finish => t.operations - 1
      | _ => t.operations := by
  unfold moveCall
  cases call.phase <;> rfl

theorem step_call : t.step (.call i) = t.calls[i]?.elim t (t.moveCall i) := by
  cases h : t.calls[i]? <;> simp [Tracker.step, h]

theorem step_waiter : t.step (.waiter i) = t.waiters[i]?.elim t fun w =>
      { t with waiters := t.waiters.set i (t.moveWaiter w) } := by
  cases h : t.waiters[i]? <;> simp [Tracker.step, h]

end

/-! ### The invariant -/

/-- Whether a waiter sleeps until the next notification. -/
def Waiter.asleep (w : Waiter) : Prop := w.phase = .await ∧ w.notified = false

/-- Whether a call will notify the waiters before it ends. -/
def Phase.notifies (phase : Phase) : Prop :=
  phase.counted ∨ phase = .finishBump ∨ phase = .finishNotify

/-- What every run preserves. -/
structure Tracker.Inv (t : Tracker) : Prop where
  /-- The counter is the number of counted calls. -/
  counted : t.operations = t.calls.countP (·.phase.counted)
  /-- A waiter is late only once the admission is closed. -/
  closed : ∀ w ∈ t.waiters, w.late → t.accepting = false
  /-- A late waiter returns only when no admitted lease is alive, and none appears later. -/
  drained : ∀ w ∈ t.waiters, w.late → w.phase = .returned →
    ∀ call ∈ t.calls, call.admitting → call.phase ≠ .lease
  /-- Whoever sleeps will be notified by some call. -/
  notified : ∀ w ∈ t.waiters, w.asleep → ∃ call ∈ t.calls, call.phase.notifies

theorem inv_initial : ({} : Tracker).Inv where
  counted := rfl
  closed := by simp
  drained := by simp
  notified := by simp

/-- A new call is not counted yet and holds no lease. -/
theorem Tracker.Inv.append {t : Tracker} (h : t.Inv) {call : Call}
    (hcounted : call.phase.counted = false) :
    ({ t with calls := t.calls ++ [call] } : Tracker).Inv where
  counted := by
    show t.operations = (t.calls ++ [call]).countP _
    rw [countP_append, ← h.counted, countP_singleton, hcounted]
    rfl
  closed := h.closed
  drained := by
    intro w hw hlate hreturned other hother hadmitting hlease
    rcases mem_append.1 hother with hold | hnew
    · exact h.drained w hw hlate hreturned other hold hadmitting hlease
    · rw [mem_singleton.1 hnew] at hlease
      rw [hlease] at hcounted
      exact absurd hcounted (by decide)
  notified := by
    intro w hw hasleep
    obtain ⟨other, hother, hnotifies⟩ := h.notified w hw hasleep
    exact ⟨other, mem_append_left _ hother, hnotifies⟩

theorem Tracker.Inv.close {t : Tracker} (h : t.Inv) :
    ({ t with accepting := false } : Tracker).Inv where
  counted := h.counted
  closed := fun _ _ _ => rfl
  drained := h.drained
  notified := h.notified

/-- A new waiter neither returned nor sleeps, and it is late only when the admission is closed. -/
theorem Tracker.Inv.wait {t : Tracker} (h : t.Inv) :
    ({ t with waiters := t.waiters ++ [{ late := !t.accepting }] } : Tracker).Inv where
  counted := h.counted
  closed := by
    refine forall_mem_append.2 ⟨h.closed, forall_mem_singleton.2 fun hlate => ?_⟩
    simpa using hlate
  drained := by
    refine forall_mem_append.2 ⟨h.drained, forall_mem_singleton.2 fun _ hreturned => ?_⟩
    exact absurd hreturned (by simp)
  notified := by
    refine forall_mem_append.2 ⟨h.notified, forall_mem_singleton.2 fun hasleep => ?_⟩
    exact absurd hasleep.1 (by simp)

theorem Tracker.Inv.notify {t : Tracker} (h : t.Inv) : t.notifyWaiters.Inv where
  counted := h.counted
  closed := by
    intro w hw hlate
    obtain ⟨old, hold, rfl⟩ := mem_map.1 hw
    exact h.closed old hold hlate
  drained := by
    intro w hw hlate hreturned
    obtain ⟨old, hold, rfl⟩ := mem_map.1 hw
    exact h.drained old hold hlate hreturned
  notified := by
    intro w hw hasleep
    obtain ⟨old, hold, rfl⟩ := mem_map.1 hw
    exact absurd hasleep.2 (by simp)

/-- A waiter that moves stays late or early, and was asleep before if it sleeps now, unless it has
just read a counter that is not zero. -/
theorem Tracker.Inv.moveWaiter {t : Tracker} (h : t.Inv) (i : Nat) {w : Waiter}
    (hw : w ∈ t.waiters) :
    ({ t with waiters := t.waiters.set i (t.moveWaiter w) } : Tracker).Inv where
  counted := h.counted
  closed := by
    intro v hv hlate
    rcases mem_or_eq_of_mem_set hv with hold | rfl
    · exact h.closed v hold hlate
    · refine h.closed w hw ?_
      revert hlate
      unfold Tracker.moveWaiter
      cases w.phase <;> grind
  drained := by
    intro v hv hlate hreturned call hcall hadmitting hlease
    rcases mem_or_eq_of_mem_set hv with hold | rfl
    · exact h.drained v hold hlate hreturned call hcall hadmitting hlease
    · cases hphase : w.phase with
      | load =>
        -- It read zero, so no call is counted, and a lease is counted.
        have hzero : t.operations = 0 := by
          by_contra hne
          simp [Tracker.moveWaiter, hphase, hne] at hreturned
        have hnone := countP_eq_zero.1 (h.counted.symm.trans hzero) call hcall
        rw [hlease] at hnone
        exact hnone rfl
      | returned =>
        have hlate' : w.late := by simpa [Tracker.moveWaiter, hphase] using hlate
        exact h.drained w hw hlate' hphase call hcall hadmitting hlease
      | subscribe => simp [Tracker.moveWaiter, hphase] at hreturned
      | await =>
        simp only [Tracker.moveWaiter, hphase] at hreturned
        cases hn : w.notified <;> simp [hn, hphase] at hreturned
  notified := by
    intro v hv hasleep
    rcases mem_or_eq_of_mem_set hv with hold | rfl
    · exact h.notified v hold hasleep
    · cases hphase : w.phase with
      | load =>
        -- It read a counter that is not zero, so some call is counted.
        have hne : t.calls.countP (·.phase.counted) ≠ 0 := by
          intro hzero
          rw [← h.counted] at hzero
          simp [Waiter.asleep, Tracker.moveWaiter, hphase, hzero] at hasleep
        obtain ⟨call, hcall, hcounted⟩ := countP_pos_iff.1 (Nat.pos_of_ne_zero hne)
        exact ⟨call, hcall, .inl hcounted⟩
      | await =>
        simp only [Waiter.asleep, Tracker.moveWaiter, hphase] at hasleep
        cases hn : w.notified with
        | true => simp [hn] at hasleep
        | false => exact h.notified w hw ⟨hphase, hn⟩
      | subscribe => simp [Waiter.asleep, Tracker.moveWaiter, hphase] at hasleep
      | returned => simp [Waiter.asleep, Tracker.moveWaiter, hphase] at hasleep

variable {t : Tracker} {call : Call}

theorem counted_moveCall (h : t.Inv) (i : Nat) (hcall : t.calls[i]? = some call) :
    (t.moveCall i call).operations = (t.moveCall i call).calls.countP (·.phase.counted) := by
  obtain ⟨hi, hget⟩ := List.getElem?_eq_some_iff.1 hcall
  -- A counted call is part of the count, so taking one off does not get below zero.
  have hpos : call.phase.counted → 0 < t.calls.countP (·.phase.counted) := fun hcounted =>
    countP_pos_iff.2 ⟨call, mem_of_getElem? hcall, hcounted⟩
  rw [operations_moveCall, calls_moveCall t i call hcall, countP_set hi, hget, h.counted]
  unfold nextPhase
  cases hphase : call.phase <;> simp only [hphase, Phase.counted] at hpos ⊢ <;>
    grind [Phase.counted]

/-- A lease appears by the second check alone, which a closed admission fails, unless the call was
not one of `admit_operation`. -/
theorem nextPhase_eq_lease (h : t.nextPhase call = .lease) (hadmitting : call.admitting = true) :
    t.accepting = true := by
  unfold nextPhase at h
  cases hphase : call.phase <;> rw [hphase] at h <;> grind

/-- A call that will notify either still will after a move, or has just notified everyone. -/
theorem notifies_nextPhase (h : call.phase.notifies) :
    (t.nextPhase call).notifies ∨ call.phase = .finishNotify := by
  unfold Phase.notifies nextPhase at *
  cases hphase : call.phase <;> simp_all [Phase.counted] <;> grind [Phase.counted]

theorem Tracker.Inv.moveCall {t : Tracker} (h : t.Inv) (i : Nat) (hcall : t.calls[i]? = some call) :
    (t.moveCall i call).Inv where
  counted := counted_moveCall h i hcall
  closed := by
    intro w hw hlate
    rw [accepting_moveCall]
    rw [waiters_moveCall] at hw
    split at hw
    · exact h.notify.closed w hw hlate
    · exact h.closed w hw hlate
  drained := by
    intro w hw hlate hreturned other hother hadmitting hlease
    -- The waiters that returned are the same, whether or not the call notified them.
    have hbefore : t.accepting = false ∧
        ∀ call ∈ t.calls, call.admitting → call.phase ≠ .lease := by
      rw [waiters_moveCall] at hw
      split at hw
      · exact ⟨h.notify.closed w hw hlate, h.notify.drained w hw hlate hreturned⟩
      · exact ⟨h.closed w hw hlate, h.drained w hw hlate hreturned⟩
    rw [calls_moveCall t i call hcall] at hother
    rcases mem_or_eq_of_mem_set hother with hold | rfl
    · exact hbefore.2 other hold hadmitting hlease
    · have := nextPhase_eq_lease hlease hadmitting
      rw [hbefore.1] at this
      exact absurd this (by decide)
  notified := by
    intro w hw hasleep
    rw [waiters_moveCall] at hw
    split at hw
    · exact absurd hasleep.2 (by obtain ⟨old, hold, rfl⟩ := mem_map.1 hw; simp)
    · rename_i hquiet
      obtain ⟨other, hother, hnotifies⟩ := h.notified w hw hasleep
      rw [calls_moveCall t i call hcall]
      obtain ⟨hi, hget⟩ := List.getElem?_eq_some_iff.1 hcall
      obtain ⟨j, hj, rfl⟩ := mem_iff_getElem.1 hother
      by_cases hij : i = j
      · -- The call that was to notify is the one that moved.
        subst hij
        rw [hget] at hnotifies
        rcases notifies_nextPhase (t := t) hnotifies with hstill | hdone
        · exact ⟨_, mem_set hi _, hstill⟩
        · exact absurd (Or.inr hdone) hquiet
      · refine ⟨t.calls[j], ?_, hnotifies⟩
        rw [mem_iff_getElem]
        exact ⟨j, by simpa using hj, getElem_set_of_ne hij _ _⟩

/-! ### Runs -/

theorem Tracker.Inv.step (h : t.Inv) (event : Tracker.Event) : (t.step event).Inv := by
  cases event with
  | admitOperation => exact h.append rfl
  | operation => exact h.append rfl
  | beginShutdown => exact h.close
  | waitForOperations => exact h.wait
  | bump => exact ⟨h.counted, h.closed, h.drained, h.notified⟩
  | notify => exact h.notify
  | call i =>
    rw [step_call]
    cases hcall : t.calls[i]? with
    | none => exact h
    | some call => exact h.moveCall i hcall
  | waiter i =>
    rw [step_waiter]
    cases hw : t.waiters[i]? with
    | none => exact h
    | some w => exact h.moveWaiter i (mem_of_getElem? hw)

theorem Tracker.Inv.run (h : t.Inv) (events : List Tracker.Event) : (t.run events).Inv := by
  induction events generalizing t with
  | nil => exact h
  | cons event events ih => exact ih (h.step event)

theorem drained_moveCall (t : Tracker) (i : Nat) (call : Call) :
    (t.moveCall i call).drained = t.drained := by
  unfold drained
  rw [waiters_moveCall]
  split
  · exact any_map
  · rfl

theorem drained_step (h : t.drained = true) (event : Tracker.Event) :
    (t.step event).drained = true := by
  cases event with
  | waitForOperations =>
    show (t.waiters ++ [_]).any _ = true
    rw [any_append, Bool.or_eq_true]
    exact .inl h
  | notify =>
    show (t.waiters.map _).any _ = true
    rw [any_map]
    exact h
  | call i =>
    rw [step_call]
    cases t.calls[i]? with
    | none => exact h
    | some call => exact (drained_moveCall t i call).trans h
  | waiter i =>
    rw [step_waiter]
    cases hw : t.waiters[i]? with
    | none => exact h
    | some w =>
      obtain ⟨v, hv, hdone⟩ := any_eq_true.1 h
      obtain ⟨j, hj, rfl⟩ := mem_iff_getElem.1 hv
      obtain ⟨hi, rfl⟩ := List.getElem?_eq_some_iff.1 hw
      have hlength : j < (t.waiters.set i (t.moveWaiter t.waiters[i])).length := by simpa using hj
      show (t.waiters.set i (t.moveWaiter t.waiters[i])).any _ = true
      refine any_eq_true.2 ⟨t.waiters[j], mem_iff_getElem.2 ⟨j, hlength, ?_⟩, hdone⟩
      by_cases hij : i = j
      · -- The waiter that moves is the one that has returned, and it does not move any more.
        subst hij
        simp only [Bool.and_eq_true, decide_eq_true_eq] at hdone
        rw [getElem_set_self]
        simp only [moveWaiter, hdone.2]
      · exact getElem_set_of_ne hij _ _
  | _ => exact h

theorem drained_run (h : t.drained = true) (events : List Tracker.Event) :
    (t.run events).drained = true := by
  induction events generalizing t with
  | nil => exact h
  | cons event events ih => exact ih (drained_step h event)

/-- Once a `wait_for_operations` that began after `begin_shutdown` has returned, no lease of
`admit_operation` is alive, then or at any later time. -/
theorem no_lease_after_drain (before after : List Tracker.Event)
    (h : (({} : Tracker).run before).drained = true) :
    (({} : Tracker).run (before ++ after)).admittedLeases = [] := by
  have hrun : ({} : Tracker).run (before ++ after) = (({} : Tracker).run before).run after :=
    foldl_append
  have hinv : (({} : Tracker).run (before ++ after)).Inv := inv_initial.run _
  have hdrained := drained_run h after
  rw [← hrun] at hdrained
  obtain ⟨w, hw, hdone⟩ := any_eq_true.1 hdrained
  simp only [Bool.and_eq_true, decide_eq_true_eq] at hdone
  refine filter_eq_nil_iff.2 ?_
  intro call hcall
  simp only [Bool.and_eq_true, decide_eq_true_eq, not_and]
  exact hinv.drained w hw hdone.1 hdone.2 call hcall

/-- A lease is granted, and a second call passes its first check. Then the admission closes, the
lease is dropped and a waiter returns, before the second call counts itself and is refused. -/
def closingRun : List Tracker.Event :=
  [.admitOperation, .call 0, .call 0, .call 0, .call 0, .call 0, .admitOperation, .call 1,
    .beginShutdown, .waitForOperations, .waiter 0, .waiter 0, .call 0, .call 0, .call 0, .call 0,
    .waiter 0, .waiter 0, .waiter 0]

def refusedCall : List Tracker.Event :=
  [.call 1, .call 1, .call 1, .call 1, .call 1, .call 1, .call 1]

theorem no_lease_after_closingRun :
    (({} : Tracker).run closingRun).drained = true ∧
      (({} : Tracker).run (closingRun ++ refusedCall)).admittedLeases = [] :=
  ⟨by decide, no_lease_after_drain closingRun refusedCall (by decide)⟩

/-! ### The waiter returns -/

/-- When every call has ended, a waiter returns after three steps of its own. -/
theorem wait_returns (h : t.Inv) (hended : ∀ call ∈ t.calls, call.phase = .ended) {i : Nat}
    (hi : i < t.waiters.length) :
    ((t.run [.waiter i, .waiter i, .waiter i]).waiters[i]?).map (·.phase) = some .returned := by
  -- No call is counted or about to notify, so the counter is zero and nobody sleeps.
  have hzero : t.operations = 0 := by
    rw [h.counted, countP_eq_zero]
    intro call hcall
    rw [hended call hcall]
    decide
  have hawake : ¬ t.waiters[i].asleep := by
    intro hasleep
    obtain ⟨call, hcall, hnotifies⟩ := h.notified _ (getElem_mem hi) hasleep
    rw [hended call hcall] at hnotifies
    rcases hnotifies with hn | hn | hn <;> exact absurd hn (by decide)
  have hwaiter : t.waiters[i]? = some t.waiters[i] := getElem?_eq_getElem hi
  generalize t.waiters[i] = w at hwaiter hawake
  obtain ⟨late, phase, notified⟩ := w
  cases phase <;> simp_all [run, Tracker.step, moveWaiter, Waiter.asleep]

/-- No wake-up is lost: after every run at whose end all calls have ended, a waiter returns with
three more steps of its own. -/
theorem waitForOperations_returns (events : List Tracker.Event) {i : Nat}
    (hended : ∀ call ∈ (({} : Tracker).run events).calls, call.phase = .ended)
    (hi : i < (({} : Tracker).run events).waiters.length) :
    (((({} : Tracker).run events).run [.waiter i, .waiter i, .waiter i]).waiters[i]?).map
      (·.phase) =
      some .returned :=
  wait_returns (inv_initial.run events) hended hi

/-- A waiter that sleeps while an operation ends. -/
theorem sleeping_waiter_returns :
    (((({} : Tracker).run [.operation, .call 0, .call 0, .call 0, .waitForOperations, .waiter 0,
      .waiter 0, .call 0, .call 0, .call 0, .call 0]).run
        [.waiter 0, .waiter 0, .waiter 0]).waiters[0]?).map (·.phase) = some .returned :=
  waitForOperations_returns _ (by decide) (by decide)

end Gascan.Activity
