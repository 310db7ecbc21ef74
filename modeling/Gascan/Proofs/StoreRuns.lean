import Gascan.Proofs.StoreFrame

/-!
# `Gascan.Proofs.StoreRuns`: what holds after every sequence of store calls

A `Call` is one public operation of the store. It commits its transaction, or it returns an error
and SQLite rolls the transaction back. `runs_sound` is about every sequence of calls on a new
database: the tables satisfy `Sound`, and every further call is a `Step`.

Besides `Store.Inv` this needs `Logged`: the events are numbered upwards, and the log of every
operation has the form `LogOf` asks of an operation in its status.
-/

namespace Gascan.Store

open Lib List

/-! ### Calls -/

/-- One call of a public operation, with the time of its writes. `fault` is an error from outside
the checks of the store: a poisoned lock, SQLite, the clock, or a value that does not encode. -/
structure Call where
  op : StoreOp
  now : Int
  fault : Option StoreError := none

/-- What a call returns, and the store it leaves. A transaction that is not committed is rolled
back. -/
def Call.perform (call : Call) (s : Store) : Except StoreError call.op.Result × Store :=
  match call.fault with
  | some error => (.error error, s)
  | none =>
    match call.op.run s call.now with
    | .ok (result, s') => (.ok result, s')
    | .error error => (.error error, s)

/-- The store after a sequence of calls. -/
def after (s : Store) (calls : List Call) : Store :=
  calls.foldl (fun s call => (call.perform s).2) s

variable {s s' : Store} {call : Call} {event : OperationEvent} {record : SandboxRecord}

/-- A call either leaves the store alone, or it returns what its transaction returned and leaves the
store of the transaction. -/
theorem Call.perform_cases (call : Call) (s : Store) :
    (call.perform s).2 = s ∨
      ∃ result, call.op.run s call.now = .ok (result, (call.perform s).2) ∧
        (call.perform s).1 = .ok result := by
  unfold Call.perform
  cases call.fault with
  | some error => exact .inl rfl
  | none =>
    cases hrun : call.op.run s call.now with
    | error error => exact .inl rfl
    | ok outcome => exact .inr ⟨outcome.1, rfl, rfl⟩

theorem Call.perform_of_error {error : StoreError} (h : (call.perform s).1 = .error error) :
    (call.perform s).2 = s := by
  rcases call.perform_cases s with hsame | ⟨result, -, hok⟩
  · exact hsame
  · cases h.symm.trans hok

/-- The rule for runs: what every committed transaction keeps holds after every sequence of
calls. -/
theorem after_induction {P : Store → Prop}
    (hstep : ∀ (s s' : Store) (op : StoreOp) (now : Int) (result : op.Result),
      P s → op.run s now = .ok (result, s') → P s') (hs : P s) (calls : List Call) :
    P (s.after calls) := by
  induction calls generalizing s with
  | nil => exact hs
  | cons call calls ih =>
    have hnext : P (call.perform s).2 := by
      rcases call.perform_cases s with hsame | ⟨result, hrun, -⟩
      · rw [hsame]
        exact hs
      · exact hstep s _ call.op call.now result hs hrun
    exact ih hnext

/-! ### The log -/

/-- The log of an operation in a given status: it starts with a pending event, and it has one
terminal event, the last one, exactly when the operation ended. -/
structure LogOf (status : OperationStatus) (log : List OperationEvent) : Prop where
  begins : ∃ first rest, log = first :: rest ∧ first.status = .pending
  pending : status = .pending → ∀ event ∈ log, event.status = .pending
  ended : status ≠ .pending → ∃ body last, log = body ++ [last] ∧ last.status = status ∧
    ∀ event ∈ body, event.status = .pending

theorem LogOf.singleton (h : event.status = .pending) :
    LogOf .pending [event] where
  begins := ⟨event, [], rfl, h⟩
  pending := by
    intro _ other hmem
    rw [mem_singleton.1 hmem]
    exact h
  ended := fun hne => absurd rfl hne

/-- An event is appended to the log of a pending operation, which moves to the event's status. -/
theorem LogOf.append {log : List OperationEvent} (hlog : LogOf .pending log)
    (event : OperationEvent) : LogOf event.status (log ++ [event]) where
  begins := by
    obtain ⟨first, rest, rfl, hfirst⟩ := hlog.begins
    exact ⟨first, rest ++ [event], rfl, hfirst⟩
  pending := fun hpending =>
    forall_mem_append.2 ⟨hlog.pending rfl, forall_mem_singleton.2 hpending⟩
  ended := fun _ => ⟨log, event, rfl, rfl, hlog.pending rfl⟩

/-- The events are numbered upwards, and no number is above the last one handed out. -/
structure Ordered (s : Store) : Prop where
  increasing : s.events.Pairwise (·.sequence < ·.sequence)
  bounded : ∀ event ∈ s.events, event.sequence ≤ s.eventSeq

/-- The events are ordered, and every operation has the log of its status. -/
structure Logged (s : Store) : Prop extends Ordered s where
  logs : ∀ operation ∈ s.operations, LogOf operation.status (s.operationEvents operation.id)

theorem logged_empty : Logged {} :=
  ⟨⟨.nil, fun _ hmem => absurd hmem not_mem_nil⟩,
    fun _ hmem => absurd hmem not_mem_nil⟩

theorem Ordered.appendEvent (hs : Ordered s) (o : OperationId) (status : OperationStatus)
    (details : Option Json) (code : Option String) (now : Int) :
    Ordered (s.appendEvent o status details code now).2 where
  increasing := by
    refine pairwise_append.2 ⟨hs.increasing, pairwise_singleton _ _, ?_⟩
    intro event hmem new hnew
    rw [mem_singleton.1 hnew]
    exact Nat.lt_succ_of_le (hs.bounded event hmem)
  bounded := by
    refine forall_mem_append.2 ⟨fun event hold => ?_, forall_mem_singleton.2 le_rfl⟩
    exact Nat.le_succ_of_le (hs.bounded event hold)

/-- A write to the rows keeps the log. -/
theorem Logged.of_eq (hs : Logged s) (hoperations : s'.operations = s.operations)
    (hevents : s'.events = s.events) (hseq : s'.eventSeq = s.eventSeq) : Logged s' where
  increasing := by
    rw [hevents]
    exact hs.increasing
  bounded := by
    rw [hevents, hseq]
    exact hs.bounded
  logs := by
    intro operation hmem
    rw [operationEvents, hevents]
    exact hs.logs operation (hoperations ▸ hmem)

@[simp] theorem events_upsert {now : Int} :
    (s.upsert record now).events = s.events := by
  unfold Store.upsert
  split <;> rfl

@[simp] theorem eventSeq_upsert {now : Int} :
    (s.upsert record now).eventSeq = s.eventSeq := by
  unfold Store.upsert
  split <;> rfl

theorem Logged.upsert (hs : Logged s) (record : SandboxRecord) (now : Int) :
    Logged (s.upsert record now) :=
  hs.of_eq operations_upsert events_upsert eventSeq_upsert

variable {now : Int}

variable {record : SandboxRecord} {operation : OperationRecord} {actual : ActualState}
  {status : OperationStatus} {code : Option String} {details : Option Json}

theorem Logged.beginOperation (hs : Logged s) (hinv : s.Inv) {kind : OperationKind}
    {new : OperationRecord} (h : s.beginOperation record kind now = .ok (new, s')) : Logged s' := by
  obtain ⟨event, hlog, hevent⟩ := operationEvents_beginOperation hinv h
  obtain ⟨-, -, -, rfl, rfl⟩ := beginOperation_eq_ok.1 h
  have hordered : Ordered ((s.upsert record now).insertOperation (s.newOperation record.id kind)) :=
    ⟨(hs.upsert record now).increasing, (hs.upsert record now).bounded⟩
  refine ⟨hordered.appendEvent .., fun operation hmem => ?_⟩
  have hmem : operation ∈ (s.upsert record now).operations ++ [s.newOperation record.id kind] :=
    hmem
  rw [operations_upsert] at hmem
  rcases mem_append.1 hmem with hold | hnew
  · -- The identifier of the new operation was not handed out before.
    have hne : (s.newOperation record.id kind).id ≠ operation.id :=
      (Nat.lt_succ_of_le (hinv.bounded operation hold)).ne'
    rw [operationEvents_appendEvent_of_ne hne]
    show LogOf operation.status ((s.upsert record now).operationEvents operation.id)
    rw [operationEvents_upsert]
    exact hs.logs operation hold
  · rw [mem_singleton.1 hnew, hlog]
    exact .singleton hevent

theorem Logged.appendOperationEvent (hs : Logged s) (hinv : s.Inv) {o : OperationId}
    {details : Json} (h : s.appendOperationEvent o details now = .ok (event, s')) : Logged s' := by
  obtain ⟨operation, hfound, hpending, heq⟩ := appendOperationEvent_eq_ok.1 h
  obtain rfl := id_of_operation? hfound
  obtain rfl : s' = (s.appendEvent operation.id .pending (some details) none now).2 :=
    congrArg Prod.snd heq
  refine ⟨hs.toOrdered.appendEvent .., fun other hmem => ?_⟩
  by_cases hid : operation.id = other.id
  · have hsame : other = operation :=
      Option.some.inj ((hinv.operation?_eq_some.2 ⟨hmem, hid.symm⟩).symm.trans hfound)
    have hlog := hs.logs operation (mem_of_operation? hfound)
    rw [hpending] at hlog
    rw [hsame, operationEvents_appendEvent, hpending]
    exact hlog.append (s.appendEvent operation.id .pending (some details) none now).1
  · rw [operationEvents_appendEvent_of_ne hid]
    exact hs.logs other hmem

theorem Logged.finished (hs : Logged s) (hfound : s.operation? operation.id = some operation)
    (hpending : operation.status = .pending) {clear : Bool} :
    Logged (s.finished operation actual status code details clear now) := by
  have hordered : Ordered ((s.updateRow operation.sandboxId
      (finishRow actual clear now)).updateOperation operation.id
        (finishRecord status code details)) :=
    ⟨hs.increasing, hs.bounded⟩
  refine ⟨hordered.appendEvent .., fun other hmem => ?_⟩
  rcases Table.mem_update.1 hmem with ⟨hold, hne⟩ | ⟨old, hold, hid, rfl⟩
  · rw [show (s.finished operation actual status code details clear now).operationEvents other.id =
      s.operationEvents other.id from operationEvents_appendEvent_of_ne (Ne.symm hne)]
    exact hs.logs other hold
  · have hlog := hs.logs operation (mem_of_operation? hfound)
    rw [hpending] at hlog
    rw [finishRecord_id, hid, operationEvents_finished]
    exact hlog.append ⟨s.eventSeq + 1, operation.id, status, details, code, now⟩

theorem Logged.run (hs : Logged s) (hinv : s.Inv) {op : StoreOp} {result : op.Result}
    (h : op.run s now = .ok (result, s')) : Logged s' := by
  have hwrites := StoreOp.writes_of_run h
  cases op with
  | beginOperation record kind => exact hs.beginOperation hinv h
  | putSandbox record =>
    obtain ⟨-, -, rfl⟩ := hwrites
    exact hs.upsert record now
  | putSandboxWithSshTransport record policy =>
    obtain ⟨-, -, -, rfl⟩ := hwrites
    exact (hs.upsert record now).of_eq rfl rfl rfl
  | setSshResolution id resolution =>
    obtain ⟨-, -, rfl⟩ := setSshResolution_eq_ok.1 hwrites
    exact hs.of_eq rfl rfl rfl
  | appendOperationEvent o details => exact hs.appendOperationEvent hinv h
  | finishOperation o actual status code details clear =>
    obtain ⟨operation, row, -, hfound, hpending, -, -, -, rfl⟩ := hwrites
    exact hs.finished hfound hpending
  | _ => exact hwrites ▸ hs

/-! ### Rows from one store to the next -/

/-- A rollback edge: a pending operation on the sandbox fails and takes its actual state back along
an edge that only the failure of an operation of its kind may follow. -/
def RollsBack (s s' : Store) (id : SandboxId) (source target : ActualState) : Prop :=
  ∃ o operation ended, s.operation? o = some operation ∧ operation.sandboxId = id ∧
    operation.status = .pending ∧ s'.operation? o = some ended ∧ ended.status = .failed ∧
    rollbackTransition operation.kind source target = true

/-- The row of a sandbox stays, under its root, and its actual state follows an admitted edge. -/
def KeepsRow (s s' : Store) (id : SandboxId) (row : SandboxRow) : Prop :=
  ∃ row', s'.row? id = some row' ∧ row'.root = row.root ∧
    (actualTransition row.record.actualState row'.record.actualState = true ∨
      RollsBack s s' id row.record.actualState row'.record.actualState)

variable {id : SandboxId} {row row' : SandboxRow}

theorem KeepsRow.of_same (hsame : Same s s') (hrow : s.row? id = some row) :
    KeepsRow s s' id row := by
  obtain ⟨row', hrow', hactual, hroot⟩ := hsame.row? hrow
  exact ⟨row', hrow', hroot, .inl (hactual ▸ actualTransition_self _)⟩

/-- The row of a sandbox after a write that passes the checks: it keeps its root and follows an edge
that every write may follow. -/
theorem exists_row?_upsert (now : Int) (hput : s.checkPut record = .ok ())
    (hrow : s.row? id = some row) :
    ∃ row', (s.upsert record now).row? id = some row' ∧ row'.root = row.root ∧
      actualTransition row.record.actualState row'.record.actualState = true := by
  by_cases hid : id = record.id
  · subst hid
    exact ⟨_, row?_upsert_of_row hrow rfl, rfl, ((checkPut_eq_ok.1 hput).1 row hrow).2⟩
  · refine ⟨row, ?_, rfl, actualTransition_self _⟩
    rw [row?_upsert, if_neg hid]
    exact hrow

theorem keepsRow_finished {clear : Bool} (hfound : s.operation? operation.id = some operation)
    (hpending : operation.status = .pending) (hstatus : status ≠ .pending) (hedge : ∀ found,
      s.row? operation.sandboxId = some found → terminalTransition found.record.actualState actual
      operation.kind status = true) (hrow : s.row? id = some row) :
    KeepsRow s (s.finished operation actual status code details clear now) id row := by
  have hrow' : (s.finished operation actual status code details clear now).row? id =
      some (if id = operation.sandboxId then finishRow actual clear now row else row) := by
    rw [row?_finished, hrow, Option.map_some]
  by_cases hid : id = operation.sandboxId
  · rw [if_pos hid] at hrow'
    refine ⟨_, hrow', rfl, ?_⟩
    have hedge := hedge row (hid ▸ hrow)
    rw [terminalTransition, Bool.or_eq_true, Bool.and_eq_true, decide_eq_true_eq] at hedge
    rcases hedge with hedge | ⟨hfailed, hback⟩
    · exact .inl hedge
    · refine .inr ⟨operation.id, operation, finishRecord status code details operation, hfound,
        hid.symm, hpending, ?_, ?_, hback⟩
      · rw [operation?_finished, hfound, Option.map_some, if_pos rfl]
      · show status = .failed
        cases status with
        | pending => exact absurd rfl hstatus
        | completed => exact absurd rfl hfailed
        | failed => rfl
  · rw [if_neg hid] at hrow'
    exact ⟨row, hrow', rfl, .inl (actualTransition_self _)⟩

theorem keepsRow_run {op : StoreOp} {result : op.Result} (h : op.run s now = .ok (result, s'))
    (hrow : s.row? id = some row) : KeepsRow s s' id row := by
  have hwrites := StoreOp.writes_of_run h
  cases op with
  | beginOperation record kind =>
    obtain ⟨-, hput, -, rfl, rfl⟩ := beginOperation_eq_ok.1 h
    -- Neither the operation nor its event is in the table of the rows.
    obtain ⟨row', hrow', hroot, hedge⟩ := exists_row?_upsert now hput hrow
    exact ⟨row', hrow', hroot, .inl hedge⟩
  | putSandbox record =>
    obtain ⟨-, hput, rfl⟩ := hwrites
    obtain ⟨row', hrow', hroot, hedge⟩ := exists_row?_upsert now hput hrow
    exact ⟨row', hrow', hroot, .inl hedge⟩
  | putSandboxWithSshTransport record policy =>
    obtain ⟨-, hput, -, rfl⟩ := hwrites
    obtain ⟨row', hrow', hroot, hedge⟩ := exists_row?_upsert now hput hrow
    have htransport : Same (s.upsert record now) ((s.upsert record now).updateRow record.id
        fun row => { row with sshTransport := policy }) :=
      same_updateRow (fun _ => rfl) (fun _ => rfl) fun _ => rfl
    obtain ⟨row'', hrow'', hactual, hroot'⟩ := htransport.row? hrow'
    rw [← hactual] at hedge
    exact ⟨row'', hrow'', hroot'.trans hroot, .inl hedge⟩
  | finishOperation o actual status code details clear =>
    obtain ⟨operation, found, -, hfound, hpending, hstatus, hfoundRow, hedge, rfl⟩ := hwrites
    refine keepsRow_finished hfound hpending hstatus (fun other hother => ?_) hrow
    cases hfoundRow.symm.trans hother
    exact hedge
  | appendOperationEvent o details =>
    have hkeeps : (StoreOp.appendOperationEvent o details).Keeps id (some o) := rfl
    exact .of_same (StoreOp.run_same hkeeps h) hrow
  | setSshResolution id resolution => exact .of_same (same_setSshResolution hwrites) hrow
  | _ =>
    obtain rfl := hwrites
    exact .of_same (.refl _) hrow

/-! ### Every sequence of calls -/

/-- What holds of the tables after every sequence of calls.

* `onePending`: a sandbox has at most one pending operation;
* `ids`, `roots`: identities and canonical roots determine each other;
* `increasing`, `logs`: the log of an operation has increasing sequence numbers, starts with a
  pending event, and has a terminal event, the last one, exactly when the operation ended. -/
structure Sound (s : Store) : Prop where
  onePending : ∀ id, (s.pendingOperations.filter (·.sandboxId = id)).length ≤ 1
  ids : ∀ row ∈ s.sandboxes, ∀ row' ∈ s.sandboxes, row.id = row'.id → row = row'
  roots : ∀ row ∈ s.sandboxes, ∀ row' ∈ s.sandboxes, row.root = row'.root ↔ row.id = row'.id
  increasing : ∀ o, (s.operationEvents o).Pairwise (·.sequence < ·.sequence)
  logs : ∀ operation ∈ s.operations, LogOf operation.status (s.operationEvents operation.id)

/-- What a call does to a store.

* `rows`: every sandbox keeps its row and its root, and its actual state follows an edge of
  `validate_actual_transition` or a rollback edge;
* `rejected`: a call that returns an error changed nothing. -/
structure Step (s : Store) (call : Call) : Prop where
  rows : ∀ id row, s.row? id = some row → KeepsRow s (call.perform s).2 id row
  rejected : ∀ error, (call.perform s).1 = .error error → (call.perform s).2 = s

theorem Inv.pendingOperations_length (hs : Inv s) (id : SandboxId) :
    (s.pendingOperations.filter (·.sandboxId = id)).length ≤ 1 := by
  have hnodup : (s.pendingOperations.filter (·.sandboxId = id)).Nodup :=
    ((List.Nodup.of_map _ hs.operationIds).filter _).filter _
  have hmem : ∀ operation ∈ s.pendingOperations.filter (·.sandboxId = id),
      operation ∈ s.operations ∧ operation.status = .pending ∧ operation.sandboxId = id := by
    intro operation hoperation
    rw [pendingOperations, filter_filter, mem_filter, Bool.and_eq_true,
      decide_eq_true_eq, decide_eq_true_eq] at hoperation
    exact ⟨hoperation.1, hoperation.2.2, hoperation.2.1⟩
  cases hlist : s.pendingOperations.filter (·.sandboxId = id) with
  | nil => exact Nat.zero_le 1
  | cons first rest =>
    cases rest with
    | nil => exact Nat.le_refl 1
    | cons second rest =>
      rw [hlist] at hnodup hmem
      obtain ⟨h1, hp1, hid1⟩ := hmem first (by simp)
      obtain ⟨h2, hp2, hid2⟩ := hmem second (by simp)
      have hsame : first = second :=
        hs.onePending first h1 second h2 hp1 hp2 (hid1.trans hid2.symm)
      simp [hsame] at hnodup

theorem sound_of_inv (hinv : s.Inv) (hlogged : s.Logged) : Sound s where
  onePending := hinv.pendingOperations_length
  ids := fun _ hmem _ hmem' heq => inj_on_of_nodup_map hinv.ids hmem hmem' heq
  roots := by
    intro row hmem row' hmem'
    constructor
    · intro heq
      rw [inj_on_of_nodup_map hinv.roots hmem hmem' heq]
    · intro heq
      rw [inj_on_of_nodup_map hinv.ids hmem hmem' heq]
  increasing := fun _ => hlogged.increasing.filter _
  logs := hlogged.logs

theorem step_perform (s : Store) (call : Call) : Step s call where
  rows := by
    intro id row hrow
    rcases call.perform_cases s with hsame | ⟨result, hrun, -⟩
    · rw [hsame]
      exact .of_same (.refl s) hrow
    · exact keepsRow_run hrun hrow
  rejected := fun _ => Call.perform_of_error

theorem root_after (calls : List Call) (hrow : s.row? id = some row) :
    ∃ row', (s.after calls).row? id = some row' ∧ row'.root = row.root := by
  refine after_induction (P := fun s => ∃ row', s.row? id = some row' ∧ row'.root = row.root)
    (fun s s' op now result h hrun => ?_) ⟨row, hrow, rfl⟩ calls
  obtain ⟨row1, hrow1, hroot1⟩ := h
  obtain ⟨row2, hrow2, hroot2, -⟩ := keepsRow_run hrun hrow1
  exact ⟨row2, hrow2, hroot2.trans hroot1⟩

/-- After every sequence of calls on a new database the tables are sound, the next call is a step,
and whatever calls follow, the sandboxes keep their rows and roots. -/
theorem runs_sound (calls : List Call) :
    Sound (after {} calls) ∧ (∀ call, Step (after {} calls) call) ∧
      ∀ later id row, (after {} calls).row? id = some row →
        ∃ row', (after {} (calls ++ later)).row? id = some row' ∧ row'.root = row.root := by
  have hkept : Inv (after {} calls) ∧ Logged (after {} calls) :=
    after_induction (P := fun s => Inv s ∧ Logged s)
      (fun s s' op now result h hrun => ⟨h.1.run op hrun, h.2.run h.1 hrun⟩)
      ⟨inv_empty, logged_empty⟩ calls
  refine ⟨sound_of_inv hkept.1 hkept.2, step_perform _, fun later id row hrow => ?_⟩
  have hlater := root_after later hrow
  rwa [after, after, ← foldl_append] at hlater

end Gascan.Store
