import Gascan.Proofs.StoreInvariant

/-!
# `Gascan.Proofs.StoreFrame`: what a transaction of the store leaves alone

Two relations between the store before and after a command. `Store.Extends` holds for every command:
no operation disappears, and an operation that ended stays as it is. `Store.Same` holds for all but
the four transactions that move the state of a sandbox or its operations: no operation and no actual
state changed.
-/

namespace Gascan

open Lib List

namespace Store

/-- Every operation of `s` is in `s'`, as it was, or it was pending and has ended. -/
def Extends (s s' : Store) : Prop :=
  ∀ o operation, s.operation? o = some operation →
    ∃ operation', s'.operation? o = some operation' ∧
      (operation' = operation ∨ operation.status = .pending ∧ operation'.status ≠ .pending)

variable {s s' s'' : Store} {id : SandboxId}

theorem Extends.refl (s : Store) : Extends s s := fun _ operation h => ⟨operation, h, .inl rfl⟩

theorem Extends.of_operations (h : s'.operations = s.operations) : Extends s s' := by
  intro o operation hop
  refine ⟨operation, ?_, .inl rfl⟩
  rw [operation?, h]
  exact hop

/-- An operation has ended. -/
def Ended (s : Store) (o : OperationId) : Prop :=
  ∃ operation, s.operation? o = some operation ∧ operation.status ≠ .pending

theorem Ended.extends {o : OperationId} (h : s.Ended o) (hs : Extends s s') : s'.Ended o := by
  obtain ⟨operation, hop, hstatus⟩ := h
  obtain ⟨operation', hop', rfl | ⟨hpending, -⟩⟩ := hs o operation hop
  · exact ⟨operation', hop', hstatus⟩
  · exact absurd hpending hstatus

theorem operation?_updateOperation {f : OperationRecord → OperationRecord}
    (hid : ∀ operation, (f operation).id = operation.id) (o o' : OperationId) :
    (s.updateOperation o f).operation? o' =
      (s.operation? o').map fun operation => if o' = o then f operation else operation :=
  Table.lookup_update hid o'

variable {operation : OperationRecord} {actual : ActualState} {status : OperationStatus}
  {code : Option String} {details : Option Json} {clear : Bool} {now : Int} {record : SandboxRecord}
  {kind : OperationKind} {new : OperationRecord} {row : SandboxRow}

variable {f : SandboxRow → SandboxRow} (o : OperationId)

theorem operation?_finished :
    (s.finished operation actual status code details clear now).operation? o =
      (s.operation? o).map fun found =>
        if o = operation.id then finishRecord status code details found else found :=
  operation?_updateOperation (finishRecord_id status code details) operation.id o

theorem row?_finished (id : SandboxId) :
    (s.finished operation actual status code details clear now).row? id =
      (s.row? id).map fun row =>
        if id = operation.sandboxId then finishRow actual clear now row else row :=
  row?_updateRow (finishRow_id actual clear now) id

theorem extends_finished (hop : s.operation? operation.id = some operation)
    (hpending : operation.status = .pending) (hstatus : status ≠ .pending) :
    Extends s (s.finished operation actual status code details clear now) := by
  intro o found hfound
  rw [operation?_finished, hfound, Option.map_some]
  by_cases h : o = operation.id
  · rw [if_pos h]
    rw [h, hop] at hfound
    obtain rfl := Option.some.inj hfound
    exact ⟨_, rfl, .inr ⟨hpending, hstatus⟩⟩
  · rw [if_neg h]
    exact ⟨_, rfl, .inl rfl⟩

theorem ended_finished (hop : s.operation? operation.id = some operation)
    (hstatus : status ≠ .pending) :
    (s.finished operation actual status code details clear now).Ended operation.id := by
  refine ⟨finishRecord status code details operation, ?_, hstatus⟩
  rw [operation?_finished, hop, Option.map_some, if_pos rfl]

theorem extends_beginOperation (h : s.beginOperation record kind now = .ok (new, s')) :
    Extends s s' := by
  obtain ⟨-, -, -, -, rfl⟩ := beginOperation_eq_ok.1 h
  intro o operation hfound
  refine ⟨operation, ?_, .inl rfl⟩
  show Table.lookup OperationRecord.id o ((s.upsert record now).operations ++ [new]) = _
  rw [Table.lookup_append_one, operations_upsert]
  rw [operation?] at hfound
  rw [hfound]
  rfl

/-- No operation, no actual state and no root of a sandbox differs. -/
structure Same (s s' : Store) : Prop where
  operations : s'.operations = s.operations
  rows : ∀ id, (s'.row? id).map (fun row => (row.record.actualState, row.root)) =
    (s.row? id).map fun row => (row.record.actualState, row.root)

theorem Same.refl (s : Store) : Same s s := ⟨rfl, fun _ => rfl⟩

theorem Same.operation? (h : Same s s') (o : OperationId) : s'.operation? o = s.operation? o := by
  rw [Store.operation?, Store.operation?, h.operations]

theorem Same.row? (h : Same s s') (hrow : s.row? id = some row) :
    ∃ row', s'.row? id = some row' ∧ row'.record.actualState = row.record.actualState ∧
      row'.root = row.root := by
  have hstate := h.rows id
  rw [hrow, Option.map_some, Option.map_eq_some_iff] at hstate
  obtain ⟨row', hrow', heq⟩ := hstate
  obtain ⟨hactual, hroot⟩ := Prod.mk.inj heq
  exact ⟨row', hrow', hactual, hroot⟩

theorem same_updateRow (hid : ∀ row, (f row).id = row.id)
    (hstate : ∀ row, (f row).record.actualState = row.record.actualState)
    (hroot : ∀ row, (f row).root = row.root) : Same s (s.updateRow id f) := by
  refine ⟨rfl, fun id' => ?_⟩
  rw [row?_updateRow hid, Option.map_map]
  cases s.row? id' with
  | none => rfl
  | some row =>
    by_cases h : id' = id
    · simp [h, hstate, hroot]
    · simp [h]

theorem same_setSshResolution {resolution : Option Resolution}
    (h : s.setSshResolution id resolution now = .ok s') : Same s s' := by
  obtain ⟨-, -, rfl⟩ := setSshResolution_eq_ok.1 h
  exact same_updateRow (fun _ => rfl) (fun _ => rfl) fun _ => rfl

/-! ### The log of an operation -/

@[simp] theorem operationEvents_upsert {record : SandboxRecord} {now : Int} (o : OperationId) :
    (s.upsert record now).operationEvents o = s.operationEvents o := by
  unfold Store.upsert
  split <;> rfl

theorem operationEvents_appendEvent (status : OperationStatus) (details : Option Json)
    (code : Option String) (now : Int) :
    (s.appendEvent o status details code now).2.operationEvents o =
      s.operationEvents o ++ [(s.appendEvent o status details code now).1] := by
  show (s.events ++ [_]).filter _ = _
  rw [filter_append, filter_singleton]
  simp [operationEvents, appendEvent]

theorem operationEvents_appendEvent_of_ne {o o' : OperationId} (hne : o ≠ o') :
    (s.appendEvent o status details code now).2.operationEvents o' = s.operationEvents o' := by
  show (s.events ++ [_]).filter _ = _
  rw [filter_append, filter_singleton]
  simp [operationEvents, hne]

theorem operationEvents_beginOperation (hs : s.Inv)
    (h : s.beginOperation record kind now = .ok (new, s')) :
    ∃ event, s'.operationEvents new.id = [event] ∧ event.status = .pending := by
  obtain ⟨-, -, -, rfl, rfl⟩ := beginOperation_eq_ok.1 h
  have hnone : s.operationEvents (s.operationSeq + 1) = [] := by
    refine filter_eq_nil_iff.2 fun event hmem heq => ?_
    exact Nat.not_succ_le_self _ (of_decide_eq_true heq ▸ hs.logged event hmem)
  have hupsert : ((s.upsert record now).insertOperation
      (s.newOperation record.id kind)).operationEvents (s.operationSeq + 1) = [] :=
    (operationEvents_upsert _).trans hnone
  exact ⟨_, (operationEvents_appendEvent ..).trans (congrArg (· ++ _) hupsert), rfl⟩

theorem operationEvents_finished (operation : OperationRecord) (actual : ActualState)
    (status : OperationStatus) (code : Option String) (details : Option Json) (clear : Bool)
    (now : Int) :
    (s.finished operation actual status code details clear now).operationEvents operation.id =
      s.operationEvents operation.id ++
        [⟨s.eventSeq + 1, operation.id, status, details, code, now⟩] :=
  operationEvents_appendEvent ..

/-! ### One sandbox -/

/-- A pending operation with the row of its sandbox. -/
structure Pending (s : Store) (operation : OperationRecord) (row : SandboxRow) : Prop where
  inv : s.Inv
  found : s.operation? operation.id = some operation
  pending : operation.status = .pending
  row : s.row? operation.sandboxId = some row

theorem Pending.same (hp : Pending s operation row) (hsame : Same s s') (hinv : s'.Inv) :
    ∃ row', Pending s' operation row' ∧ row'.record.actualState = row.record.actualState ∧
      row'.root = row.root := by
  obtain ⟨row', hrow', hkept⟩ := hsame.row? hp.row
  exact ⟨row', ⟨hinv, (hsame.operation? _).trans hp.found, hp.pending, hrow'⟩, hkept⟩

theorem Pending.free (hp : Pending s operation row) (hstatus : status ≠ .pending) :
    ∀ other ∈ (s.finished operation actual status code details clear now).operations,
      other.sandboxId = operation.sandboxId → other.status ≠ .pending := by
  intro other hmem hid hpending
  have hmem : other ∈ Table.update OperationRecord.id operation.id
      (finishRecord status code details) s.operations := hmem
  rcases Table.mem_update.1 hmem with ⟨hold, hne⟩ | ⟨old, -, -, rfl⟩
  · exact hne (congrArg OperationRecord.id (hp.inv.onePending other hold operation
      (mem_of_operation? hp.found) hpending hp.pending hid))
  · exact hstatus hpending

/-- The row of a sandbox, its operations and their events are the same. -/
structure Alike (id : SandboxId) (s s' : Store) : Prop where
  row : s'.row? id = s.row? id
  operations : s'.operations.filter (·.sandboxId = id) = s.operations.filter (·.sandboxId = id)
  events : ∀ operation ∈ s.operations, operation.sandboxId = id →
    s'.operationEvents operation.id = s.operationEvents operation.id

variable {id : SandboxId}

theorem Alike.refl (id : SandboxId) (s : Store) : Alike id s s := ⟨rfl, rfl, fun _ _ _ => rfl⟩

theorem Alike.mem_operations (h : Alike id s s') (hid : operation.sandboxId = id) :
    operation ∈ s'.operations ↔ operation ∈ s.operations := by
  have hmem : ∀ {t : Store}, operation ∈ t.operations ↔
      operation ∈ t.operations.filter (·.sandboxId = id) := by simp [hid]
  rw [hmem, h.operations, ← hmem]

theorem Alike.trans (h : Alike id s s') (h' : Alike id s' s'') : Alike id s s'' := by
  refine ⟨h'.row.trans h.row, h'.operations.trans h.operations, fun operation hmem hid => ?_⟩
  rw [h'.events operation ((h.mem_operations hid).2 hmem) hid, h.events operation hmem hid]

theorem Alike.sandbox (h : Alike id s s') : s'.sandbox id = s.sandbox id := by
  rw [Store.sandbox, Store.sandbox, h.row]
  cases hrow : s.row? id with
  | none => rfl
  | some row =>
    have hid : row.record.id = id := id_of_row? hrow
    simp only [Option.map_some, recordOf, lastOperationId, hid, h.operations]

theorem Pending.alike (hp : Pending s operation row) (h : Alike operation.sandboxId s s')
    (hinv : s'.Inv) : Pending s' operation row := by
  refine ⟨hinv, hinv.operation?_eq_some.2 ⟨?_, rfl⟩, hp.pending, h.row.trans hp.row⟩
  exact (h.mem_operations rfl).2 (mem_of_operation? hp.found)

theorem alike_updateRow {other : SandboxId} (hne : id ≠ other) (hid : ∀ row, (f row).id = row.id) :
    Alike id s (s.updateRow other f) := by
  refine ⟨?_, rfl, fun _ _ _ => rfl⟩
  rw [row?_updateRow hid]
  simp [hne]

theorem alike_upsert (hne : id ≠ record.id) : Alike id s (s.upsert record now) := by
  refine ⟨?_, by rw [operations_upsert], fun _ _ _ => ?_⟩
  · rw [row?_upsert, if_neg hne]
  · rw [operationEvents_upsert]

theorem alike_beginOperation (hs : s.Inv) (hne : id ≠ record.id)
    (h : s.beginOperation record kind now = .ok (new, s')) : Alike id s s' := by
  obtain ⟨-, -, -, rfl, rfl⟩ := beginOperation_eq_ok.1 h
  refine ⟨(alike_upsert hne).row, ?_, fun operation hmem _ => ?_⟩
  · show ((s.upsert record now).operations ++ [_]).filter _ = _
    rw [operations_upsert, filter_append, filter_singleton]
    have hother : decide ((s.newOperation record.id kind).sandboxId = id) = false :=
      decide_eq_false fun heq => hne heq.symm
    rw [hother]
    simp
  · -- The new event belongs to the new operation.
    have hold : s.operationSeq + 1 ≠ operation.id := by
      intro heq
      exact Nat.not_succ_le_self _ (heq ▸ hs.bounded operation hmem)
    refine (operationEvents_appendEvent_of_ne hold).trans ?_
    exact operationEvents_upsert operation.id

theorem alike_finished (hs : s.Inv) (hop : s.operation? operation.id = some operation)
    (hne : id ≠ operation.sandboxId) :
    Alike id s (s.finished operation actual status code details clear now) := by
  refine ⟨?_, ?_, fun other hmem hid => ?_⟩
  · rw [row?_finished]
    simp [hne]
  · show (Table.update OperationRecord.id operation.id (finishRecord status code details)
      s.operations).filter _ = _
    rw [Table.update, filter_map]
    have hpred : ((fun o : OperationRecord => decide (o.sandboxId = id)) ∘ fun o =>
        if o.id = operation.id then finishRecord status code details o else o) =
        fun o => decide (o.sandboxId = id) := by
      funext o
      by_cases h : o.id = operation.id <;> simp [h, finishRecord]
    rw [hpred]
    refine (map_congr_left fun o ho => ?_).trans (map_id _)
    -- An operation of this sandbox is not the one that ended.
    obtain ⟨hmem, hid⟩ := mem_filter.1 ho
    refine if_neg fun heq => hne ?_
    obtain rfl : operation = o := Option.some.inj
      (hop.symm.trans (hs.operation?_eq_some.2 ⟨hmem, heq⟩))
    exact (of_decide_eq_true hid).symm
  · refine operationEvents_appendEvent_of_ne fun heq => hne ?_
    obtain rfl : operation = other := Option.some.inj
      (hop.symm.trans (hs.operation?_eq_some.2 ⟨hmem, heq.symm⟩))
    exact hid.symm

end Store

/-! ### Commands -/

/-- The transactions that move neither the state of a sandbox nor its operations, and that write at
most the SSH resolution of the sandbox `id` and the log of the operation `own`. -/
def StoreOp.Keeps (id : SandboxId) (own : Option OperationId) : StoreOp → Prop
  | .beginOperation .. | .putSandbox _ | .putSandboxWithSshTransport .. | .finishOperation .. =>
    False
  | .setSshResolution id' _ => id' = id
  | .appendOperationEvent o _ => own = some o
  | _ => True

/-- What a transaction other than the end of an operation has to send: the event that it appends. -/
def StoreOp.news : (op : StoreOp) → op.Result → Option OperationEvent
  | .appendOperationEvent .., event => some event
  | _, _ => none

/-- The commands that move neither the state of a sandbox nor its operations, that write at most the
SSH resolution of the sandbox `id` and the log of the operation `own` to the store, and that send
what they log. -/
def Cmd.Keeps (id : SandboxId) (own : Option OperationId) : Cmd → Prop
  | .store op send => op.Keeps id own ∧ send = op.news
  | _ => True

variable {op : StoreOp} {id : SandboxId} {own : Option OperationId} {result : op.Result} {w : World}

variable {s s' : Store} {now : Int} {other : SandboxId} {c : Cmd}

theorem StoreOp.run_same (hop : op.Keeps id own) (h : op.run s now = .ok (result, s')) :
    Store.Same s s' := by
  have hwrites := StoreOp.writes_of_run h
  cases op with
  | setSshResolution id resolution => exact Store.same_setSshResolution hwrites
  | appendOperationEvent o details =>
    obtain ⟨_, -, -, rfl⟩ := hwrites
    exact ⟨rfl, fun _ => rfl⟩
  | beginOperation | putSandbox | putSandboxWithSshTransport | finishOperation => exact hop.elim
  | _ => exact hwrites ▸ .refl s

theorem StoreOp.run_extends (h : op.run s now = .ok (result, s')) : Store.Extends s s' := by
  have hwrites := StoreOp.writes_of_run h
  cases op with
  | setSshResolution id resolution =>
    exact .of_operations (Store.same_setSshResolution hwrites).operations
  | appendOperationEvent o details =>
    obtain ⟨_, -, -, rfl⟩ := hwrites
    exact .of_operations rfl
  | putSandbox record =>
    obtain ⟨-, -, rfl⟩ := hwrites
    exact .of_operations Store.operations_upsert
  | putSandboxWithSshTransport record policy =>
    obtain ⟨-, -, -, rfl⟩ := hwrites
    exact .of_operations Store.operations_upsert
  | beginOperation record kind => exact Store.extends_beginOperation h
  | finishOperation o actual status code details clear =>
    obtain ⟨operation, row, -, hfound, hpending, hstatus, -, -, rfl⟩ := hwrites
    exact Store.extends_finished hfound hpending hstatus
  | _ => exact hwrites ▸ .refl s

/-- The operation to whose log a transaction appends. -/
def StoreOp.logged : StoreOp → Option OperationId
  | .appendOperationEvent o _ | .finishOperation o .. => some o
  | _ => none

/-- The other logs are not touched: an operation that begins has an identifier that was not handed
out before. -/
theorem StoreOp.run_operationEvents (hs : s.Inv) (h : op.run s now = .ok (result, s'))
    {o : OperationId} {operation : OperationRecord} (hfound : s.operation? o = some operation)
    (ho : op.logged ≠ some o) : s'.operationEvents o = s.operationEvents o := by
  have hwrites := StoreOp.writes_of_run h
  cases op with
  | setSshResolution id resolution =>
    obtain ⟨-, -, rfl⟩ := Store.setSshResolution_eq_ok.1 hwrites
    rfl
  | appendOperationEvent o' details =>
    obtain ⟨_, -, -, rfl⟩ := hwrites
    exact Store.operationEvents_appendEvent_of_ne fun heq => ho (congrArg some heq)
  | putSandbox record =>
    obtain ⟨-, -, rfl⟩ := hwrites
    exact Store.operationEvents_upsert o
  | putSandboxWithSshTransport record policy =>
    obtain ⟨-, -, -, rfl⟩ := hwrites
    exact Store.operationEvents_upsert o
  | beginOperation record kind =>
    obtain ⟨-, -, -, rfl, rfl⟩ := Store.beginOperation_eq_ok.1 h
    have hne : s.operationSeq + 1 ≠ o := by
      have hle := hs.bounded operation (Store.mem_of_operation? hfound)
      rw [Store.id_of_operation? hfound] at hle
      exact fun heq => Nat.not_succ_le_self _ (heq ▸ hle)
    exact (Store.operationEvents_appendEvent_of_ne hne).trans (Store.operationEvents_upsert o)
  | finishOperation o' actual status code details clear =>
    obtain ⟨operation, row, rfl, -, -, -, -, -, rfl⟩ := hwrites
    exact Store.operationEvents_appendEvent_of_ne fun heq => ho (congrArg some heq)
  | _ =>
    obtain rfl := hwrites
    rfl

/-- The transactions that write only to the sandbox `id` and its operations. -/
def StoreOp.About (id : SandboxId) (s : Store) : StoreOp → Prop
  | .beginOperation record _ | .putSandbox record | .putSandboxWithSshTransport record _ =>
    record.id = id
  | .setSshResolution id' _ => id' = id
  | .finishOperation o .. | .appendOperationEvent o _ => ∀ operation,
    s.operation? o = some operation → operation.sandboxId = id
  | _ => True

theorem StoreOp.Keeps.about (h : op.Keeps id own)
    (hown : ∀ o ∈ own, ∀ operation, s.operation? o = some operation → operation.sandboxId = id) :
    op.About id s := by
  cases op with
  | appendOperationEvent o details => exact hown o h
  | _ => first | exact h | exact h.elim

/-- Another sandbox does not see such a transaction. -/
theorem StoreOp.run_alike (hs : s.Inv) (hop : op.About id s) (hne : other ≠ id)
    (h : op.run s now = .ok (result, s')) : Store.Alike other s s' := by
  have hwrites := StoreOp.writes_of_run h
  cases op with
  | setSshResolution id' resolution =>
    obtain ⟨-, -, rfl⟩ := Store.setSshResolution_eq_ok.1 hwrites
    exact Store.alike_updateRow (fun heq => hne (heq.trans hop)) fun _ => rfl
  | appendOperationEvent o details =>
    obtain ⟨operation, hfound, -, rfl⟩ := hwrites
    refine ⟨rfl, rfl, fun other hmem hid => ?_⟩
    refine Store.operationEvents_appendEvent_of_ne fun heq => hne ?_
    have hsame : operation = other :=
      Option.some.inj (hfound.symm.trans (hs.operation?_eq_some.2 ⟨hmem, heq.symm⟩))
    exact hid.symm.trans (hsame ▸ hop operation hfound)
  | putSandbox record =>
    obtain ⟨-, -, rfl⟩ := hwrites
    exact Store.alike_upsert fun heq => hne (heq.trans hop)
  | putSandboxWithSshTransport record policy =>
    obtain ⟨-, -, -, rfl⟩ := hwrites
    have hrecord : other ≠ record.id := fun heq => hne (heq.trans hop)
    exact (Store.alike_upsert hrecord).trans (Store.alike_updateRow hrecord fun _ => rfl)
  | beginOperation record kind =>
    exact Store.alike_beginOperation hs (fun heq => hne (heq.trans hop)) h
  | finishOperation o actual status code details clear =>
    obtain ⟨operation, row, rfl, hfound, -, -, -, -, rfl⟩ := hwrites
    exact Store.alike_finished hs hfound (hop operation hfound ▸ hne)
  | _ => exact hwrites ▸ .refl other s

theorem perform_store_eq (x : Choice) (hc : ∀ op send, c ≠ .store op send) :
    (perform c x w).2.store = w.store := by
  cases c with
  | store op send => exact absurd rfl (hc op send)
  | exec id command =>
    show (performExec id command x.exec w).2.store = w.store
    unfold performExec
    split
    · rfl
    · split
      · rfl
      · dsimp only
        split <;> split <;> rfl
  | commitFiles hosts =>
    simp only [perform]
    split <;> rfl
  | _ => rfl

/-- A transaction writes what it says, or fails and writes nothing. -/
theorem performStore_induction {op : StoreOp} {P : Except ServiceError op.Result → World → Prop}
    (hok : ∀ now result store, op.run w.store now = .ok (result, store) →
      P (.ok result) { w with store }) (herror : ∀ error, P (.error error) w) (x : Choice) :
    P (performStore op x w).1 (performStore op x w).2 := by
  unfold performStore
  cases x.storeFault with
  | some error => exact herror error
  | none =>
    dsimp only
    cases hrun : op.run w.store x.now with
    | ok result => exact hok x.now result.1 result.2 hrun
    | error error => exact herror _

theorem perform_runtime_of_store (op : StoreOp) (send : op.Result → Option OperationEvent)
    (x : Choice) (w : World) : (perform (.store op send) x w).2.runtime = w.runtime :=
  performStore_induction (P := fun _ w' => w'.runtime = w.runtime) (fun _ _ _ _ => rfl)
    (fun _ => rfl) x

/-- A relation between stores that every transaction keeps is kept by every command. -/
theorem perform_rel {R : Store → Store → Prop} (hrefl : ∀ s, R s s) (x : Choice)
    (hrun : ∀ op send, c = .store op send → ∀ now result s',
      op.run w.store now = .ok (result, s') → R w.store s') :
    R w.store (perform c x w).2.store := by
  by_cases hc : ∀ op send, c ≠ .store op send
  · rw [perform_store_eq x hc]
    exact hrefl _
  · push Not at hc
    obtain ⟨op, send, rfl⟩ := hc
    exact performStore_induction (P := fun _ w' => R w.store w'.store) (hrun op send rfl)
      (fun _ => hrefl _) x

theorem perform_inv (hw : w.store.Inv) (c : Cmd) (x : Choice) : (perform c x w).2.store.Inv :=
  perform_rel (R := fun s s' => s.Inv → s'.Inv) (fun _ h => h) x
    (fun op _ _ _ _ _ hrun hs => hs.run op hrun) hw

theorem perform_extends (c : Cmd) (x : Choice) (w : World) :
    Store.Extends w.store (perform c x w).2.store :=
  perform_rel .refl x fun _ _ _ _ _ _ => StoreOp.run_extends

theorem perform_same (hc : c.Keeps id own) (x : Choice) (w : World) :
    Store.Same w.store (perform c x w).2.store := by
  refine perform_rel .refl x fun op send hop now result s' => ?_
  subst hop
  exact StoreOp.run_same hc.1

/-- What a command that writes only to the sandbox `id` leaves for the others. -/
theorem perform_alike {x : Choice} (hw : w.store.Inv)
    (hc : ∀ op send, c = .store op send → op.About id w.store) (hne : other ≠ id) :
    Store.Alike other w.store (perform c x w).2.store :=
  perform_rel (.refl other) x fun op send hop _ _ _ => StoreOp.run_alike hw (hc op send hop) hne

end Gascan
