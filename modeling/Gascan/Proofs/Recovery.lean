import Gascan.Proofs.Policy
import Gascan.Proofs.Reachable
import Gascan.Proofs.Rules

/-!
# `Gascan.Proofs.Recovery`: when a start of the daemon deals with every pending operation

`recover_pending` ends each pending operation in the state that the runtime reports, and the store
admits only some edges from the state it has recorded. `recoveryEnv` is the environment in which the
store, `inspect` and `list_resources` work and every reported state is admitted.
`recoverPending_settles` says that the recovery then returns, whatever else fails or changes, and
every operation that was pending has ended or is named by a finding.
-/

namespace Gascan

open Lib Service List
open Lib.Prog hiding pure
open Store (Pending)

/-! ### The environment of the recovery -/

/-- The recovery of this operation would publish SSH again: a creation with SSH whose container runs
and whose log shows that it passed its health check. -/
def interruptedPublication (s : Store) (operation : OperationRecord) (row : SandboxRow)
    (actual : ActualState) : Bool :=
  operation.kind = .create && row.sshTransport.any (·.isEnabled) && actual = .running &&
    orderedHookEvidence (s.operationEvents operation.id) (s.recordOf row)

/-- The store admits what the recovery makes of an inspection of a sandbox: the pending operation
may fail in the reported state, and in `Absent` when its SSH publication may be undone. A container
of someone else is not looked at further. -/
def admits (s : Store) (id : SandboxId) (inspected : Option RuntimeSandbox) : Bool :=
  inspected.any (!ownedBy · id) ||
    (s.pendingOperations.filter (·.sandboxId = id)).all fun operation =>
      (s.row? id).all fun row =>
        let state := row.record.actualState
        let actual := inspectedActual inspected
        terminalTransition state actual operation.kind .failed &&
          (!interruptedPublication s operation row actual ||
            terminalTransition state .absent operation.kind .failed)

/-- The commands of the recovery that work, and the inspections that are admitted. -/
def recoveryAllows (c : Cmd) (x : Choice) (w : World) : Bool :=
  match c with
  | .store _ _ => x.storeFault.isNone
  | .inspect id =>
    x.fault = none && admits w.store id ((w.runtime.container? id).map Runtime.observe)
  | .listResources => x.fault = none
  | _ => true

/-- The environment of the recovery. The store, `inspect` and `list_resources` work, and every
inspection is admitted. Everything but the store may change from outside. -/
def recoveryEnv : Prog.Env Cmd World Choice where
  rely w w' := w'.store = w.store
  allows c x w := recoveryAllows c x w = true

theorem storeWorks_recoveryEnv : StoreWorks recoveryEnv := fun _ _ _ _ h =>
  Option.isNone_iff_eq_none.1 h

variable {operation : OperationRecord}

/-- What an admitted inspection says about a pending operation. -/
theorem edges_of_admits {s : Store} {id : SandboxId} {inspected : Option RuntimeSandbox}
    (h : admits s id inspected = true) (howned : inspected.any (!ownedBy · id) = false)
    (hmem : operation ∈ s.pendingOperations) (hid : operation.sandboxId = id) {row : SandboxRow}
    (hrow : s.row? id = some row) :
    terminalTransition row.record.actualState (inspectedActual inspected) operation.kind
        .failed = true ∧
      (interruptedPublication s operation row (inspectedActual inspected) = true →
        terminalTransition row.record.actualState .absent operation.kind .failed = true) := by
  rw [admits, howned, Bool.false_or, all_eq_true] at h
  have hop := h operation (mem_filter.2 ⟨hmem, decide_eq_true hid⟩)
  rw [hrow, Option.all_some, Bool.and_eq_true, Bool.or_eq_true, Bool.not_eq_true'] at hop
  refine ⟨hop.1, fun hssh => hop.2.resolve_left ?_⟩
  rw [hssh]
  decide

/-- The program does not end with an error, and returns as `Q` says. -/
abbrev Returns {α : Type} (p : Svc α) (Q : α → World → Prop) (w : World) : Prop :=
  p.wp perform recoveryEnv (fun _ _ => True) Q (fun _ _ => False) w

/-- What the recovery of an operation has to establish. -/
def Dealt (operation : OperationRecord) (findings : List ReconcileFinding) (w : World) : Prop :=
  w.store.Ended operation.id ∨ ∃ finding ∈ findings, finding.sandboxId = operation.sandboxId

theorem Dealt.mono {findings more : List ReconcileFinding} {w : World}
    (h : Dealt operation findings w) (hsub : ∀ {finding}, finding ∈ findings → finding ∈ more) :
    Dealt operation more w := by
  rcases h with h | ⟨finding, hfinding, hid⟩
  · exact .inl h
  · exact .inr ⟨finding, hsub hfinding, hid⟩

section Operation

variable {α : Type} {w : World} {s : Store} {operation : OperationRecord} {row : SandboxRow}
  {actual : ActualState}

theorem returns_finish (hp : Pending s operation row) (hw : w.store = s) {status : OperationStatus}
    (hstatus : status ≠ .pending) {code : Option String} {details : Option Json} {clear : Bool}
    (hedge : terminalTransition row.record.actualState actual operation.kind status = true)
    (hclear : clear = true → Store.mayClearSshTrust operation.kind status actual = true) :
    Returns (do
      let _ ← database (.finishOperation operation.id actual status code details clear)
      pure ()) (fun _ w' => w'.store.Ended operation.id) w := by
  refine (wp_bind _ _).2 (wp_database_ok storeWorks_recoveryEnv fun w1 hrely now => ?_)
  have hstore : w1.store = s := hrely.trans hw
  have hrun : ∃ result, w1.store.finishOperation operation.id actual status code details clear now =
      .ok (result, s.finished operation actual status code details clear now) := by
    rw [hstore]
    exact ⟨_, Store.finishOperation_ok hp.found hp.pending hstatus hp.row hedge hclear⟩
  obtain ⟨result, hrun⟩ := hrun
  exact ⟨result, _, hrun, trivial, Store.ended_finished hp.found hstatus⟩

/-! SSH. -/

/-- What the SSH part of the recovery leaves: the operation is dealt with, or it is pending as
before and the record is that of its sandbox. -/
def SshDealt (operation : OperationRecord) (state : ActualState) (result : SshRecovery)
    (w : World) : Prop :=
  match result with
  | .ended findings => Dealt operation findings w
  | .ready record _ => ∃ row, Pending w.store operation row ∧ row.record.actualState = state ∧
    record = w.store.recordOf row

/-- The condition that the steps of the SSH recovery keep. -/
def StillPending (operation : OperationRecord) (state : ActualState) (w : World) : Prop :=
  ∃ row, Pending w.store operation row ∧ row.record.actualState = state

variable {state : ActualState}

theorem returns_of_keeps {p : Svc α} {id : SandboxId}
    (hp : p.Uses (Cmd.Keeps id (some operation.id))) (h : StillPending operation state w) :
    Returns (p.attempt (δ := ServiceError)) (fun _ => StillPending operation state) w := by
  refine (wp_attempt p).2 ?_
  have hwp : p.wp perform recoveryEnv (fun _ _ => True) (fun _ => StillPending operation state)
      (fun _ => StillPending operation state) w := by
    refine wp_of_uses hp (fun w w' hrely hI => ?_) (fun c x w hc hI _ => ⟨trivial, ?_⟩) h
    · obtain ⟨row, hrow, hstate⟩ := hI
      exact ⟨row, hrely.symm ▸ hrow, hstate⟩
    · obtain ⟨row, hrow, hstate⟩ := hI
      obtain ⟨row', hrow', hstate', -⟩ := hrow.same (perform_same hc x w) (perform_inv hrow.inv c x)
      exact ⟨row', hrow', hstate'.trans hstate⟩
  exact hwp

theorem returns_abandonSshCreate {error : ServiceError} (hkind : operation.kind = .create)
    (hedge : terminalTransition state .absent operation.kind .failed = true)
    (h : StillPending operation state w) :
    Returns (abandonSshCreate operation error) (SshDealt operation state) w := by
  refine wp_seq (returns_of_keeps (keeps_rollbackInterruptedSshCreate _) h) fun undone w1 h1 => ?_
  cases undone with
  | error _ => exact .inr ⟨_, mem_singleton_self _, rfl⟩
  | ok _ =>
    obtain ⟨row, hrow, rfl⟩ := h1
    refine wp_seq (returns_finish hrow rfl (by decide) hedge fun _ => ?_) fun _ w2 h2 => .inl h2
    rw [hkind]
    rfl

theorem returns_recoverSsh (hp : Pending s operation row) (hw : w.store = s)
    (hssh : interruptedPublication s operation row actual = true →
      terminalTransition row.record.actualState .absent operation.kind .failed = true) :
    Returns (recoverSsh operation (s.recordOf row) (s.operationEvents operation.id) actual
      (orderedHookEvidence (s.operationEvents operation.id) (s.recordOf row)))
      (SshDealt operation row.record.actualState) w := by
  refine (wp_bind _ _).2 (wp_read storeWorks_recoveryEnv (fun _ _ => rfl)
    fun w1 hrely => ⟨trivial, ?_⟩)
  have hstore : w1.store = s := hrely.trans hw
  have htransport : w1.store.sshTransportPolicy operation.sandboxId = row.sshTransport := by
    rw [hstore, Store.sshTransportPolicy, hp.row]
    rfl
  have hstill : StillPending operation row.record.actualState w1 := ⟨row, hstore.symm ▸ hp, rfl⟩
  rw [htransport]
  split
  next hbranch =>
    have hkind : operation.kind = .create := by
      simp only [Bool.and_eq_true, decide_eq_true_eq] at hbranch
      exact hbranch.1.1.1
    refine wp_seq (returns_of_keeps (keeps_of_light (light_recoverPendingSshPublication ..)) hstill)
      fun recovered w2 h2 => ?_
    cases recovered with
    | ok _ =>
      -- The record is read again, with the resolution that was published.
      refine (wp_bind _ _).2 (wp_loadRecord storeWorks_recoveryEnv fun w3 hrely3 =>
        ⟨trivial, ?_⟩)
      obtain ⟨row2, hrow2, hstate2⟩ := h2
      have hstore3 : w3.store = w2.store := hrely3
      have hfound : w3.store.sandbox operation.sandboxId = some (w3.store.recordOf row2) := by
        rw [hstore3, Store.sandbox, hrow2.row]
        rfl
      rw [hfound]
      exact ⟨row2, hstore3.symm ▸ hrow2, hstate2, rfl⟩
    | error error =>
      dsimp only
      split
      · exact .inr ⟨_, mem_singleton_self _, rfl⟩
      · exact returns_abandonSshCreate hkind (hssh hbranch) h2
  next => exact ⟨row, hstore.symm ▸ hp, rfl, by rw [hstore]⟩

/-! The terminal state. -/

theorem returns_expectedAbsent (operation : OperationRecord) :
    Returns (expectedAbsent operation) (fun _ w' => w'.store = w.store) w := by
  unfold expectedAbsent
  split
  · rw [expectedResourceIdentities_eq]
    intro w1 hrely x hallows
    refine ⟨trivial, ?_⟩
    have hfault : x.fault = none := of_decide_eq_true hallows
    show (ofRuntime (orElseOk (x.fault.map (·.error)) w1.runtime.resources) >>= _ : Svc Bool).wp
      perform recoveryEnv _ _ _ w1
    rw [hfault]
    exact hrely
  · rfl

theorem validateResolutions_recovered {record : SandboxRecord}
    (h : validateResolutions record = .ok ()) (actual : ActualState) (details : Json) :
    validateResolutions (recoveredRecord record actual details) = .ok () := by
  obtain ⟨-, -, himage, hstorage, hssh⟩ := Store.validateResolutions_eq_ok.1 h
  exact Store.validateResolutions_eq_ok.2 ⟨rfl, rfl, himage, hstorage, hssh⟩

theorem returns_putRecovered (hp : Pending s operation row) (hw : w.store = s)
    (hedge : actualTransition row.record.actualState actual = true) (details : Json) :
    Returns (database (.putSandbox (recoveredRecord (s.recordOf row) actual details)))
      (fun _ w' => ∃ row', Pending w'.store operation row' ∧ row'.record.actualState =
        actual) w := by
  refine wp_database_ok storeWorks_recoveryEnv fun w1 hrely now => ?_
  have hstore : w1.store = s := hrely.trans hw
  have hsandbox : s.sandbox operation.sandboxId = some (s.recordOf row) := by
    rw [Store.sandbox, hp.row]
    rfl
  have hres := validateResolutions_recovered
    (Store.validateResolutions_of_sandbox hp.inv hsandbox) actual details
  have hput : s.checkPut (recoveredRecord (s.recordOf row) actual details) = .ok () := by
    rw [Store.checkPut_of_sandbox hp.inv hsandbox
      (recoveredRecord (s.recordOf row) actual details) rfl rfl]
    exact hedge
  have hid : (recoveredRecord (s.recordOf row) actual details).id = operation.sandboxId :=
    Store.id_of_row? hp.row
  refine ⟨(), s.upsert (recoveredRecord (s.recordOf row) actual details) now, ?_, trivial, ?_⟩
  · show StoreOp.unit (w1.store.putSandbox _ now) = _
    rw [hstore, Store.putSandbox_eq_ok.2 ⟨hres, hput, rfl⟩]
    rfl
  · refine ⟨_, ⟨hp.inv.upsert hres hput, ?_, hp.pending, Store.row?_upsert_of_row hp.row hid⟩, rfl⟩
    rw [Store.operation?, Store.operations_upsert]
    exact hp.found

theorem returns_completeRecovered (hp : Pending s operation row) (hw : w.store = s)
    (hedge : actualTransition row.record.actualState actual = true) (events : List OperationEvent) :
    Returns (completeRecovered operation (s.recordOf row) events actual)
      (fun _ w' => w'.store.Ended operation.id) w := by
  refine (wp_bind _ _).2 ?_
  cases provisionEvidence operation.kind events with
  | none =>
    exact returns_finish hp hw (by decide)
      (Store.terminalTransition_of_actualTransition hedge) nofun
  | some details =>
    refine wp_mono _ (fun _ _ hg => hg) (fun _ w1 h1 => ?_) (fun _ _ he => he)
      (returns_putRecovered hp hw hedge details)
    obtain ⟨row', hrow', rfl⟩ := h1
    refine returns_finish hrow' rfl (by decide)
      (Store.terminalTransition_of_actualTransition ?_) nofun
    cases row'.record.actualState <;> rfl

/-- An operation that converged reaches its state along an edge that every write may follow. -/
theorem actualTransition_of_converged {kind : OperationKind} {source : ActualState}
    {evidence ready absent : Bool} (hconverged : converged kind actual evidence ready absent = true)
    (hedge : terminalTransition source actual kind .failed = true) :
    actualTransition source actual = true := by
  have hrollback : rollbackTransition kind source actual = false := by
    cases kind <;> cases source <;> cases actual <;> first | rfl | simp [converged] at hconverged
  rw [terminalTransition, hrollback, Bool.and_false, Bool.or_false] at hedge
  exact hedge

theorem returns_recoverInspected (hp : Pending s operation row) (hw : w.store = s)
    (hedge : terminalTransition row.record.actualState actual operation.kind .failed = true)
    (hssh : interruptedPublication s operation row actual = true →
      terminalTransition row.record.actualState .absent operation.kind .failed = true) :
    Returns (recoverInspected operation (s.recordOf row) (s.operationEvents operation.id) actual
      (orderedHookEvidence (s.operationEvents operation.id) (s.recordOf row)))
      (Dealt operation) w := by
  refine wp_seq (returns_recoverSsh hp hw hssh) fun ssh w1 h1 => ?_
  cases ssh with
  | ended findings => exact h1
  | ready record ready =>
    obtain ⟨row1, hrow1, hstate1, rfl⟩ := h1
    rw [← hstate1] at hedge
    refine wp_seq (returns_expectedAbsent operation) fun absent w2 h2 => ?_
    split
    next hconverged =>
      refine wp_seq (returns_completeRecovered hrow1 h2
        (actualTransition_of_converged hconverged hedge) _) fun _ w3 h3 => .inl h3
    next =>
      exact wp_seq (returns_finish hrow1 h2 (by decide) hedge nofun) fun _ w3 h3 => .inl h3

theorem returns_recoverStillPending (hp : Pending s operation row) (hw : w.store = s) :
    Returns (recoverStillPending operation) (Dealt operation) w := by
  refine (wp_bind _ _).2 (wp_read storeWorks_recoveryEnv (fun _ _ => rfl)
    fun w1 hrely1 => ⟨trivial, ?_⟩)
  have hstore1 : w1.store = s := hrely1.trans hw
  refine (wp_bind _ _).2 (wp_loadRecord storeWorks_recoveryEnv fun w2 hrely2 => ⟨trivial, ?_⟩)
  have hstore2 : w2.store = s := hrely2.trans hstore1
  have hfound : w2.store.sandbox operation.sandboxId = some (s.recordOf row) := by
    rw [hstore2, Store.sandbox, hp.row]
    rfl
  rw [hfound]
  intro w3 hrely3 x hallows
  have hstore3 : w3.store = s := hrely3.trans hstore2
  obtain ⟨hfault, hadmitted⟩ := Bool.and_eq_true_iff.1 hallows
  have hfault : x.fault = none := of_decide_eq_true hfault
  refine ⟨trivial, ?_⟩
  rw [hstore3] at hadmitted
  have hmem : operation ∈ s.pendingOperations :=
    mem_filter.2 ⟨Store.mem_of_operation? hp.found, decide_eq_true hp.pending⟩
  have hreply : (perform (.inspect operation.sandboxId) x w3) =
      (.ok ((w3.runtime.container? operation.sandboxId).map Runtime.observe), w3) := by
    show (orElseOk _ _, w3) = _
    rw [hfault]
    rfl
  rw [hreply]
  dsimp only
  show (if _ then _ else _ : Svc (List ReconcileFinding)).wp _ _ _ _ _ _
  split
  next =>
    -- The container of someone else: the operation fails in the recorded state.
    refine wp_seq (returns_finish hp hstore3 (by decide) ?_ (fun hclear =>
      absurd hclear (by decide))) fun _ w4 h4 => .inl h4
    exact Store.terminalTransition_of_actualTransition (by
      show actualTransition row.record.actualState row.record.actualState = true
      cases row.record.actualState <;> rfl)
  next howned =>
    obtain ⟨hedge, hssh⟩ := edges_of_admits hadmitted (Bool.eq_false_iff.2 howned) hmem rfl hp.row
    rw [hstore1]
    exact returns_recoverInspected hp hstore3 hedge hssh

/-- An operation is as it was, or has ended. -/
def Known (operation : OperationRecord) (s : Store) : Prop :=
  s.operation? operation.id = some operation ∨ s.Ended operation.id

theorem Known.extends {s s' : Store} (h : Known operation s) (hs : Store.Extends s s') :
    Known operation s' := by
  rcases h with h | h
  · obtain ⟨operation', hop', rfl | ⟨-, hended⟩⟩ := hs _ _ h
    · exact .inl hop'
    · exact .inr ⟨operation', hop', hended⟩
  · exact .inr (h.extends hs)

/-- One that is found among the pending operations is as it was. -/
theorem Known.pending {s : Store} (h : Known operation s) (hinv : s.Inv)
    (hany : s.pendingOperations.any (·.id = operation.id) = true) :
    s.operation? operation.id = some operation ∧ operation.status = .pending := by
  obtain ⟨found, hfound, hid⟩ := any_eq_true.1 hany
  obtain ⟨hmem, hpending⟩ := mem_filter.1 hfound
  have hlookup := hinv.operation?_eq_some.2 ⟨hmem, of_decide_eq_true hid⟩
  rcases h with h | ⟨other, hother, hended⟩
  · obtain rfl : operation = found := Option.some.inj (h.symm.trans hlookup)
    exact ⟨h, of_decide_eq_true hpending⟩
  · obtain rfl : other = found := Option.some.inj (hother.symm.trans hlookup)
    exact absurd (of_decide_eq_true hpending) hended

theorem returns_recoverOperation (hinv : w.store.Inv) (hop : Known operation w.store) :
    Returns (recoverOperation operation) (Dealt operation) w := by
  refine (wp_bind _ _).2 (wp_read storeWorks_recoveryEnv (fun _ _ => rfl)
    fun w1 hrely => ⟨trivial, ?_⟩)
  have hstore : w1.store = w.store := hrely
  split
  next hany =>
    obtain ⟨hop, hpending⟩ := hop.pending hinv (hstore ▸ hany)
    have hmem := Store.mem_of_operation? hop
    obtain ⟨row, hrow⟩ := Option.isSome_iff_exists.1 (hinv.referenced operation hmem)
    exact returns_recoverStillPending ⟨hinv, hop, hpending, hrow⟩ hstore
  next hnone =>
    rcases hop with hop | hop
    · left
      refine ⟨operation, hstore ▸ hop, fun hpending => hnone (any_eq_true.2 ?_)⟩
      refine ⟨operation, mem_filter.2 ⟨?_, decide_eq_true hpending⟩, decide_eq_true rfl⟩
      exact hstore ▸ Store.mem_of_operation? hop
    · exact .inl (hstore ▸ hop)

/-! All operations. -/

/-- How every command of a program changes the store. -/
def Grows (w w' : World) : Prop :=
  Store.Extends w.store w'.store ∧ (w.store.Inv → w'.store.Inv)

theorem perform_grows (c : Cmd) (x : Choice) (w : World) : Grows w (perform c x w).2 :=
  ⟨perform_extends c x w, fun h => perform_inv h c x⟩

/-- What is known of the store and only grows is carried along. -/
theorem Returns.frame {p : Svc α} {Q : α → World → Prop} {I : Store → Prop} (h : Returns p Q w)
    (hI : ∀ w w', Grows w w' → I w.store → I w'.store) (hw : I w.store) :
    Returns p (fun a w' => Q a w' ∧ I w'.store) w := by
  have hframe := wp_frame (I := fun w => I w.store) p
    (fun _ _ hrely hw => (show _ = _ from hrely) ▸ hw) (fun w w' hg => hI w w' hg.2)
    (wp_guarantee p perform_grows h) hw
  exact wp_mono p (fun _ _ _ => trivial) (fun _ _ hq => hq) (fun _ _ he => he.1) hframe

/-- The recovery of a list of operations. What was dealt with before stays so. -/
theorem returns_recoverEach (operations : List OperationRecord) (hinv : w.store.Inv)
    (hops : ∀ operation ∈ operations, Known operation w.store) :
    Returns (recoverEach operations)
      (fun findings w' => ∀ operation ∈ operations, Dealt operation findings w') w := by
  induction operations generalizing w with
  | nil => exact fun operation h => absurd h not_mem_nil
  | cons operation operations ih =>
    have hknown := hops operation (mem_cons_self ..)
    have hfirst := (returns_recoverOperation hinv hknown).frame
      (I := fun s => s.Inv ∧ ∀ other ∈ operations, Known other s)
      (fun w w' hgrows hI => ⟨hgrows.2 hI.1, fun other h => (hI.2 other h).extends hgrows.1⟩)
      ⟨hinv, fun other h => hops other (mem_cons_of_mem operation h)⟩
    refine wp_seq hfirst fun findings w1 h1 => ?_
    obtain ⟨hdealt, hinv1, hops1⟩ := h1
    have hrest := ih hinv1 hops1
    rcases hdealt with hended | hnamed
    · have hframed := hrest.frame (I := fun s => s.Ended operation.id)
        (fun _ _ hgrows hI => hI.extends hgrows.1) hended
      refine wp_seq hframed fun others w2 h2 other hother => ?_
      rcases mem_cons.1 hother with rfl | hother
      · exact .inl h2.2
      · exact (h2.1 other hother).mono (mem_append_right findings)
    · refine wp_seq hrest fun others w2 h2 other hother => ?_
      rcases mem_cons.1 hother with rfl | hother
      · obtain ⟨finding, hfinding, hid⟩ := hnamed
        exact .inr ⟨finding, mem_append_left others hfinding, hid⟩
      · exact (h2 other hother).mono (mem_append_right findings)

theorem returns_recoverPending (hinv : w.store.Inv) :
    Returns recoverPending
      (fun findings w' => ∀ operation ∈ w.store.pendingOperations, Dealt operation findings w')
      w := by
  refine (wp_bind _ _).2 (wp_read storeWorks_recoveryEnv (fun _ _ => rfl)
    fun w1 hrely => ⟨trivial, ?_⟩)
  have hstore : w1.store = w.store := hrely
  rw [← hstore] at hinv ⊢
  refine returns_recoverEach _ hinv fun operation hmem => .inl ?_
  exact hinv.operation?_eq_some.2 ⟨(mem_filter.1 hmem).1, rfl⟩

end Operation

/-- From every reachable state, and along every sequence of decisions of the environment in which
the inspected states are admitted, `recover_pending` returns, and every operation that was pending
has ended or is named by a finding. -/
theorem recoverPending_settles {s : System} (hs : System.Reachable s)
    (ticks : Nat → Prog.Tick World Choice)
    (hticks : recoverPending.Within perform recoveryEnv ticks s.world) :
    ∃ findings w', recoverPending.follow perform ticks s.world = (.ok findings, w') ∧
      ∀ operation ∈ s.world.store.pendingOperations,
        w'.store.Ended operation.id ∨
          ∃ finding ∈ findings, finding.sandboxId = operation.sandboxId := by
  have hwp := wp_follow _ ticks (returns_recoverPending (System.reachable_inv hs)) hticks
  cases hrun : recoverPending.follow perform ticks s.world with
  | mk result w' =>
    rw [hrun] at hwp
    cases result with
    | ok findings => exact ⟨findings, w', rfl, hwp⟩
    | error error => exact hwp.elim

/-- The recovery of the first `up` of a sandbox that was killed before it made a container. -/
theorem killedUp_settles :
    ∃ findings w', recoverPending.exec perform {} killedUp = (.ok findings, w') ∧
      ∀ operation ∈ killedUp.store.pendingOperations,
        w'.store.Ended operation.id ∨
          ∃ finding ∈ findings, finding.sandboxId = operation.sandboxId :=
  recoverPending_settles killedUp_reachable (fun _ => { choice := {} })
    (within_of_check (fun _ => rfl) (fun _ _ h => h) (by decide +kernel))

/-! ### An apply that was killed while it replaced the container -/

/-- An `apply` with the new image, killed after it removed the old container. -/
def killedApply : World :=
  ((applyInner nextImage demoSpec).run perform (Script.of (List.replicate 15 {})) upgraded).2

/-- Every call of the next start succeeds, and the recovery ends with an error. -/
theorem recovery_refused_after_apply :
    ∃ s, System.Reachable s ∧
      (recoverPending.exec perform {} s.world).1.isOk = false ∧
      (recoverPending.exec perform {} s.world).2.store.pendingOperations.length = 1 :=
  ⟨⟨killedApply, .down⟩, upgraded_reachable.killed (.apply demoSpec) (System.quiet_of _),
    by decide +kernel⟩

end Gascan
