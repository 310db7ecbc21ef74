import Gascan.Daemon.World
import Gascan.Lib.Result

/-!
# `Gascan.Proofs.StoreInvariant`: what every transaction of the store keeps

`Store.Inv` is the invariant of the store: identities and roots of the sandboxes are unique, what a
row holds passed the checks of the writes, every operation belongs to a sandbox, and a sandbox has
at most one pending operation. Each write has a lemma that says when it succeeds and one that it
keeps the invariant; `Inv.run` collects them.
-/

namespace Gascan

open Lib List Table

namespace Store

/-- The invariant of the store.

* `ids`, `roots`: no two sandboxes share an identity or a canonical root;
* `resolutions`, `transports`: every row passes the checks of a write;
* `operationIds`, `bounded`: the identifiers of the operations are distinct and were handed out;
* `referenced`: every operation belongs to a sandbox;
* `onePending`, `latest`: a sandbox has at most one pending operation, and that is its latest one;
* `logged`: the events belong to identifiers that were handed out. -/
structure Inv (s : Store) : Prop where
  ids : (s.sandboxes.map SandboxRow.id).Nodup
  roots : (s.sandboxes.map SandboxRow.root).Nodup
  resolutions : ∀ row ∈ s.sandboxes, validateResolutions row.record = .ok ()
  transports : ∀ row ∈ s.sandboxes, transportPortOk row.sshTransport = true
  operationIds : (s.operations.map OperationRecord.id).Nodup
  bounded : ∀ operation ∈ s.operations, operation.id ≤ s.operationSeq
  referenced : ∀ operation ∈ s.operations, (s.row? operation.sandboxId).isSome
  onePending : ∀ o1 ∈ s.operations, ∀ o2 ∈ s.operations, o1.status = .pending →
    o2.status = .pending → o1.sandboxId = o2.sandboxId → o1 = o2
  latest : ∀ operation ∈ s.operations, operation.status = .pending →
    ∀ other ∈ s.operations, other.sandboxId = operation.sandboxId → other.id ≤ operation.id
  logged : ∀ event ∈ s.events, event.operationId ≤ s.operationSeq

theorem inv_empty : Inv {} := by
  constructor <;> simp

variable {s s' : Store} {id : SandboxId} {now : Int} {f : SandboxRow → SandboxRow}

/-! ### Rows -/

variable {row : SandboxRow} {source target : ActualState} {kind : OperationKind}
  {status : OperationStatus} {record : SandboxRecord} {policy : Option SshTransportPolicy}
  {o : OperationId} {operation : OperationRecord} {details : Option Json} {code : Option String}
  {actual : ActualState}

theorem mem_of_row? (h : s.row? id = some row) : row ∈ s.sandboxes :=
  mem_of_lookup h

theorem id_of_row? (h : s.row? id = some row) : row.id = id :=
  key_of_lookup h

theorem row?_isSome : (s.row? id).isSome ↔ ∃ row ∈ s.sandboxes, row.record.id = id :=
  lookup_isSome

theorem rootOwner?_isSome {root : Path} :
    (s.rootOwner? root).isSome ↔ ∃ row ∈ s.sandboxes, row.record.canonicalRoot = root :=
  lookup_isSome

/-- A change of a row that keeps its identity and root and passes the checks keeps the invariant. -/
theorem Inv.updateRow (hs : Inv s) (hid : ∀ row, (f row).id = row.id)
    (hroot : ∀ row, (f row).root = row.root)
    (hres : ∀ row ∈ s.sandboxes, validateResolutions (f row).record = .ok ())
    (hport : ∀ row ∈ s.sandboxes, transportPortOk (f row).sshTransport = true) :
    Inv (s.updateRow id f) where
  ids := (map_key_update hid).symm ▸ hs.ids
  roots := by
    show ((Table.update SandboxRow.id id f s.sandboxes).map SandboxRow.root).Nodup
    rw [map_update SandboxRow.root hroot]
    exact hs.roots
  resolutions := forall_mem_update hs.resolutions fun row hrow _ => hres row hrow
  transports := forall_mem_update hs.transports fun row hrow _ => hport row hrow
  operationIds := hs.operationIds
  bounded := hs.bounded
  referenced := by
    intro operation hmem
    show (Table.lookup _ _ (Table.update _ _ _ _)).isSome
    rw [lookup_update hid, Option.isSome_map]
    exact hs.referenced operation hmem
  onePending := hs.onePending
  latest := hs.latest
  logged := hs.logged

theorem row?_updateRow (hid : ∀ row, (f row).id = row.id) (id' : SandboxId) :
    (s.updateRow id f).row? id' = (s.row? id').map fun row => if id' = id then f row else row :=
  lookup_update hid id'

/-- A record passes its checks when each resolution passes its own. -/
theorem validateResolutions_eq_ok {r : SandboxRecord} :
    validateResolutions r = .ok () ↔
      validateOptional (validateResolutionVersion ·.version) r.setupResolution = .ok () ∧
      validateOptional (validateResolutionVersion ·.version) r.toolResolution = .ok () ∧
      validateOptional (validateResolutionVersion ·.version) r.imageResolution = .ok () ∧
      validateOptional (validateResolutionVersion ·.version) r.storageResolution = .ok () ∧
      validateOptional validateSshResolution r.sshResolution = .ok () := by
  unfold validateResolutions
  simp only [check_bind_eq_ok]

/-! ### Writing a record -/

theorem validateActualTransition_eq_ok :
    validateActualTransition source target = .ok () ↔ actualTransition source target = true := by
  unfold validateActualTransition
  split <;> simp_all

/-- An edge that every write may follow may be followed by the end of an operation. -/
theorem terminalTransition_of_actualTransition (h : actualTransition source target = true) :
    terminalTransition source target kind status = true := by
  rw [terminalTransition, h, Bool.true_or]

theorem actualTransition_self (state : ActualState) : actualTransition state state = true := by
  cases state <;> rfl

theorem checkPut_eq_ok :
    s.checkPut record = .ok () ↔
      (∀ row, s.row? record.id = some row →
        samePath row.record.canonicalRoot record.canonicalRoot = true ∧
          actualTransition row.record.actualState record.actualState = true) ∧
      ∀ owner, s.rootOwner? record.canonicalRoot = some owner → owner.record.id = record.id := by
  unfold checkPut checkIdentity checkRoot
  rw [check_bind_eq_ok]
  refine and_congr ?_ ?_
  · cases s.row? record.id with
    | none => simp
    | some row =>
      by_cases hroot : samePath row.record.canonicalRoot record.canonicalRoot = true <;>
        simp [hroot, validateActualTransition_eq_ok]
  · cases s.rootOwner? record.canonicalRoot with
    | none => simp
    | some owner => by_cases howner : owner.record.id = record.id <;> simp [howner]

theorem assignRecord_id (record : SandboxRecord) (now : Int) (row : SandboxRow) :
    (assignRecord record now row).id = row.id := rfl

theorem row?_upsert (id' : SandboxId) :
    (s.upsert record now).row? id' =
      if id' = record.id then
        some (((s.row? record.id).map (assignRecord record now)).getD
          ⟨{ record with lastOperationId := none, updatedAtMillis := now }, none⟩)
      else s.row? id' := by
  unfold upsert
  cases hrow : s.row? record.id with
  | some row =>
    rw [if_pos (by rfl), row?_updateRow (assignRecord_id record now)]
    by_cases h : id' = record.id
    · subst h
      simp [hrow]
    · simp [h]
  | none =>
    rw [if_neg (by simp)]
    show Table.lookup _ _ (_ ++ [_]) = _
    rw [lookup_append_one]
    by_cases h : id' = record.id
    · subst h
      have hnone : Table.lookup SandboxRow.id record.id s.sandboxes = none := hrow
      simp [hnone]
    · have hne : record.id ≠ id' := fun heq => h heq.symm
      simp [h, hne, row?]

theorem Inv.upsert (hs : Inv s) (hres : validateResolutions record = .ok ())
    (hput : s.checkPut record = .ok ()) : Inv (s.upsert record now) := by
  unfold Store.upsert
  cases hrow : s.row? record.id with
  | some row =>
    rw [if_pos (by rfl)]
    exact hs.updateRow (fun _ => rfl) (fun _ => rfl) (fun _ _ => hres)
      fun row hmem => hs.transports row hmem
  | none =>
    rw [if_neg (by simp)]
    -- The row is new, so neither its identity nor its root is taken.
    have hid : ∀ row ∈ s.sandboxes, row.record.id ≠ record.id := Table.lookup_eq_none.1 hrow
    have hroot : ∀ row ∈ s.sandboxes, row.record.canonicalRoot ≠ record.canonicalRoot := by
      intro row hmem heq
      obtain ⟨owner, howner⟩ := Option.isSome_iff_exists.1
        (rootOwner?_isSome.2 ⟨row, hmem, heq⟩)
      exact hid owner (mem_of_lookup howner) ((checkPut_eq_ok.1 hput).2 owner howner)
    refine
      { ids := ?_, roots := ?_, resolutions := ?_, transports := ?_, referenced := ?_
        operationIds := hs.operationIds, bounded := hs.bounded, onePending := hs.onePending
        latest := hs.latest, logged := hs.logged }
    · simpa [nodup_append, hs.ids] using hid
    · simpa [nodup_append, hs.roots] using hroot
    · simpa [or_imp, forall_and] using ⟨hs.resolutions, hres⟩
    · simpa [or_imp, forall_and] using ⟨hs.transports, rfl⟩
    · intro operation hmem
      obtain ⟨row, hfound⟩ := Option.isSome_iff_exists.1 (hs.referenced operation hmem)
      refine row?_isSome.2 ⟨row, ?_, id_of_row? hfound⟩
      exact mem_append_left _ (mem_of_row? hfound)

theorem putSandboxIn_eq_ok :
    s.putSandboxIn record now = .ok s' ↔ s.checkPut record = .ok () ∧ s' = s.upsert record now := by
  unfold putSandboxIn
  rw [check_bind_eq_ok]
  exact and_congr_right fun _ => ⟨fun h => (Except.ok.inj h).symm, fun h => h ▸ rfl⟩

theorem putSandbox_eq_ok :
    s.putSandbox record now = .ok s' ↔
      validateResolutions record = .ok () ∧ s.checkPut record = .ok () ∧
        s' = s.upsert record now := by
  unfold putSandbox
  rw [check_bind_eq_ok, putSandboxIn_eq_ok]

theorem setSshTransportPolicyIn_eq_ok :
    s.setSshTransportPolicyIn id policy = .ok s' ↔
      (s.row? id).isSome ∧ transportPortOk policy = true ∧
        s' = s.updateRow id fun row => { row with sshTransport := policy } := by
  unfold setSshTransportPolicyIn
  cases hrow : s.row? id with
  | none => simp
  | some row =>
    cases hport : transportPortOk policy with
    | false => simp
    | true => simp [eq_comm]

theorem row?_upsert_isSome : ((s.upsert record now).row? record.id).isSome := by
  rw [row?_upsert, if_pos rfl]
  rfl

theorem putSandboxWithSshTransport_eq_ok :
    s.putSandboxWithSshTransport record policy now = .ok s' ↔
      validateResolutions record = .ok () ∧ s.checkPut record = .ok () ∧
        transportPortOk policy = true ∧
        s' = (s.upsert record now).updateRow record.id fun row =>
          { row with sshTransport := policy } := by
  unfold putSandboxWithSshTransport
  rw [check_bind_eq_ok, bind_eq_ok]
  refine and_congr_right fun _ => ⟨?_, ?_⟩
  · rintro ⟨s1, h1, h2⟩
    obtain ⟨hput, rfl⟩ := putSandboxIn_eq_ok.1 h1
    obtain ⟨-, hport, rfl⟩ := setSshTransportPolicyIn_eq_ok.1 h2
    exact ⟨hput, hport, rfl⟩
  · rintro ⟨hput, hport, rfl⟩
    exact ⟨_, putSandboxIn_eq_ok.2 ⟨hput, rfl⟩,
      setSshTransportPolicyIn_eq_ok.2 ⟨row?_upsert_isSome, hport, rfl⟩⟩

variable {resolution : Option Resolution} {clear : Bool}

theorem setSshResolution_eq_ok :
    s.setSshResolution id resolution now = .ok s' ↔
      validateOptional validateSshResolution resolution = .ok () ∧ (s.row? id).isSome ∧
        s' = s.updateRow id fun row => { row with
          record := { row.record with sshResolution := resolution, updatedAtMillis := now } } := by
  unfold setSshResolution
  rw [check_bind_eq_ok]
  refine and_congr_right fun _ => ?_
  cases hrow : s.row? id with
  | none => simp
  | some row => simp [pure, Except.pure, eq_comm]

theorem Inv.putSandboxWithSshTransport (hs : Inv s)
    (h : s.putSandboxWithSshTransport record policy now = .ok s') : Inv s' := by
  obtain ⟨hres, hput, hport, rfl⟩ := putSandboxWithSshTransport_eq_ok.1 h
  have hs' : Inv (s.upsert record now) := hs.upsert hres hput
  exact hs'.updateRow (fun _ => rfl) (fun _ => rfl) (fun row hmem => hs'.resolutions row hmem)
    fun _ _ => hport

theorem Inv.setSshResolution (hs : Inv s) (h : s.setSshResolution id resolution now = .ok s') :
    Inv s' := by
  obtain ⟨hres, -, rfl⟩ := setSshResolution_eq_ok.1 h
  refine hs.updateRow (fun _ => rfl) (fun _ => rfl) (fun row hmem => ?_)
    fun row hmem => hs.transports row hmem
  obtain ⟨h1, h2, h3, h4, -⟩ := validateResolutions_eq_ok.1 (hs.resolutions row hmem)
  exact validateResolutions_eq_ok.2 ⟨h1, h2, h3, h4, hres⟩

theorem row?_upsert_of_row {new : SandboxRecord} (hrow : s.row? id = some row) (hid : new.id = id) :
    (s.upsert new now).row? id = some (assignRecord new now row) := by
  subst hid
  rw [row?_upsert, if_pos rfl, hrow]
  rfl

/-- The record that the store returns for a sandbox passes every check of a write but the one on
its actual state. -/
theorem checkPut_of_sandbox (hs : s.Inv) (hrecord : s.sandbox id = some record)
    (new : SandboxRecord) (hid : new.id = record.id)
    (hroot : new.canonicalRoot = record.canonicalRoot) :
    s.checkPut new = .ok () ↔ actualTransition record.actualState new.actualState = true := by
  obtain ⟨row, hrow, rfl⟩ := Option.map_eq_some_iff.1 hrecord
  have hkey : row.record.id = id := id_of_row? hrow
  have hnew : s.row? new.id = some row := by
    rw [hid]
    exact hkey.symm ▸ hrow
  rw [checkPut_eq_ok]
  constructor
  · rintro ⟨hidentity, -⟩
    exact (hidentity row hnew).2
  · intro hedge
    refine ⟨fun found hfound => ?_, fun owner howner => ?_⟩
    · cases hnew.symm.trans hfound
      exact ⟨hroot ▸ decide_eq_true rfl, hedge⟩
    · -- Roots are unique, so the owner of the root is the row itself.
      have hsame : owner.root = row.root :=
        (key_of_lookup howner : owner.root = new.canonicalRoot).trans hroot
      have howns : owner = row := inj_on_of_nodup_map hs.roots (mem_of_lookup howner)
        (mem_of_row? hrow) hsame
      rw [howns, hid]
      rfl

theorem validateResolutions_of_sandbox (hs : s.Inv) (hrecord : s.sandbox id = some record) :
    validateResolutions record = .ok () := by
  obtain ⟨row, hrow, rfl⟩ := Option.map_eq_some_iff.1 hrecord
  exact hs.resolutions row (mem_of_row? hrow)

theorem id_of_sandbox (hrecord : s.sandbox id = some record) : record.id = id := by
  obtain ⟨row, hrow, rfl⟩ := Option.map_eq_some_iff.1 hrecord
  exact id_of_row? hrow

/-! ### Operations -/

theorem mem_of_operation? (h : s.operation? o = some operation) : operation ∈ s.operations :=
  mem_of_lookup h

theorem id_of_operation? (h : s.operation? o = some operation) : operation.id = o :=
  key_of_lookup h

theorem Inv.operation?_eq_some (hs : Inv s) :
    s.operation? o = some operation ↔ operation ∈ s.operations ∧ operation.id = o :=
  lookup_eq_some hs.operationIds

theorem hasPending_iff :
    s.hasPending id = true ↔
      ∃ operation ∈ s.operations, operation.sandboxId = id ∧ operation.status = .pending := by
  simp [hasPending]

@[simp] theorem operations_upsert {record : SandboxRecord} :
    (s.upsert record now).operations = s.operations := by
  unfold Store.upsert
  split <;> rfl

@[simp] theorem operationSeq_upsert {record : SandboxRecord} :
    (s.upsert record now).operationSeq = s.operationSeq := by
  unfold Store.upsert
  split <;> rfl

theorem Inv.appendEvent (hs : Inv s) (ho : o ≤ s.operationSeq) :
    Inv (s.appendEvent o status details code now).2 :=
  { hs with
    logged := forall_mem_append.2 ⟨hs.logged, forall_mem_singleton.2 ho⟩ }

/-- When `begin_operation` succeeds, and what it writes. -/
theorem beginOperation_eq_ok :
    s.beginOperation record kind now = .ok (operation, s') ↔
      validateResolutions record = .ok () ∧ s.checkPut record = .ok () ∧
        s.hasPending record.id = false ∧ operation = s.newOperation record.id kind ∧
        s' = (((s.upsert record now).insertOperation operation).appendEvent operation.id .pending
          none none now).2 := by
  unfold beginOperation
  rw [check_bind_eq_ok, bind_eq_ok]
  have hpending : (s.upsert record now).hasPending record.id = s.hasPending record.id := by
    simp only [hasPending, operations_upsert]
  have hnew : (s.upsert record now).newOperation record.id kind =
      s.newOperation record.id kind := by
    simp only [newOperation, operationSeq_upsert]
  refine and_congr_right fun _ => ⟨?_, ?_⟩
  · rintro ⟨s1, h1, h2⟩
    obtain ⟨hput, rfl⟩ := putSandboxIn_eq_ok.1 h1
    rw [hpending, hnew] at h2
    cases hfree : s.hasPending record.id with
    | true => simp [hfree] at h2
    | false =>
      simp only [hfree, Bool.false_eq_true, if_false, pure, Except.pure, Except.ok.injEq,
        Prod.mk.injEq] at h2
      obtain ⟨rfl, rfl⟩ := h2
      exact ⟨hput, rfl, rfl, rfl⟩
  · rintro ⟨hput, hfree, rfl, rfl⟩
    refine ⟨_, putSandboxIn_eq_ok.2 ⟨hput, rfl⟩, ?_⟩
    rw [hpending, hfree, hnew]
    rfl

/-- A record that `put_sandbox_in` refuses begins no operation. -/
theorem beginOperation_error {error : StoreError} (hres : validateResolutions record = .ok ())
    (hput : s.checkPut record = .error error) :
    s.beginOperation record kind now = .error error := by
  unfold beginOperation putSandboxIn
  rw [hres, hput]
  rfl

theorem sandboxId_ne_of_free (hfree : s.hasPending id = false) (hmem : operation ∈ s.operations)
    (hstatus : operation.status = .pending) : operation.sandboxId ≠ id := by
  intro hid
  rw [hasPending_iff.2 ⟨operation, hmem, hid, hstatus⟩] at hfree
  cases hfree

theorem Inv.insertOperation (hs : Inv s) {kind : OperationKind} (hrow : (s.row? id).isSome)
    (hfree : s.hasPending id = false) : Inv (s.insertOperation (s.newOperation id kind)) where
  ids := hs.ids
  roots := hs.roots
  resolutions := hs.resolutions
  transports := hs.transports
  operationIds := by
    show ((s.operations ++ [_]).map OperationRecord.id).Nodup
    rw [map_append, nodup_append]
    refine ⟨hs.operationIds, nodup_singleton _, ?_⟩
    simp only [mem_map, map_cons, map_nil, mem_singleton]
    rintro _ ⟨operation, hmem, rfl⟩ _ rfl heq
    -- Every identifier so far is below the one that is handed out now.
    have hle : operation.id ≤ s.operationSeq := hs.bounded operation hmem
    have hnew : operation.id = s.operationSeq + 1 := heq
    exact Nat.not_succ_le_self _ (hnew ▸ hle)
  bounded := by
    refine forall_mem_append.2 ⟨fun operation hold => ?_, forall_mem_singleton.2 le_rfl⟩
    exact (hs.bounded operation hold).trans (Nat.le_succ _)
  referenced := forall_mem_append.2 ⟨hs.referenced, forall_mem_singleton.2 hrow⟩
  onePending := by
    intro o1 h1 o2 h2 hp1 hp2 hsame
    rcases mem_append.1 h1 with h1 | h1 <;> rcases mem_append.1 h2 with h2 | h2
    · exact hs.onePending o1 h1 o2 h2 hp1 hp2 hsame
    · rw [mem_singleton.1 h2] at hsame
      exact absurd hsame (sandboxId_ne_of_free hfree h1 hp1)
    · rw [mem_singleton.1 h1] at hsame
      exact absurd hsame.symm (sandboxId_ne_of_free hfree h2 hp2)
    · rw [mem_singleton.1 h1, mem_singleton.1 h2]
  latest := by
    intro operation hmem hpending other hother hsame
    rcases mem_append.1 hmem with hmem | hmem
    · rcases mem_append.1 hother with hother | hother
      · exact hs.latest operation hmem hpending other hother hsame
      · rw [mem_singleton.1 hother] at hsame
        exact absurd hsame.symm (sandboxId_ne_of_free hfree hmem hpending)
    · rw [mem_singleton.1 hmem]
      rcases mem_append.1 hother with hother | hother
      · exact (hs.bounded other hother).trans (Nat.le_succ _)
      · rw [mem_singleton.1 hother]
  logged := fun event hmem => (hs.logged event hmem).trans (Nat.le_succ _)

theorem Inv.beginOperation (hs : Inv s)
    (h : s.beginOperation record kind now = .ok (operation, s')) : Inv s' := by
  obtain ⟨hres, hput, hfree, rfl, rfl⟩ := beginOperation_eq_ok.1 h
  have hnew : s.newOperation record.id kind =
      (s.upsert record now).newOperation record.id kind := by
    simp only [newOperation, operationSeq_upsert]
  rw [hnew]
  refine Inv.appendEvent ((hs.upsert hres hput).insertOperation row?_upsert_isSome ?_)
    (Nat.le_refl _)
  simpa only [hasPending, operations_upsert] using hfree

theorem validateTerminalActualTransition_eq_ok :
    validateTerminalActualTransition source target kind status = .ok () ↔
      terminalTransition source target kind status = true := by
  unfold validateTerminalActualTransition terminalTransition
  by_cases hstatus : status = .completed
  · simp [hstatus, validateActualTransition_eq_ok]
  · by_cases hback : rollbackTransition kind source target = true <;>
      simp [hstatus, hback, validateActualTransition_eq_ok]

theorem validateOperationTransition_eq_ok {source target : OperationStatus} :
    validateOperationTransition source target = .ok () ↔
      source = .pending ∧ target ≠ .pending := by
  unfold validateOperationTransition
  split <;> simp_all

/-- The store after an operation ended. -/
def finished (s : Store) (operation : OperationRecord) (actual : ActualState)
    (status : OperationStatus) (errorCode : Option String) (errorDetails : Option Json)
    (clearSshTrust : Bool) (now : Int) : Store :=
  (((s.updateRow operation.sandboxId (finishRow actual clearSshTrust now)).updateOperation
    operation.id (finishRecord status errorCode errorDetails)).appendEvent operation.id status
      errorDetails errorCode now).2

theorem finishOperation_eq_ok {result : OperationRecord × OperationEvent} :
    s.finishOperation o actual status code details clear now = .ok (result, s') →
      ∃ operation row, s.operation? o = some operation ∧ operation.status = .pending ∧
        status ≠ .pending ∧ s.row? operation.sandboxId = some row ∧
        terminalTransition row.record.actualState actual operation.kind status = true ∧
        (clear = true → mayClearSshTrust operation.kind status actual = true) ∧
        s' = s.finished operation actual status code details clear now := by
  intro h
  unfold finishOperation at h
  cases hop : s.operation? o with
  | none => simp [hop] at h
  | some operation =>
    simp only [hop, check_bind_eq_ok, validateOperationTransition_eq_ok] at h
    obtain ⟨⟨hpending, hstatus⟩, h⟩ := h
    cases hrow : s.row? operation.sandboxId with
    | none => simp [hrow] at h
    | some row =>
      simp only [hrow, check_bind_eq_ok, validateTerminalActualTransition_eq_ok] at h
      obtain ⟨hedge, h⟩ := h
      have hid : operation.id = o := id_of_operation? hop
      cases hclear : clear && !mayClearSshTrust operation.kind status actual with
      | true => simp [hclear] at h
      | false =>
        simp only [hclear, Bool.false_eq_true, if_false, pure, Except.pure,
          Except.ok.injEq, Prod.mk.injEq] at h
        refine ⟨operation, row, rfl, hpending, hstatus, hrow, hedge, ?_, ?_⟩
        · intro htrue
          simpa [htrue] using hclear
        · rw [finished, hid]
          exact h.2.symm

theorem finishOperation_ok (hop : s.operation? o = some operation)
    (hpending : operation.status = .pending) (hstatus : status ≠ .pending)
    (hrow : s.row? operation.sandboxId = some row)
    (hedge : terminalTransition row.record.actualState actual operation.kind status = true)
    (hclear : clear = true → mayClearSshTrust operation.kind status actual = true) :
    s.finishOperation o actual status code details clear now =
      .ok ((finishRecord status code details operation,
          ⟨s.eventSeq + 1, o, status, details, code, now⟩),
        s.finished operation actual status code details clear now) := by
  have hid : operation.id = o := id_of_operation? hop
  have hmay : (clear && !mayClearSshTrust operation.kind status actual) = false := by
    cases clear with
    | false => rfl
    | true => simp [hclear rfl]
  unfold finishOperation
  simp only [hop, hrow, validateOperationTransition_eq_ok.2 ⟨hpending, hstatus⟩,
    validateTerminalActualTransition_eq_ok.2 hedge, hmay]
  rw [finished, hid]
  rfl

theorem finishRow_id (actual : ActualState) (clear : Bool) (now : Int) (row : SandboxRow) :
    (finishRow actual clear now row).id = row.id := rfl

theorem finishRecord_id (status : OperationStatus) (code : Option String) (details : Option Json)
    (operation : OperationRecord) :
    (finishRecord status code details operation).id = operation.id := rfl

theorem Inv.finished (hs : Inv s) (hop : s.operation? operation.id = some operation)
    (hstatus : status ≠ .pending) :
    Inv (s.finished operation actual status code details clear now) := by
  have hrows : Inv (s.updateRow operation.sandboxId (finishRow actual clear now)) := by
    refine hs.updateRow (fun _ => rfl) (fun _ => rfl) (fun row hmem => ?_) fun row hmem => ?_
    · obtain ⟨h1, h2, h3, h4, h5⟩ := validateResolutions_eq_ok.1 (hs.resolutions row hmem)
      refine validateResolutions_eq_ok.2 ⟨h1, h2, h3, h4, ?_⟩
      cases clear with
      | false => exact h5
      | true => rfl
    · cases clear with
      | false => exact hs.transports row hmem
      | true => rfl
  refine Inv.appendEvent ?_ ?_
  rotate_left
  · exact hs.bounded operation (mem_of_operation? hop)
  refine
    { ids := hrows.ids, roots := hrows.roots, resolutions := hrows.resolutions
      transports := hrows.transports, operationIds := ?_, bounded := ?_, referenced := ?_
      onePending := ?_, latest := ?_, logged := hrows.logged }
  · exact (map_key_update (finishRecord_id status code details)).symm ▸ hrows.operationIds
  · exact forall_mem_update hrows.bounded fun o hmem _ => hrows.bounded o hmem
  · exact forall_mem_update hrows.referenced fun o hmem _ => hrows.referenced o hmem
  · intro o1 h1 o2 h2 hp1 hp2 hsame
    -- A pending operation of the new table is one that did not end.
    rcases Table.mem_update.1 h1 with ⟨h1, -⟩ | ⟨o, -, -, rfl⟩
    · rcases Table.mem_update.1 h2 with ⟨h2, -⟩ | ⟨o, -, -, rfl⟩
      · exact hrows.onePending o1 h1 o2 h2 hp1 hp2 hsame
      · exact absurd hp2 hstatus
    · exact absurd hp1 hstatus
  · intro o1 h1 hp1 o2 h2 hsame
    rcases Table.mem_update.1 h1 with ⟨h1, -⟩ | ⟨o, -, -, rfl⟩
    · rcases Table.mem_update.1 h2 with ⟨h2, -⟩ | ⟨o, ho, -, rfl⟩
      · exact hrows.latest o1 h1 hp1 o2 h2 hsame
      · exact hrows.latest o1 h1 hp1 o ho hsame
    · exact absurd hp1 hstatus

theorem appendOperationEvent_eq_ok {details : Json} {event : OperationEvent} :
    s.appendOperationEvent o details now = .ok (event, s') ↔
      ∃ operation, s.operation? o = some operation ∧ operation.status = .pending ∧
        (event, s') = s.appendEvent o .pending (some details) none now := by
  unfold appendOperationEvent
  cases s.operation? o with
  | none => simp
  | some operation =>
    by_cases hstatus : operation.status = .pending
    · simp [hstatus, eq_comm]
    · simp [hstatus]

end Store

/-- What a transaction that succeeds leaves of the store. -/
def StoreOp.Writes (s : Store) (now : Int) (s' : Store) : StoreOp → Prop
  | .beginOperation record kind => ∃ new, s.beginOperation record kind now = .ok (new, s')
  | .putSandbox record => validateResolutions record = .ok () ∧ s.checkPut record = .ok () ∧
    s' = s.upsert record now
  | .putSandboxWithSshTransport record policy => validateResolutions record = .ok () ∧
    s.checkPut record = .ok () ∧ Store.transportPortOk policy = true ∧
    s' = (s.upsert record now).updateRow record.id fun row => { row with sshTransport := policy }
  | .setSshResolution id resolution => s.setSshResolution id resolution now = .ok s'
  | .appendOperationEvent o details => ∃ operation, s.operation? o = some operation ∧
    operation.status = .pending ∧ s' = (s.appendEvent o .pending (some details) none now).2
  | .finishOperation o actual status code details clear => ∃ operation row, operation.id = o ∧
    s.operation? operation.id = some operation ∧ operation.status = .pending ∧
    status ≠ .pending ∧ s.row? operation.sandboxId = some row ∧
    terminalTransition row.record.actualState actual operation.kind status = true ∧
    s' = s.finished operation actual status code details clear now
  | _ => s' = s

open Store in
theorem StoreOp.writes_of_run {s s' : Store} {now : Int} {op : StoreOp} {result : op.Result}
    (h : op.run s now = .ok (result, s')) : op.Writes s now s' := by
  cases op with
  | beginOperation record kind => exact ⟨result, h⟩
  | putSandbox record =>
    obtain ⟨_, h, ⟨⟩⟩ := map_eq_ok.1 h
    exact putSandbox_eq_ok.1 h
  | putSandboxWithSshTransport record policy =>
    obtain ⟨_, h, ⟨⟩⟩ := map_eq_ok.1 h
    exact putSandboxWithSshTransport_eq_ok.1 h
  | setSshResolution id resolution =>
    obtain ⟨_, h, ⟨⟩⟩ := map_eq_ok.1 h
    exact h
  | appendOperationEvent o details =>
    obtain ⟨operation, hfound, hpending, heq⟩ := appendOperationEvent_eq_ok.1 h
    exact ⟨operation, hfound, hpending, congrArg Prod.snd heq⟩
  | finishOperation o actual status code details clear =>
    obtain ⟨operation, row, hfound, hpending, hstatus, hrow, hedge, -, rfl⟩ :=
      finishOperation_eq_ok h
    obtain rfl := id_of_operation? hfound
    exact ⟨operation, row, rfl, hfound, hpending, hstatus, hrow, hedge, rfl⟩
  | _ => exact (Prod.mk.inj (Except.ok.inj h)).2.symm

namespace Store

theorem Inv.run {s s' : Store} {now : Int} (hs : Inv s) (op : StoreOp) {result : op.Result}
    (h : op.run s now = .ok (result, s')) : Inv s' := by
  have hwrites := StoreOp.writes_of_run h
  cases op with
  | beginOperation record kind => exact hs.beginOperation h
  | putSandbox record =>
    obtain ⟨hres, hput, rfl⟩ := hwrites
    exact hs.upsert hres hput
  | putSandboxWithSshTransport record policy =>
    exact hs.putSandboxWithSshTransport (putSandboxWithSshTransport_eq_ok.2 hwrites)
  | setSshResolution id resolution => exact hs.setSshResolution hwrites
  | appendOperationEvent o details =>
    obtain ⟨operation, hfound, -, rfl⟩ := hwrites
    rw [← id_of_operation? hfound]
    exact hs.appendEvent (hs.bounded operation (mem_of_operation? hfound))
  | finishOperation o actual status code details clear =>
    obtain ⟨operation, row, -, hfound, -, hstatus, -, -, rfl⟩ := hwrites
    exact hs.finished hfound hstatus
  | _ => exact hwrites ▸ hs

end Store

end Gascan
