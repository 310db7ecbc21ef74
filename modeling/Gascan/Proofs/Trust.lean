import Gascan.Proofs.Conduct
import Gascan.Proofs.Recovery
import Gascan.Proofs.Served

/-!
# `Gascan.Proofs.Trust`: SSH trust after a destroy

When the latest operation of a sandbox is a completed destroy, its row should be recorded as absent,
with no SSH resolution and no SSH transport (`Store.TrustEnds`). A request writes to the row of its
sandbox only while its operation is pending, and completes a destroy with the transaction that
clears the trust. The recovery after a crash completes it with one that leaves the row as it is.
`trust_ends` says that every run keeps `TrustEnds` in which each recovery that completes a destroy
finds a row without trust.
-/

namespace Gascan

open Lib Service List
open Store (Pending)

variable {actual : ActualState} {status : OperationStatus} {code : Option String}
  {details : Option Json} {clear : Bool} {now : Int} {c : Cmd} {image : String} {store : Store}

/-! ### The property of the store -/

/-- The row has no SSH trust. -/
def SandboxRow.Untrusting (row : SandboxRow) : Prop :=
  row.record.sshResolution = none ∧ row.sshTransport = none

namespace Store

/-- The operation is the latest one of its sandbox. -/
def Latest (s : Store) (operation : OperationRecord) : Prop :=
  operation ∈ s.operations ∧
    ∀ other ∈ s.operations, other.sandboxId = operation.sandboxId → other.id ≤ operation.id

/-- After a completed destroy the sandbox is absent and has no SSH trust. -/
def TrustEnds (s : Store) (id : SandboxId) : Prop :=
  ∀ operation, s.Latest operation → operation.sandboxId = id → operation.kind = .destroy →
    operation.status = .completed →
      ∃ row, s.row? id = some row ∧ row.record.actualState = .absent ∧ row.Untrusting

variable {s s' : Store} {id : SandboxId} {operation : OperationRecord}

/-- The latest operation of a sandbox with a pending operation is that one. -/
theorem trustEnds_of_pending (hs : s.Inv) (hmem : operation ∈ s.operations)
    (hid : operation.sandboxId = id) (hpending : operation.status = .pending) : s.TrustEnds id := by
  intro last hlast hsandbox _ hcompleted
  have hsame : last.sandboxId = operation.sandboxId := hsandbox.trans hid.symm
  have heq : last.id = operation.id :=
    le_antisymm (hs.latest operation hmem hpending last hlast.1 hsame)
      (hlast.2 operation hmem hsame.symm)
  have hfound := hs.operation?_eq_some.2 ⟨hlast.1, heq⟩
  obtain rfl := Option.some.inj (hfound.symm.trans (hs.operation?_eq_some.2 ⟨hmem, rfl⟩))
  rw [hcompleted] at hpending
  cases hpending

theorem TrustEnds.alike (h : s.TrustEnds id) (halike : Alike id s s') : s'.TrustEnds id := by
  intro last hlast hsandbox hkind hcompleted
  have hold : s.Latest last := by
    refine ⟨(halike.mem_operations hsandbox).1 hlast.1, fun other hother hsame => ?_⟩
    exact hlast.2 other ((halike.mem_operations (hsame.trans hsandbox)).2 hother) hsame
  rw [halike.row]
  exact h last hold hsandbox hkind hcompleted

/-- The end of a pending operation. Only the completion of a destroy has to clear the trust. -/
theorem trustEnds_finished (hs : s.Inv) (hop : s.operation? operation.id = some operation)
    (hpending : operation.status = .pending) {row : SandboxRow}
    (hrow : s.row? operation.sandboxId = some row)
    (hclear : operation.kind = .destroy → status = .completed →
      actual = .absent ∧ (finishRow actual clear now row).Untrusting) :
    (s.finished operation actual status code details clear now).TrustEnds operation.sandboxId := by
  intro last hlast hsandbox hkind hcompleted
  have hmem := mem_of_operation? hop
  have hnew : finishRecord status code details operation ∈
      (s.finished operation actual status code details clear now).operations :=
    Table.mem_update.2 (.inr ⟨operation, hmem, rfl, rfl⟩)
  rcases Table.mem_update.1 hlast.1 with ⟨hold, hne⟩ | ⟨found, hfound, heq, rfl⟩
  · -- No other operation of the sandbox is later than the one that ended.
    have hle := hs.latest operation hmem hpending last hold hsandbox
    have hge : (finishRecord status code details operation).id ≤ last.id :=
      hlast.2 _ hnew hsandbox.symm
    exact absurd (le_antisymm hle hge) hne
  · obtain rfl : operation = found := Option.some.inj
      (hop.symm.trans (hs.operation?_eq_some.2 ⟨hfound, heq⟩))
    obtain ⟨habsent, hrest⟩ := hclear hkind hcompleted
    refine ⟨_, ?_, habsent, hrest⟩
    rw [row?_finished, hrow, Option.map_some, if_pos rfl]

end Store

/-! ### The environment -/

/-- The guarantee of a program on the sandbox `id`. -/
def Guarded (id : SandboxId) (w w' : World) : Prop :=
  Elsewhere id w w' ∧ (w.store.Inv → w.store.TrustEnds id → w'.store.TrustEnds id)

/-- Others leave the sandbox alone. Every command may fail. What the commands find in the store is
restricted by `finds`. -/
def guardEnv (finds : Cmd → World → Prop) (id : SandboxId) : Prog.Env Cmd World Choice where
  rely := Undisturbed id
  allows c _ w := finds c w

/-- The weakest precondition of a program on the sandbox `id`. -/
abbrev Guards {α : Type} (finds : Cmd → World → Prop) (id : SandboxId) (p : Svc α)
    (Q : α → World → Prop) (E : ServiceError → World → Prop) (w : World) : Prop :=
  p.wp perform (guardEnv finds id) (Guarded id) Q E w

/-- The program holds a pending operation on the sandbox. -/
structure Mine (id : SandboxId) (operation : OperationRecord) (w : World) : Prop where
  inv : w.store.Inv
  mem : operation ∈ w.store.operations
  sandbox : operation.sandboxId = id
  pending : operation.status = .pending

/-- The store keeps its invariant. -/
abbrev StoreInv (w : World) : Prop := w.store.Inv

variable {α : Type} {finds : Cmd → World → Prop} {id : SandboxId} {operation : OperationRecord}
  {w w' : World} {p : Svc α}

theorem StoreInv.of_store (h : StoreInv w) (hstore : w'.store = w.store) : StoreInv w' := by
  rwa [StoreInv, hstore]

theorem Mine.found (h : Mine id operation w) :
    w.store.operation? operation.id = some operation :=
  h.inv.operation?_eq_some.2 ⟨h.mem, rfl⟩

theorem Mine.trustEnds (h : Mine id operation w) : w.store.TrustEnds id :=
  Store.trustEnds_of_pending h.inv h.mem h.sandbox h.pending

theorem Mine.undisturbed (h : Mine id operation w) (hrely : Undisturbed id w w') :
    Mine id operation w' := by
  obtain ⟨hinv, halike⟩ := hrely h.inv
  exact ⟨hinv, (halike.mem_operations h.sandbox).2 h.mem, h.sandbox, h.pending⟩

theorem guarded_refl (id : SandboxId) (w : World) : Guarded id w w :=
  ⟨elsewhere_refl id w, fun _ h => h⟩

/-! ### Commands -/

/-- The commands that do not write to the store. -/
def Cmd.Reads : Cmd → Prop
  | .store (.sandbox _) _ | .store (.sshTransportPolicy _) _ | .store .listSandboxes _
  | .store .pendingOperations _ | .store (.operationEvents _) _ => True
  | .store _ _ => False
  | _ => True

theorem perform_store_of_reads (hc : c.Reads) (x : Choice) (w : World) :
    (perform c x w).2.store = w.store := by
  refine perform_rel (R := fun s s' => s' = s) (fun _ => rfl) x fun op send hop _ _ _ hrun => ?_
  subst hop
  have hwrites := StoreOp.writes_of_run hrun
  cases op with
  | beginOperation | putSandbox | putSandboxWithSshTransport | setSshResolution
  | appendOperationEvent | finishOperation => exact hc.elim
  | _ => exact hwrites

theorem guarded_reads (hc : c.Reads) (x : Choice) : Guarded id w (perform c x w).2 := by
  have hstore := perform_store_of_reads hc x w
  refine ⟨fun hinv => ?_, fun _ htrust => ?_⟩
  · rw [hstore]
    exact ⟨hinv, fun other _ => .refl other _⟩
  · rw [hstore]
    exact htrust

/-- A command that keeps the state and the operations of the sandbox, while the operation is held.
-/
theorem Mine.kept (h : Mine id operation w) (hc : c.Keeps id (some operation.id)) (x : Choice) :
    Guarded id w (perform c x w).2 ∧ Mine id operation (perform c x w).2 := by
  have hmine : Mine id operation (perform c x w).2 := by
    refine ⟨perform_inv h.inv c x, ?_, h.sandbox, h.pending⟩
    rw [(perform_same hc x w).operations]
    exact h.mem
  refine ⟨⟨elsewhere_of_keeps hc (fun o ho found hfound => ?_) x, fun _ _ => hmine.trustEnds⟩,
    hmine⟩
  obtain rfl := Option.some.inj ho
  exact Option.some.inj (h.found.symm.trans hfound) ▸ h.sandbox

variable {op : StoreOp} {s : Standing} {send : op.Result → Option OperationEvent}

theorem mine_begin {record : SandboxRecord} {kind : OperationKind}
    {new : OperationRecord} (h : StoreInv w) (hid : record.id = id)
    (hrun : w.store.beginOperation record kind now = .ok (new, store)) :
    Guarded id w { w with store } ∧ new.kind = kind ∧ Mine id new { w with store } := by
  have hmine : Mine id new { w with store } := by
    refine ⟨h.beginOperation hrun, ?_, ?_, ?_⟩ <;>
      obtain ⟨-, -, -, rfl, rfl⟩ := Store.beginOperation_eq_ok.1 hrun
    · exact mem_append_right _ (mem_singleton_self _)
    · exact hid
    · rfl
  refine ⟨⟨elsewhere_run (.beginOperation record kind) hid hrun, fun _ _ => hmine.trustEnds⟩,
    ?_, hmine⟩
  obtain ⟨-, -, -, rfl, -⟩ := Store.beginOperation_eq_ok.1 hrun
  rfl

/-- The transactions that write the record of the sandbox `id`. -/
def StoreOp.Puts (id : SandboxId) : StoreOp → Prop
  | .putSandbox record | .putSandboxWithSshTransport record _ => record.id = id
  | _ => False

theorem StoreOp.Puts.operations (hop : op.Puts id) {s s' : Store} {result : op.Result}
    (h : op.run s now = .ok (result, s')) : s'.operations = s.operations := by
  have hwrites := StoreOp.writes_of_run h
  cases op with
  | putSandbox record =>
    obtain ⟨-, -, rfl⟩ := hwrites
    exact Store.operations_upsert
  | putSandboxWithSshTransport record policy =>
    obtain ⟨-, -, -, rfl⟩ := hwrites
    exact Store.operations_upsert
  | _ => exact hop.elim

theorem Mine.put {result : op.Result} (h : Mine id operation w)
    (hop : op.Puts id) (hrun : op.run w.store now = .ok (result, store)) :
    Guarded id w { w with store } ∧ Mine id operation { w with store } := by
  have hmine : Mine id operation { w with store } := by
    refine ⟨h.inv.run op hrun, ?_, h.sandbox, h.pending⟩
    show operation ∈ store.operations
    rw [hop.operations hrun]
    exact h.mem
  have habout : op.About id w.store := by
    cases op <;> first | exact hop | exact hop.elim
  exact ⟨⟨elsewhere_run op habout hrun, fun _ _ => hmine.trustEnds⟩, hmine⟩

/-- The end of the operation. A destroy that is completed has to leave a row without trust. -/
theorem Mine.finish {result : OperationRecord × OperationEvent} (h : Mine id operation w)
    (hclear : operation.kind = .destroy → status = .completed → ∀ row,
      w.store.row? id = some row → actual = .absent ∧ (clear = true ∨ row.Untrusting))
    (hrun : (StoreOp.finishOperation operation.id actual status code details clear).run
      w.store now =
      .ok (result, store)) :
    Guarded id w { w with store } ∧ StoreInv { w with store } := by
  have habout : StoreOp.About id w.store
      (.finishOperation operation.id actual status code details clear) := by
    intro found hfound
    exact Option.some.inj (h.found.symm.trans hfound) ▸ h.sandbox
  have hinv : StoreInv { w with store } := h.inv.run _ hrun
  refine ⟨⟨elsewhere_run _ habout hrun, fun _ _ => ?_⟩, hinv⟩
  obtain ⟨found, row, hfound, hpending, -, hrow, -, -, rfl⟩ := Store.finishOperation_eq_ok hrun
  obtain rfl := Option.some.inj (h.found.symm.trans hfound)
  obtain rfl := h.sandbox
  refine Store.trustEnds_finished h.inv hfound hpending hrow fun hkind hcompleted => ?_
  obtain ⟨habsent, htrust⟩ := hclear hkind hcompleted row hrow
  refine ⟨habsent, ?_⟩
  cases clear with
  | true => exact ⟨rfl, rfl⟩
  | false => exact htrust.resolve_left (by decide)

/-! ### Requests -/

/-- A record that is loaded is the one that was asked for. -/
def LoadsAsked : (c : Cmd) → Reply c → Prop
  | .store (.sandbox sandbox) _, .ok (some record) => record.id = sandbox
  | _, _ => True

/-- A request writes only the record of its sandbox. What it removes does not matter here. -/
def trustSetting (id : SandboxId) : Setting id :=
  { answers := LoadsAsked
    writes := (· = id)
    names := (· = id)
    regular := fun create => create.id = id
    removes := fun _ => True
    writes_self := rfl
    names_self := rfl
    loaded := fun hnames h => Eq.trans h hnames
    compiled := fun hid h => (compilePolicy_eq_ok h).id.trans hid
    named := fun h => h
    created := fun _ _ _ _ => trivial
    failed := fun _ _ _ _ => trivial
    refailed := fun _ _ _ _ => trivial
    exact := fun _ _ => trivial
    expected := fun _ _ _ _ => trivial }

/-- What holds of the world in a standing: an operation that is held is pending there. -/
def Standing.Kept (id : SandboxId) : Standing → World → Prop
  | .holding o kind _, w => ∃ operation, Mine id operation w ∧ operation.id = o ∧
    operation.kind = kind
  | _, w => StoreInv w

theorem Standing.Kept.sound (h : s.Kept id w) : StoreInv w := by
  cases s with
  | free => exact h
  | holding => exact h.choose_spec.1.inv
  | done => exact h

theorem Standing.Kept.undisturbed (h : s.Kept id w) (hrely : Undisturbed id w w') :
    s.Kept id w' := by
  cases s with
  | free => exact (hrely h).1
  | holding o kind stage =>
    obtain ⟨operation, hmine, hsame⟩ := h
    exact ⟨operation, hmine.undisturbed hrely, hsame⟩
  | done => exact (hrely h).1

/-- The operation of a standing that is held, in whatever stage. -/
theorem Standing.Kept.mine (h : s.Kept id w) (hheld : s.Held) :
    ∃ operation, Mine id operation w ∧ ∀ w', Mine id operation w' → s.Kept id w' := by
  cases s with
  | free | done => exact hheld.elim
  | holding o kind stage =>
    obtain ⟨operation, hmine, hsame⟩ := h
    exact ⟨operation, hmine, fun _ hmine' => ⟨operation, hmine', hsame⟩⟩

/-- A command is answered as expected, guards the sandbox, and leads to a world of the next
standing. -/
def Goes (id : SandboxId) (w : World) (s : Standing) (c : Cmd) (reply : Reply c) (w' : World) :
    Prop :=
  LoadsAsked c reply ∧ Guarded id w w' ∧ (s.next c reply).Kept id w'

theorem goes_put (h : s.Kept id w) (hheld : s.Held) (hop : op.Puts id) (x : Choice) :
    Goes id w s (.store op send) (perform (.store op send) x w).1
      (perform (.store op send) x w).2 := by
  obtain ⟨operation, hmine, hkept⟩ := h.mine hheld
  refine performStore_induction (P := Goes id w s (.store op send)) ?_ ?_ x
  · intro now result store hrun
    obtain ⟨hguarded, hmine'⟩ := hmine.put hop hrun
    cases op with
    | putSandbox | putSandboxWithSshTransport => exact ⟨trivial, hguarded, hkept _ hmine'⟩
    | _ => exact hop.elim
  · intro error
    cases op with
    | putSandbox | putSandboxWithSshTransport => exact ⟨trivial, guarded_refl id w, h⟩
    | _ => exact hop.elim

theorem goes_of_allows (h : s.Kept id w) (hc : (trustSetting id).Allows s c) (x : Choice) :
    Goes id w s c (perform c x w).1 (perform c x w).2 := by
  have hreads (c : Cmd) (hreads : c.Reads) :
      Guarded id w (perform c x w).2 ∧ s.Kept id (perform c x w).2 :=
    ⟨guarded_reads hreads x, h.undisturbed
      (Serving.undisturbed_of_store (perform_store_of_reads hreads x w) id)⟩
  cases c with
  | store op send =>
    cases op with
    | sandbox sandbox =>
      refine performStore_induction (P := Goes id w s (.store _ send)) ?_ ?_ x
      · intro now record store hrun
        obtain ⟨rfl, rfl⟩ := Prod.mk.inj (Except.ok.inj hrun)
        refine ⟨?_, guarded_refl id w, h⟩
        cases hrecord : w.store.sandbox sandbox with
        | none => trivial
        | some record => exact Store.id_of_sandbox hrecord
      · exact fun _ => ⟨trivial, guarded_refl id w, h⟩
    | beginOperation record kind =>
      refine performStore_induction (P := Goes id w s (.store _ send)) ?_ ?_ x
      · intro now new store hrun
        obtain ⟨hguarded, hkind, hmine⟩ := mine_begin h.sound hc.2 hrun
        exact ⟨trivial, hguarded, new, hmine, rfl, hkind⟩
      · exact fun _ => ⟨trivial, guarded_refl id w, h⟩
    | putSandbox record =>
      have hputs : (StoreOp.putSandbox record).Puts id := hc.2
      exact goes_put h hc.1 hputs x
    | putSandboxWithSshTransport record policy =>
      have hputs : (StoreOp.putSandboxWithSshTransport record policy).Puts id := hc.2
      exact goes_put h hc.1 hputs x
    | setSshResolution sandbox resolution =>
      obtain ⟨operation, hmine, hkept⟩ := h.mine hc.1
      have hkeeps : Cmd.Keeps id (some operation.id)
          (.store (.setSshResolution sandbox resolution) send) := hc.2
      obtain ⟨hguarded, hmine'⟩ := hmine.kept hkeeps x
      exact ⟨trivial, hguarded, hkept _ hmine'⟩
    | appendOperationEvent o details =>
      obtain ⟨⟨kind, stage, rfl, -⟩, hsend⟩ := hc
      obtain ⟨operation, hmine, rfl, hkind⟩ := h
      have hkeeps : Cmd.Keeps id (some operation.id)
          (.store (.appendOperationEvent operation.id details) send) := ⟨rfl, hsend⟩
      obtain ⟨hguarded, hmine'⟩ := hmine.kept hkeeps x
      refine ⟨trivial, hguarded, ?_⟩
      -- The next stage depends on the reply, but the operation is held in any case.
      generalize (perform _ x w).1 = reply
      cases reply <;> exact ⟨operation, hmine', rfl, hkind⟩
    | finishOperation o actual status code details clear =>
      obtain ⟨kind, stage, rfl, hclear⟩ := hc
      obtain ⟨operation, hmine, rfl, hkind⟩ := h
      refine performStore_induction (P := Goes id w _ (.store _ send)) ?_ ?_ x
      · intro now result store hrun
        obtain ⟨hguarded, hsound⟩ := hmine.finish (fun hdestroy hcompleted row _ =>
          (hclear (hkind ▸ hdestroy) hcompleted).imp_right .inl) hrun
        exact ⟨trivial, hguarded, hsound⟩
      · exact fun _ => ⟨trivial, guarded_refl id w, operation, hmine, rfl, hkind⟩
    | sshTransportPolicy | listSandboxes | pendingOperations | operationEvents =>
      exact ⟨trivial, hreads _ trivial⟩
  | _ => exact ⟨trivial, hreads _ trivial⟩

theorem guards_request (request : Request) (image : String) (h : StoreInv w) :
    Guards finds request.id (request.program image) (fun _ => StoreInv) (fun _ => StoreInv) w := by
  have hstep : ∀ (s : Standing) (c : Cmd) (x : Choice) (w : World), s.Kept request.id w →
      (guardEnv finds request.id).allows c x w → (trustSetting request.id).Allows s c →
      Goes request.id w s c (perform c x w).1 (perform c x w).2 :=
    fun _ _ x _ hw _ hc => goes_of_allows hw hc x
  have hwp : Guards finds request.id (request.program image) _ _ w :=
    Prog.wp_of_abides (I := Standing.Kept request.id) (fun _ _ _ hrely hw => hw.undisturbed hrely)
      hstep (proceeds_request image request (trustSetting request.id)) h
  exact Prog.wp_imp (fun _ _ ⟨_, _, hkept⟩ => hkept.sound)
    (fun _ _ ⟨_, _, hkept⟩ => hkept.sound) hwp

/-! ### Rules -/

section Programs

open Prog

/-- A program that does not write to the store keeps what is held, where an error ends the
program. -/
theorem guards_reading (hp : p.Uses Cmd.Reads) (h : Mine id operation w) :
    Guards finds id p (fun _ => Mine id operation) (fun _ => StoreInv) w := by
  refine wp_imp_error (fun _ _ hm => hm.inv)
    (wp_of_uses (I := Mine id operation) hp (fun _ _ hrely hm => hm.undisturbed hrely)
      (fun c x w hc hm _ => ?_) h)
  exact ⟨guarded_reads hc x, hm.undisturbed
    (Serving.undisturbed_of_store (perform_store_of_reads hc x w) id)⟩

/-- A program that keeps the state and the operations of its sandbox, while it holds its
operation. -/
theorem guards_held (hp : p.Uses (Cmd.Keeps id (some operation.id))) (h : Mine id operation w) :
    Guards finds id p (fun _ => Mine id operation) (fun _ => Mine id operation) w :=
  wp_of_uses hp (fun _ _ hrely hm => hm.undisturbed hrely) (fun _ x _ hc hm _ => hm.kept hc x) h

/-- The rule for a transaction. One that fails writes nothing. -/
theorem guards_database {Q : op.Result → World → Prop} {E : ServiceError → World → Prop}
    (hok : ∀ w1, Undisturbed id w w1 → finds (.store op send) w1 → ∀ now result store,
      op.run w1.store now = .ok (result, store) →
        Guarded id w1 { w1 with store } ∧ Q result { w1 with store })
    (herror : ∀ w1 error, Undisturbed id w w1 → E error w1) :
    Guards finds id (databaseAndSend op send) Q E w := by
  intro w1 hrely x hfinds
  exact performStore_induction (P := fun reply w2 => Guarded id w1 w2 ∧ (ofExcept reply).wp perform
    (guardEnv finds id) (Guarded id) Q E w2) (hok w1 hrely hfinds)
    (fun error => ⟨guarded_refl id w1, herror w1 error hrely⟩) x

theorem guards_loadHeld (h : Mine id operation w) :
    Guards finds id (loadRecord id) (fun record w' => record.id = id ∧ Mine id operation w')
      (fun _ => StoreInv) w := by
  have hload : Guards finds id (database (.sandbox id))
      (fun record w' => (∀ old, record = some old → old.id = id) ∧ Mine id operation w')
      (fun _ => StoreInv) w := by
    refine guards_database (fun w1 hrely _ now result store hrun => ?_)
      fun w1 _ hrely => (h.undisturbed hrely).inv
    obtain ⟨rfl, rfl⟩ := Prod.mk.inj (Except.ok.inj hrun)
    exact ⟨guarded_refl id w1, fun old hold => Store.id_of_sandbox hold, h.undisturbed hrely⟩
  refine wp_seq hload fun record w1 h1 => ?_
  cases record with
  | none => exact h1.2.inv
  | some old => exact ⟨h1.1 old rfl, h1.2⟩

theorem guards_put {op : StoreOp} (hop : op.Puts id) (h : Mine id operation w) :
    Guards finds id (database op) (fun _ => Mine id operation) (fun _ => StoreInv) w :=
  guards_database (fun _ hrely _ _ _ _ hrun => (h.undisturbed hrely).put hop hrun)
    fun _ _ hrely => (h.undisturbed hrely).inv

theorem guards_finish {send : OperationRecord × OperationEvent → Option OperationEvent}
    (hclear : ∀ w1, Mine id operation w1 →
      finds (.store (.finishOperation operation.id actual status code details clear) send) w1 →
      operation.kind = .destroy → status = .completed → ∀ row, w1.store.row? id = some row →
        actual = .absent ∧ (clear = true ∨ row.Untrusting)) (h : Mine id operation w) :
    Guards finds id
      (databaseAndSend (.finishOperation operation.id actual status code details clear)
      send) (fun _ => StoreInv) (fun _ => StoreInv) w :=
  guards_database (fun w1 hrely hfinds _ _ _ hrun =>
    have h1 := h.undisturbed hrely
    h1.finish (hclear w1 h1 hfinds) hrun) fun _ _ hrely => (h.undisturbed hrely).inv

theorem guards_failOperation (h : Mine id operation w) (actual : ActualState) (code : String)
    (details : Json) :
    Guards finds id (failOperation operation.id actual code details) (fun _ => StoreInv)
      (fun _ => StoreInv) w :=
  wp_seq (guards_finish (fun _ _ _ _ => nofun) h) fun _ _ h1 => h1

/-! ### Recovery -/

/-- A destroy that is completed without clearing the trust finds a row that has none. -/
def FindsCleared : Cmd → World → Prop
  | .store (.finishOperation o _ .completed _ _ false) _, w =>
    ∀ operation, w.store.operation? o = some operation → operation.kind = .destroy →
      ∀ row, w.store.row? operation.sandboxId = some row → row.Untrusting
  | _, _ => True

theorem guards_abandonSshCreate (h : Mine operation.sandboxId operation w) (error : ServiceError) :
    Guards finds operation.sandboxId (abandonSshCreate operation error)
      (fun ssh w' => (∃ findings, ssh = .ended findings) ∧ StoreInv w') (fun _ => StoreInv) w := by
  refine wp_handle (guards_held (keeps_rollbackInterruptedSshCreate _) h) (fun _ w1 h1 => ?_)
    fun _ _ h1 => ⟨⟨_, rfl⟩, h1.inv⟩
  have hfail : Guards finds operation.sandboxId (failCreateOperationClearingSsh operation.id
      error.code (failureDetails error)) (fun _ => StoreInv) (fun _ => StoreInv) w1 :=
    wp_seq (guards_finish (fun _ _ _ _ => nofun) h1) fun _ _ h2 => h2
  exact wp_seq hfail fun _ _ h2 => ⟨⟨_, rfl⟩, h2⟩

/-- After the SSH part the operation is still held, or it was dealt with. -/
def AfterSsh (operation : OperationRecord) (ssh : SshRecovery) (w : World) : Prop :=
  match ssh with
  | .ready record _ => record.id = operation.sandboxId ∧ Mine operation.sandboxId operation w
  | .ended _ => StoreInv w

variable {record : SandboxRecord}

section

variable (h : Mine operation.sandboxId operation w) (hid : record.id = operation.sandboxId)
  (events : List OperationEvent)

include h hid

theorem guards_recoverSsh (actual : ActualState) (hookEvidence : Bool) :
    Guards finds operation.sandboxId (recoverSsh operation record events actual hookEvidence)
      (AfterSsh operation) (fun _ => StoreInv) w := by
  refine wp_seq (guards_reading (uses_database trivial) h) fun transport w1 h1 => ?_
  split
  · refine wp_handle (guards_held (keeps_of_light (light_recoverPendingSshPublication ..)) h1)
      (fun _ w2 h2 => ?_) fun error w2 h2 => ?_
    · exact wp_seq (guards_loadHeld h2) fun record w3 h3 => h3
    · dsimp only
      split
      · exact h2.inv
      · refine wp_imp (fun ssh w3 h3 => ?_) (fun _ _ he => he)
          (guards_abandonSshCreate h2 error)
        obtain ⟨⟨findings, rfl⟩, h3⟩ := h3
        exact h3
  · exact ⟨hid, h1⟩

theorem guards_completeRecovered (hactual : operation.kind = .destroy → actual = .absent) :
    Guards FindsCleared operation.sandboxId (completeRecovered operation record events actual)
      (fun _ => StoreInv) (fun _ => StoreInv) w := by
  have hput : Guards FindsCleared operation.sandboxId
      ((provisionEvidence operation.kind events).elim (Prog.pure ()) fun details =>
        database (.putSandbox (recoveredRecord record actual details)))
      (fun _ => Mine operation.sandboxId operation) (fun _ => StoreInv) w := by
    cases provisionEvidence operation.kind events with
    | none => exact h
    | some details =>
      have hrecord : (recoveredRecord record actual details).id = operation.sandboxId := hid
      exact guards_put hrecord h
  refine wp_seq hput fun _ w1 h1 => wp_seq (guards_finish ?_ h1) fun _ _ h2 => h2
  intro w2 h2 hfinds hkind _ row hrow
  exact ⟨hactual hkind, .inr (hfinds operation h2.found hkind row hrow)⟩

theorem guards_recoverInspected (actual : ActualState) (hookEvidence : Bool) :
    Guards FindsCleared operation.sandboxId
      (recoverInspected operation record events actual hookEvidence) (fun _ => StoreInv)
      (fun _ => StoreInv) w := by
  refine wp_seq (guards_recoverSsh h hid events actual hookEvidence) fun ssh w1 h1 => ?_
  cases ssh with
  | ended findings => exact h1
  | ready record createSshReady =>
    obtain ⟨hid, h1⟩ := h1
    refine wp_seq (guards_reading (uses_expectedAbsent operation
      ⟨trivial, fun _ => uses_ofRuntime _⟩) h1) fun absent w2 h2 => ?_
    split
    next hconverged =>
      have hactual : operation.kind = .destroy → actual = .absent := by
        intro hkind
        rw [hkind] at hconverged
        exact of_decide_eq_true (Bool.and_eq_true_iff.1 hconverged).1
      exact wp_seq (guards_completeRecovered h2 hid events hactual) fun _ _ h3 => h3
    next =>
      exact wp_seq (guards_failOperation h2 actual _ _) fun _ _ h3 => h3

end

theorem guards_recoverStillPending (h : Mine operation.sandboxId operation w) :
    Guards FindsCleared operation.sandboxId (recoverStillPending operation) (fun _ => StoreInv)
      (fun _ => StoreInv) w := by
  refine wp_seq (guards_reading (uses_database trivial) h) fun events w1 h1 => ?_
  refine wp_seq (guards_loadHeld h1) fun record w2 h2 => ?_
  obtain ⟨hid, h2⟩ := h2
  have hinspect : (.call (.inspect operation.sandboxId) .pure :
      Svc (Except RuntimeError (Option RuntimeSandbox))).Uses Cmd.Reads :=
        ⟨trivial, fun _ => trivial⟩
  refine wp_seq (guards_reading hinspect h2) fun inspected w3 h3 => ?_
  cases inspected with
  | error error => exact h3.inv
  | ok inspected =>
    dsimp only
    split
    · exact wp_seq (guards_failOperation h3 _ _ _) fun _ _ h4 => h4
    · exact guards_recoverInspected h3 hid events _ _

/-! ### All pending operations -/

/-- Nobody else touches the store during the recovery. -/
def restartEnv : Prog.Env Cmd World Choice where
  rely w w' := w'.store = w.store
  allows c _ w := FindsCleared c w

/-- The guarantee of the recovery. -/
def Restores (w w' : World) : Prop :=
  Grows w w' ∧ (w.store.Inv → (∀ id, w.store.TrustEnds id) → ∀ id, w'.store.TrustEnds id)

/-- What a program on one sandbox guarantees, seen from all sandboxes. -/
theorem Guarded.restores (h : Guarded id w w') (hgrows : Grows w w') : Restores w w' := by
  refine ⟨hgrows, fun hinv htrust other => ?_⟩
  by_cases hother : other = id
  · rw [hother]
    exact h.2 hinv (htrust id)
  · exact (htrust other).alike ((h.1 hinv).2 other hother)

/-- The weakest precondition of a part of the recovery. -/
abbrev Restarts (p : Svc α) (Q : α → World → Prop) (w : World) : Prop :=
  p.wp perform restartEnv Restores Q (fun _ => StoreInv) w

theorem restarts_of_guards {Q : α → World → Prop}
    (h : Guards FindsCleared id p Q (fun _ => StoreInv) w) : Restarts p Q w := by
  have henv : p.wp perform restartEnv (Guarded id) Q (fun _ => StoreInv) w :=
    wp_env h (fun _ _ hstore => Serving.undisturbed_of_store hstore id) fun _ _ _ hx => hx
  exact wp_mono p (fun _ _ hg => hg.1.restores hg.2) (fun _ _ hq => hq) (fun _ _ he => he)
    (wp_guarantee p perform_grows henv)

theorem restores_refl (w : World) : Restores w w := ⟨⟨.refl _, fun h => h⟩, fun _ h => h⟩

theorem restarts_pendingOperations (h : StoreInv w) :
    Restarts (database .pendingOperations)
      (fun pending w' => pending = w'.store.pendingOperations ∧ w'.store = w.store) w := by
  refine wp_transaction (fun w1 hrely _ _ _ hrun => ?_)
    fun w1 hrely _ => ⟨restores_refl w1, h.of_store hrely⟩
  cases hrun
  exact ⟨restores_refl w1, rfl, hrely⟩

theorem restarts_recoverOperation (h : StoreInv w) (hknown : Known operation w.store) :
    Restarts (recoverOperation operation) (fun _ => StoreInv) w := by
  refine wp_seq (restarts_pendingOperations h) fun pending w1 h1 => ?_
  obtain ⟨rfl, hstore⟩ := h1
  rw [← hstore] at hknown
  have h1 : StoreInv w1 := h.of_store hstore
  split
  next hany =>
    obtain ⟨hop, hpending⟩ := hknown.pending h1 hany
    exact restarts_of_guards (guards_recoverStillPending
      ⟨h1, Store.mem_of_operation? hop, rfl, hpending⟩)
  next => exact h1

/-- The recovery of a list of operations. Each is still as it was read, or has ended. -/
theorem restarts_recoverEach (operations : List OperationRecord) (h : StoreInv w)
    (hknown : ∀ operation ∈ operations, Known operation w.store) :
    Restarts (recoverEach operations) (fun _ => StoreInv) w := by
  induction operations generalizing w with
  | nil => exact h
  | cons operation operations ih =>
    have hrest : ∀ other ∈ operations, Known other w.store :=
      fun other hmem => hknown other (mem_cons_of_mem operation hmem)
    have hfirst := wp_frame (I := fun w => ∀ other ∈ operations, Known other w.store)
      (recoverOperation operation)
      (fun w w' (hstore : w'.store = w.store) hI => by rwa [hstore])
      (fun w w' hg hI other hmem => (hI other hmem).extends hg.1.1)
      (restarts_recoverOperation h (hknown operation mem_cons_self)) hrest
    refine wp_seq (wp_imp_error (fun _ _ he => he.1) hfirst)
      fun findings w1 h1 => ?_
    exact wp_seq (ih h1.1 h1.2) fun others w2 h2 => h2

theorem restarts_recoverPending (h : StoreInv w) :
    Restarts recoverPending (fun _ => StoreInv) w := by
  refine wp_seq (restarts_pendingOperations h) fun pending w1 h1 => ?_
  obtain ⟨rfl, hstore⟩ := h1
  have h1 : StoreInv w1 := h.of_store hstore
  refine restarts_recoverEach _ h1 fun operation hmem => .inl ?_
  exact h1.operation?_eq_some.2 ⟨(mem_filter.1 hmem).1, rfl⟩

end Programs

/-! ### The daemon -/

/-- The steps in which a recovery that completes a destroy finds a row without SSH trust. -/
def System.RecoversCleared (s : System) : Event → Prop
  | .recover c _ => FindsCleared c s.world
  | _ => True

/-- What holds of the daemon in every state: the trust of every sandbox ends, and what is left to
run keeps it so. -/
structure Distrusting (s : System) : Prop where
  inv : s.world.store.Inv
  ends : ∀ id, s.world.store.TrustEnds id
  programs : match s.daemon with
    | .down => True
    | .recovering _ p => Restarts p (fun _ => StoreInv) s.world
    | .serving _ tasks => (tasks.map Task.id).Nodup ∧ ∀ task ∈ tasks,
      Guards (fun _ _ => True) task.id task.program (fun _ => StoreInv) (fun _ => StoreInv) s.world

namespace Distrusting

variable {s s' : System} {tasks before after : List Task}

/-- A task does not see the steps of others. -/
theorem guards_of_undisturbed {p : Svc OperationId}
    (h : Guards finds id p (fun _ => StoreInv) (fun _ => StoreInv) w)
    (hrely : Undisturbed id w w') :
    Guards finds id p (fun _ => StoreInv) (fun _ => StoreInv) w' :=
  Prog.wp_stable p (fun _ _ _ h1 h2 => h1.trans h2) (fun _ _ _ hrely h => (hrely h).1)
    (fun _ _ _ hrely h => (hrely h).1) hrely h

theorem outside {daemon : Daemon} (h : Distrusting ⟨w, daemon⟩) (hstore : w'.store = w.store) :
    Distrusting ⟨w', daemon⟩ := by
  refine ⟨StoreInv.of_store h.inv hstore, ?_, ?_⟩
  · show ∀ id, w'.store.TrustEnds id
    rw [hstore]
    exact h.ends
  · cases daemon with
    | down => trivial
    | recovering image p =>
      exact Prog.wp_stable p (fun _ _ _ h1 h2 => Eq.trans h2 h1)
        (fun _ _ _ hrely hsound => hsound.of_store hrely)
        (fun _ _ _ hrely hsound => hsound.of_store hrely) hstore h.programs
    | serving image tasks =>
      exact ⟨h.programs.1, fun task hmem => guards_of_undisturbed (h.programs.2 task hmem)
        (Serving.undisturbed_of_store hstore _)⟩

theorem advance {request : Request} {c : Cmd} {k : Reply c → Svc OperationId}
    (h : Distrusting ⟨w, .serving image (before ++ ⟨request, .call c k⟩ :: after)⟩) (x : Choice) :
    Distrusting ⟨(perform c x w).2,
      .serving image (before ++ ⟨request, k (perform c x w).1⟩ :: after)⟩ := by
  obtain ⟨hinv, hends, hlocks, htasks⟩ := h
  have hself := htasks ⟨request, .call c k⟩ (Serving.mem_around.2 (.inl rfl))
  obtain ⟨hguarded, hrest⟩ := hself w (Serving.undisturbed_of_store rfl _) x trivial
  have hrestores := hguarded.restores (perform_grows c x w)
  refine ⟨hrestores.1.2 hinv, hrestores.2 hinv hends, ?_, fun task hmem => ?_⟩
  · simpa only [map_append, map_cons] using hlocks
  · rcases Serving.mem_around.1 hmem with rfl | hmem
    · exact hrest
    · exact guards_of_undisturbed (htasks task (Serving.mem_around.2 (.inr hmem)))
        (hguarded.1.undisturbed (Serving.ne_of_mem hlocks hmem))

theorem ended {task : Task} (h : Distrusting ⟨w, .serving image (before ++ task :: after)⟩) :
    Distrusting ⟨w, .serving image (before ++ after)⟩ :=
  ⟨h.inv, h.ends, Serving.locks_ended h.programs.1,
    fun other hmem => h.programs.2 other (Serving.mem_around.2 (.inr hmem))⟩

theorem step {event : Event} (h : Distrusting s) (hstep : System.Step s event s')
    (hallowed : s.RecoversCleared event) : Distrusting s' := by
  cases hstep with
  | boot w image => exact ⟨h.inv, h.ends, restarts_recoverPending h.inv⟩
  | recover w image c k x =>
    obtain ⟨hrestores, hrest⟩ := h.programs w rfl x hallowed
    exact ⟨hrestores.1.2 h.inv, hrestores.2 h.inv h.ends, hrest⟩
  | recovered w image findings =>
    exact ⟨h.inv, h.ends, nodup_nil, fun _ hmem => absurd hmem not_mem_nil⟩
  | refused w image error => exact ⟨h.inv, h.ends, trivial⟩
  | request w image tasks request hfree =>
    refine ⟨h.inv, h.ends, Serving.locks_request h.programs.1 hfree, ?_⟩
    exact forall_mem_append.2
      ⟨h.programs.2, forall_mem_singleton.2 (guards_request request image h.inv)⟩
  | advance w image before after request c k x => exact h.advance x
  | returned w image before after request o => exact h.ended
  | threw w image before after request error => exact h.ended
  | crash => exact ⟨h.inv, h.ends, trivial⟩
  | outside w w' daemon hstore => exact h.outside hstore

end Distrusting

theorem distrusting_of_runsWithin {w : World} (hw : w.store = {}) {s : System}
    (hrun : System.RunsWithin System.RecoversCleared ⟨w, .down⟩ s) : Distrusting s := by
  induction hrun with
  | refl =>
    refine ⟨?_, fun id operation hlatest => ?_, trivial⟩
    · show w.store.Inv
      rw [hw]
      exact Store.inv_empty
    · have hmem : operation ∈ w.store.operations := hlatest.1
      rw [hw] at hmem
      exact absurd hmem not_mem_nil
  | tail _ hstep ih =>
    obtain ⟨event, hallowed, hstep⟩ := hstep
    exact ih.step hstep hallowed

/-- Take any run of the daemon from an empty store, with any requests, failures, crashes and
restarts, in which each recovery that completes a destroy finds a row without SSH trust. In every
state of the run, when the latest operation of a sandbox is a completed destroy, the sandbox is
recorded as absent, without an SSH resolution and without an SSH transport. -/
theorem trust_ends {w : World} (hw : w.store = {}) {s : System}
    (hrun : System.RunsWithin System.RecoversCleared ⟨w, .down⟩ s) {operation : OperationRecord}
    (hlatest : s.world.store.Latest operation) (hkind : operation.kind = .destroy)
    (hstatus : operation.status = .completed) :
    ∃ row, s.world.store.row? operation.sandboxId = some row ∧ row.record.actualState = .absent ∧
      row.record.sshResolution = none ∧ row.sshTransport = none :=
  (distrusting_of_runsWithin hw hrun).ends _ operation hlatest rfl hkind hstatus

/-- A request that runs alone recovers nothing. -/
theorem cleared_exec (request : Request) (w : World) :
    System.RunsWithin System.RecoversCleared ⟨w, .serving image []⟩
      ⟨((request.program image).exec perform {} w).2, .serving image []⟩ :=
  .head ⟨.request request, trivial, .request w image [] request (by simp)⟩
    (System.runsWithin_exec request (fun _ _ _ _ => trivial) (fun _ _ => trivial)
      (fun _ _ => trivial) (request.program image) (Prog.check_true _ _ w))

/-- An offline sandbox that was brought up and destroyed. -/
def destroyed : World :=
  ((destroyInner demoId).exec perform {}
    ((upInner demoImage demoSpec).exec perform {} demoWorld).2).2

/-- After a destroy that was not interrupted, the sandbox has no SSH trust. -/
theorem destroyed_trust_ends :
    ∃ operation, destroyed.store.Latest operation ∧ operation.kind = .destroy ∧
      operation.status = .completed ∧
      ∃ row, destroyed.store.row? operation.sandboxId = some row ∧
        row.record.actualState = .absent ∧ row.record.sshResolution = none ∧
        row.sshTransport = none := by
  have hboot : System.RunsWithin System.RecoversCleared ⟨demoWorld, .down⟩
      ⟨demoWorld, .serving demoImage []⟩ :=
    .head ⟨.boot demoImage, trivial, .boot demoWorld demoImage⟩ (.head
      ⟨.recover (.store .pendingOperations _) {}, trivial, .recover demoWorld demoImage _ _ {}⟩
      (.single ⟨.recovered, trivial, .recovered demoWorld demoImage []⟩))
  have hrun : System.RunsWithin System.RecoversCleared ⟨demoWorld, .down⟩
      ⟨destroyed, .serving demoImage []⟩ :=
    (hboot.trans (cleared_exec (.up demoSpec) demoWorld)).trans (cleared_exec (.destroy demoId) _)
  have hlast : (destroyed.store.operation? 2).any (fun operation =>
      operation.kind = .destroy && operation.status = .completed) = true ∧
      ∀ other ∈ destroyed.store.operations, other.id ≤ 2 := by decide +kernel
  obtain ⟨operation, hfound, hended⟩ := (Option.any_eq_true _ _).1 hlast.1
  obtain ⟨hkind, hstatus⟩ := Bool.and_eq_true_iff.1 hended
  have hlatest : destroyed.store.Latest operation := by
    refine ⟨Store.mem_of_operation? hfound, fun other hmem _ => ?_⟩
    rw [Store.id_of_operation? hfound]
    exact hlast.2 other hmem
  exact ⟨operation, hlatest, of_decide_eq_true hkind, of_decide_eq_true hstatus,
    trust_ends rfl hrun hlatest (of_decide_eq_true hkind) (of_decide_eq_true hstatus)⟩

/-- An `up` of a sandbox with SSH, in which everything succeeds. -/
def fullUpped : World :=
  ((upInner demoImage fullSpec).run perform (Script.of (List.replicate 80 {})) fullWorld).2

/-- Its destroy, killed after everything was removed. -/
def killedDestroy : World :=
  ((destroyInner demoId).run perform (Script.of (List.replicate 11 {})) fullUpped).2

/-- The next start of the daemon. -/
def recoveredDestroy : World :=
  (recoverPending.run perform (Script.of (List.replicate 20 {})) killedDestroy).2

/-- The recovery completes the destroy, and the sandbox keeps its SSH resolution and transport. -/
theorem trust_survives_recovered_destroy :
    System.Reachable ⟨recoveredDestroy, .serving demoImage []⟩ ∧
      (recoveredDestroy.store.operation? 2).any (fun operation => operation.sandboxId = demoId &&
        operation.kind = .destroy && operation.status = .completed) = true ∧
      (∀ other ∈ recoveredDestroy.store.operations, other.id ≤ 2) ∧
      (recoveredDestroy.store.row? demoId).any (fun row => row.record.actualState = .absent &&
        row.record.sshResolution.isSome && row.sshTransport.isSome) = true := by
  refine ⟨?_, by decide +kernel⟩
  have hupped := fullWorld_reachable.served (.up fullSpec)
    (System.quiet_of (List.replicate 80 {})) (by decide +kernel)
  exact (hupped.killed (.destroy demoId) (System.quiet_of (List.replicate 11 {}))).boot demoImage
    (System.quiet_of (List.replicate 20 {})) (by decide +kernel)

end Gascan
