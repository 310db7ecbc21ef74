import Gascan.Daemon.Stream
import Gascan.Proofs.Footprint

/-!
# `Gascan.Proofs.Request`: a request and the operation it holds

A request holds the lock of its sandbox. Others leave the row and the operations of that sandbox
alone (`Undisturbed`), and the request leaves those of every other sandbox alone (`Elsewhere`). The
rules here are about programs in `requestEnv`: the transactions of the store do not fail, and the
store admits the end of the pending operation in each state that is reported. Before its operation a
request is `Waiting`: it has sent nothing, and the sandbox has no pending operation but those that
are known. Then the operation is `Held`: it is pending in a known state, and every event of it was
sent. Once the operation `Ends`, at most its last event was not sent.
-/

namespace Gascan

open Lib Service List
open Lib.Prog hiding pure
open Store (Pending)

/-! ### The environment of a request -/

/-- Others keep the invariant of the store, and the row and the operations of the sandbox. -/
def Undisturbed (id : SandboxId) (w w' : World) : Prop :=
  w.store.Inv → w'.store.Inv ∧ Store.Alike id w.store w'.store

/-- A command keeps the invariant of the store, and the rows and the operations of all sandboxes but
one. -/
def Elsewhere (id : SandboxId) (w w' : World) : Prop :=
  w.store.Inv → w'.store.Inv ∧ ∀ other, other ≠ id → Store.Alike other w.store w'.store

theorem Undisturbed.trans {id : SandboxId} {w1 w2 w3 : World} (h1 : Undisturbed id w1 w2)
    (h2 : Undisturbed id w2 w3) : Undisturbed id w1 w3 := by
  intro hinv
  obtain ⟨hinv2, halike2⟩ := h1 hinv
  obtain ⟨hinv3, halike3⟩ := h2 hinv2
  exact ⟨hinv3, halike2.trans halike3⟩

theorem Elsewhere.undisturbed {id other : SandboxId} {w w' : World} (h : Elsewhere id w w')
    (hne : other ≠ id) : Undisturbed other w w' :=
  fun hinv => ⟨(h hinv).1, (h hinv).2 other hne⟩

/-- The state in which an operation is completed. -/
def OperationKind.target : OperationKind → ActualState
  | .create | .apply | .start | .reconcile => .running
  | .stop => .stopped
  | .destroy => .absent

/-- The store admits every end of an operation on a sandbox that is recorded in the state `source`
and reported so: failed in the reported state, and completed. A creation fails in `Absent` when
nothing is reported, the others in the recorded state. -/
def endsIn (source : ActualState) (kind : OperationKind) (reported : Option RuntimeSandbox) :
    Bool :=
  match reported with
  | some runtime => terminalTransition source (actualOf runtime.state) kind .failed &&
    actualTransition source kind.target
  | none => kind ≠ .create || (terminalTransition source .absent kind .failed &&
    actualTransition source kind.target)

/-- What an inspection reports about a sandbox. One that fails reports nothing. -/
def reported (x : Choice) (w : World) (id : SandboxId) : Option RuntimeSandbox :=
  if x.fault.isNone then (w.runtime.container? id).map Runtime.observe else none

/-- The store admits every end of the pending operation of a sandbox. -/
def admitsEnds (s : Store) (id : SandboxId) (reported : Option RuntimeSandbox) : Bool :=
  (s.pendingOperations.filter (·.sandboxId = id)).all fun operation =>
    (s.row? id).all fun row => endsIn row.record.actualState operation.kind reported

/-- The store works, and an inspection of the sandbox reports a state in which its pending operation
may end. -/
def requestAllows (id : SandboxId) (c : Cmd) (x : Choice) (w : World) : Bool :=
  match c with
  | .store _ _ => x.storeFault.isNone
  | .inspect id' => id' ≠ id || admitsEnds w.store id (reported x w id)
  | _ => true

/-- The environment of a request on the sandbox `id`. Others change only the world. -/
def requestEnv (id : SandboxId) : Prog.Env Cmd Session Choice where
  rely s s' := ∃ w, Undisturbed id s.world w ∧ s' = { s with world := w }
  allows c x s := requestAllows id c x s.world = true

/-- The weakest precondition of a program of a request on the sandbox `id`. -/
abbrev Serves {α : Type} (id : SandboxId) (p : Svc α) (Q : α → Session → Prop)
    (E : ServiceError → Session → Prop) (s : Session) : Prop :=
  p.wp Session.perform (requestEnv id) (fun s s' => Elsewhere id s.world s'.world) Q E s

/-- The program ends in a state with `P`, with a result or with an error. -/
abbrev ServesTo {α : Type} (id : SandboxId) (p : Svc α) (P : Session → Prop) (s : Session) : Prop :=
  Serves id p (fun _ => P) (fun _ => P) s

/-! ### What a request knows -/

/-- Every pending operation of the sandbox is a known one. -/
def Ready (known : OperationRecord → Prop) (id : SandboxId) (w : World) : Prop :=
  w.store.Inv ∧ ∀ operation ∈ w.store.operations, operation.sandboxId = id →
    operation.status = .pending → known operation

/-- The sandbox has no pending operation. -/
abbrev Free (id : SandboxId) (w : World) : Prop := Ready (fun _ => False) id w

/-- The operation on the sandbox is pending, and the sandbox is recorded in this state and under
this root. -/
def Holds (id : SandboxId) (operation : OperationRecord) (state : ActualState) (root : Path)
    (w : World) : Prop :=
  operation.sandboxId = id ∧
    ∃ row, Pending w.store operation row ∧ row.record.actualState = state ∧ row.root = root

/-- The request has recorded and sent nothing, and every pending operation is known. The sandbox is
recorded under the root `kept`, if there is one. -/
structure Waiting (known : OperationRecord → Prop) (id : SandboxId) (kept : Option Path)
    (s : Session) : Prop where
  ready : Ready known id s.world
  unrecorded : s.operation = none
  silent : s.sent = []
  rooted : (s.world.store.row? id).map (·.root) = kept

/-- The request holds its operation, and the given events are the only ones that it did not send. -/
structure HeldWith (unsent : List OperationEvent) (id : SandboxId) (operation : OperationRecord)
    (state : ActualState) (root : Path) (s : Session) : Prop where
  holds : Holds id operation state root s.world
  recorded : s.operation = some operation.id
  log : s.world.store.operationEvents operation.id = s.sent ++ unsent

/-- The request holds its operation and has sent all its events. -/
abbrev Held (id : SandboxId) (operation : OperationRecord) (state : ActualState) (root : Path)
    (s : Session) : Prop :=
  HeldWith [] id operation state root s

/-- The operation of the request has ended, and the given events are the only ones that were not
sent. -/
structure Ends (unsent : List OperationEvent) (id : SandboxId) (o : OperationId) (s : Session) :
    Prop where
  free : Free id s.world
  mine : ∃ operation ∈ s.world.store.operations, operation.id = o ∧ operation.sandboxId = id
  recorded : s.operation = some o
  log : s.world.store.operationEvents o = s.sent ++ unsent
  terminal : ∃ event ∈ (s.world.store.operationEvents o).getLast?, event.status ≠ .pending

/-- The request is over: it recorded and sent nothing, or its operation has ended and all its events
were sent. -/
def Answered (known : OperationRecord → Prop) (id : SandboxId) (s : Session) : Prop :=
  (∃ kept, Waiting known id kept s) ∨ ∃ o, Ends [] id o s

variable {α : Type} {known : OperationRecord → Prop} {id : SandboxId} {w w' : World} {s : Session}
  {operation : OperationRecord} {state : ActualState} {root : Path} {unsent : List OperationEvent}
  {kept : Option Path} {o : OperationId} {op : StoreOp} {send : op.Result → Option OperationEvent}
  {Q : op.Result → Session → Prop} {read : Store → op.Result} {details : Option Json}

theorem Ready.undisturbed (h : Ready known id w) (hrely : Undisturbed id w w') :
    Ready known id w' := by
  obtain ⟨hinv, halike⟩ := hrely h.1
  refine ⟨hinv, fun operation hmem hid hpending => ?_⟩
  exact h.2 operation ((halike.mem_operations hid).1 hmem) hid hpending

theorem Ready.of_free (h : Free id w) : Ready known id w :=
  ⟨h.1, fun operation hmem hid hpending => (h.2 operation hmem hid hpending).elim⟩

theorem Holds.inv (h : Holds id operation state root w) : w.store.Inv := by
  obtain ⟨-, row, hp, -⟩ := h
  exact hp.inv

theorem Holds.undisturbed (h : Holds id operation state root w) (hrely : Undisturbed id w w') :
    Holds id operation state root w' := by
  obtain ⟨rfl, row, hp, hkept⟩ := h
  obtain ⟨hinv, halike⟩ := hrely hp.inv
  exact ⟨rfl, row, hp.alike halike hinv, hkept⟩

theorem Waiting.undisturbed (h : Waiting known id kept s) (hrely : Undisturbed id s.world w) :
    Waiting known id kept { s with world := w } :=
  ⟨h.ready.undisturbed hrely, h.unrecorded, h.silent, by rw [← h.rooted, (hrely h.ready.1).2.row]⟩

theorem HeldWith.undisturbed (h : HeldWith unsent id operation state root s)
    (hrely : Undisturbed id s.world w) :
    HeldWith unsent id operation state root { s with world := w } := by
  refine ⟨h.holds.undisturbed hrely, h.recorded, ?_⟩
  obtain ⟨hid, row, hp, -⟩ := h.holds
  exact ((hrely hp.inv).2.events operation (Store.mem_of_operation? hp.found) hid).trans h.log

theorem Ends.undisturbed (h : Ends unsent id o s) (hrely : Undisturbed id s.world w) :
    Ends unsent id o { s with world := w } := by
  obtain ⟨operation, hmem, rfl, hid⟩ := h.mine
  have halike := (hrely h.free.1).2
  have hlog := halike.events operation hmem hid
  refine ⟨h.free.undisturbed hrely, ⟨operation, (halike.mem_operations hid).2 hmem, rfl, hid⟩,
    h.recorded, hlog.trans h.log, ?_⟩
  rw [hlog]
  exact h.terminal

theorem Answered.undisturbed (h : Answered known id s) (hrely : Undisturbed id s.world w) :
    Answered known id { s with world := w } := by
  rcases h with ⟨kept, h⟩ | ⟨o, h⟩
  · exact .inl ⟨kept, h.undisturbed hrely⟩
  · exact .inr ⟨o, h.undisturbed hrely⟩

theorem Answered.ready (h : Answered known id s) : Ready known id s.world := by
  rcases h with ⟨kept, h⟩ | ⟨o, h⟩
  · exact h.ready
  · exact .of_free h.free

theorem elsewhere_refl (id : SandboxId) (w : World) : Elsewhere id w w :=
  fun hinv => ⟨hinv, fun other _ => .refl other _⟩

variable {c : Cmd} {E : ServiceError → Session → Prop} {record : SandboxRecord}
  {actual : ActualState}

theorem elsewhere_perform (x : Choice) (w : World)
    (hc : ∀ op send, c = .store op send → op.About id w.store) : Elsewhere id w (perform c x w).2 :=
  fun hinv => ⟨perform_inv hinv c x, fun _ hne => perform_alike hinv hc hne⟩

theorem elsewhere_run (op : StoreOp) (hop : op.About id w.store) {now : Int} {result : op.Result}
    {store : Store} (hrun : op.run w.store now = .ok (result, store)) :
    Elsewhere id w { w with store } :=
  fun hinv => ⟨hinv.run op hrun, fun _ hne => StoreOp.run_alike hinv hop hne hrun⟩

variable {own : Option OperationId} {fallback : ActualState} {status : OperationStatus}
  {code : Option String} {policy : Option SshTransportPolicy}

theorem elsewhere_of_keeps (hc : c.Keeps id own) (hown : ∀ o ∈ own, ∀ operation,
      w.store.operation? o = some operation → operation.sandboxId = id) (x : Choice) :
    Elsewhere id w (perform c x w).2 := by
  refine elsewhere_perform x w fun op send hop => ?_
  subst hop
  exact hc.1.about hown

/-! ### What a command that keeps the operations logs and sends -/

theorem recorded_of_keeps (hc : c.Keeps id own) (r : Reply c) : c.recorded r = none := by
  unfold Cmd.recorded
  split
  · exact hc.1.elim
  · rfl

theorem sent_of_keeps_none (hc : c.Keeps id none) (r : Reply c) : c.sent r = [] := by
  unfold Cmd.sent
  split
  next op send result =>
    obtain ⟨hkeeps, rfl⟩ := hc
    cases op with
    | appendOperationEvent o details => cases hkeeps
    | _ => rfl
  · rfl

/-- Such a command sends exactly what it appends to the log. -/
theorem operationEvents_of_keeps (hc : c.Keeps id (some o)) (x : Choice) (w : World) :
    (perform c x w).2.store.operationEvents o =
      w.store.operationEvents o ++ c.sent (perform c x w).1 := by
  by_cases hstore : ∀ op send, c ≠ .store op send
  · rw [perform_store_eq x hstore]
    have hsent : ∀ r : Reply c, c.sent r = [] := by
      intro r
      unfold Cmd.sent
      split
      · exact absurd rfl (hstore _ _)
      · rfl
    rw [hsent, append_nil]
  · push Not at hstore
    obtain ⟨op, send, rfl⟩ := hstore
    obtain ⟨hkeeps, rfl⟩ := hc
    refine performStore_induction (P := fun r w' => w'.store.operationEvents o =
      w.store.operationEvents o ++ Cmd.sent (.store op op.news) r) (fun now result store hrun => ?_)
      (fun _ => (append_nil _).symm) x
    have hwrites := StoreOp.writes_of_run hrun
    cases op with
    | setSshResolution id' resolution =>
      obtain ⟨-, -, rfl⟩ := Store.setSshResolution_eq_ok.1 hwrites
      exact (append_nil _).symm
    | appendOperationEvent o' details =>
      obtain rfl := Option.some.inj hkeeps
      obtain ⟨_, -, -, heq⟩ := Store.appendOperationEvent_eq_ok.1 hrun
      obtain ⟨rfl, rfl⟩ := Prod.mk.inj heq
      exact Store.operationEvents_appendEvent ..
    | beginOperation | putSandbox | putSandboxWithSshTransport | finishOperation =>
      exact hkeeps.elim
    | _ =>
      obtain rfl := hwrites
      exact (append_nil _).symm

/-! ### Programs that keep what the request knows -/

theorem Waiting.step (h : Waiting known id kept s) (hc : c.Keeps id none) (x : Choice) :
    Elsewhere id s.world (perform c x s.world).2 ∧ Waiting known id kept (s.perform c x).2 := by
  refine ⟨elsewhere_of_keeps hc nofun x, ⟨perform_inv h.ready.1 c x, ?_⟩, ?_, ?_, ?_⟩
  · show ∀ operation ∈ (perform c x s.world).2.store.operations, _
    rw [(perform_same hc x s.world).operations]
    exact h.ready.2
  · show (c.recorded _).or s.operation = none
    rw [recorded_of_keeps hc, h.unrecorded]
    rfl
  · show s.sent ++ c.sent _ = []
    rw [sent_of_keeps_none hc, h.silent]
    rfl
  · have hrows := congrArg (Option.map Prod.snd) ((perform_same hc x s.world).rows id)
    rw [Option.map_map, Option.map_map] at hrows
    exact hrows.trans h.rooted

/-- The record of a sandbox has the root that is kept. -/
theorem Waiting.root_eq (h : Waiting known id kept s)
    (hrecord : s.world.store.sandbox id = some record) :
    ∀ root, kept = some root → root = record.canonicalRoot := by
  rintro root rfl
  obtain ⟨row, hrow, rfl⟩ := Option.map_eq_some_iff.1 hrecord
  have hrooted := h.rooted
  rw [hrow] at hrooted
  exact (Option.some.inj hrooted).symm

theorem serves_waiting {p : Svc α} (hp : p.Uses (Cmd.Keeps id none)) (h : Waiting known id kept s) :
    Serves id p (fun _ => Waiting known id kept) (fun _ => Answered known id) s := by
  refine wp_mono p (fun _ _ hg => hg) (fun _ _ h1 => h1) (fun _ _ h1 => .inl ⟨_, h1⟩)
    (wp_of_uses hp (fun s s' hrely hI => ?_) (fun c x s hc hI _ => hI.step hc x) h)
  obtain ⟨w, hrely, rfl⟩ := hrely
  exact hI.undisturbed hrely

theorem HeldWith.step (h : HeldWith [] id operation state root s)
    (hc : c.Keeps id (some operation.id)) (x : Choice) :
    Elsewhere id s.world (perform c x s.world).2 ∧
      HeldWith [] id operation state root (s.perform c x).2 := by
  obtain ⟨⟨hid, row, hrow, hstate, hroot⟩, hrecorded, hlog⟩ := h
  refine ⟨elsewhere_of_keeps hc ?_ x, ⟨hid, ?_⟩, ?_, ?_⟩
  · intro o ho found hfound
    obtain rfl := Option.some.inj ho
    exact Option.some.inj (hrow.found.symm.trans hfound) ▸ hid
  · obtain ⟨row', hrow', hstate', hroot'⟩ :=
      hrow.same (perform_same hc x s.world) (perform_inv hrow.inv c x)
    exact ⟨row', hrow', hstate'.trans hstate, hroot'.trans hroot⟩
  · show (c.recorded _).or s.operation = _
    rw [recorded_of_keeps hc]
    exact hrecorded
  · refine (operationEvents_of_keeps hc x s.world).trans ?_
    rw [hlog, append_nil, append_nil]
    rfl

theorem serves_held {p : Svc α} (hp : p.Uses (Cmd.Keeps id (some operation.id)))
    (h : Held id operation state root s) :
    ServesTo id p (Held id operation state root) s := by
  refine wp_of_uses hp (fun s s' hrely hI => ?_) (fun c x s hc hI _ => hI.step hc x) h
  obtain ⟨w, hrely, rfl⟩ := hrely
  exact hI.undisturbed hrely

/-! ### Transactions -/

theorem serves_database {E : ServiceError → Session → Prop}
    (hok : ∀ w, Undisturbed id s.world w → ∀ now result store,
      op.run w.store now = .ok (result, store) →
        Elsewhere id w { w with store } ∧
          Q result ⟨{ w with store }, (Cmd.recorded (.store op send) (.ok result)).or s.operation,
            s.sent ++ (send result).toList⟩)
    (herror : ∀ w, Undisturbed id s.world w → ∀ now error, op.run w.store now = .error error →
      E (.store error) { s with world := w }) :
    Serves id (databaseAndSend op send) Q E s := by
  rintro _ ⟨w, hrely, rfl⟩ x hallows
  have hfault : x.storeFault = none := Option.isNone_iff_eq_none.1 hallows
  have hperform : perform (.store op send) x w = performStore op x w := rfl
  simp only [Session.perform, hperform]
  unfold performStore
  rw [hfault]
  dsimp only
  cases hrun : op.run w.store x.now with
  | ok result => exact hok w hrely x.now result.1 result.2 hrun
  | error error =>
    refine ⟨elsewhere_refl id w, ?_⟩
    have hnone : Cmd.recorded (.store op send) (.error (.store error)) = none := by
      cases op <;> rfl
    have hend : E (.store error) ⟨w, s.operation, s.sent⟩ := herror w hrely x.now error hrun
    show E (.store error) ⟨w, (Cmd.recorded (.store op send) (.error (.store error))).or
      s.operation, s.sent ++ []⟩
    rw [hnone, append_nil]
    exact hend

theorem serves_database_ok (h : ∀ w, Undisturbed id s.world w → ∀ now, ∃ result store,
      op.run w.store now = .ok (result, store) ∧ Elsewhere id w { w with store } ∧ Q result ⟨{ w
      with store }, (Cmd.recorded (.store op send) (.ok result)).or s.operation, s.sent ++ (send
      result).toList⟩) : Serves id (databaseAndSend op send) Q E s := by
  refine serves_database (fun w hrely now result store hrun => ?_)
    fun w hrely now error hrun => ?_
  · obtain ⟨result', store', hrun', hpost⟩ := h w hrely now
    rw [hrun'] at hrun
    obtain ⟨rfl, rfl⟩ := Prod.mk.inj (Except.ok.inj hrun)
    exact hpost
  · obtain ⟨result', store', hrun', -⟩ := h w hrely now
    rw [hrun'] at hrun
    cases hrun

theorem serves_reading (hop : ∀ store now, op.run store now = .ok (read store, store))
    (hnone : ∀ result, Cmd.recorded (.store op send) (.ok result) = none)
    (h : ∀ w, Undisturbed id s.world w → Q (read w.store) ⟨w,
      s.operation, s.sent ++ (send (read w.store)).toList⟩) :
    Serves id (databaseAndSend op send) Q E s := by
  refine serves_database_ok fun w hrely now =>
    ⟨_, _, hop w.store now, elsewhere_refl id w, ?_⟩
  rw [hnone]
  exact h w hrely

theorem serves_read (op : StoreOp) {read : Store → op.Result}
    (hop : ∀ store now, op.run store now = .ok (read store, store))
    (hnone : ∀ result, Cmd.recorded (.store op fun _ => none) (.ok result) = none)
    (h : Waiting known id kept s) :
    Serves id (database op)
      (fun result s' => result = read s'.world.store ∧ Waiting known id kept s') E s := by
  refine serves_reading hop hnone fun w hrely => ⟨rfl, ?_⟩
  show Waiting known id kept ⟨w, s.operation, s.sent ++ []⟩
  rw [append_nil]
  exact h.undisturbed hrely

theorem serves_loadRecord (h : Waiting known id kept s) :
    Serves id (loadRecord id)
      (fun record s' => s'.world.store.sandbox id = some record ∧ Waiting known id kept s')
      (fun _ => Answered known id) s := by
  refine wp_seq (serves_read (.sandbox id) (fun _ _ => rfl) (fun _ => rfl) h)
    fun (record : Option SandboxRecord) s1 h1 => ?_
  cases record with
  | none => exact .inl ⟨_, h1.2⟩
  | some record => exact ⟨h1.1.symm, h1.2⟩

/-! ### The operation -/

/-- The operation was just recorded, and its first event was not sent. -/
def Begun (id : SandboxId) (operation : OperationRecord) (state : ActualState) (root : Path)
    (s : Session) : Prop :=
  s.sent = [] ∧ ∃ event, HeldWith [event] id operation state root s

theorem serves_beginOperation {kind : OperationKind} (hid : record.id = id)
    (hroot : ∀ root, kept = some root → root = record.canonicalRoot)
    (h : Waiting known id kept s) :
    Serves id (database (.beginOperation record kind))
      (fun operation s' => operation.kind = kind ∧ validateResolutions record = .ok () ∧
        (∀ old, s.world.store.sandbox id = some old →
          actualTransition old.actualState record.actualState = true) ∧
        Begun id operation record.actualState record.canonicalRoot s')
      (fun _ => Answered known id) s := by
  refine serves_database (fun w hrely now operation store hrun => ?_)
    fun w hrely _ _ _ => .inl ⟨_, h.undisturbed hrely⟩
  have hinv : w.store.Inv := (h.ready.undisturbed hrely).1
  have hbegin : w.store.beginOperation record kind now = .ok (operation, store) := hrun
  have hinv' : store.Inv := hinv.beginOperation hbegin
  obtain ⟨event, hlog, -⟩ := Store.operationEvents_beginOperation hinv hbegin
  obtain ⟨hres, hput, -, rfl, hstore⟩ := Store.beginOperation_eq_ok.1 hbegin
  refine ⟨elsewhere_run (.beginOperation record kind) hid hrun, rfl, hres, fun old hold => ?_,
    ?_, event, ⟨?_, rfl, ?_⟩⟩
  · rw [← (hrely h.ready.1).2.sandbox] at hold
    obtain ⟨row, hrow, rfl⟩ := Option.map_eq_some_iff.1 hold
    exact ((Store.checkPut_eq_ok.1 hput).1 row (hid.symm ▸ hrow)).2
  · show s.sent ++ [] = []
    rw [h.silent]
    rfl
  · have hrow : store.row? record.id = some (((w.store.row? record.id).map
        (Store.assignRecord record now)).getD
          ⟨{ record with lastOperationId := none, updatedAtMillis := now }, none⟩) := by
      rw [hstore]
      show (w.store.upsert record now).row? record.id = _
      rw [Store.row?_upsert, if_pos rfl]
    refine ⟨hid, _, ⟨hinv', hinv'.operation?_eq_some.2 ⟨?_, rfl⟩, rfl, hrow⟩, ?_⟩
    · rw [hstore]
      exact mem_append_right _ (mem_singleton_self _)
    · -- A row that was there keeps its root, which is the one of the record.
      cases hold : w.store.row? record.id with
      | none => exact ⟨rfl, rfl⟩
      | some row =>
        have hrooted := (h.undisturbed hrely).rooted
        rw [← hid, hold] at hrooted
        exact ⟨rfl, hroot _ hrooted.symm⟩
  · show store.operationEvents _ = (s.sent ++ []) ++ [event]
    rw [h.silent]
    exact hlog

/-- What an inspection says about the operation that the request holds. -/
theorem Holds.endsIn_of_allows (h : Holds id operation state root w) {x : Choice}
    (hallows : requestAllows id (.inspect id) x w = true) :
    endsIn state operation.kind (reported x w id) = true := by
  obtain ⟨rfl, row, hp, rfl, -⟩ := h
  have hadmits : admitsEnds w.store operation.sandboxId
      (reported x w operation.sandboxId) = true := by
    simpa [requestAllows] using hallows
  have hmem : operation ∈ w.store.pendingOperations.filter
      (·.sandboxId = operation.sandboxId) := by
    refine mem_filter.2 ⟨mem_filter.2 ⟨?_, decide_eq_true hp.pending⟩, by simp⟩
    exact Store.mem_of_operation? hp.found
  have hop := all_eq_true.1 hadmits operation hmem
  rw [hp.row] at hop
  exact hop

section

variable (h : Held id operation state root s)

include h

theorem serves_inspect
    {Q : Option RuntimeSandbox → Session → Prop} (hok : ∀ inspected s', Held id operation state
      root s' → endsIn state operation.kind inspected = true → Q inspected s') (herror : ∀ error
      s', Held id operation state root s' → endsIn state operation.kind none = true → E (.runtime
      error) s') : Serves id (inspect id) Q E s := by
  rintro _ ⟨w, hrely, rfl⟩ x hallows
  have hends := (h.holds.undisturbed hrely).endsIn_of_allows hallows
  obtain ⟨helse, hheld⟩ := (h.undisturbed hrely).step (c := .inspect id) trivial x
  refine ⟨helse, ?_⟩
  show (ofRuntime (orElseOk (x.fault.map (·.error)) _) : Svc _).wp Session.perform _ _ Q E _
  cases hfault : x.fault with
  | none =>
    rw [reported, hfault] at hends
    exact hok _ _ hheld hends
  | some fault =>
    rw [reported, hfault] at hends
    exact herror _ _ hheld hends

/-- The state that an operation fails in is admitted, whether it is reported or the fallback. -/
theorem serves_runtimeActual (hfallback : endsIn state
      operation.kind none = true → terminalTransition state fallback operation.kind .failed =
      true) :
    Serves id (runtimeActual id fallback)
      (fun actual s' => terminalTransition state actual operation.kind .failed = true ∧
        Held id operation state root s') E s := by
  have hinspect : Serves id (inspect id)
      (fun inspected s' => Held id operation state root s' ∧
        endsIn state operation.kind inspected = true)
      (fun _ s' => Held id operation state root s' ∧ endsIn state operation.kind none = true) s :=
    serves_inspect h (fun _ _ hheld hends => ⟨hheld, hends⟩) fun _ _ hheld hends => ⟨hheld, hends⟩
  refine wp_handle hinspect (fun inspected s1 h1 => ?_) fun error s1 h1 => ?_
  · cases inspected with
    | none => exact ⟨hfallback h1.2, h1.1⟩
    | some runtime => exact ⟨(Bool.and_eq_true_iff.1 h1.2).1, h1.1⟩
  · exact ⟨hfallback h1.2, h1.1⟩

theorem serves_emit (details : Json) :
    Serves id (emit operation.id details) (fun _ => Held id operation state root) E s := by
  have happend : Serves id (databaseAndSend (.appendOperationEvent operation.id details) some)
      (fun _ => Held id operation state root) E s := by
    refine serves_database_ok fun w hrely now => ?_
    obtain ⟨⟨hid, row, hp, hstate, hroot⟩, hrecorded, hlog⟩ := h.undisturbed hrely
    have hrun : (StoreOp.appendOperationEvent operation.id details).run w.store now = .ok _ :=
      Store.appendOperationEvent_eq_ok.2 ⟨operation, hp.found, hp.pending, rfl⟩
    refine ⟨_, _, hrun, elsewhere_run (.appendOperationEvent operation.id details) ?_ hrun,
      ⟨hid, ?_⟩, hrecorded, ?_⟩
    · intro found hfound
      exact Option.some.inj (hp.found.symm.trans hfound) ▸ hid
    · exact ⟨row, ⟨hp.inv.run _ hrun, hp.found, hp.pending, hp.row⟩, hstate, hroot⟩
    · refine (Store.operationEvents_appendEvent ..).trans ?_
      rw [hlog, append_nil, append_nil]
      rfl
  exact wp_seq happend fun _ _ h1 => h1

/-- The rule for the end of the operation. `unsent` is what the transaction does not send of its
event. -/
theorem serves_finish (hstatus : status ≠ .pending) {clear : Bool}
    (hedge : terminalTransition state actual operation.kind status = true)
    (hclear : clear = true → Store.mayClearSshTrust operation.kind status actual = true)
    {send : OperationRecord × OperationEvent → Option OperationEvent}
    (unsent : OperationRecord × OperationEvent → List OperationEvent)
    (hsend : ∀ finished, (send finished).toList ++ unsent finished = [finished.2]) :
    Serves id (databaseAndSend (.finishOperation operation.id actual status code details clear)
      send)
      (fun finished => Ends (unsent finished) id operation.id) E s := by
  refine serves_database_ok fun w hrely now => ?_
  obtain ⟨⟨rfl, row, hp, rfl, -⟩, hrecorded, hlog⟩ := h.undisturbed hrely
  have hinv' : (w.store.finished operation actual status code details clear now).Inv :=
    hp.inv.finished hp.found hstatus
  have hended : (w.store.finished operation actual status code details clear now).operation?
      operation.id = some (Store.finishRecord status code details operation) := by
    rw [Store.operation?_finished, hp.found, Option.map_some, if_pos rfl]
  have hlog' : (w.store.finished operation actual status code details clear now).operationEvents
      operation.id =
        s.sent ++ [⟨w.store.eventSeq + 1, operation.id, status, details, code, now⟩] := by
    rw [Store.operationEvents_finished, hlog, append_nil]
  refine ⟨_, _, Store.finishOperation_ok hp.found hp.pending hstatus hp.row hedge hclear,
    fun _ => ⟨hinv', fun other hne => ?_⟩, ⟨hinv', ?_⟩, ?_, hrecorded, ?_, ?_⟩
  · exact Store.alike_finished hp.inv hp.found hne
  · exact fun other hmem hid hpending => absurd hpending (hp.free hstatus other hmem hid)
  · exact ⟨_, Store.mem_of_operation? hended, rfl, rfl⟩
  · refine hlog'.trans ?_
    rw [append_assoc, hsend]
  · rw [hlog', getLast?_concat]
    exact ⟨_, rfl, hstatus⟩

theorem serves_finish_unsent (hstatus : status ≠ .pending) {clear : Bool}
    (hedge : terminalTransition state actual operation.kind status = true)
    (hclear : clear = true → Store.mayClearSshTrust operation.kind status actual = true) :
    Serves id (do
      let _ ← database (.finishOperation operation.id actual status code details clear)
      pure ()) (fun _ s' => ∃ event, Ends [event] id operation.id s') E s :=
  wp_seq (serves_finish h hstatus hedge hclear (fun finished => [finished.2]) fun _ => rfl)
    fun finished _ hends => ⟨finished.2, hends⟩

theorem serves_failOperation (hedge : terminalTransition state actual operation.kind .failed = true)
    {code : String} {details : Json} :
    Serves id (failOperation operation.id actual code details)
      (fun _ s' => ∃ event, Ends [event] id operation.id s') E s :=
  serves_finish_unsent h (by decide) hedge fun hclear => by cases hclear

theorem serves_completeOperation (hedge : actualTransition state actual = true) :
    Serves id (completeOperation operation.id actual)
      (fun _ s' => ∃ event, Ends [event] id operation.id s') E s :=
  serves_finish_unsent h (by decide) (Store.terminalTransition_of_actualTransition hedge)
    fun hclear => by cases hclear

end

theorem serves_sendTerminal {event : OperationEvent} (h : Ends [event] id o s) :
    Serves id (sendTerminal o) (fun _ => Ends [] id o) E s := by
  have hread : Serves id (databaseAndSend (.operationEvents o) List.getLast?)
      (fun _ => Ends [] id o) E s := by
    refine serves_reading (fun _ _ => rfl) (fun _ => rfl) fun w hrely => ?_
    obtain ⟨hfree, hmine, hrecorded, hlog, hterminal⟩ := h.undisturbed hrely
    refine ⟨hfree, hmine, hrecorded, ?_, hterminal⟩
    show w.store.operationEvents o = _
    rw [hlog, getLast?_concat, append_nil]
    rfl
  exact wp_seq hread fun _ _ h1 => h1

theorem serves_initializeOperation (h : Begun id operation state root s) (fallback : ActualState) :
    Serves id (initializeOperation operation.id id fallback)
      (fun _ => Held id operation state root) E s := by
  obtain ⟨hsent, event, h⟩ := h
  have hread : Serves id (databaseAndSend (.operationEvents operation.id) List.head?)
      (fun _ => Held id operation state root) (fun _ _ => False) s := by
    refine serves_reading (fun _ _ => rfl) (fun _ => rfl) fun w hrely => ?_
    obtain ⟨hholds, hrecorded, hlog⟩ := h.undisturbed hrely
    refine ⟨hholds, hrecorded, ?_⟩
    show w.store.operationEvents operation.id = _
    rw [hlog, hsent]
    rfl
  have hinitial : Serves id (sendInitial operation.id) (fun _ => Held id operation state root)
      (fun _ _ => False) s := wp_seq hread fun _ _ h1 => h1
  exact wp_handle hinitial (fun _ _ h1 => h1) fun _ _ h1 => h1.elim

theorem serves_failWith (h : Held id operation state root s) (hfallback : endsIn state
      operation.kind none = true → terminalTransition state fallback operation.kind .failed =
      true) (error : ServiceError) (details : Json) {Q : α → Session → Prop} :
    Serves id
      (failWith operation.id id fallback error details : Svc α) Q
      (fun _ => Ends [] id operation.id) s := by
  refine wp_seq (serves_runtimeActual h hfallback) fun actual s1 h1 => ?_
  refine wp_seq (serves_failOperation h1.2 h1.1) fun _ s2 h2 => ?_
  obtain ⟨event, h2⟩ := h2
  exact wp_seq (serves_sendTerminal h2) fun _ _ h3 => h3

theorem serves_reportFailure (h : Held id operation state root s)
    (hedge : terminalTransition state actual operation.kind .failed = true) (code : String)
    (details : Json) (error : ServiceError) {Q : α → Session → Prop} :
    Serves id (reportFailure operation.id actual code details error : Svc α) Q
      (fun _ => Ends [] id operation.id) s := by
  refine wp_handle (serves_failOperation (E := fun _ _ => False) h hedge)
    (fun _ s1 h1 => ?_) fun _ _ h1 => h1.elim
  obtain ⟨event, h1⟩ := h1
  exact wp_handle (serves_sendTerminal (E := fun _ _ => False) h1) (fun _ _ h2 => h2)
    fun _ _ h2 => h2.elim

/-! ### Writing the record -/

theorem Holds.upsert (h : Holds id operation state root w) (now : Int) (hid : record.id = id)
    (hinv : (w.store.upsert record now).Inv) :
    Holds id operation record.actualState root { w with store := w.store.upsert record now } := by
  obtain ⟨rfl, row, hp, -, rfl⟩ := h
  refine ⟨rfl, _, ⟨hinv, ?_, hp.pending, Store.row?_upsert_of_row hp.row hid⟩, rfl, rfl⟩
  show Table.lookup _ _ (w.store.upsert record now).operations = _
  rw [Store.operations_upsert]
  exact hp.found

theorem Holds.setTransport (h : Holds id operation state root w)
    {policy : Option SshTransportPolicy} (hinv : (w.store.updateRow id
      fun row => { row with sshTransport := policy }).Inv) :
    Holds id operation state root { w with store := (w.store.updateRow id
      fun row => { row with sshTransport := policy }) } := by
  obtain ⟨rfl, row, hp, hkept⟩ := h
  refine ⟨rfl, { row with sshTransport := policy }, ⟨hinv, hp.found, hp.pending, ?_⟩, hkept⟩
  have hid : ∀ row : SandboxRow, ({ row with sshTransport := policy } : SandboxRow).id = row.id :=
    fun _ => rfl
  refine (Store.row?_updateRow hid _).trans ?_
  rw [hp.row]
  simp

theorem HeldWith.upsert (h : HeldWith unsent id operation state root s) (now : Int)
    (hid : record.id = id) (hinv : (s.world.store.upsert record now).Inv) :
    HeldWith unsent id operation record.actualState root
      { s with world := { s.world with store := s.world.store.upsert record now } } :=
  ⟨h.holds.upsert now hid hinv, h.recorded, (Store.operationEvents_upsert _).trans h.log⟩

theorem HeldWith.putWithTransport (h : HeldWith unsent id operation state root s) {now : Int}
    {store : Store} (hid : record.id = id)
    (hput : s.world.store.putSandboxWithSshTransport record policy now = .ok store) :
    HeldWith unsent id operation record.actualState root
      { s with world := { s.world with store } } := by
  have hinv := h.holds.inv.putSandboxWithSshTransport hput
  obtain ⟨hres, hcheck, -, rfl⟩ := Store.putSandboxWithSshTransport_eq_ok.1 hput
  rw [hid] at hinv ⊢
  have hup := h.upsert now hid (h.holds.inv.upsert hres hcheck)
  exact ⟨hup.holds.setTransport hinv, hup.recorded, hup.log⟩

/-- A record of the same sandbox passes the checks of a write along an admitted edge. -/
theorem Holds.checkPut (h : Holds id operation state root w) (hid : record.id = id)
    (hroot : record.canonicalRoot = root)
    (hedge : actualTransition state record.actualState = true) :
    w.store.checkPut record = .ok () := by
  obtain ⟨rfl, row, hp, rfl, rfl⟩ := h
  have hsandbox : w.store.sandbox operation.sandboxId = some (w.store.recordOf row) := by
    rw [Store.sandbox, hp.row]
    rfl
  exact (Store.checkPut_of_sandbox hp.inv hsandbox record
    (hid.trans (Store.id_of_sandbox hsandbox).symm) hroot).2 hedge

/-- The rule for a write of the record. It may be refused. -/
theorem serves_putWithTransport (h : Held id operation state root s) (record : SandboxRecord)
    (hid : record.id = id) (policy : Option SshTransportPolicy) :
    Serves id (database (.putSandboxWithSshTransport record policy))
      (fun _ => Held id operation record.actualState root)
      (fun _ => Held id operation state root) s := by
  refine serves_database (fun w hrely now result store hrun => ?_)
    fun w hrely _ _ _ => h.undisturbed hrely
  refine ⟨elsewhere_run (.putSandboxWithSshTransport record policy) hid hrun, ?_⟩
  obtain ⟨s1, hs1, heq⟩ := map_eq_ok.1 hrun
  obtain ⟨-, rfl⟩ := Prod.mk.inj heq
  show Held id operation record.actualState root ⟨_, s.operation, s.sent ++ []⟩
  rw [append_nil]
  exact (h.undisturbed hrely).putWithTransport hid hs1

theorem serves_putWithTransport_ok (h : Held id operation state root s) (hid : record.id = id)
    (hroot : record.canonicalRoot = root) (hres : validateResolutions record = .ok ())
    (hedge : actualTransition state record.actualState = true)
    (hport : Store.transportPortOk policy = true) :
    Serves id (database (.putSandboxWithSshTransport record policy))
      (fun _ => Held id operation record.actualState root) E s := by
  refine serves_database_ok fun w hrely now => ?_
  have hheld := h.undisturbed hrely
  have hput : ∃ store, w.store.putSandboxWithSshTransport record policy now = .ok store :=
    ⟨_, Store.putSandboxWithSshTransport_eq_ok.2
      ⟨hres, hheld.holds.checkPut hid hroot hedge, hport, rfl⟩⟩
  obtain ⟨store, hput⟩ := hput
  have hrun : (StoreOp.putSandboxWithSshTransport record policy).run w.store now =
      .ok ((), store) := by
    show StoreOp.unit _ = _
    rw [hput]
    rfl
  refine ⟨(), _, hrun, elsewhere_run (.putSandboxWithSshTransport record policy) hid hrun, ?_⟩
  show Held id operation record.actualState root ⟨_, s.operation, s.sent ++ []⟩
  rw [append_nil]
  exact hheld.putWithTransport hid hput

theorem serves_putSandbox_ok (h : Held id operation state root s) (record : SandboxRecord)
    (hid : record.id = id) (hroot : record.canonicalRoot = root)
    (hres : validateResolutions record = .ok ())
    (hedge : actualTransition state record.actualState = true) :
    Serves id (database (.putSandbox record))
      (fun _ => Held id operation record.actualState root) E s := by
  refine serves_database_ok fun w hrely now => ?_
  have hheld := h.undisturbed hrely
  have hput := hheld.holds.checkPut hid hroot hedge
  have hrun : (StoreOp.putSandbox record).run w.store now =
      .ok ((), w.store.upsert record now) := by
    show StoreOp.unit _ = _
    rw [Store.putSandbox_eq_ok.2 ⟨hres, hput, rfl⟩]
    rfl
  refine ⟨(), _, hrun, elsewhere_run (.putSandbox record) hid hrun, ?_⟩
  show Held id operation record.actualState root ⟨_, s.operation, s.sent ++ []⟩
  rw [append_nil]
  exact hheld.upsert now hid (hheld.holds.inv.upsert hres hput)

end Gascan
