import Gascan.Lib.Trace
import Gascan.Proofs.Conduct

/-!
# `Gascan.Proofs.Phases`: the order in which `up` and `apply` provision and log

`up` and `apply` log the phases of their operation as they go. What is left of an interrupted one is
a list of `Deed`s: the events in its log, and the provisioning of the guest in between.
`Interrupted` are the lists that a cut anywhere can leave, on every branch and under every reply.

`interrupted_staged` shows that all of them pass through the stages of `ProvisionStage`: an
operation provisions at most once, between a `before_provision` and an `after_provision` event.
`interrupted_of_upOperation` connects the deeds of an `up` with its log in the store.
-/

namespace Gascan

open Lib List

/-! ### Deeds -/

/-- The deeds of a command with its reply, for the operation `o`. A transaction that fails logs
nothing, and a guest command that fails may have had its effect. -/
def Deed.ofCmd (o : OperationId) : (c : Cmd) → Reply c → List Deed
  | .store (.appendOperationEvent o' details) _, .ok _ => if o' = o then [.logged details] else []
  | .exec .., _ => [.provisioning]
  | .provision .., _ => [.provisioning]
  | _, _ => []

/-- The details of an event that was logged. -/
def Deed.details? : Deed → Option Json
  | .logged details => some details
  | .provisioning => none

/-- The details of the events of an operation, in order. -/
def logOf (deeds : List Deed) : List Json := deeds.filterMap Deed.details?

/-- The replies of one run. -/
abbrev Replies : Type := (c : Cmd) → Reply c

/-- What `up` or `apply` has done for an operation where it was cut. -/
inductive Interrupted (o : OperationId) : OperationKind → List Deed → Prop where
  | up (image : String) (spec : SandboxSpec) (create : CreateRequest)
      (capabilities : RuntimeCapabilities) (existing : Option SandboxRecord)
      (record : SandboxRecord)
      (transport : Option SshTransportPolicy) (fingerprint : String) (storage : StorageCapacities)
      {ticks : List (Prog.Tick (List Deed) Replies)}
      (hquiet : ∀ tick ∈ ticks, tick.interfere = id) :
      Interrupted o .create ((Service.upOperation image spec create capabilities existing record
        transport ⟨o, fingerprint, storage⟩).run (Prog.answer (Deed.ofCmd o)) ticks []).2
  | apply (image : String) (spec : SandboxSpec) (plan : Service.ApplyPlan)
      {ticks : List (Prog.Tick (List Deed) Replies)}
      (hquiet : ∀ tick ∈ ticks, tick.interfere = id) :
      Interrupted o .apply ((Service.applyOperation image spec plan o).run
        (Prog.answer (Deed.ofCmd o)) ticks []).2

/-! ### Stages -/

/-- The stage after a list of deeds. -/
def stageAfter : ProvisionStage → List Deed → Option ProvisionStage
  | stage, [] => some stage
  | stage, deed :: deeds => (stage.next deed).bind (stageAfter · deeds)

theorem stageAfter_append (stage : ProvisionStage) (first second : List Deed) :
    stageAfter stage (first ++ second) = (stageAfter stage first).bind (stageAfter · second) := by
  induction first generalizing stage with
  | nil => rfl
  | cons deed first ih =>
    rw [cons_append, stageAfter, stageAfter]
    cases stage.next deed with
    | none => rfl
    | some next => exact ih next

/-- The condition on deeds that they are in a given stage. -/
abbrev At (stage : ProvisionStage) (deeds : List Deed) : Prop :=
  stageAfter .before deeds = some stage

/-- The condition on deeds that they pass through the stages. -/
abbrev Staged (deeds : List Deed) : Prop := (stageAfter .before deeds).isSome

variable {deeds : List Deed} {o : OperationId} {ticks : List (Prog.Tick World Choice)}

theorem At.staged {stage : ProvisionStage} (h : At stage deeds) : Staged deeds := by
  rw [Staged, h]
  rfl

/-! ### Runs -/

/-- Deeds do not depend on what is loaded, created or removed. -/
def anySetting (id : SandboxId) : Setting id :=
  { answers := fun _ _ => True
    writes := fun _ => True
    names := fun _ => True
    regular := fun _ => True
    removes := fun _ => True
    writes_self := trivial
    names_self := trivial
    loaded := fun _ _ => trivial
    compiled := fun _ _ => trivial
    named := fun _ => trivial
    created := fun _ _ _ _ => trivial
    failed := fun _ _ _ _ => trivial
    refailed := fun _ _ _ _ => trivial
    exact := fun _ _ => trivial
    expected := fun _ _ _ _ => trivial }

/-- The deeds of the operation `o` in a standing. -/
def Standing.DeedsOf (o : OperationId) (deeds : List Deed) : Standing → Prop
  | .free => False
  | .holding o' _ stage => o' = o ∧ At stage deeds
  | .done => Staged deeds

theorem Standing.DeedsOf.staged {s : Standing} (h : s.DeedsOf o deeds) : Staged deeds := by
  cases s with
  | free => exact h.elim
  | holding o' kind stage => exact h.2.staged
  | done => exact h

/-- An allowed command does what belongs to the stage. -/
theorem deedsOf_next {id : SandboxId} {s : Standing} {c : Cmd} (h : s.DeedsOf o deeds)
    (hc : (anySetting id).Allows s c) (reply : Reply c) :
    (s.next c reply).DeedsOf o (deeds ++ Deed.ofCmd o c reply) := by
  have hguest : (∃ o kind, s = .holding o kind .during) →
      s.DeedsOf o (deeds ++ [.provisioning]) := by
    rintro ⟨o', kind, rfl⟩
    refine ⟨h.1, ?_⟩
    rw [At, stageAfter_append, h.2]
    rfl
  cases c with
  | store op send =>
    cases op with
    | beginOperation => exact (hc.1 ▸ h : Standing.free.DeedsOf o deeds).elim
    | finishOperation =>
      cases reply with
      | ok => exact (append_nil deeds).symm ▸ h.staged
      | error => exact (append_nil deeds).symm ▸ h
    | appendOperationEvent o' details =>
      obtain ⟨⟨kind, stage, rfl, hnext⟩, -⟩ := hc
      obtain ⟨rfl, hstage⟩ := h
      cases reply with
      | error => exact ⟨rfl, (append_nil deeds).symm ▸ hstage⟩
      | ok =>
        obtain ⟨stage', hstage'⟩ := Option.isSome_iff_exists.1 hnext
        refine ⟨rfl, ?_⟩
        show At ((stage.next (.logged details)).getD stage) (deeds ++ if _ then _ else _)
        rw [if_pos rfl, At, stageAfter_append, hstage, Option.bind_some, stageAfter, hstage']
        rfl
    | _ => exact (append_nil deeds).symm ▸ h
  | exec => exact hguest hc
  | provision => exact hguest hc
  | _ => exact (append_nil deeds).symm ▸ h

/-- Wherever `up` or `apply` is cut, its deeds have passed through the stages. -/
theorem interrupted_staged {kind : OperationKind} (h : Interrupted o kind deeds) :
    Staged deeds := by
  have hcut : ∀ (p : Svc OperationId) (ticks : List (Prog.Tick (List Deed) Replies))
      (sandbox : SandboxId),
      (∀ tick ∈ ticks, tick.interfere = id) →
      Service.Proceeds (anySetting sandbox) p (.holding o kind .before) →
      Staged (p.run (Prog.answer (Deed.ofCmd o)) ticks []).2 := by
    intro p ticks sandbox hquiet hp
    have hrespects : p.Respects (Prog.answer (Deed.ofCmd o)) Prog.anyReply ticks [] :=
      Prog.respects_of_quiet (fun _ => rfl) (fun _ _ _ => trivial) hquiet p []
    have hstep : ∀ s c (replies : Replies) deeds, s.DeedsOf o deeds → True →
        (anySetting sandbox).Allows s c → True ∧ Staged (deeds ++ Deed.ofCmd o c (replies c)) ∧
          (s.next c (replies c)).DeedsOf o (deeds ++ Deed.ofCmd o c (replies c)) := by
      intro s c replies deeds h _ hc
      have hnext := deedsOf_next h hc (replies c)
      exact ⟨trivial, hnext.staged, hnext⟩
    have hrely : ∀ (s : Standing) deeds deeds', deeds' = deeds → s.DeedsOf o deeds →
        s.DeedsOf o deeds' := fun _ _ _ hsame h => hsame ▸ h
    have hstart : (Standing.holding o kind .before).DeedsOf o [] := ⟨rfl, rfl⟩
    have hwp : p.wp (Prog.answer (Deed.ofCmd o)) Prog.anyReply (fun _ => Staged) _ _ [] :=
      Prog.wp_of_abides (I := fun s deeds => s.DeedsOf o deeds) hrely hstep hp hstart
    exact Prog.run_invariant p ticks hwp hrespects (fun _ _ hrely hs => hrely ▸ hs)
      (fun _ _ hs _ => hs) rfl
  cases h with
  | up image spec create capabilities existing record transport fingerprint storage hquiet =>
    exact hcut _ _ spec.id hquiet (Service.proceeds_upOperation (by decide) trivial image create
      capabilities existing transport rfl)
  | apply image spec plan hquiet =>
    exact hcut _ _ spec.id hquiet
      (Service.proceeds_applyOperation (by decide) image trivial trivial)

/-! ### The log in the store -/

/-- What a transaction writes to the log of an operation that goes on. -/
def StoreOp.logs (o : OperationId) : StoreOp → List Json
  | .appendOperationEvent o' details => if o' = o then [details] else []
  | _ => []

/-- The log of an operation that is pending before and after a transaction. -/
theorem StoreOp.run_logs {s s' : Store} (hs : s.Inv) {now : Int} {op : StoreOp}
    {result : op.Result} (h : op.run s now = .ok (result, s')) {operation : OperationRecord}
    (hfound : s.operation? o = some operation) (hfound' : s'.operation? o = some operation)
    (hpending : operation.status = .pending) :
    (s'.operationEvents o).filterMap (·.details) =
      (s.operationEvents o).filterMap (·.details) ++ op.logs o := by
  by_cases ho : op.logged = some o
  · have hwrites := writes_of_run h
    cases op with
    | appendOperationEvent o' details =>
      obtain rfl := Option.some.inj ho
      obtain ⟨_, -, -, rfl⟩ := hwrites
      rw [Store.operationEvents_appendEvent, StoreOp.logs, if_pos rfl, filterMap_append]
      rfl
    | finishOperation o' actual status code details clear =>
      -- The operation itself would have ended.
      obtain ⟨other, -, rfl, -, -, hstatus, -, -, rfl⟩ := hwrites
      obtain rfl := Option.some.inj ho
      rw [Store.operation?_finished, hfound, Option.map_some, if_pos rfl] at hfound'
      exact absurd ((congrArg OperationRecord.status (Option.some.inj hfound')).trans hpending)
        hstatus
    | _ => cases ho
  · have hnone : op.logs o = [] := by
      cases op with
      | appendOperationEvent o' details => exact if_neg fun heq => ho (congrArg some heq)
      | _ => rfl
    rw [run_operationEvents hs h hfound ho, hnone, append_nil]

/-- The world has the log of the deeds of an operation, as long as the operation goes on. -/
def LogKept (o : OperationId) (w : World) (deeds : List Deed) : Prop :=
  w.store.Inv ∧ ∃ operation, w.store.operation? o = some operation ∧
    (operation.status = .pending →
      (w.store.operationEvents o).filterMap (·.details) = logOf deeds)

/-- Others write neither to the operation nor to its log. -/
def logEnv (o : OperationId) : Prog.Env Cmd World Choice where
  rely w w' := (w.store.Inv → w'.store.Inv) ∧ w'.store.operation? o = w.store.operation? o ∧
    w'.store.operationEvents o = w.store.operationEvents o
  allows _ _ _ := True

instance (c : Cmd) : Nonempty (Reply c) := ⟨(perform c {} { identity := ⟨"", ""⟩ }).1⟩

theorem logOf_append (deeds more : List Deed) : logOf (deeds ++ more) = logOf deeds ++ logOf more :=
  filterMap_append ..

/-- The deeds of a transaction are what it writes to the log. -/
theorem logOf_ofCmd_store {op : StoreOp} {send : op.Result → Option OperationEvent}
    (result : op.Result) : logOf (Deed.ofCmd o (.store op send) (.ok result)) = op.logs o := by
  cases op with
  | appendOperationEvent o' details =>
    by_cases ho : o' = o
    · simp [Deed.ofCmd, StoreOp.logs, logOf, Deed.details?, ho]
    · simp [Deed.ofCmd, StoreOp.logs, logOf, ho]
  | _ => rfl

variable {w : World} (image : String) (spec : SandboxSpec)

theorem logKept_perform (h : LogKept o w deeds) (c : Cmd) (x : Choice) :
    LogKept o (perform c x w).2 (deeds ++ Deed.ofCmd o c (perform c x w).1) := by
  obtain ⟨hinv, operation, hfound, hlog⟩ := h
  refine ⟨perform_inv hinv c x, ?_⟩
  cases c with
  | store op send =>
    have hfailed : ∀ error : ServiceError, operation.status = .pending →
        (w.store.operationEvents o).filterMap (·.details) =
          logOf (deeds ++ Deed.ofCmd o (.store op send) (.error error)) := by
      intro error hpending
      have hnone : Deed.ofCmd o (.store op send) (.error error) = [] := by cases op <;> rfl
      rw [hnone, append_nil]
      exact hlog hpending
    refine performStore_induction (P := fun r w' => ∃ operation,
      w'.store.operation? o = some operation ∧ (operation.status = .pending →
        (w'.store.operationEvents o).filterMap (·.details) =
          logOf (deeds ++ Deed.ofCmd o (.store op send) r))) (fun now result store hrun => ?_)
      (fun error => ⟨operation, hfound, hfailed error⟩) x
    obtain ⟨operation', hfound', hextended⟩ := StoreOp.run_extends hrun o operation hfound
    refine ⟨operation', hfound', fun hpending' => ?_⟩
    -- An operation that is pending now has not changed.
    obtain rfl : operation' = operation := by
      rcases hextended with heq | ⟨-, hended⟩
      · exact heq
      · exact absurd hpending' hended
    rw [logOf_append, logOf_ofCmd_store, ← hlog hpending']
    exact StoreOp.run_logs hinv hrun hfound hfound' hpending'
  | _ =>
    rw [perform_store_eq x (by intros; exact nofun)]
    refine ⟨operation, hfound, fun hpending => ?_⟩
    rw [logOf_append, hlog hpending]
    exact (append_nil _).symm

/-- A run of `up` or `apply`, wherever it is cut, leaves deeds whose log is in the store. -/
theorem logKept_run {α : Type} (p : Svc α) (hticks : p.Respects perform (logEnv o) ticks w)
    (h : LogKept o w []) :
    ∃ ticks', (∀ tick ∈ ticks', tick.interfere = id) ∧
      LogKept o (p.run perform ticks w).2 (p.run (Prog.answer (Deed.ofCmd o)) ticks' []).2 := by
  have hrely : ∀ w w' deeds, (logEnv o).rely w w' → LogKept o w deeds → LogKept o w' deeds := by
    intro w w' deeds ⟨hinv', hoperation, hevents⟩ ⟨hinv, operation, hfound, hlog⟩
    exact ⟨hinv' hinv, operation, hoperation.trans hfound, by rwa [hevents]⟩
  have hstep : ∀ c x w deeds, LogKept o w deeds →
      LogKept o (perform c x w).2 (deeds ++ Deed.ofCmd o c (perform c x w).1) :=
    fun c x w deeds hkept => logKept_perform hkept c x
  exact Prog.run_answered hrely hstep p hticks h

/-- What an `up` leaves that is cut while its operation is pending. -/
theorem interrupted_of_upOperation (create : CreateRequest) (capabilities : RuntimeCapabilities)
    (existing : Option SandboxRecord) (record : SandboxRecord)
    (transport : Option SshTransportPolicy) (ctx : Service.UpRuntimeContext) (hticks :
      (Service.upOperation image spec create capabilities existing record transport ctx).Respects
      perform (logEnv ctx.operationId) ticks w) (h : LogKept ctx.operationId w []) :
    ∃ deeds, Interrupted ctx.operationId .create deeds ∧ LogKept ctx.operationId
      ((Service.upOperation image spec create capabilities existing record transport ctx).run
        perform ticks w).2 deeds := by
  obtain ⟨ticks', hquiet, hkept⟩ := logKept_run _ hticks h
  exact ⟨_, .up image spec create capabilities existing record transport ctx.desiredFingerprint
    ctx.requestedStorage hquiet, hkept⟩

end Gascan
