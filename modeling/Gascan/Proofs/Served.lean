import Gascan.Proofs.Loops
import Gascan.Proofs.Policy
import Gascan.Proofs.Reachable
import Gascan.Proofs.Request

/-!
# `Gascan.Proofs.Served`: whether a request ends the operation it records

A request ends its operation in the state that the runtime reports, and the store admits only some
edges from the state it has recorded. `served_operations_end` says that in every run in which the
store works, the daemon is not killed and each inspection reports a state that the store admits, no
operation stays pending after its request.
-/

namespace Gascan

open Lib Service List
open Lib.Prog hiding pure

section Programs

variable {α : Type} {known : OperationRecord → Prop} {id : SandboxId} {s : Session}
  {operation : OperationRecord} {state : ActualState} {root : Path} {kept : Option Path}
  {transport : Option SshTransportPolicy} {Q : α → Session → Prop}

/-! ### Parts that the requests share -/

theorem serves_inspectPresent (h : Held id operation state root s) :
    Serves id (inspectPresent id)
      (fun runtime s' => endsIn state operation.kind (some runtime) = true ∧
        Held id operation state root s')
      (fun _ => Held id operation state root) s := by
  have hinspect : Serves id (inspect id)
      (fun inspected s' => endsIn state operation.kind inspected = true ∧
        Held id operation state root s')
      (fun _ => Held id operation state root) s :=
    serves_inspect h (fun _ _ hheld hends => ⟨hends, hheld⟩) fun _ _ hheld _ => hheld
  refine wp_seq hinspect fun inspected s1 h1 => ?_
  cases inspected with
  | none => exact h1.2
  | some runtime => exact h1

/-- The fallback of every operation but a creation is the recorded state. -/
theorem fallback_self (state : ActualState) (kind : OperationKind) :
    terminalTransition state state kind .failed = true :=
  Store.terminalTransition_of_actualTransition (Store.actualTransition_self state)

/-- A program that moves neither the state nor the operation, with a fact that is known before. -/
theorem serves_held_of {p : Svc α} {P : Prop} (hP : P)
    (hp : p.Uses (Cmd.Keeps id (some operation.id))) (h : Held id operation state root s) :
    Serves id p (fun _ s' => P ∧ Held id operation state root s')
      (fun _ s' => P ∧ Held id operation state root s') s :=
  wp_mono p (fun _ _ hg => hg) (fun _ _ hheld => ⟨hP, hheld⟩) (fun _ _ hheld => ⟨hP, hheld⟩)
    (serves_held hp h)

theorem serves_complete (h : Held id operation state root s) {target : ActualState}
    (hedge : actualTransition state target = true) (a : α) :
    ServesTo id (do
      completeOperation operation.id target
      sendTerminal operation.id
      pure a) (Ends [] id operation.id) s := by
  refine wp_seq (serves_completeOperation h hedge) fun _ s1 h1 => ?_
  obtain ⟨event, h1⟩ := h1
  exact wp_seq (serves_sendTerminal h1) fun _ _ h2 => h2

/-! ### Start and stop -/

/-- A start or a stop that found a container may be completed. -/
theorem serves_changeState (h : Held id operation state root s) (record : SandboxRecord)
    (target : ActualState) :
    Serves id (changeState id record target)
      (fun _ s' => actualTransition state operation.kind.target = true ∧
        Held id operation state root s')
      (fun _ => Held id operation state root) s := by
  refine wp_seq (serves_inspectPresent h) fun runtime s1 h1 => ?_
  have htarget := (Bool.and_eq_true_iff.1 h1.1).2
  exact wp_mono _ (fun _ _ hg => hg) (fun _ _ hheld => hheld) (fun _ _ hheld => hheld.2)
    (serves_held_of htarget (uses_changeOwned (Cmd.replacing_keeps ..).toLifecycle id record runtime
      target) h1.2)

variable {record : SandboxRecord} {spec : SandboxSpec} {ctx : UpRuntimeContext}
  {E : ServiceError → Session → Prop} {plan : ApplyPlan}

theorem serves_simpleOperation {kind : OperationKind}
    (h : Begun id operation record.actualState root s) (hkind : operation.kind = kind) :
    ServesTo id (simpleOperation id record kind.target operation.id)
      (Ends [] id operation.id) s := by
  subst hkind
  refine wp_seq (serves_initializeOperation h _) fun _ s1 h1 => ?_
  refine wp_handle (serves_changeState h1 record _) (fun _ s2 h2 => ?_) fun error s2 h2 => ?_
  · exact serves_complete h2.2 h2.1 _
  · exact serves_failWith h2 (fun _ => fallback_self _ _) error _

theorem serves_simpleState (h : Waiting known id kept s) (kind : OperationKind)
    (desired : DesiredState) :
    ServesTo id (simpleState id kind desired kind.target) (Answered known id) s := by
  refine wp_seq (serves_loadRecord h) fun record s1 h1 => ?_
  have hid : record.id = id := Store.id_of_sandbox h1.1
  have hroot := h1.2.root_eq h1.1
  refine wp_seq (serves_beginOperation hid hroot h1.2) fun operation s2 h2 => ?_
  obtain ⟨hkind, -, -, hheld⟩ := h2
  exact wp_mono _ (fun _ _ hg => hg) (fun _ _ hends => .inr ⟨_, hends⟩)
    (fun _ _ hends => .inr ⟨_, hends⟩) (serves_simpleOperation hheld hkind)

/-! ### Destroy -/

theorem destroy_edges
    (hedge : actualTransition record.actualState (destroyRecord record).actualState = true) :
    actualTransition (destroyRecord record).actualState .absent = true ∧
      terminalTransition (destroyRecord record).actualState record.actualState .destroy
        .failed = true := by
  rw [destroyRecord_transition] at hedge
  show actualTransition (if record.actualState = .absent then .absent else .destroying) .absent =
      true ∧ terminalTransition (if record.actualState = .absent then .absent else .destroying)
        record.actualState .destroy .failed = true
  cases hstate : record.actualState <;> first | exact absurd hstate hedge | decide

theorem serves_destroyOperation (h : Begun id operation (destroyRecord record).actualState root s)
    (hkind : operation.kind = .destroy)
    (hedge : actualTransition record.actualState (destroyRecord record).actualState = true) :
    ServesTo id (destroyOperation id record.actualState (destroyRecord record) operation.id)
      (Ends [] id operation.id) s := by
  obtain ⟨habsent, hprior⟩ := destroy_edges hedge
  refine wp_seq (serves_initializeOperation h _) fun _ s1 h1 => ?_
  refine wp_handle (serves_held (uses_destroyRuntime (Cmd.replacing_keeps ..) id _
    fun _ _ _ _ => trivial) h1) (fun _ s2 h2 => ?_)
    fun error s2 h2 => ?_
  · have hclear : Store.mayClearSshTrust operation.kind .completed .absent = true := by
      rw [hkind]
      rfl
    refine wp_seq (serves_finish_unsent h2 (by decide)
      (Store.terminalTransition_of_actualTransition habsent) fun _ => hclear) fun _ s3 h3 => ?_
    obtain ⟨event, h3⟩ := h3
    exact wp_seq (serves_sendTerminal h3) fun _ _ h4 => h4
  · exact serves_failWith h2 (fun _ => hkind ▸ hprior) error _

theorem serves_destroyInner (h : Waiting known id kept s) :
    ServesTo id (destroyInner id) (Answered known id) s := by
  refine wp_seq (serves_loadRecord h) fun record s1 h1 => ?_
  have hid : record.id = id := Store.id_of_sandbox h1.1
  have hroot := h1.2.root_eq h1.1
  refine wp_seq (serves_beginOperation (show (destroyRecord record).id = id from hid) hroot h1.2)
    fun operation s2 h2 => ?_
  obtain ⟨hkind, -, hedge, hheld⟩ := h2
  exact wp_mono _ (fun _ _ hg => hg) (fun _ _ hends => .inr ⟨_, hends⟩)
    (fun _ _ hends => .inr ⟨_, hends⟩) (serves_destroyOperation hheld hkind (hedge record h1.1))

/-! ### The resolutions that are recorded -/

theorem validateSshResolution_enabled (active : ActiveSsh) :
    validateSshResolution (enabledResolution active) = .ok () := rfl

theorem validateSshResolution_disabled : validateSshResolution disabledResolution = .ok () := rfl

/-- A resolution that the store accepts. -/
abbrev Accepted (resolution : Resolution) : Prop := validateSshResolution resolution = .ok ()

theorem yields_activateAndPersistSsh (id : SandboxId) (prior : Option Resolution)
    (publication : Option OperationId) :
    (activateAndPersistSsh id prior publication).Yields Accepted := by
  refine yields_bind_right fun _ => yields_bind_right fun prepared => ?_
  iterate 5 refine yields_bind_right fun _ => ?_
  exact validateSshResolution_enabled prepared.active

theorem yields_disableAndPersistSsh (id : SandboxId) (prior : Option Resolution) :
    (disableAndPersistSsh id prior).Yields Accepted :=
  yields_bind_right fun _ => yields_bind_right fun _ => validateSshResolution_disabled

theorem yields_sshUp (spec : SandboxSpec) (prior : Option Resolution) (o : OperationId) :
    (sshUp spec prior o).Yields Accepted := by
  unfold sshUp
  split
  · refine yields_bind (yields_activateAndPersistSsh ..) fun _ haccepted => ?_
    exact yields_bind_right fun _ => yields_bind_right fun _ =>
      yields_bind_right fun _ => haccepted
  · exact yields_disableAndPersistSsh ..

theorem yields_sshApply (spec : SandboxSpec) (prior : Option Resolution) :
    (sshApply spec prior).Yields Accepted := by
  unfold sshApply
  split
  · exact yields_activateAndPersistSsh ..
  · exact yields_disableAndPersistSsh ..

theorem yields_settle (spec : SandboxSpec) (create : CreateRequest) (prior : Option SandboxRecord)
    (existed : Bool) (ctx : UpRuntimeContext) :
    (settle spec create prior existed ctx).Yields fun settled => Accepted settled.2 := by
  iterate 9 refine yields_bind_right fun _ => ?_
  exact yields_bind (yields_sshUp ..) fun _ h => h

/-! ### Up -/

/-- What an `up` may record at its end: an admitted state and an accepted SSH resolution. -/
structure Recordable (state : ActualState) (outcome : UpOutcome) : Prop where
  edge : actualTransition state outcome.actual = true
  ssh : validateOptional validateSshResolution outcome.sshResolution = .ok ()

theorem serves_loadHeld (h : Held id operation state root s) :
    Serves id (loadRecord id)
      (fun record s' => record.id = id ∧ record.actualState = state ∧
        Held id operation state root s')
      (fun _ => Held id operation state root) s := by
  have hread : Serves id (database (.sandbox id))
      (fun (record : Option SandboxRecord) s' =>
        (∀ found, record = some found → found.id = id ∧ found.actualState = state) ∧
          Held id operation state root s')
      (fun _ => Held id operation state root) s := by
    refine serves_reading (fun _ _ => rfl) (fun _ => rfl) fun w hrely =>
      ⟨fun record hrecord => ?_, ?_⟩
    · refine ⟨Store.id_of_sandbox hrecord, ?_⟩
      obtain ⟨rfl, row, hp, rfl, -⟩ := h.holds.undisturbed hrely
      obtain ⟨row', hrow, rfl⟩ := Option.map_eq_some_iff.1 hrecord
      exact congrArg (·.record.actualState) (Option.some.inj (hrow.symm.trans hp.row))
    · show Held id operation state root ⟨w, s.operation, s.sent ++ []⟩
      rw [append_nil]
      exact h.undisturbed hrely
  refine wp_seq hread fun (record : Option SandboxRecord) s1 h1 => ?_
  cases record with
  | none => exact h1.2
  | some record =>
    obtain ⟨hid, hstate⟩ := h1.1 record rfl
    exact ⟨hid, hstate, h1.2⟩

theorem serves_persistCreatedState (h : Held id operation state root s)
    (storage : StorageCapacities) (transport : SshTransportPolicy) :
    ServesTo id (persistCreatedState id storage transport) (Held id operation state root) s := by
  refine wp_seq (serves_loadHeld h) fun record s1 h1 => ?_
  obtain ⟨hid, rfl, hheld⟩ := h1
  exact serves_putWithTransport hheld
    { record with storageResolution := some (storageResolution storage) } hid _

/-- A command that moves neither the state nor the operation. -/
theorem serves_call {c : Cmd} {k : Reply c → Svc α} (hc : c.Keeps id (some operation.id))
    (h : Held id operation state root s)
    (hk : ∀ r s', Held id operation state root s' → Serves id (k r) Q E s') :
    Serves id (.call c k) Q E s := by
  have hcall : ServesTo id (Prog.perform c : Svc (Reply c))
    (Held id operation state root) s := serves_held ⟨hc, fun _ => trivial⟩ h
  intro s1 hrely x hallows
  obtain ⟨hg, hheld⟩ := hcall s1 hrely x hallows
  exact ⟨hg, hk _ _ hheld⟩

theorem serves_createOnce (h : Held spec.id operation state root s) (storage : StorageCapacities)
    (retries : Nat) (prepared : Option PreparedSshCreate) (create : CreateRequest)
    {again : Svc (CreateOutcome × CreateRequest)} (hagain : ∀ s', Held spec.id operation state
      root s' → ServesTo spec.id again (Held spec.id operation state root) s') :
    ServesTo spec.id (createOnce spec storage retries prepared create again)
      (Held spec.id operation state root) s := by
  refine serves_call (c := .create create) trivial h
    fun (created : Except CreateFailure CreateOutcome) s1 h1 => ?_
  cases created with
  | ok outcome =>
    refine wp_handle (serves_persistCreatedState h1 _ _) (fun _ s2 h2 => h2)
      fun error s2 h2 => serves_held (uses_rollbackCreated (Cmd.replacing_keeps ..) spec.id
        (fun _ _ => trivial) error) h2
  | error failure =>
    refine wp_seq (serves_held (uses_removePartial (Cmd.replacing_keeps ..)
      fun _ _ => trivial) h1) fun _ s2 h2 => ?_
    refine wp_seq (serves_held (keeps_of_light (light_portCollision ..)) h2)
      fun collision s3 h3 => ?_
    unfold afterFailure
    split
    · exact h3
    · split
      · exact h3
      · exact hagain s3 h3

theorem serves_prepareSshCreate (s : Session) (h : Held spec.id operation state root s) :
    ServesTo spec.id (prepareSshCreate spec) (Held spec.id operation state root) s :=
  serves_held (keeps_of_light (light_prepareSshCreate spec)) h

theorem serves_createLoop (image : String) (capabilities : RuntimeCapabilities)
    (storage : StorageCapacities) (retries : Nat) {prepared : Option PreparedSshCreate}
    {create : CreateRequest}
    (hcompile : compilePolicy image spec capabilities prepared = .ok create)
    (h : Held spec.id operation state root s) :
    ServesTo spec.id (createLoop image spec capabilities storage retries prepared create)
      (Held spec.id operation state root) s :=
  wp_createLoop image spec capabilities storage serves_prepareSshCreate (fun _ _ hheld => hheld)
    (fun _ _ hheld => hheld)
    (fun retries prepared create _ _ _ hheld hagain =>
      serves_createOnce hheld storage retries prepared create hagain) retries hcompile h

theorem serves_settleOrUndo (h : Held spec.id operation state root s)
    (hrunning : actualTransition state .running = true) (create : CreateRequest)
    (prior : Option SandboxRecord) (created : Option CreateOutcome)
    (hctx : operation.id = ctx.operationId) :
    Serves spec.id (settleOrUndo spec create prior created ctx)
      (fun outcome s' => Recordable state outcome ∧ Held spec.id operation state root s')
      (fun _ => Held spec.id operation state root) s := by
  have hsettle := wp_yields (yields_settle spec create prior created.isNone ctx)
    (serves_held (keeps_of_steady (hctx ▸ steady_settle spec create prior created.isNone ctx)) h)
  refine wp_handle hsettle (fun settled s1 h1 => ?_) fun error s1 h1 => ?_
  · exact ⟨⟨hrunning, h1.2⟩, h1.1⟩
  · have hundo := wp_yields (throws_unsettle (α := UpOutcome) spec.id created error)
      (serves_held (uses_unsettle (Cmd.replacing_keeps ..) spec.id (fun _ _ _ _ =>
        trivial) error) h1)
    exact wp_mono _ (fun _ _ hg => hg) (fun _ _ hnone => hnone.2.elim) (fun _ _ hheld => hheld)
      hundo

/-- The runtime part of an `up`. After its first inspection the operation may be completed, and may
fail in `Stopped`. -/
theorem serves_upRuntime (h : Held spec.id operation state root s)
    (hkind : operation.kind = .create) (image : String) (create : CreateRequest)
    (capabilities : RuntimeCapabilities) (prior : Option SandboxRecord)
    (hprior : validateOptional validateSshResolution (prior.bind (·.sshResolution)) = .ok ())
    (transport : Option SshTransportPolicy) (hctx : operation.id = ctx.operationId) :
    Serves spec.id (upRuntime image spec create capabilities prior transport ctx)
      (fun outcome s' => Recordable state outcome ∧ Held spec.id operation state root s')
      (fun _ s' => actualTransition state .running = true ∧ Held spec.id operation state root s')
      s := by
  -- Whatever the inspection says, a creation may be completed.
  have htarget : ∀ inspected, endsIn state operation.kind inspected = true →
      actualTransition state .running = true := by
    intro inspected hends
    rw [hkind] at hends
    cases inspected with
    | none => exact (Bool.and_eq_true_iff.1 hends).2
    | some runtime => exact (Bool.and_eq_true_iff.1 hends).2
  have hinspect : Serves spec.id (inspect spec.id)
      (fun inspected s' => endsIn state operation.kind inspected = true ∧
        Held spec.id operation state root s')
      (fun _ s' => actualTransition state .running = true ∧ Held spec.id operation state root s')
      s :=
    serves_inspect h (fun _ _ hheld hends => ⟨hends, hheld⟩)
      fun _ _ hheld hends => ⟨htarget none hends, hheld⟩
  refine wp_seq hinspect fun inspected s1 h1 => ?_
  have hrunning := htarget inspected h1.1
  have hmono : ∀ {p : Svc UpOutcome} {s' : Session},
      Serves spec.id p
        (fun outcome s'' => Recordable state outcome ∧ Held spec.id operation state root s'')
        (fun _ => Held spec.id operation state root) s' →
      Serves spec.id p
        (fun outcome s'' => Recordable state outcome ∧ Held spec.id operation state root s'')
        (fun _ s'' => actualTransition state .running = true ∧
          Held spec.id operation state root s'') s' := fun hp =>
    wp_mono _ (fun _ _ hg => hg) (fun _ _ hq => hq) (fun _ _ hheld => ⟨hrunning, hheld⟩) hp
  refine hmono ?_
  cases inspected with
  | none =>
    refine wp_prepareCreate image spec capabilities serves_prepareSshCreate (fun _ _ hheld => hheld)
      (fun prepared create s3 hcompile h3 => ?_) h1.2
    refine wp_seq (serves_createLoop image capabilities _ _ hcompile h3)
      fun created s4 h4 => ?_
    refine wp_seq (hctx ▸ serves_emit h4 _) fun _ s5 h5 => ?_
    exact serves_settleOrUndo h5 hrunning created.2 prior (some created.1) hctx
  | some runtime =>
    refine wp_seq (serves_held (uses_ofExcept _) h1.2) fun required s2 h2 => ?_
    cases required with
    | some event =>
      refine wp_seq (hctx ▸ serves_emit h2 event) fun _ s3 h3 => ?_
      -- A container that is kept as it is leaves the sandbox in the reported state.
      refine ⟨⟨?_, hprior⟩, h3⟩
      have hends := (Bool.and_eq_true_iff.1 h1.1).1
      rw [hkind] at hends
      show actualTransition state (actualOf runtime.state) = true
      cases hstate : runtime.state <;> rw [hstate] at hends <;> cases state <;>
        first | rfl | cases hends
    | none =>
      exact wp_prepareCreate image spec capabilities serves_prepareSshCreate
        (fun _ _ hheld => hheld) (fun prepared create _ _ h3 =>
          serves_settleOrUndo h3 hrunning create prior none hctx) h2

theorem transportPortOk_requested (spec : SandboxSpec) :
    Store.transportPortOk (some (requestedSshTransport spec)) = true := by
  unfold requestedSshTransport
  split
  · cases hport : spec.manifest.ssh.hostPort with
    | none => rfl
    | some port => exact decide_eq_true (spec.manifest.ssh.unprivileged port hport)
  · rfl

theorem validateResolutions_withProvisioned (h : validateResolutions record = .ok ())
    (fingerprint : String) (provisioned : Option ProvisionedResolution) :
    validateResolutions (withProvisioned record fingerprint provisioned) = .ok () := by
  cases provisioned with
  | none => exact h
  | some p =>
    obtain ⟨-, -, himage, hstorage, hssh⟩ := Store.validateResolutions_eq_ok.1 h
    exact Store.validateResolutions_eq_ok.2 ⟨rfl, rfl, himage, hstorage, hssh⟩

theorem validateResolutions_upFinal (h : validateResolutions record = .ok ())
    (ctx : UpRuntimeContext) {outcome : UpOutcome}
    (hssh : validateOptional validateSshResolution outcome.sshResolution = .ok ()) :
    validateResolutions (upFinalRecord record ctx outcome) = .ok () := by
  obtain ⟨hsetup, htool, himage, -, hold⟩ := Store.validateResolutions_eq_ok.1
    (validateResolutions_withProvisioned h ctx.desiredFingerprint outcome.provisioned)
  refine Store.validateResolutions_eq_ok.2 ⟨hsetup, htool, himage, rfl, ?_⟩
  show validateOptional validateSshResolution (outcome.sshResolution.or _) = .ok ()
  cases houtcome : outcome.sshResolution with
  | none => exact hold
  | some resolution =>
    rw [houtcome] at hssh
    exact hssh

theorem withProvisioned_root (record : SandboxRecord) (fingerprint : String)
    (provisioned : Option ProvisionedResolution) :
    (withProvisioned record fingerprint provisioned).canonicalRoot = record.canonicalRoot := by
  cases provisioned <;> rfl

theorem serves_finishUp (h : Held spec.id operation state record.canonicalRoot s)
    (hid : record.id = spec.id) (hres : validateResolutions record = .ok ())
    (htransport : Store.transportPortOk transport = true) (hctx : operation.id = ctx.operationId)
    {outcome : UpOutcome} (houtcome : Recordable state outcome) :
    ServesTo spec.id (finishUp spec record transport ctx outcome)
      (Ends [] spec.id operation.id) s := by
  have hport : Store.transportPortOk (if outcome.sshTransportApplied then
      some (requestedSshTransport spec) else transport) = true := by
    split
    · exact transportPortOk_requested spec
    · exact htransport
  have hfinal : (upFinalRecord record ctx outcome).id = spec.id :=
    (withProvisioned_id record ctx.desiredFingerprint outcome.provisioned).trans hid
  have hroot : (upFinalRecord record ctx outcome).canonicalRoot = record.canonicalRoot :=
    withProvisioned_root record ctx.desiredFingerprint outcome.provisioned
  refine wp_seq (serves_putWithTransport_ok h hfinal hroot
    (validateResolutions_upFinal hres ctx houtcome.ssh) houtcome.edge hport) fun _ s1 h1 => ?_
  rw [← hctx]
  exact serves_complete h1 (Store.actualTransition_self _) _

theorem stopped_of_running (hrunning : actualTransition state .running = true)
    (kind : OperationKind) : terminalTransition state .stopped kind .failed = true := by
  refine Store.terminalTransition_of_actualTransition ?_
  cases state <;> first | rfl | cases hrunning

/-- The state that a failed `up` or `apply` is recorded in. -/
theorem serves_failedActual (h : Held id operation state root s)
    (hrunning : actualTransition state .running = true) (error : ServiceError)
    {fallback : ActualState} (hfallback : endsIn state operation.kind none = true →
      terminalTransition state fallback operation.kind .failed = true) :
    Serves id (failedActual id fallback error)
      (fun actual s' => terminalTransition state actual operation.kind .failed = true ∧
        Held id operation state root s') E s := by
  unfold failedActual
  split
  · exact ⟨stopped_of_running hrunning operation.kind, h⟩
  · exact serves_runtimeActual h hfallback

theorem serves_failUp (h : Held spec.id operation state root s) (hkind : operation.kind = .create)
    (hrunning : actualTransition state .running = true) (error : ServiceError)
    :
    Serves spec.id (failUp spec operation.id error : Svc α) Q (fun _ => Ends [] spec.id
      operation.id) s := by
  have habsent : endsIn state operation.kind none = true →
      terminalTransition state .absent operation.kind .failed = true := by
    intro hends
    rw [hkind] at hends ⊢
    exact (Bool.and_eq_true_iff.1 hends).1
  refine wp_seq (serves_failedActual h hrunning error habsent) fun actual s1 h1 => ?_
  exact serves_reportFailure h1.2 h1.1 _ _ error

theorem serves_upOperation (h : Begun spec.id operation record.actualState record.canonicalRoot s)
    (hkind : operation.kind = .create) (hid : record.id = spec.id)
    (hres : validateResolutions record = .ok ()) (image : String) (create : CreateRequest)
    (capabilities : RuntimeCapabilities) (existing : Option SandboxRecord) (hexisting :
      validateOptional validateSshResolution (existing.bind (·.sshResolution)) = .ok ())
    (htransport : Store.transportPortOk transport = true)
    (fingerprint : String) (storage : StorageCapacities) :
    ServesTo spec.id (upOperation image spec create capabilities existing record transport
      ⟨operation.id, fingerprint, storage⟩) (Ends [] spec.id operation.id) s := by
  refine wp_seq (serves_initializeOperation h _) fun _ s1 h1 => ?_
  -- The store takes the event, so that the branch without a last event is not entered.
  refine wp_handle (serves_emit (E := fun _ _ => False) h1 _) (fun _ s2 h2 => ?_)
    fun _ _ h2 => h2.elim
  refine wp_handle (serves_upRuntime h2 hkind image create capabilities existing hexisting
    transport rfl) (fun outcome s3 h3 => ?_) fun error s3 h3 => ?_
  · exact serves_finishUp h3.2 hid hres htransport rfl h3.1
  · exact serves_failUp h3.2 hkind h3.1 error

theorem Waiting.transportPortOk (h : Waiting known id kept s) :
    Store.transportPortOk (s.world.store.sshTransportPolicy id) = true := by
  rw [Store.sshTransportPolicy]
  cases hrow : s.world.store.row? id with
  | none => rfl
  | some row => exact h.ready.1.transports row (Store.mem_of_row? hrow)

theorem serves_upPrepare (h : Waiting known spec.id kept s) (image : String) :
    Serves spec.id (upPrepare image spec)
      (fun plan s' => ((∀ old, plan.existing = some old → old.id = spec.id) ∧
        plan.existing.map (·.canonicalRoot) = kept ∧
        Store.transportPortOk plan.transport = true) ∧ Waiting known spec.id kept s')
      (fun _ => Answered known spec.id) s := by
  refine wp_seq (serves_read (.sandbox spec.id) (fun _ _ => rfl) (fun _ => rfl) h)
    fun existing s1 h1 => ?_
  refine wp_seq (serves_waiting (uses_ofExcept _) h1.2) fun _ s2 h2 => ?_
  refine wp_seq (serves_waiting ⟨trivial, fun _ => uses_ofRuntime _⟩ h2)
    fun capabilities s3 h3 => ?_
  refine wp_seq (serves_waiting (uses_ofExcept _) h3) fun create s4 h4 => ?_
  refine wp_seq (serves_waiting (uses_ofExcept _) h4) fun storage s5 h5 => ?_
  refine wp_seq (serves_read (.sshTransportPolicy spec.id) (fun _ _ => rfl) (fun _ => rfl) h5)
    fun transport s6 h6 => ?_
  refine wp_seq (serves_waiting (uses_ofExcept _) h6.2) fun _ s7 h7 => ?_
  refine wp_seq (serves_waiting (keeps_of_light (light_desiredFingerprint spec)) h7)
    fun fingerprint s8 h8 => ?_
  refine ⟨⟨fun old hold => ?_, ?_, ?_⟩, h8⟩
  · exact Store.id_of_sandbox (h1.1.symm.trans hold)
  · rw [← h1.2.rooted, h1.1]
    exact Option.map_map ..
  · obtain ⟨rfl, hready⟩ := h6
    exact hready.transportPortOk

theorem serves_upInner (h : Waiting known spec.id kept s) (image : String) :
    ServesTo spec.id (upInner image spec) (Answered known spec.id) s := by
  refine wp_seq (serves_upPrepare h image) fun plan s1 h1 => ?_
  obtain ⟨⟨hexisting, hkept, htransport⟩, h1⟩ := h1
  have hroot : ∀ root, kept = some root →
      root = (upRecord plan.existing spec plan.create).canonicalRoot := by
    rintro root rfl
    obtain ⟨old, hold, rfl⟩ := Option.map_eq_some_iff.1 hkept
    rw [hold]
    rfl
  have hid : (upRecord plan.existing spec plan.create).id = spec.id := by
    cases hplan : plan.existing with
    | none => rfl
    | some old => exact hexisting old hplan
  refine wp_seq (serves_beginOperation hid hroot h1) fun operation s2 h2 => ?_
  obtain ⟨hkind, hres, -, hheld⟩ := h2
  have hssh : validateOptional validateSshResolution
      (plan.existing.bind (·.sshResolution)) = .ok () := by
    have hold := (Store.validateResolutions_eq_ok.1 hres).2.2.2.2
    cases hplan : plan.existing with
    | none => rfl
    | some old =>
      rw [hplan] at hold
      exact hold
  exact wp_mono _ (fun _ _ hg => hg) (fun _ _ hends => .inr ⟨_, hends⟩)
    (fun _ _ hends => .inr ⟨_, hends⟩)
    (serves_upOperation hheld hkind hid hres image _ _ _ hssh htransport _ _)

/-! ### Apply -/

theorem yields_replaceImage (image : String) (spec : SandboxSpec) (create : CreateRequest)
    (prepared : Option PreparedSshCreate) (capabilities : RuntimeCapabilities)
    (priorTransport : Option SshTransportPolicy) (previousImage : String) (o : OperationId) :
    (replaceImage image spec create prepared capabilities priorTransport previousImage o).Yields
      fun replaced => Accepted replaced.2.1 := by
  refine yields_bind_right fun _ => yields_bind_right fun _ => ?_
  refine yields_bind_right fun prior => yields_bind_right fun runtime => ?_
  refine yields_bind_right fun _ => yields_bind_right fun evidence => ?_
  refine yields_bind_right fun _ => ?_
  have hreplace : (replaceContainer image spec create prepared capabilities prior runtime
      evidence.1 evidence.2 o).Yields fun replaced => Accepted replaced.2 := by
    iterate 9 refine yields_bind_right fun _ => ?_
    refine yields_bind (yields_sshApply ..) fun _ haccepted => ?_
    exact yields_bind_right fun _ => yields_bind_right fun _ => haccepted
  refine yields_bind (yields_attempt hreplace) fun result hresult => ?_
  cases result with
  | ok replaced => exact hresult replaced rfl
  | error original =>
    refine yields_bind_right fun undone => ?_
    cases undone <;> trivial

theorem validateResolutions_applied (h : validateResolutions record = .ok ()) (fingerprint : String)
    (provisioned : ProvisionedResolution) {resolution : Resolution} (hssh : Accepted resolution) :
    validateResolutions (appliedRecord record fingerprint provisioned resolution) = .ok () := by
  obtain ⟨hsetup, htool, himage, hstorage, -⟩ := Store.validateResolutions_eq_ok.1
    (validateResolutions_withProvisioned h fingerprint (some provisioned))
  exact Store.validateResolutions_eq_ok.2 ⟨hsetup, htool, himage, hstorage, hssh⟩

theorem serves_commitReplacement (record : SandboxRecord)
    (h : Held spec.id operation state record.canonicalRoot s) (hid : record.id = spec.id)
    (hres : validateResolutions record = .ok ()) (hactual : record.actualState = .running)
    (hrunning : actualTransition state .running = true) :
    Serves spec.id (commitReplacement spec record operation.id) (fun _ => Ends [] spec.id
      operation.id) E s := by
  refine wp_seq (serves_putWithTransport_ok h hid rfl hres (hactual ▸ hrunning)
    (transportPortOk_requested spec)) fun _ s1 h1 => ?_
  have hread : Serves spec.id (database (.operationEvents operation.id))
      (fun _ => Held spec.id operation record.actualState record.canonicalRoot) E s1 := by
    refine serves_reading (fun _ _ => rfl) (fun _ => rfl) fun w hrely => ?_
    show Held spec.id operation record.actualState record.canonicalRoot
      ⟨w, s1.operation, s1.sent ++ []⟩
    rw [append_nil]
    exact h1.undisturbed hrely
  refine wp_seq hread fun _ s2 h2 => ?_
  have hedge : terminalTransition record.actualState .running operation.kind .completed = true := by
    rw [hactual]
    exact Store.terminalTransition_of_actualTransition rfl
  exact wp_seq (serves_finish h2 (by decide) hedge (fun hclear => by cases hclear)
    (fun _ => []) fun _ => rfl) fun _ _ hends => hends

theorem serves_applyReplacing
    (h : Held spec.id operation plan.record.actualState plan.record.canonicalRoot s)
    (hid : plan.record.id = spec.id) (hcreate : plan.create.id = spec.id)
    (hres : validateResolutions plan.record = .ok ())
    (hrunning : actualTransition plan.record.actualState .running = true) (image : String)
    (preflight : ApplyPreflight) :
    ServesTo spec.id (applyReplacing image spec plan preflight operation.id)
      (Ends [] spec.id operation.id) s := by
  have hreplace := wp_yields (yields_replaceImage image spec plan.create plan.prepared
      plan.capabilities plan.transport preflight.runtime.image operation.id)
    (serves_held (keeps_replaceImage spec image plan.create plan.prepared plan.capabilities
      plan.transport preflight.runtime.image operation.id hcreate) h)
  refine wp_handle hreplace (fun replaced s1 h1 => ?_) fun error s1 h1 => ?_
  · obtain ⟨provisioned, resolution, rollbackCreate⟩ := replaced
    have hrecord := validateResolutions_applied hres plan.fingerprint provisioned h1.2
    obtain ⟨hsetup, htool, -, hstorage, hssh⟩ := Store.validateResolutions_eq_ok.1 hrecord
    have hcommit := serves_commitReplacement (E := fun _ _ => False)
      { appliedRecord plan.record plan.fingerprint provisioned resolution with
        imageResolution := some (imageResolutionOf plan.create.image) } h1.1 hid
      (Store.validateResolutions_eq_ok.2 ⟨hsetup, htool, rfl, hstorage, hssh⟩) rfl hrunning
    exact wp_handle hcommit (fun _ _ h2 => h2) fun _ _ h2 => h2.elim
  · refine wp_seq (serves_runtimeActual h1 (fun _ => fallback_self _ _)) fun actual s2 h2 => ?_
    exact serves_reportFailure h2.2 h2.1 _ _ error

theorem serves_applyUnchanged (h : Held spec.id operation plan.record.actualState root s)
    (hrunning : actualTransition plan.record.actualState .running = true) :
    ServesTo spec.id (applyUnchanged spec plan operation.id) (Ends [] spec.id operation.id) s := by
  refine wp_handle (serves_held (keeps_of_light (light_sshApply ..)) h) (fun _ s1 h1 => ?_)
    fun error s1 h1 => ?_
  · exact serves_complete h1 hrunning _
  · exact serves_failWith h1 (fun _ => fallback_self _ _) error _

theorem serves_applyKeeping
    (h : Held spec.id operation plan.record.actualState plan.record.canonicalRoot s)
    (hid : plan.record.id = spec.id) (hres : validateResolutions plan.record = .ok ())
    (hrunning : actualTransition plan.record.actualState .running = true) :
    ServesTo spec.id (applyKeeping spec plan operation.id) (Ends [] spec.id operation.id) s := by
  have hyields : (provisionKept spec plan operation.id).Yields fun kept => Accepted kept.2 := by
    iterate 4 refine yields_bind_right fun _ => ?_
    exact yields_bind (yields_sshApply ..) fun _ h => h
  refine wp_handle (wp_yields hyields (serves_held (keeps_of_steady (steady_provisionKept ..)) h))
    (fun kept s1 h1 => ?_) fun error s1 h1 => ?_
  · obtain ⟨provisioned, resolution⟩ := kept
    refine wp_seq (serves_putSandbox_ok h1.1
      (appliedRecord plan.record plan.fingerprint provisioned resolution) hid rfl
      (validateResolutions_applied hres plan.fingerprint provisioned h1.2) hrunning)
      fun _ s2 h2 => ?_
    exact serves_complete h2 rfl _
  · refine wp_seq (serves_failedActual h1 hrunning error (fun _ => fallback_self _ _))
      fun actual s2 h2 => ?_
    refine wp_seq (serves_failOperation h2.2 h2.1) fun _ s3 h3 => ?_
    obtain ⟨event, h3⟩ := h3
    exact wp_seq (serves_sendTerminal h3) fun _ _ h4 => h4

/-- The preflight of an apply finds a container, so that the apply may be completed. -/
theorem serves_applyPreflight (h : Held spec.id operation state root s)
    (hkind : operation.kind = .apply) (plan : ApplyPlan) :
    Serves spec.id (applyPreflight spec plan)
      (fun _ s' => actualTransition state .running = true ∧ Held spec.id operation state root s')
      (fun _ => Held spec.id operation state root) s := by
  refine wp_seq (serves_inspectPresent h) fun runtime s1 h1 => ?_
  have hrunning := (Bool.and_eq_true_iff.1 h1.1).2
  rw [hkind] at hrunning
  refine wp_seq (serves_held (uses_requireOwned ..) h1.2) fun _ s2 h2 => ?_
  refine wp_seq (serves_held (uses_ofRuntime _) h2) fun image s3 h3 => ?_
  exact wp_seq (serves_held (uses_restartKept (Cmd.replacing_keeps ..).toLifecycle ..) h3)
    fun _ _ h4 => ⟨hrunning, h4⟩

theorem serves_applyOperation
    (h : Begun spec.id operation plan.record.actualState plan.record.canonicalRoot s)
    (hkind : operation.kind = .apply) (hid : plan.record.id = spec.id)
    (hcreate : plan.create.id = spec.id) (hres : validateResolutions plan.record = .ok ())
    (image : String) :
    ServesTo spec.id (applyOperation image spec plan operation.id)
      (Ends [] spec.id operation.id) s := by
  refine wp_seq (serves_initializeOperation h _) fun _ s1 h1 => ?_
  refine wp_handle (serves_applyPreflight h1 hkind plan) (fun preflight s2 h2 => ?_)
    fun error s2 h2 => serves_failWith h2 (fun _ => fallback_self _ _) error _
  obtain ⟨hrunning, h2⟩ := h2
  show Serves spec.id (if preflight.replaces then _ else _) _ _ _
  split
  · refine wp_handle (serves_held (keeps_of_light (light_replacementEvidence ..)) h2)
      (fun _ s3 h3 => ?_)
      fun error s3 h3 => serves_failWith h3 (fun _ => fallback_self _ _) error _
    exact serves_applyReplacing h3 hid hcreate hres hrunning image preflight
  · split
    · exact serves_applyUnchanged h2 hrunning
    · exact serves_applyKeeping h2 hid hres hrunning

theorem serves_applyPrepare (h : Waiting known spec.id kept s) (image : String) :
    Serves spec.id (applyPrepare image spec)
      (fun plan s' => (plan.record.id = spec.id ∧ plan.create.id = spec.id ∧
        ∀ root, kept = some root → root = plan.record.canonicalRoot) ∧
        Waiting known spec.id kept s')
      (fun _ => Answered known spec.id) s := by
  refine wp_seq (serves_loadRecord h) fun record s1 h1 => ?_
  have hid : record.id = spec.id := Store.id_of_sandbox h1.1
  refine wp_seq (serves_waiting (uses_ofExcept _) h1.2) fun _ s2 h2 => ?_
  refine wp_seq (serves_waiting (uses_ofExcept _) h2) fun _ s3 h3 => ?_
  refine wp_seq (serves_waiting ⟨trivial, fun _ => uses_ofRuntime _⟩ h3)
    fun capabilities s4 h4 => ?_
  refine wp_seq (serves_waiting (keeps_of_light (light_prepareSshCreate spec)) h4)
    fun prepared s5 h5 => ?_
  refine wp_seq (wp_yields (yields_ofPolicy fun _ hcompile => (compilePolicy_eq_ok hcompile).id)
    (serves_waiting (uses_ofExcept _) h5)) fun create s6 h6 => ?_
  refine wp_seq (serves_waiting (uses_database ⟨trivial, rfl⟩) h6.1) fun transport s7 h7 => ?_
  refine wp_seq (serves_waiting (keeps_of_light (light_desiredFingerprint spec)) h7)
    fun fingerprint s8 h8 => ?_
  exact wp_seq (serves_waiting (keeps_of_light (light_planForRoot ..)) h8)
    fun plan s9 h9 => ⟨⟨hid, h6.2, h1.2.root_eq h1.1⟩, h9⟩

theorem serves_applyInner (h : Waiting known spec.id kept s) (image : String) :
    ServesTo spec.id (applyInner image spec) (Answered known spec.id) s := by
  refine wp_seq (serves_applyPrepare h image) fun plan s1 h1 => ?_
  obtain ⟨⟨hid, hcreate, hroot⟩, h1⟩ := h1
  refine wp_seq (serves_beginOperation hid hroot h1) fun operation s2 h2 => ?_
  obtain ⟨hkind, hres, -, hheld⟩ := h2
  exact wp_mono _ (fun _ _ hg => hg) (fun _ _ hends => .inr ⟨_, hends⟩)
    (fun _ _ hends => .inr ⟨_, hends⟩) (serves_applyOperation hheld hkind hid hcreate hres image)

theorem serves_request (request : Request) (image : String) (h : Waiting known request.id kept s) :
    ServesTo request.id (request.program image) (Answered known request.id) s := by
  cases request with
  | up spec => exact serves_upInner h image
  | start id => exact serves_simpleState h .start .running
  | stop id => exact serves_simpleState h .stop .stopped
  | apply spec => exact serves_applyInner h image
  | destroy id => exact serves_destroyInner h

end Programs

/-! ### The daemon -/

/-- The steps of a daemon that serves its requests: it is not killed, and each command of a request
finds the environment that the request needs. -/
def System.Undisrupted (s : System) : Event → Prop
  | .advance request c x => requestAllows request.id c x s.world = true
  | .crash => False
  | _ => True

/-- What the request on each sandbox recorded and sent. -/
abbrev Accounts := SandboxId → Option OperationId × List OperationEvent

/-- The session of a request on the sandbox `id`. -/
abbrev Accounts.session (accounts : Accounts) (id : SandboxId) (w : World) : Session :=
  ⟨w, (accounts id).1, (accounts id).2⟩

/-- The accounts after a step. A new request begins with an empty one. -/
def Accounts.after (accounts : Accounts) (w : World) (event : Event) : Accounts := fun id =>
  match event with
  | .request request => if request.id = id then (none, []) else accounts id
  | .advance request c x =>
    if request.id = id then
      ((c.recorded (perform c x w).1).or (accounts id).1,
        (accounts id).2 ++ c.sent (perform c x w).1)
    else accounts id
  | _ => accounts id

/-- What holds of a daemon that serves: the lock of a sandbox is held once, every task ends its
operation and sends its events, and a sandbox whose lock is free has no pending operation but the
known ones. -/
structure Serving (known : OperationRecord → Prop) (w : World) (tasks : List Task)
    (accounts : Accounts) : Prop where
  inv : w.store.Inv
  locks : (tasks.map Task.id).Nodup
  serves : ∀ task ∈ tasks, Serves task.id task.program (fun _ => Answered known task.id)
    (fun _ => Answered known task.id) (accounts.session task.id w)
  free : ∀ id, id ∉ tasks.map Task.id → Ready known id w

namespace Serving

variable {known : OperationRecord → Prop} {w w' : World} {tasks before after : List Task}
  {accounts accounts' : Accounts}

/-- A task does not see the steps of others. -/
theorem serves_of_undisturbed {id : SandboxId} {p : Svc OperationId}
    (h : ServesTo id p (Answered known id) (accounts.session id w))
    (hrely : Undisturbed id w w') (haccount : accounts' id = accounts id) :
    ServesTo id p (Answered known id) (accounts'.session id w') := by
  have hstable :
    ∀ s s', (requestEnv id).rely s s' → Answered known id s → Answered known id s' := by
    rintro s _ ⟨w1, hrely, rfl⟩ hanswered
    exact hanswered.undisturbed hrely
  refine wp_stable p ?_ (fun _ s s' => hstable s s') (fun _ s s' => hstable s s') ?_ h
  · rintro s1 _ _ ⟨w2, h12, rfl⟩ ⟨w3, h23, rfl⟩
    exact ⟨w3, h12.trans h23, rfl⟩
  · exact ⟨w', hrely, by simp only [Accounts.session, haccount]⟩

theorem undisturbed_of_store (hstore : w'.store = w.store) (id : SandboxId) :
    Undisturbed id w w' := by
  intro hinv
  rw [hstore]
  exact ⟨hinv, .refl id _⟩

theorem outside (h : Serving known w tasks accounts) (hstore : w'.store = w.store) :
    Serving known w' tasks accounts where
  inv := hstore.symm ▸ h.inv
  locks := h.locks
  serves task hmem :=
    serves_of_undisturbed (h.serves task hmem) (undisturbed_of_store hstore _) rfl
  free id hid := (h.free id hid).undisturbed (undisturbed_of_store hstore id)

variable {task : Task}

theorem locks_request (hlocks : (tasks.map Task.id).Nodup)
    (hfree : ∀ other ∈ tasks, other.id ≠ task.id) : ((tasks ++ [task]).map Task.id).Nodup := by
  rw [map_append, nodup_append]
  refine ⟨hlocks, nodup_singleton _, fun id hid other hother heq => ?_⟩
  obtain ⟨held, hheld, rfl⟩ := mem_map.1 hid
  exact hfree held hheld (heq.trans (mem_singleton.1 hother))

theorem locks_ended (hlocks : ((before ++ task :: after).map Task.id).Nodup) :
    ((before ++ after).map Task.id).Nodup := by
  rw [map_append, map_cons, nodup_middle, ← map_append] at hlocks
  exact (nodup_cons.1 hlocks).2

theorem request (h : Serving known w tasks accounts) (image : String) (request : Request)
    (hfree : ∀ task ∈ tasks, task.id ≠ request.id) :
    Serving known w (tasks ++ [⟨request, request.program image⟩])
      (accounts.after w (.request request)) := by
  have hnot : request.id ∉ tasks.map Task.id := by
    intro hmem
    obtain ⟨task, htask, hid⟩ := mem_map.1 hmem
    exact hfree task htask hid
  refine ⟨h.inv, locks_request h.locks hfree, fun task hmem => ?_,
    fun id hid => h.free id fun hmem => hid ?_⟩
  · rcases mem_append.1 hmem with hmem | hmem
    · refine serves_of_undisturbed (h.serves task hmem) (undisturbed_of_store rfl _) ?_
      exact if_neg fun heq => hfree task hmem heq.symm
    · rw [mem_singleton.1 hmem]
      have hsession :
        (accounts.after w (.request request)).session request.id w = ⟨w, none, []⟩ := by
        simp [Accounts.session, Accounts.after]
      show Serves request.id (request.program image) _ _ (Accounts.session _ request.id w)
      rw [hsession]
      exact serves_request request image ⟨h.free _ hnot, rfl, rfl, rfl⟩
  · rw [map_append]
    exact mem_append_left _ hmem

theorem ne_of_mem (hlocks : ((before ++ task :: after).map Task.id).Nodup) {other : Task}
    (hother : other ∈ before ++ after) : other.id ≠ task.id := by
  rw [map_append, map_cons, nodup_middle, ← map_append] at hlocks
  intro heq
  exact (nodup_cons.1 hlocks).1 (heq ▸ mem_map_of_mem hother)

theorem mem_around {other : Task} :
    other ∈ before ++ task :: after ↔ other = task ∨ other ∈ before ++ after := by
  simp only [mem_append, mem_cons]
  tauto

theorem advance {request : Request} {c : Cmd} {k : Reply c → Svc OperationId} {x : Choice}
    (h : Serving known w (before ++ ⟨request, .call c k⟩ :: after) accounts)
    (hallows : requestAllows request.id c x w = true) :
    Serving known (perform c x w).2 (before ++ ⟨request, k (perform c x w).1⟩ :: after)
      (accounts.after w (.advance request c x)) := by
  have hself := h.serves ⟨request, .call c k⟩ (mem_around.2 (.inl rfl))
  obtain ⟨helse, hrest⟩ := hself _ ⟨w, undisturbed_of_store rfl _, rfl⟩ x hallows
  refine ⟨(helse h.inv).1, ?_, fun task hmem => ?_, fun id hid => ?_⟩
  · simpa only [map_append, map_cons] using h.locks
  · rcases mem_around.1 hmem with rfl | hmem
    · have hsession :
        (accounts.after w (.advance request c x)).session request.id (perform c x w).2 =
          ((accounts.session request.id w).perform c x).2 := by
        simp [Accounts.session, Accounts.after, Session.perform]
      show Serves request.id _ _ _ (Accounts.session _ request.id _)
      rw [hsession]
      exact hrest
    · have hne := ne_of_mem h.locks hmem
      refine serves_of_undisturbed (h.serves task (mem_around.2 (.inr hmem)))
        (helse.undisturbed hne) ?_
      exact if_neg fun heq => hne heq.symm
  · have hid : id ∉ (before ++ ⟨request, .call c k⟩ :: after).map Task.id := by
      simpa only [map_append, map_cons] using hid
    refine (h.free id hid).undisturbed (helse.undisturbed fun heq => hid ?_)
    rw [heq]
    exact mem_map_of_mem (mem_around.2 (.inl rfl))

theorem ended (h : Serving known w (before ++ task :: after) accounts)
    (hready : Ready known task.id w) : Serving known w (before ++ after) accounts := by
  refine ⟨h.inv, locks_ended h.locks,
    fun other hmem => h.serves other (mem_around.2 (.inr hmem)), fun id hid => ?_⟩
  by_cases heq : id = task.id
  · exact heq ▸ hready
  · refine h.free id fun hmem => hid ?_
    obtain ⟨other, hother, rfl⟩ := mem_map.1 hmem
    rcases mem_around.1 hother with rfl | hother
    · exact absurd rfl heq
    · exact mem_map_of_mem hother

theorem step {image : String} {event : Event} {s' : System} (h : Serving known w tasks accounts)
    (hstep : System.Step ⟨w, .serving image tasks⟩ event s')
    (hallowed : System.Undisrupted ⟨w, .serving image tasks⟩ event) :
    ∃ w' tasks', s' = ⟨w', .serving image tasks'⟩ ∧
      Serving known w' tasks' (accounts.after w event) := by
  cases hstep with
  | request _ _ _ request hfree => exact ⟨w, _, rfl, h.request image request hfree⟩
  | advance _ _ before after request c k x => exact ⟨_, _, rfl, h.advance hallowed⟩
  | returned _ _ before after request o =>
    exact ⟨w, _, rfl, h.ended (h.serves _ (mem_around.2 (.inl rfl))).ready⟩
  | threw _ _ before after request error =>
    exact ⟨w, _, rfl, h.ended (h.serves _ (mem_around.2 (.inl rfl))).ready⟩
  | crash => exact hallowed.elim
  | outside _ w' _ hstore => exact ⟨w', tasks, rfl, h.outside hstore⟩

end Serving

theorem serving_of_runsWithin {w : World} {image : String}
    (hs : System.Reachable ⟨w, .serving image []⟩) {s' : System}
    (hrun : System.RunsWithin System.Undisrupted ⟨w, .serving image []⟩ s') :
    ∃ w' tasks accounts, s' = ⟨w', .serving image tasks⟩ ∧
      Serving (· ∈ w.store.operations) w' tasks accounts := by
  have hinv := System.reachable_inv hs
  induction hrun with
  | refl =>
    exact ⟨w, [], fun _ => (none, []), rfl, hinv, nodup_nil,
      fun _ h => absurd h not_mem_nil, fun _ _ => ⟨hinv, fun _ hmem _ _ => hmem⟩⟩
  | tail _ hstep ih =>
    obtain ⟨w1, tasks1, accounts, rfl, h1⟩ := ih
    obtain ⟨event, hallowed, hstep⟩ := hstep
    obtain ⟨w2, tasks2, rfl, h2⟩ := h1.step hstep hallowed
    exact ⟨w2, tasks2, _, rfl, h2⟩

/-- In every run of a daemon from a reachable state in which it serves nothing, if it is not killed
and every inspection of a sandbox by its own request reports a state in which the store admits the
ends of the pending operation, then in every state of the run a pending operation was there before
the run, or its request is still served. -/
theorem served_operations_end {w : World} {image : String}
    (hs : System.Reachable ⟨w, .serving image []⟩) {s' : System}
    (hrun : System.RunsWithin System.Undisrupted ⟨w, .serving image []⟩ s') :
    ∃ tasks, s'.daemon = .serving image tasks ∧
      ∀ operation ∈ s'.world.store.operations, operation.status = .pending →
        operation ∈ w.store.operations ∨ ∃ task ∈ tasks, task.id = operation.sandboxId := by
  obtain ⟨w', tasks, accounts, rfl, h⟩ := serving_of_runsWithin hs hrun
  refine ⟨tasks, rfl, fun operation hmem hpending => ?_⟩
  by_cases hheld : operation.sandboxId ∈ tasks.map Task.id
  · exact .inr (mem_map.1 hheld)
  · exact .inl ((h.free _ hheld).2 operation hmem rfl hpending)

/-- An `up` in which everything succeeds leaves no pending operation. -/
theorem up_operation_ends :
    ((upInner demoImage demoSpec).exec perform {} demoWorld).2.store.operations.all
      (·.status ≠ .pending) = true := by
  obtain ⟨tasks, htasks, hends⟩ := served_operations_end demoWorld_reachable (.head
    ⟨.request (.up demoSpec), trivial, .request demoWorld demoImage [] (.up demoSpec) (by simp)⟩
    (System.runsWithin_exec (x := {}) (.up demoSpec) (fun _ _ _ hallows => hallows)
      (fun _ _ => trivial) (fun _ _ => trivial) (upInner demoImage demoSpec) (by decide +kernel)))
  cases htasks
  refine all_eq_true.2 fun operation hmem => decide_eq_true fun hpending => ?_
  rcases hends operation hmem hpending with hold | ⟨task, htask, -⟩
  · cases hold
  · cases htask

/-- The sandbox was brought up, and then removed with tools other than Gas Can's. -/
def strippedWorld : World := { upped with runtime := {} }

/-- A script in which the only failure is that of the creation. -/
def failedCreation : List Choice :=
  List.replicate 7 ({} : Choice) ++
    ({ fault := some { error := .commandIo "container" "no space" } } : Choice) ::
      List.replicate 6 ({} : Choice)

/-- An `up` of such a sandbox whose creation fails ends, with no failure of the store, but its
operation stays pending: the recorded state does not move from running to absent. -/
theorem up_operation_left_pending :
    System.Reachable ⟨strippedWorld, .serving demoImage []⟩ ∧
      strippedWorld.store.hasPending demoId = false ∧
      (∀ x ∈ failedCreation, x.storeFault = none) ∧
      (let run := (upInner demoImage demoSpec).run perform (Script.of failedCreation) strippedWorld
       run.1.ended = true ∧ run.2.store.hasPending demoId = true) := by
  refine ⟨upped_reachable.steps (.single ⟨_, .outside _ _ _ rfl⟩), by decide +kernel, ?_,
    by decide +kernel⟩
  decide +kernel

end Gascan
