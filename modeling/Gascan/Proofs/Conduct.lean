import Gascan.Daemon.System
import Gascan.Lib.Protocol
import Gascan.Proofs.Footprint
import Gascan.Proofs.Loops
import Gascan.Proofs.Policy

/-!
# `Gascan.Proofs.Conduct`: how the service conducts an operation

Every request of the service keeps to one protocol. It holds at most one operation, from the
transaction that begins it to the one that finishes it (`Standing`). Only while it holds one does it
write the record of its sandbox or the log of the operation, and the events around a provisioning
come in their order (`ProvisionStage`). What it removes is what it has evidence for.

What counts as evidence, which records may be written and which replies are expected, is up to a
`Setting`. `proceeds_request` holds in every setting.
-/

namespace Gascan

open Lib

/-! ### Stages -/

/-- What an operation does that matters to its recovery: an event of its log, and a command that
provisions the guest. -/
inductive Deed where
  | logged (details : Json)
  | provisioning

/-- How far the provisioning of an operation is. -/
inductive ProvisionStage where
  | before
  | during
  | after
  deriving DecidableEq

/-- Whether an event belongs to neither end of a provisioning. -/
def Neutral (details : Json) : Prop :=
  details.getStr "phase" ≠ some "before_provision" ∧
    details.getStr "phase" ≠ some "after_provision"

instance (details : Json) : Decidable (Neutral details) := by
  unfold Neutral
  infer_instance

/-- The stage after a deed, or nothing when the deed does not belong there. -/
def ProvisionStage.next (stage : ProvisionStage) : Deed → Option ProvisionStage
  | .provisioning => if stage = .during then some .during else none
  | .logged details =>
    if details.getStr "phase" = some "before_provision" then
      if stage = .before then some .during else none
    else if details.getStr "phase" = some "after_provision" then
      -- Only version 1 counts as evidence of a provisioning.
      if stage = .during ∧ details.getNat "resolution_version" = some 1 then some .after else none
    else some stage

theorem next_of_neutral {details : Json} (h : Neutral details) (stage : ProvisionStage) :
    stage.next (.logged details) = some stage := by
  rw [ProvisionStage.next, if_neg h.1, if_neg h.2]

/-! ### The protocol -/

/-- Whether a program is yet to begin its operation, holds it, or has finished it. An operation that
is held has a kind and is in a stage. -/
inductive Standing where
  | free
  | holding (o : OperationId) (kind : OperationKind) (stage : ProvisionStage)
  | done

def Standing.Held : Standing → Prop
  | .holding .. => True
  | _ => False

/-- The standing after an event was logged. -/
def Standing.logged : Standing → Json → Standing
  | .holding o kind stage, details => .holding o kind ((stage.next (.logged details)).getD stage)
  | s, _ => s

/-- The standing after a reply. A transaction that fails changes nothing. -/
def Standing.next (s : Standing) : (c : Cmd) → Reply c → Standing
  | .store (.beginOperation _ kind) _, .ok operation => .holding operation.id kind .before
  | .store (.finishOperation ..) _, .ok _ => .done
  | .store (.appendOperationEvent _ details) _, .ok _ => s.logged details
  | _, _ => s

/-- What is expected of the replies to a request of the sandbox `id`, and what follows from it:
which records it may write, which sandboxes it may name, which requests to create it may use, and
what it may remove. -/
structure Setting (id : SandboxId) where
  answers : (c : Cmd) → Reply c → Prop
  writes : SandboxId → Prop
  names : SandboxId → Prop
  regular : CreateRequest → Prop
  removes : RuntimeResource → Prop
  writes_self : writes id
  names_self : names id
  loaded : ∀ {sandbox send record}, names sandbox →
    answers (.store (.sandbox sandbox) send) (.ok (some record)) → writes record.id
  compiled : ∀ {image spec capabilities prepared create}, spec.id = id →
    Service.compilePolicy image spec capabilities prepared = .ok create → regular create
  named : ∀ {create}, regular create → names create.id
  created : ∀ {create outcome}, regular create → answers (.create create) (.ok outcome) →
    ∀ resource ∈ outcome.created, removes resource
  failed : ∀ {create failure}, regular create → answers (.create create) (.error failure) →
    ∀ resource ∈ failure.created, removes resource
  refailed : ∀ {request failure}, regular request.create →
    answers (.createContainer request) (.error failure) → ∀ resource ∈ failure.created,
      removes resource
  exact : ∀ {create resources container}, names create.id →
    exactOwnedContainer create resources = .ok (some container) → removes container
  expected : ∀ expected resource, expectedResourceIdentities id = .ok expected →
    expectedOwned expected id resource = true → removes resource

namespace Setting

variable {id : SandboxId}

/-- The transactions that a standing admits. A destroy is completed as absent, and clears the
trust. -/
def Admits (S : Setting id) (s : Standing) :
    (op : StoreOp) → (op.Result → Option OperationEvent) → Prop
  | .beginOperation record _, _ => s = .free ∧ S.writes record.id
  | .putSandbox record, _ => s.Held ∧ S.writes record.id
  | .putSandboxWithSshTransport record _, _ => s.Held ∧ S.writes record.id
  | .setSshResolution sandbox resolution, send =>
    s.Held ∧ S.names sandbox ∧ send = (StoreOp.setSshResolution sandbox resolution).news
  | .appendOperationEvent o details, send =>
    (∃ kind stage, s = .holding o kind stage ∧ (stage.next (.logged details)).isSome = true) ∧
      send = (StoreOp.appendOperationEvent o details).news
  | .finishOperation o actual status _ _ clear, _ => ∃ kind stage, s = .holding o kind stage ∧
    (kind = .destroy → status = .completed → actual = .absent ∧ clear = true)
  | _, _ => True

/-- The commands that a standing allows. -/
def Allows (S : Setting id) (s : Standing) : Cmd → Prop
  | .store op send => S.Admits s op send
  | .remove request => ∀ resource ∈ request.resources, S.removes resource
  | .exec .. | .provision .. => ∃ o kind, s = .holding o kind .during
  | _ => True

/-- The protocol of a request. -/
def protocol (S : Setting id) : Protocol Cmd Reply Standing := ⟨S.answers, S.Allows, Standing.next⟩

/-- The commands that leave a standing as it is. -/
abbrev Still (S : Setting id) (s : Standing) : Cmd → Prop := S.protocol.Still s

variable {S : Setting id} {s : Standing} {o : OperationId} {kind : OperationKind}
  {stage : ProvisionStage} {sandbox : SandboxId} {c : Cmd}

theorem still_event {details : Json} (h : Neutral details) :
    S.Still (.holding o kind stage) (.store (.appendOperationEvent o details) some) := by
  have hnext := next_of_neutral h stage
  refine ⟨⟨⟨kind, stage, rfl, by rw [hnext]; rfl⟩, rfl⟩, fun r => ?_⟩
  cases r with
  | ok => exact congrArg (Standing.holding o kind) (by rw [hnext]; rfl)
  | error => rfl

theorem still_light (hnames : S.names sandbox) (hc : c.Light sandbox none) :
    S.Still (.holding o kind stage) c := by
  cases c with
  | store op send =>
    cases op with
    | setSshResolution => exact ⟨⟨trivial, hc.1 ▸ hnames, hc.2⟩, fun _ => rfl⟩
    | appendOperationEvent => exact absurd hc.1 nofun
    | beginOperation | putSandbox | putSandboxWithSshTransport | finishOperation => exact hc.1.elim
    | _ => exact ⟨trivial, fun _ => rfl⟩
  | create | createContainer | start | stop | remove | exec | provision => exact hc.elim
  | _ => exact ⟨trivial, fun _ => rfl⟩

/-- What is light for every sandbox only reads. -/
theorem still_looks (hc : ∀ sandbox, c.Light sandbox none) : S.Still s c := by
  cases c with
  | store op send =>
    cases op with
    | setSshResolution sandbox =>
      have hsame := (hc ⟨"a-000000000000", by decide⟩).1.symm.trans
        (hc ⟨"b-000000000000", by decide⟩).1
      exact absurd hsame (by decide)
    | appendOperationEvent => exact absurd (hc id).1 nofun
    | beginOperation | putSandbox | putSandboxWithSshTransport | finishOperation =>
      exact (hc id).1.elim
    | _ => exact ⟨trivial, fun _ => rfl⟩
  | create | createContainer | start | stop | remove | exec | provision => exact (hc id).elim
  | _ => exact ⟨trivial, fun _ => rfl⟩

theorem replacing_still (hnames : S.names sandbox) :
    Cmd.Replacing sandbox S.removes (S.Still (.holding o kind stage)) :=
  { light := fun _ => still_light hnames
    start := fun _ => ⟨trivial, fun _ => rfl⟩
    stop := fun _ => ⟨trivial, fun _ => rfl⟩
    createContainer := fun _ => ⟨trivial, fun _ => rfl⟩
    remove := fun _ h => ⟨h, fun _ => rfl⟩ }

end Setting

namespace Service

open Prog

section

variable {α β : Type} {id : SandboxId} (S : Setting id)

/-- The program keeps to the protocol from a standing on, and ends with these conditions on it. -/
abbrev Conducts (p : Svc α) (Q : α → Standing → Prop) (E : ServiceError → Standing → Prop)
    (s : Standing) : Prop :=
  p.Abides S.protocol Q E s

/-- The program keeps to the protocol, and may end in any standing. -/
abbrev Proceeds (p : Svc α) (s : Standing) :
    Prop := Conducts S p (fun _ _ => True) (fun _ _ => True) s

end

/-- The operation is held, in whatever stage it is. -/
def Holding (o : OperationId) (kind : OperationKind) (s : Standing) : Prop :=
  ∃ stage, s = .holding o kind stage

/-- The program holds its operation, unless it returns and `Q` says otherwise. -/
abbrev Holds {α : Type} {id : SandboxId} (S : Setting id) (o : OperationId) (kind : OperationKind)
    (stage : ProvisionStage) (p : Svc α) (Q : α → Standing → Prop) : Prop :=
  Conducts S p Q (fun _ => Holding o kind) (.holding o kind stage)

section

variable {α β : Type} {id : SandboxId} {S : Setting id} {s : Standing} {o : OperationId}
  {kind : OperationKind} {stage : ProvisionStage} {spec : SandboxSpec} {sandbox : SandboxId}
  {E : ServiceError → Standing → Prop} {Q : α → Standing → Prop}

/-! ### Rules -/

variable {p : Svc α} {record : SandboxRecord} (actual : ActualState)

theorem uses_looks (hp : ∀ sandbox, p.Uses (Cmd.Light sandbox none)) : p.Uses (S.Still s) := by
  induction p with
  | pure a => trivial
  | throw e => trivial
  | call c k ih =>
    exact ⟨Setting.still_looks fun sandbox => (hp sandbox).1, fun r =>
      ih r fun sandbox => (hp sandbox).2 r⟩

theorem proceeds_of_conducts (h : Conducts S p Q E s) : Proceeds S p s :=
  abides_mono h (fun _ _ _ => trivial) fun _ _ _ => trivial

/-- A program that leaves the standing as it is, before another one. -/
theorem proceeds_then {f : α → Svc β} (hp : p.Uses (S.Still s)) (hf : ∀ a, Proceeds S (f a) s) :
    Proceeds S (p.bind f) s :=
  abides_still hp (fun _ => trivial) hf

/-- The same, while the operation is held until the end. -/
theorem holding_then {f : α → Svc β} {Q : β → Standing → Prop}
    (hp : p.Uses (S.Still (.holding o kind stage))) (hf : ∀ a, Holds S o kind stage (f a) Q) :
    Holds S o kind stage (p.bind f) Q :=
  abides_still hp (fun _ => ⟨stage, rfl⟩) hf

theorem holding_yields {φ : α → Prop} (hp : p.Uses (S.Still (.holding o kind stage)))
    (hyields : p.Yields φ) :
    Holds S o kind stage p (fun a s => s = .holding o kind stage ∧ φ a) :=
  abides_mono (abides_yields (abides_of_uses hp) hyields) (fun _ _ h => h) fun _ _ h => ⟨stage, h⟩

theorem holding_throws (hp : p.Uses (S.Still (.holding o kind stage))) (hthrows : Throws p) :
    Holds S o kind stage p Q :=
  abides_mono (abides_yields (abides_of_uses hp) hthrows) (fun _ _ h => h.2.elim)
    fun _ _ h => ⟨stage, h⟩

theorem conducts_loadRecord {f : SandboxRecord → Svc β} {Q : β → Standing → Prop}
    (hnames : S.names sandbox) (hE : ∀ e, E e s)
    (hf : ∀ record, S.writes record.id → Conducts S (f record) Q E s) :
    Conducts S ((loadRecord sandbox).bind f) Q E s := by
  refine ⟨trivial, fun (reply : Except ServiceError (Option SandboxRecord)) hanswer => ?_⟩
  cases reply with
  | error error => exact hE error
  | ok record =>
    cases record with
    | none => exact hE _
    | some record => exact hf record (S.loaded hnames hanswer)

theorem proceeds_begin {f : OperationRecord → Svc β} (hwrites : S.writes record.id) (hf : ∀
      operation : OperationRecord, Proceeds S (f operation) (.holding operation.id kind .before)) :
    Proceeds S ((database (.beginOperation record kind)).bind f) .free := by
  refine ⟨⟨rfl, hwrites⟩, fun (reply : Except ServiceError OperationRecord) _ => ?_⟩
  cases reply with
  | error error => trivial
  | ok operation => exact hf operation

/-- The operation is over unless the transaction failed. -/
theorem conducts_finish {actual : ActualState} {status : OperationStatus} {code : Option String}
    {details : Option Json} {clear : Bool}
    {send : OperationRecord × OperationEvent → Option OperationEvent}
    (hclear : kind = .destroy → status = .completed → actual = .absent ∧ clear = true) :
    Holds S o kind stage (databaseAndSend
      (.finishOperation o actual status code details clear) send) (fun _ _ => True) := by
  refine ⟨⟨kind, stage, rfl, hclear⟩, fun (reply : Except ServiceError _) _ => ?_⟩
  cases reply with
  | ok => trivial
  | error => exact ⟨stage, rfl⟩

theorem still_putSandbox (hwrites : S.writes record.id) :
    (database (.putSandbox record)).Uses (S.Still (.holding o kind stage)) :=
  uses_database ⟨⟨trivial, hwrites⟩, fun _ => rfl⟩

theorem still_putWithTransport {policy : Option SshTransportPolicy} (hwrites : S.writes record.id) :
    (database (.putSandboxWithSshTransport record policy)).Uses (S.Still (.holding o kind stage)) :=
  uses_database ⟨⟨trivial, hwrites⟩, fun _ => rfl⟩

/-! ### The record of an operation -/

theorem still_runtimeActual (sandbox : SandboxId) (fallback : ActualState) :
    (runtimeActual sandbox fallback).Uses (S.Still s) := by
  refine uses_bind (uses_attempt (uses_looks fun _ => light_inspect sandbox)) fun inspected => ?_
  split <;> trivial

theorem still_failedActual (sandbox : SandboxId) (fallback : ActualState) (error : ServiceError) :
    (failedActual sandbox fallback error).Uses (S.Still s) := by
  unfold failedActual
  split
  · trivial
  · exact still_runtimeActual sandbox fallback

theorem still_operationEvents {send : List OperationEvent → Option OperationEvent} :
    (databaseAndSend (.operationEvents o) send).Uses (S.Still s) :=
  uses_database ⟨trivial, fun _ => rfl⟩

theorem still_sendTerminal : (sendTerminal o).Uses (S.Still s) :=
  uses_bind still_operationEvents fun _ => trivial

theorem proceeds_reported {q : Svc β} (hp : Proceeds S p s) (hq : ∀ s', Proceeds S q s') :
    Proceeds S (do
      let _ ← p
      sendTerminal o
      q) s :=
  abides_seq hp fun _ s' _ => proceeds_then still_sendTerminal fun _ => hq s'

theorem conducts_failOperation (code : String) (details : Json) :
    Holds S o kind stage (failOperation o actual code details) (fun _ _ => True) :=
  abides_seq (conducts_finish fun _ => nofun) fun _ _ _ => trivial

theorem conducts_failOperationWithEvent (code : String) (details : Json) :
    Holds S o kind stage (failOperationWithEvent o actual code details) (fun _ _ => True) :=
  abides_seq (conducts_finish fun _ => nofun) fun _ _ _ => trivial

theorem proceeds_completed (hkind : kind ≠ .destroy) (actual : ActualState) (a : α) :
    Proceeds S (do
      completeOperation o actual
      sendTerminal o
      Pure.pure a) (.holding o kind stage) := by
  have hcomplete : Holds S o kind stage (completeOperation o actual) (fun _ _ => True) :=
    abides_seq (conducts_finish fun hdestroy => absurd hdestroy hkind) fun _ _ _ => trivial
  exact proceeds_reported (proceeds_of_conducts hcomplete) fun _ => trivial

theorem conducts_initializeOperation (sandbox : SandboxId) (fallback : ActualState) :
    Conducts S (initializeOperation o sandbox fallback) (fun _ => (· = .holding o kind stage))
      (fun _ _ => True) (.holding o kind stage) := by
  have hinitial : (sendInitial o).Uses (S.Still (.holding o kind stage)) :=
    uses_bind still_operationEvents fun _ => trivial
  refine abides_still (uses_attempt hinitial) (fun _ => trivial) fun initial => ?_
  cases initial with
  | ok => rfl
  | error error =>
    refine abides_still (still_runtimeActual ..) (fun _ => trivial) fun actual => ?_
    exact abides_handle (conducts_failOperation actual _ _) (fun _ _ _ => trivial)
      fun _ _ _ => trivial

theorem proceeds_failWith (sandbox : SandboxId) (fallback : ActualState) (error : ServiceError)
    (details : Json) :
    Proceeds S (failWith o sandbox fallback error details : Svc α) (.holding o kind stage) := by
  refine proceeds_then (still_runtimeActual ..) fun actual => ?_
  exact proceeds_reported (proceeds_of_conducts (conducts_failOperation actual _ _)) fun _ =>
    trivial

theorem proceeds_reportFailure (code : String) (details : Json) (error : ServiceError) :
    Proceeds S (reportFailure o actual code details error : Svc α) (.holding o kind stage) := by
  refine abides_handle (conducts_failOperation actual code details) (fun _ s _ => ?_)
    fun _ _ _ => trivial
  refine proceeds_then (uses_attempt still_sendTerminal) fun sent => ?_
  cases sent <;> trivial

/-! ### Start, stop and destroy -/

theorem proceeds_simpleState (hkind : kind ≠ .destroy) (desired : DesiredState)
    (target : ActualState) :
    Proceeds S (simpleState id kind desired target) .free := by
  refine conducts_loadRecord S.names_self (fun _ => trivial) fun record hwrites => ?_
  refine proceeds_begin hwrites fun operation => ?_
  refine abides_seq (conducts_initializeOperation ..) fun _ _ hs => hs ▸ ?_
  have hlifecycle : Cmd.Lifecycle id (S.Still (.holding operation.id kind .before)) :=
    (Setting.replacing_still S.names_self).toLifecycle
  refine proceeds_then (uses_attempt ?_) fun result => ?_
  · exact uses_bind (uses_mono hlifecycle.light (light_inspectPresent id)) fun runtime =>
      uses_changeOwned hlifecycle id _ runtime target
  · cases result with
    | error error => exact proceeds_failWith ..
    | ok => exact proceeds_completed hkind target _

theorem proceeds_destroyInner : Proceeds S (destroyInner id) .free := by
  refine conducts_loadRecord S.names_self (fun _ => trivial) fun record hwrites => ?_
  refine proceeds_begin hwrites fun operation => ?_
  refine abides_seq (conducts_initializeOperation ..) fun _ _ hs => hs ▸ ?_
  refine proceeds_then
    (uses_attempt (uses_destroyRuntime (Setting.replacing_still S.names_self) id _
    S.expected)) fun result => ?_
  cases result with
  | error error => exact proceeds_failWith ..
  | ok =>
    have hcomplete : Holds S operation.id .destroy .before (completeDestroyOperation operation.id)
      (fun _ _ => True) :=
      abides_seq (conducts_finish fun _ _ => ⟨rfl, rfl⟩) fun _ _ _ => trivial
    exact proceeds_reported (proceeds_of_conducts hcomplete) fun _ => trivial

end

section

variable {α : Type} {spec : SandboxSpec} {S : Setting spec.id} {o : OperationId}
  {kind : OperationKind} {stage : ProvisionStage} {plan : ApplyPlan}

/-- The commands that replace the container of the sandbox leave the standing as it is. -/
theorem replacing_self : Cmd.Replacing spec.id S.removes (S.Still (.holding o kind stage)) :=
  Setting.replacing_still S.names_self

theorem still_of_light {p : Svc α} (hp : p.Uses (Cmd.Light spec.id none)) :
    p.Uses (S.Still (.holding o kind stage)) :=
  uses_mono (fun _ => Setting.still_light S.names_self) hp

/-! ### Events -/

theorem neutral_phase {phase : String} (members : List (String × Json))
    (h : phase ≠ "before_provision" ∧ phase ≠ "after_provision") :
    Neutral (.obj (("phase", .str phase) :: members)) := by
  have hphase : (Json.obj (("phase", .str phase) :: members)).getStr "phase" = some phase := rfl
  simp [Neutral, hphase, h]

theorem still_emit {details : Json} (h : Neutral details) :
    (emit o details).Uses (S.Still (.holding o kind stage)) :=
  uses_bind (uses_database (Setting.still_event h)) fun _ => trivial

theorem still_phase {phase : String} (members : List (String × Json))
    (h : phase ≠ "before_provision" ∧ phase ≠ "after_provision") :
    (emit o (.obj (("phase", .str phase) :: members))).Uses (S.Still (.holding o kind stage)) :=
  still_emit (neutral_phase members h)

theorem neutral_of_upPreflight {approved : String} {prior : Option SandboxRecord}
    {transport : Option SshTransportPolicy} {runtime : RuntimeSandbox} {event : Json}
    (h : upPreflight spec approved prior transport runtime = .ok (some event)) : Neutral event := by
  unfold upPreflight at h
  split at h
  · exact absurd h nofun
  · split at h
    · exact absurd h nofun
    · split at h
      · cases h
        exact neutral_phase _ (by decide)
      · split at h
        · cases h
          exact neutral_phase _ (by decide)
        · exact absurd h nofun

/-- An event that takes the operation to another stage. -/
theorem conducts_emit {details : Json} {next : ProvisionStage}
    (hnext : stage.next (.logged details) = some next) :
    Holds S o kind stage (emit o details) (fun _ => (· = .holding o kind next)) := by
  refine ⟨⟨⟨kind, stage, rfl, by rw [hnext]; rfl⟩, rfl⟩,
    fun (reply : Except ServiceError OperationEvent) _ => ?_⟩
  cases reply with
  | ok => exact congrArg (Standing.holding o kind) (by rw [hnext]; rfl)
  | error => exact ⟨stage, rfl⟩

/-- A provisioning between its two events. -/
theorem conducts_provision {before : Json} {after : ProvisionedResolution → Json}
    (hbefore : ProvisionStage.before.next (.logged before) = some .during)
    (hafter : ∀ provisioned, ProvisionStage.during.next (.logged (after provisioned)) = some .after)
    (create : CreateRequest) (prior : Option SandboxRecord) (applied : AppliedState) :
    Holds S o kind .before (do
      emit o before
      let provisioned ← provisionWithApplied spec create prior applied o
      emit o (after provisioned)
      Pure.pure provisioned) (fun _ => (· = .holding o kind .after)) := by
  have hguest : Cmd.Provisioning spec.id o (S.Still (.holding o kind .during)) :=
    { replacing_self.toLifecycle with
      exec := fun _ _ => ⟨⟨o, kind, rfl⟩, fun _ => rfl⟩
      provision := fun _ _ => ⟨⟨o, kind, rfl⟩, fun _ => rfl⟩
      step := fun _ => Setting.still_event (neutral_phase _ (by decide)) }
  refine abides_seq (conducts_emit hbefore) ?_
  rintro _ _ rfl
  refine holding_then (uses_provisionWithApplied hguest spec create prior applied)
    fun provisioned => ?_
  exact abides_seq (conducts_emit (hafter provisioned)) fun _ _ h => h

/-! ### Up -/

/-- What a creation made may be removed. -/
def MadeBy (S : Setting spec.id) (s : Standing) (made : CreateOutcome × CreateRequest)
    (s' : Standing) : Prop :=
  (∀ resource ∈ made.1.created, S.removes resource) ∧ s' = s

theorem conducts_persistCreatedState (storage : StorageCapacities)
    (transport : SshTransportPolicy) :
    Conducts S (persistCreatedState spec.id storage transport) (fun _ =>
      (· = .holding o kind stage))
      (fun _ => (· = .holding o kind stage)) (.holding o kind stage) :=
  conducts_loadRecord S.names_self (fun _ => rfl) fun _ hwrites =>
    abides_of_uses (still_putWithTransport hwrites)

theorem conducts_afterFailure {what : String} {retries : Nat} {failure : CreateFailure}
    {collision : Bool} {again : Svc α} {Q : α → Standing → Prop}
    (hagain : Holds S o kind stage again Q) :
    Holds S o kind stage (afterFailure spec what retries failure collision again) Q := by
  unfold afterFailure
  split_ifs
  · exact ⟨stage, rfl⟩
  · exact ⟨stage, rfl⟩
  · exact hagain

theorem conducts_createOnce (storage : StorageCapacities) (retries : Nat)
    (prepared : Option PreparedSshCreate) {create : CreateRequest} (hcreate : S.regular create)
    {again : Svc (CreateOutcome × CreateRequest)}
    (hagain : Holds S o kind stage again (MadeBy S (.holding o kind stage))) :
    Holds S o kind stage (createOnce spec storage retries prepared create again)
      (MadeBy S (.holding o kind stage)) := by
  refine ⟨trivial, fun (created : Except CreateFailure CreateOutcome) hanswer => ?_⟩
  cases created with
  | ok outcome =>
    have hmade := S.created hcreate hanswer
    refine abides_handle (conducts_persistCreatedState ..) (fun _ _ h => ⟨hmade, h⟩) ?_
    rintro error _ rfl
    show Conducts S (rollbackCreated spec.id outcome error) _ _ _
    exact holding_throws (uses_rollbackCreated replacing_self spec.id hmade error)
      (throws_rollbackCreated spec.id outcome error)
  | error failure =>
    have hmade := S.failed hcreate hanswer
    refine holding_then (uses_removePartial replacing_self hmade) fun _ => ?_
    exact holding_then (uses_looks fun _ => light_portCollision ..) fun _ =>
      conducts_afterFailure hagain

variable {ctx : UpRuntimeContext} (image : String) (create : CreateRequest)
  (prior : Option SandboxRecord) (capabilities : RuntimeCapabilities)

theorem conducts_prepareCreate {k : Option PreparedSshCreate → CreateRequest → Svc α}
    {Q : α → Standing → Prop}
    (hk : ∀ prepared create, S.regular create → Holds S o kind stage (k prepared create) Q) :
    Holds S o kind stage (do
      let prepared ← prepareSshCreate spec
      let create ← ofPolicy (compilePolicy image spec capabilities prepared)
      k prepared create) Q := by
  refine holding_then (uses_looks fun _ => light_prepareSshCreate spec) fun prepared => ?_
  cases hcompile : compilePolicy image spec capabilities prepared with
  | error error => exact ⟨stage, rfl⟩
  | ok create => exact hk prepared create (S.compiled rfl hcompile)

theorem conducts_createLoop (storage : StorageCapacities) (retries : Nat)
    (prepared : Option PreparedSshCreate) {create : CreateRequest} (hcreate : S.regular create) :
    Holds S o kind stage (createLoop image spec capabilities storage retries prepared create)
      (MadeBy S (.holding o kind stage)) := by
  induction retries generalizing prepared create with
  | zero => exact conducts_createOnce storage 0 prepared hcreate ⟨stage, rfl⟩
  | succ retries ih =>
    exact conducts_createOnce storage (retries + 1) prepared hcreate
      (conducts_prepareCreate image capabilities fun prepared _ hcreate => ih prepared hcreate)

theorem still_sshUp (prior : Option Resolution) :
    (sshUp spec prior o).Uses (S.Still (.holding o kind stage)) := by
  unfold sshUp
  split
  · refine uses_bind (uses_activateAndPersistSsh (fun _ => Setting.still_light S.names_self) prior
      fun version => still_phase _ (by decide)) fun _ => ?_
    refine uses_bind (uses_mapError (uses_looks fun _ => light_verifyExactSshPublication))
      fun _ => ?_
    refine uses_bind (uses_mapError (still_phase _ (by decide))) fun _ => ?_
    exact uses_bind (uses_mapError (still_phase _ (by decide))) fun _ => trivial
  · exact still_of_light (light_disableAndPersistSsh spec.id prior)

theorem conducts_provisionUp (hctx : ctx.operationId = o) :
    Holds S o kind .before (provisionUp spec create prior ctx) (fun _ =>
      (· = .holding o kind .after)) := by
  subst hctx
  exact conducts_provision rfl (fun _ => rfl) create prior _

theorem conducts_settleProvision (known : Option SandboxRecord) (existed matched : Bool)
    (hctx : ctx.operationId = o) :
    Holds S o kind .before (settleProvision spec create prior known existed matched ctx) (fun _ =>
      Holding o kind) := by
  unfold settleProvision
  split
  · have hemit : (emitApplyRequired spec prior ctx).Uses (S.Still (.holding o kind .before)) :=
      uses_bind (uses_looks fun _ => light_planForRoot ..) fun _ =>
        hctx ▸ still_phase _ (by decide)
    exact holding_then hemit fun _ => ⟨.before, rfl⟩
  · split
    · exact abides_seq (conducts_provisionUp create known hctx) fun _ _ h => ⟨.after, h⟩
    · exact ⟨.before, rfl⟩

theorem conducts_settle (existed : Bool) (hctx : ctx.operationId = o) :
    Holds S o kind .before (settle spec create prior existed ctx) (fun _ => Holding o kind) := by
  have hsettled (matched : Bool) :
      Holds S o kind .before (settleProvision spec create prior
        (if existed then prior else none) existed matched ctx) (fun _ => Holding o kind) :=
    conducts_settleProvision create prior _ existed matched hctx
  subst hctx
  refine holding_then (uses_looks fun _ => light_inspectPresent _) fun current => ?_
  refine holding_then (uses_when (uses_start replacing_self.toLifecycle _)) fun _ => ?_
  refine holding_then (still_phase [] (by decide)) fun _ => ?_
  refine holding_then (uses_ofRuntime _) fun image => ?_
  refine holding_then (uses_elim trivial fun record => uses_looks fun _ => light_durableMatch ..)
    fun matched => ?_
  -- The stage is not known after the provisioning, but nothing after it depends on it.
  refine abides_seq (hsettled matched) ?_
  rintro provisioned _ ⟨stage, rfl⟩
  refine holding_then (still_phase _ (by decide)) fun _ => ?_
  refine holding_then ⟨⟨trivial, fun _ => rfl⟩, fun _ => uses_ofExcept _⟩ fun _ => ?_
  refine holding_then (still_phase _ (by decide)) fun _ => ?_
  exact holding_then (still_sshUp _) fun _ => ⟨stage, rfl⟩

theorem conducts_settleOrUndo {created : Option CreateOutcome} (hctx : ctx.operationId = o)
    (hcreated : ∀ outcome ∈ created, ∀ resource ∈ outcome.created, S.removes resource) :
    Holds S o kind .before (settleOrUndo spec create prior created ctx) (fun _ =>
      Holding o kind) := by
  refine abides_handle (conducts_settle create prior _ hctx) (fun _ _ h => h) ?_
  rintro error _ ⟨stage, rfl⟩
  exact holding_throws (uses_unsettle replacing_self spec.id hcreated error)
    (throws_unsettle spec.id created error)

theorem conducts_upRuntime (prior : Option SandboxRecord) (transport : Option SshTransportPolicy)
    (hctx : ctx.operationId = o) :
    Holds S o kind .before (upRuntime image spec create capabilities prior transport ctx) (fun _ =>
      Holding o kind) := by
  refine holding_then (uses_looks fun _ => light_inspect _) fun inspected => ?_
  cases inspected with
  | none =>
    refine conducts_prepareCreate image capabilities fun prepared create hcreate => ?_
    refine abides_seq (conducts_createLoop image capabilities _ _ prepared hcreate) ?_
    rintro made _ ⟨hmade, rfl⟩
    refine holding_then (hctx ▸ still_phase [] (by decide)) fun _ => ?_
    refine conducts_settleOrUndo made.2 prior hctx ?_
    rintro _ ⟨⟩
    exact hmade
  | some runtime =>
    show Conducts S (upPresent ..) _ _ _
    unfold upPresent
    cases hrequired : upPreflight spec create.image prior transport runtime with
    | error error => exact ⟨.before, rfl⟩
    | ok required =>
      cases required with
      | some event =>
        subst hctx
        show Conducts S ((emit ctx.operationId event).bind _) _ _ _
        exact holding_then (still_emit (neutral_of_upPreflight hrequired)) fun _ =>
          ⟨.before, rfl⟩
      | none =>
        exact conducts_prepareCreate image capabilities fun _ create _ =>
          conducts_settleOrUndo create prior hctx nofun

theorem proceeds_upOperation (hkind : kind ≠ .destroy) {record : SandboxRecord}
    (hwrites : S.writes record.id) (image : String) (create : CreateRequest)
    (capabilities : RuntimeCapabilities) (existing : Option SandboxRecord)
    (transport : Option SshTransportPolicy) (hctx : ctx.operationId = o) :
    Proceeds S (upOperation image spec create capabilities existing record transport ctx)
      (.holding o kind .before) := by
  have hup : Holds S o kind .before
    (upRuntime image spec create capabilities existing transport ctx) (fun _ => Holding o kind) :=
    conducts_upRuntime image create capabilities existing transport hctx
  subst hctx
  refine abides_seq (conducts_initializeOperation ..) ?_
  rintro _ _ rfl
  refine proceeds_then (uses_attempt (still_phase [] (by decide))) fun validated => ?_
  cases validated with
  | error error =>
    refine proceeds_then (still_runtimeActual ..) fun actual => ?_
    exact abides_handle (conducts_failOperation actual _ _) (fun _ _ _ => trivial)
      fun _ _ _ => trivial
  | ok =>
    refine abides_handle hup ?_ ?_
    · rintro outcome _ ⟨stage, rfl⟩
      have hfinal : (upFinalRecord record ctx outcome).id = record.id :=
        withProvisioned_id ..
      refine proceeds_then (still_putWithTransport (hfinal ▸ hwrites)) fun _ => ?_
      exact proceeds_completed hkind _ _
    · rintro error _ ⟨stage, rfl⟩
      exact proceeds_then (still_failedActual ..) fun actual => proceeds_reportFailure ..

theorem proceeds_upInner : Proceeds S (upInner image spec) .free := by
  have hprepare : Conducts S (upPrepare image spec)
      (fun plan s => (∀ old ∈ plan.existing, S.writes old.id) ∧ s = .free) (fun _ _ => True)
      .free := by
    refine ⟨trivial, fun (reply : Except ServiceError (Option SandboxRecord)) hanswer => ?_⟩
    cases reply with
    | error error => trivial
    | ok existing =>
      have hexisting : ∀ old ∈ existing, S.writes old.id := by
        rintro old ⟨⟩
        exact S.loaded S.names_self hanswer
      show Conducts S ((ofExcept (checkPresent existing validateStorageLayout)).bind _) _ _ _
      refine abides_still (uses_ofExcept _) (fun _ => trivial) fun _ => ?_
      refine abides_still (uses_looks fun _ => ⟨trivial, fun _ => uses_ofRuntime _⟩)
        (fun _ => trivial) fun capabilities => ?_
      refine abides_still (uses_ofExcept _) (fun _ => trivial) fun create => ?_
      refine abides_still (uses_ofExcept _) (fun _ => trivial) fun storage => ?_
      refine abides_still (uses_database ⟨trivial, fun _ => rfl⟩) (fun _ => trivial)
        fun transport => ?_
      refine abides_still (uses_ofExcept _) (fun _ => trivial) fun _ => ?_
      exact abides_still (uses_looks fun _ => light_desiredFingerprint spec) (fun _ => trivial)
        fun _ => ⟨hexisting, rfl⟩
  refine abides_seq hprepare ?_
  rintro plan _ ⟨hexisting, rfl⟩
  have hwrites : S.writes (upRecord plan.existing spec plan.create).id := by
    cases hplan : plan.existing with
    | none => exact S.writes_self
    | some old => exact hexisting old hplan
  exact proceeds_begin hwrites fun operation =>
    proceeds_upOperation (by decide) hwrites image _ _ _ _ rfl

/-! ### Apply -/

theorem conducts_recreateOnce (retained : RetainedResources) (retries : Nat)
    (prepared : Option PreparedSshCreate) {create : CreateRequest} (hcreate : S.regular create)
    {again : Svc CreateRequest}
    (hagain : Holds S o kind stage again (fun _ => (· = .holding o kind stage))) :
    Holds S o kind stage (recreateOnce spec retained retries prepared create again) (fun _ =>
      (· = .holding o kind stage)) := by
  unfold recreateOnce
  split
  · exact ⟨stage, rfl⟩
  next recreate hrecreate =>
    have hsame : recreate.create = create := by
      unfold RecreateRequest.new at hrecreate
      split at hrecreate
      · cases hrecreate
        rfl
      · cases hrecreate
    refine ⟨trivial, fun (created : Except CreateFailure CreateOutcome) hanswer => ?_⟩
    cases created with
    | ok => exact rfl
    | error failure =>
      have hmade := S.refailed (hsame ▸ hcreate) hanswer
      refine holding_then (uses_removePartialContainer replacing_self create hmade) fun _ => ?_
      exact holding_then (uses_looks fun _ => light_portCollision ..) fun _ =>
        conducts_afterFailure hagain

theorem conducts_recreateLoop (retained : RetainedResources) (retries : Nat)
    (prepared : Option PreparedSshCreate) {create : CreateRequest} (hcreate : S.regular create) :
    Holds S o kind stage (recreateLoop image spec capabilities retained retries prepared create)
      (fun _ => (· = .holding o kind stage)) := by
  induction retries generalizing prepared create with
  | zero => exact conducts_recreateOnce retained 0 prepared hcreate ⟨stage, rfl⟩
  | succ retries ih =>
    exact conducts_recreateOnce retained (retries + 1) prepared hcreate
      (conducts_prepareCreate image capabilities fun prepared _ hcreate => ih prepared hcreate)

theorem conducts_replaceContainer {create : CreateRequest} (hcreate : S.regular create)
    (prepared : Option PreparedSshCreate) (capabilities : RuntimeCapabilities)
    (prior : SandboxRecord) (runtime : RuntimeSandbox) {container : RuntimeResource}
    (hcontainer : S.removes container) (retained : RetainedResources) :
    Holds S o kind .before
      (replaceContainer image spec create prepared capabilities prior runtime container retained o)
      (fun _ => Holding o kind) := by
  refine holding_then (uses_when (uses_looks fun _ => light_deactivateSsh _)) fun _ => ?_
  refine holding_then (uses_when (uses_stop replacing_self.toLifecycle _)) fun _ => ?_
  refine holding_then (uses_removeResources replacing_self fun resource hresource => ?_) fun _ => ?_
  · exact List.mem_singleton.1 hresource ▸ hcontainer
  refine abides_seq (conducts_recreateLoop image capabilities retained _ prepared hcreate) ?_
  rintro create _ rfl
  refine holding_then (uses_start replacing_self.toLifecycle _) fun _ => ?_
  refine abides_seq (conducts_provision rfl (fun _ => rfl) create (some prior) _) ?_
  rintro provisioned _ rfl
  refine holding_then (still_phase _ (by decide)) fun _ => ?_
  refine holding_then ⟨⟨trivial, fun _ => rfl⟩, fun _ => uses_ofExcept _⟩ fun _ => ?_
  refine holding_then (still_phase [] (by decide)) fun _ => ?_
  refine holding_then (still_of_light (light_sshApply ..)) fun _ => ?_
  refine holding_then (still_phase _ (by decide)) fun _ => ?_
  exact holding_then (still_phase _ (by decide)) fun _ => ⟨.after, rfl⟩

theorem restoreSshTransport_id {create restored : CreateRequest}
    {control : Option ControlPlanePolicy}
    (h : PolicyCompiler.restoreSshTransport create control = .ok restored) :
    restored.id = create.id := by
  cases control with
  | none =>
    cases h
    rfl
  | some control =>
    obtain ⟨-, _, _, -, -, rfl⟩ := restoreSshTransport_some.1 h
    rfl

theorem yields_rollbackCreate (runtime : RuntimeSandbox) (policy : Option SshTransportPolicy) :
    (rollbackCreateForInspectedTransport create runtime policy).Yields
      fun restored => restored.id = create.id := by
  unfold rollbackCreateForInspectedTransport
  split
  · exact yields_ofPolicy fun _ h => restoreSshTransport_id h
  · exact yields_bind_right fun _ => yields_bind_right fun _ =>
      yields_ofPolicy fun _ h => restoreSshTransport_id h

/-- The container that a replacement is to remove is the one of the sandbox. -/
theorem yields_replacementEvidence {create : CreateRequest} (hnames : S.names create.id)
    (runtime : RuntimeSandbox) (previous : String) :
    (replacementEvidence create runtime previous).Yields
      fun evidence => S.removes evidence.1 := by
  unfold replacementEvidence
  split
  · trivial
  · split
    · trivial
    · refine yields_mapError (yields_bind_right fun resources => yields_ofExcept fun evidence h =>
        ?_)
      unfold retainedEvidence at h
      split at h
      · cases h
      · cases h
      next container hcontainer =>
        split at h
        · cases h
        · cases h
          exact S.exact hnames hcontainer

/-- A replacement keeps the operation. What it returns to undo it names the sandbox. -/
theorem conducts_replaceImage {create : CreateRequest} (hcreate : S.regular create)
    (prepared : Option PreparedSshCreate) (capabilities : RuntimeCapabilities)
    (transport : Option SshTransportPolicy) (previousImage : String) :
    Holds S o kind .before
      (replaceImage image spec create prepared capabilities transport previousImage o)
      (fun replaced s => S.names replaced.2.2.id ∧ Holding o kind s) := by
  have hnames := S.named hcreate
  refine holding_then (still_phase _ (by decide)) fun _ => ?_
  refine holding_then (uses_looks fun _ => ⟨trivial, fun _ => uses_ofRuntime _⟩) fun _ => ?_
  refine holding_then (uses_looks fun _ => light_loadRecord _) fun prior => ?_
  refine holding_then (uses_looks fun _ => light_inspectPresent _) fun runtime => ?_
  refine abides_seq (holding_yields (uses_looks fun _ =>
    light_rollbackCreateForInspectedTransport ..) (yields_rollbackCreate ..)) ?_
  rintro rollbackCreate _ ⟨rfl, hrollback⟩
  refine abides_seq (holding_yields (uses_looks fun _ => light_replacementEvidence ..)
    (yields_replacementEvidence hnames ..)) ?_
  rintro ⟨container, retained⟩ _ ⟨rfl, hcontainer⟩
  refine holding_then (still_phase _ (by decide)) fun _ => ?_
  refine abides_handle (conducts_replaceContainer image hcreate prepared capabilities prior runtime
    hcontainer retained) ?_ ?_
  · rintro _ _ hholding
    exact ⟨hrollback ▸ hnames, hholding⟩
  · rintro original _ ⟨stage, rfl⟩
    refine holding_throws (uses_undoReplacement (Setting.replacing_still hnames) ?_ _ _ _
      (still_phase _ (by decide)) _) ?_
    · exact fun _ _ => S.exact (hrollback ▸ hnames)
    · refine yields_bind_right fun undone => ?_
      cases undone <;> trivial

/-- The end of an apply whose commit failed, in whatever standing that left it. -/
theorem proceeds_undoApply {previous : SandboxRecord} (hwrites : S.writes previous.id)
    {rollbackCreate : CreateRequest} (hnames : S.names rollbackCreate.id)
    (transport : Option SshTransportPolicy) (previousImage : String) (original : ServiceError) :
    Proceeds S (undoApply spec.id previous transport rollbackCreate previousImage o original :
      Svc α) (.holding o kind stage) := by
  refine proceeds_then (uses_attempt ?_) fun undone => ?_
  · refine uses_bind (uses_looks fun _ => light_retainedResources _) fun retained => ?_
    refine uses_bind (uses_rollbackImage replacing_self (fun _ _ => S.exact hnames) _ _
      (still_phase _ (by decide))) fun _ => ?_
    exact still_of_light (light_restorePriorSsh ..)
  · refine proceeds_then (uses_attempt (still_putWithTransport hwrites)) fun stored => ?_
    refine proceeds_then (still_runtimeActual ..) fun actual => ?_
    exact abides_handle (conducts_failOperationWithEvent actual _ _) (fun _ _ _ => trivial)
      fun _ _ _ => trivial

theorem proceeds_applyReplacing (hkind : kind ≠ .destroy) (image : String)
    (hwrites : S.writes plan.record.id) (hcreate : S.regular plan.create)
    (preflight : ApplyPreflight) :
    Proceeds S (applyReplacing image spec plan preflight o) (.holding o kind .before) := by
  refine abides_handle (conducts_replaceImage image hcreate plan.prepared plan.capabilities
    plan.transport preflight.runtime.image) ?_ ?_
  · rintro ⟨provisioned, resolution, rollbackCreate⟩ _ ⟨hnames, stage, rfl⟩
    refine abides_handle (M := fun _ _ => True) (N := fun _ => Holding o kind) ?_
      (fun _ _ _ => trivial) ?_
    · refine holding_then (still_putWithTransport ?_) fun _ => ?_
      · exact (withProvisioned_id ..).symm ▸ hwrites
      refine holding_then still_operationEvents fun _ => ?_
      exact abides_seq (conducts_finish fun hdestroy => absurd hdestroy hkind) fun _ _ _ => trivial
    · rintro original _ ⟨stage, rfl⟩
      exact proceeds_undoApply hwrites hnames ..
  · rintro error _ ⟨stage, rfl⟩
    exact proceeds_then (still_runtimeActual ..) fun actual => proceeds_reportFailure ..

theorem proceeds_applyUnchanged (hkind : kind ≠ .destroy) (plan : ApplyPlan) :
    Proceeds S (applyUnchanged spec plan o) (.holding o kind stage) := by
  refine proceeds_then (uses_attempt (still_of_light (light_sshApply ..))) fun published => ?_
  cases published with
  | error error => exact proceeds_failWith ..
  | ok => exact proceeds_completed hkind _ _

theorem proceeds_applyKeeping (hkind : kind ≠ .destroy) (hwrites : S.writes plan.record.id) :
    Proceeds S (applyKeeping spec plan o) (.holding o kind .before) := by
  refine abides_handle (M := fun _ => Holding o kind) (N := fun _ => Holding o kind) ?_ ?_ ?_
  · refine abides_seq (conducts_provisionUp plan.create _ rfl) ?_
    rintro provisioned _ rfl
    refine holding_then (still_phase _ (by decide)) fun _ => ?_
    refine holding_then ⟨⟨trivial, fun _ => rfl⟩, fun _ => uses_ofExcept _⟩ fun _ => ?_
    refine holding_then (still_phase _ (by decide)) fun _ => ?_
    exact holding_then (still_of_light (light_sshApply ..)) fun _ => ⟨_, rfl⟩
  · rintro ⟨provisioned, resolution⟩ _ ⟨stage, rfl⟩
    refine proceeds_then (still_putSandbox hwrites) fun _ => ?_
    exact proceeds_completed hkind _ _
  · rintro error _ ⟨stage, rfl⟩
    refine proceeds_then (still_failedActual ..) fun actual => ?_
    exact proceeds_reported (proceeds_of_conducts (conducts_failOperation actual _ _))
      fun _ => trivial

theorem proceeds_applyOperation (hkind : kind ≠ .destroy) (image : String)
    (hwrites : S.writes plan.record.id) (hcreate : S.regular plan.create) :
    Proceeds S (applyOperation image spec plan o) (.holding o kind .before) := by
  refine abides_seq (conducts_initializeOperation ..) ?_
  rintro _ _ rfl
  refine proceeds_then (uses_attempt ?_) fun preflight => ?_
  · refine uses_bind (uses_looks fun _ => light_inspectPresent _) fun runtime => ?_
    refine uses_bind (uses_requireOwned ..) fun _ => uses_bind (uses_ofRuntime _) fun image => ?_
    exact uses_bind (uses_restartKept replacing_self.toLifecycle ..) fun _ => trivial
  · cases preflight with
    | error error => exact proceeds_failWith ..
    | ok preflight =>
      show Proceeds S (applyChanges ..) _
      unfold applyChanges
      split
      · refine proceeds_then (uses_attempt (uses_looks fun _ => light_replacementEvidence ..))
          fun evidence => ?_
        cases evidence with
        | error error => exact proceeds_failWith ..
        | ok => exact proceeds_applyReplacing hkind image hwrites hcreate preflight
      · split
        · exact proceeds_applyUnchanged hkind plan
        · exact proceeds_applyKeeping hkind hwrites

theorem proceeds_applyInner : Proceeds S (applyInner image spec) .free := by
  have hprepare : Conducts S (applyPrepare image spec)
      (fun plan s => S.writes plan.record.id ∧ S.regular plan.create ∧ s = .free) (fun _ _ => True)
      .free := by
    refine conducts_loadRecord S.names_self (fun _ => trivial) fun record hwrites => ?_
    refine abides_still (uses_ofExcept _) (fun _ => trivial) fun _ => ?_
    refine abides_still (uses_ofExcept _) (fun _ => trivial) fun _ => ?_
    refine abides_still (uses_looks fun _ => ⟨trivial, fun _ => uses_ofRuntime _⟩)
      (fun _ => trivial) fun capabilities => ?_
    refine abides_still (uses_looks fun _ => light_prepareSshCreate _) (fun _ => trivial)
      fun prepared => ?_
    cases hcompiled : compilePolicy image spec capabilities prepared with
    | error error => trivial
    | ok create =>
      show Conducts S ((database (.sshTransportPolicy spec.id)).bind _) _ _ _
      refine abides_still (uses_database ⟨trivial, fun _ => rfl⟩) (fun _ => trivial)
        fun transport => ?_
      refine abides_still (uses_looks fun _ => light_desiredFingerprint spec) (fun _ => trivial)
        fun fingerprint => ?_
      exact abides_still (uses_looks fun _ => light_planForRoot ..) (fun _ => trivial)
        fun _ => ⟨hwrites, S.compiled rfl hcompiled, rfl⟩
  refine abides_seq hprepare ?_
  rintro plan _ ⟨hwrites, hcreate, rfl⟩
  exact proceeds_begin hwrites fun operation =>
    proceeds_applyOperation (by decide) image hwrites hcreate

end

/-- **Every request keeps to the protocol.** -/
theorem proceeds_request (image : String) (request : Request) (S : Setting request.id) :
    Proceeds S (request.program image) .free := by
  cases request with
  | up spec => exact proceeds_upInner image
  | start id => exact proceeds_simpleState (by decide) ..
  | stop id => exact proceeds_simpleState (by decide) ..
  | apply spec => exact proceeds_applyInner image
  | destroy id => exact proceeds_destroyInner

end Service

end Gascan
