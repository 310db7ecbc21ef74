import Gascan.Proofs.Exclusive
import Gascan.Proofs.Reachable

/-!
# `Gascan.Proofs.Image`: whether an `up` settles the image of a sandbox

An `up` makes a container from the approved image, but only the record of a sandbox that was never
seen before gets that image. `up_settles_image_iff` says that the next `up` finds the image settled
exactly when there was no record, or it named the approved image already.
-/

namespace Gascan

open Lib Lib.Prog Service

/-- The container of the sandbox was made from the image. -/
def MadeFrom (image : String) (made : Option CreateRequest) : Prop :=
  ∃ request, made = some request ∧ request.image = image

section Programs

variable {id : SandboxId} {w : World} {prepared : Option PreparedSshCreate}
  {resolution : Option Resolution}

/-! ### The container -/

variable {spec : SandboxSpec} {create : CreateRequest} {P : Option CreateRequest → Prop}
  {record : SandboxRecord}

theorem leaves_createOnce {image : String} {storage : StorageCapacities} {retries : Nat}
    (hcompiled : Compiled image spec prepared create)
    {again : Svc (CreateOutcome × CreateRequest)} (hagain : ∀ w', Leaves spec.id again (fun _ w''
      => MadeFrom image (w''.runtime.made spec.id)) w') :
    Leaves spec.id (createOnce spec storage retries prepared create again)
      (fun _ w' => MadeFrom image (w'.runtime.made spec.id)) w := by
  refine leaves_call (I := fun _ => True) (fun _ _ _ h => h) trivial
    fun x w1 (r : Except CreateFailure CreateOutcome) w2 _ hperform => ?_
  have hperform : w1.after (w1.runtime.create create x.fault) = (r, w2) := hperform
  obtain ⟨hreply, rfl⟩ := Prod.mk.inj hperform
  cases r with
  | ok outcome =>
    have hmade : MadeFrom image ((w1.runtime.create create x.fault).2.made spec.id) := by
      refine ⟨create, ?_, hcompiled.image⟩
      rw [← hcompiled.id]
      exact Runtime.made_create (Prod.ext hreply rfl)
    have hpersist : (persistCreatedState spec.id storage (requestedSshTransport spec)).Uses
        fun c => ∃ op send, c = .store op send := by
      refine uses_bind (uses_bind (uses_database ⟨_, _, rfl⟩) fun record => ?_)
        fun _ => uses_database ⟨_, _, rfl⟩
      cases record <;> trivial
    exact leaves_handle (leaves_store hpersist hmade) (fun _ _ h1 => h1)
      fun _ => throws_rollbackCreated _ _ _
  | error failure =>
    refine leaves_seq (leaves_any _) fun _ w3 _ =>
      leaves_seq (leaves_any _) fun collision w4 _ => ?_
    unfold afterFailure
    split
    · trivial
    · split
      · trivial
      · exact hagain w4

theorem leaves_createLoop (image : String) (capabilities : RuntimeCapabilities)
    (storage : StorageCapacities) (retries : Nat)
    (hcompile : compilePolicy image spec capabilities prepared = .ok create) :
    Leaves spec.id (createLoop image spec capabilities storage retries prepared create)
      (fun _ w' => MadeFrom image (w'.runtime.made spec.id)) w :=
  wp_createLoop (I := fun _ => True) image spec capabilities storage (fun _ _ => leaves_any _)
    (fun _ _ _ => trivial) (fun _ _ _ => trivial)
    (fun _ _ _ _ _ hcompile _ hagain => leaves_createOnce (compilePolicy_eq_ok hcompile)
      fun w' => hagain w' trivial) retries hcompile trivial

theorem leaves_settleOrUndo {prior : Option SandboxRecord} {created : Option CreateOutcome}
    {ctx : UpRuntimeContext} (h : P (w.runtime.made spec.id)) :
    Leaves spec.id (settleOrUndo spec create prior created ctx)
      (fun _ w' => P (w'.runtime.made spec.id)) w :=
  leaves_handle (leaves_steady (steady_settle spec create prior created.isNone ctx) h)
    (fun _ _ h1 => h1) fun _ => throws_unsettle _ _ _

/-- An `up` that finds no container makes one from the approved image. -/
theorem leaves_upRuntime (h : w.runtime.made spec.id = none) (image : String)
    (create : CreateRequest) (capabilities : RuntimeCapabilities) (prior : Option SandboxRecord)
    (transport : Option SshTransportPolicy) (ctx : UpRuntimeContext) :
    Leaves spec.id (upRuntime image spec create capabilities prior transport ctx)
      (fun _ w' => MadeFrom image (w'.runtime.made spec.id)) w := by
  refine leaves_seq (leaves_inspect (P := (· = none)) h) fun inspected w1 h1 => ?_
  obtain ⟨hnone, hagrees⟩ := h1
  rw [hnone] at hagrees
  obtain rfl := Option.map_eq_none_iff.1 hagrees
  refine wp_prepareCreate (I := fun _ => True) image spec capabilities (fun _ _ => leaves_any _)
    (fun _ _ _ => trivial) (fun prepared create w2 hcompile _ => ?_) trivial
  refine leaves_seq (leaves_createLoop image capabilities _ _ hcompile) fun made w3 h3 => ?_
  refine leaves_seq (leaves_steady (steady_emit ctx.operationId _) h3) fun _ w4 h4 => ?_
  exact leaves_settleOrUndo h4

/-! ### The record -/

/-- The sandbox is recorded with this image resolution. -/
def Records (id : SandboxId) (resolution : Option Resolution) (w : World) : Prop :=
  w.store.Inv ∧ (w.store.row? id).map (·.record.imageResolution) = some resolution

theorem kept_records : Kept id (Records id resolution) :=
  kept_row (P := fun row => row.map (·.record.imageResolution) = some resolution)

theorem records_upsert {s : Store} (hid : record.id = id) (now : Int) :
    ((s.upsert record now).row? id).map (·.record.imageResolution) =
      some record.imageResolution := by
  rw [Store.row?_upsert, if_pos hid.symm]
  cases s.row? record.id <;> rfl

theorem leaves_put (hid : record.id = id) (transport : Option SshTransportPolicy)
    (hinv : w.store.Inv) :
    Leaves id (database (.putSandboxWithSshTransport record transport))
      (fun _ => Records id record.imageResolution) w := by
  refine leaves_database (kept_row (P := fun _ => True)) ⟨hinv, trivial⟩
    fun w1 now result store h1 hrun => ⟨h1.1.run _ hrun, ?_⟩
  obtain ⟨s1, hs1, heq⟩ := map_eq_ok.1 hrun
  obtain ⟨-, rfl⟩ := Prod.mk.inj heq
  obtain ⟨-, -, -, rfl⟩ := Store.putSandboxWithSshTransport_eq_ok.1 hs1
  have hkey (row : SandboxRow) :
      ({ row with sshTransport := transport } : SandboxRow).id = row.id := rfl
  refine (congrArg _ (Store.row?_updateRow hkey id)).trans ?_
  rw [Option.map_map, ← records_upsert hid now]
  refine congrArg (fun f => ((w1.store.upsert record now).row? id).map f) (funext fun found => ?_)
  show (if id = record.id then _ else found).record.imageResolution = _
  split <;> rfl

theorem leaves_completeOperation (o : OperationId)
    (actual : ActualState) (h : Records id resolution w) :
    Leaves id (completeOperation o actual) (fun _ => Records id resolution) w := by
  refine leaves_seq (leaves_database kept_records h fun w1 now result store h1 hrun =>
    ⟨h1.1.run _ hrun, ?_⟩) fun _ _ h1 => h1
  obtain ⟨operation, row, -, -, -, -, -, -, rfl⟩ := Store.finishOperation_eq_ok hrun
  refine (congrArg _ (Store.row?_finished id)).trans (Eq.trans ?_ h1.2)
  rw [Option.map_map]
  refine congrArg (fun f => (w1.store.row? id).map f) (funext fun found => ?_)
  show (if id = operation.sandboxId then _ else found).record.imageResolution = _
  split <;> rfl

theorem uses_store_sendTerminal (o : OperationId) :
    (sendTerminal o).Uses fun c => ∃ op send, c = .store op send :=
  uses_bind (uses_database ⟨_, _, rfl⟩) fun _ => trivial

/-- The record that an `up` writes at its end is the last word on the image. -/
theorem leaves_finishUp (hid : record.id = spec.id) (hinv : w.store.Inv)
    (h : P (w.runtime.made spec.id)) (transport : Option SshTransportPolicy)
    (ctx : UpRuntimeContext) (outcome : UpOutcome) :
    Leaves spec.id (finishUp spec record transport ctx outcome)
      (fun _ w' => P (w'.runtime.made spec.id) ∧ Records spec.id record.imageResolution w') w := by
  have hfinal : (upFinalRecord record ctx outcome).id = spec.id := by
    rw [← hid]
    unfold upFinalRecord withProvisioned
    cases outcome.provisioned <;> rfl
  have himage : (upFinalRecord record ctx outcome).imageResolution = record.imageResolution := by
    unfold upFinalRecord withProvisioned
    cases outcome.provisioned <;> rfl
  refine wp_and _ (leaves_store ?_ h) ?_
  · refine uses_bind (uses_database ⟨_, _, rfl⟩) fun _ => ?_
    refine uses_bind (uses_bind (uses_database ⟨_, _, rfl⟩) fun _ => trivial) fun _ => ?_
    exact uses_bind (uses_store_sendTerminal _) fun _ => trivial
  · refine leaves_seq (leaves_put hfinal _ hinv) fun _ w1 h1 => ?_
    rw [himage] at h1
    refine leaves_seq (leaves_completeOperation _ _ h1) fun _ w2 h2 => ?_
    have hread : Leaves spec.id (sendTerminal ctx.operationId)
        (fun _ => Records spec.id record.imageResolution) w2 :=
      leaves_seq (leaves_database kept_records h2 fun w3 _ _ store h3 hrun =>
        (Prod.mk.inj (Except.ok.inj hrun)).2 ▸ h3) fun _ _ h3 => h3
    exact leaves_seq hread fun _ _ h3 => h3

/-! ### The operation -/

theorem leaves_sandbox (hinv : w.store.Inv) :
    Leaves id (database (.sandbox id)) (fun existing _ => existing = w.store.sandbox id) w :=
  leaves_database (kept_sandbox (P := (· = w.store.sandbox id))) ⟨hinv, rfl⟩
    fun _ _ _ _ h1 hrun => (Prod.mk.inj (Except.ok.inj hrun)).1.symm.trans h1.2

theorem leaves_initializeOperation (h : P (w.runtime.made id)) (o : OperationId)
    (fallback : ActualState) :
    Leaves id (initializeOperation o id fallback) (fun _ w' => P (w'.runtime.made id)) w :=
  leaves_handle (leaves_store (p := sendInitial o)
      (uses_bind (uses_database ⟨_, _, rfl⟩) fun _ => trivial) h)
    (fun _ _ h1 => h1) fun _ => yields_bind_right fun _ => yields_bind_right fun _ => trivial

theorem leaves_upOperation (hid : record.id = spec.id) (hinv : w.store.Inv)
    (h : w.runtime.made spec.id = none) (image : String) (create : CreateRequest)
    (capabilities : RuntimeCapabilities) (existing : Option SandboxRecord)
    (transport : Option SshTransportPolicy) (ctx : UpRuntimeContext) :
    Leaves spec.id (upOperation image spec create capabilities existing record transport ctx)
      (fun _ w' => MadeFrom image (w'.runtime.made spec.id) ∧
        Records spec.id record.imageResolution w') w := by
  refine leaves_seq (wp_and _ (leaves_inv _ hinv)
    (leaves_initializeOperation (P := (· = none)) h _ _)) fun _ w1 h1 => ?_
  refine leaves_handle (wp_and _ (leaves_inv _ h1.1) (leaves_steady (P := (· = none))
    (steady_emit ctx.operationId _) h1.2)) (fun _ w2 h2 => ?_)
    fun _ => yields_bind_right fun _ => yields_bind_right fun _ => trivial
  refine leaves_handle (wp_and _ (leaves_inv _ h2.1)
    (leaves_upRuntime h2.2 image create capabilities existing transport ctx))
    (fun outcome w3 h3 => ?_) fun _ => throws_failUp _ _ _
  exact leaves_finishUp hid h3.1 h3.2 transport ctx outcome

theorem leaves_upPrepare (hinv : w.store.Inv) (h : w.runtime.made spec.id = none) (image : String) :
    Leaves spec.id (upPrepare image spec) (fun plan w' => (w'.store.Inv ∧
      w'.runtime.made spec.id = none) ∧ plan.existing = w.store.sandbox spec.id ∧
        Compiled image spec none plan.create) w := by
  have hlight : (upPrepare image spec).Uses (Cmd.Light spec.id none) := light_upPrepare spec image
  refine wp_and _ (wp_and _ (leaves_inv _ hinv)
    (leaves_steady (P := (· = none)) (steady_of_light hlight) h)) ?_
  refine leaves_seq (leaves_sandbox hinv) fun existing w1 hread => ?_
  refine leaves_seq (leaves_any _) fun _ w2 _ =>
    leaves_seq (leaves_any _) fun capabilities w3 _ => ?_
  refine leaves_seq (leaves_yields (yields_ofPolicy fun _ hcompile => compilePolicy_eq_ok hcompile)
    (leaves_any _)) fun create w4 hcreate => ?_
  refine leaves_seq (leaves_any _) fun storage w5 _ => ?_
  refine leaves_seq (leaves_any _) fun transport w6 _ => leaves_seq (leaves_any _) fun _ w7 _ => ?_
  exact leaves_seq (leaves_any _) fun fingerprint w8 _ => ⟨hread, hcreate.2⟩

/-- An `up` that finds no container ends with the image that its record began with. -/
theorem leaves_upInner (hinv : w.store.Inv) (h : w.runtime.made spec.id = none) (image : String) :
    Leaves spec.id (upInner image spec) (fun _ w' => MadeFrom image (w'.runtime.made spec.id) ∧
      ∃ create, Compiled image spec none create ∧
        Records spec.id (upRecord (w.store.sandbox spec.id) spec create).imageResolution w') w := by
  refine leaves_seq (leaves_upPrepare hinv h image) fun plan w1 h1 => ?_
  obtain ⟨⟨hinv1, hnone⟩, hexisting, hcompiled⟩ := h1
  rw [← hexisting]
  have hid : (upRecord plan.existing spec plan.create).id = spec.id := by
    cases hprior : plan.existing with
    | none => rfl
    | some old =>
      have hold : w.store.sandbox spec.id = some old := hexisting.symm.trans hprior
      show old.id = spec.id
      exact Store.id_of_sandbox hold
  refine leaves_seq (wp_and _ (leaves_inv _ hinv1)
    (leaves_store (P := (· = none)) (uses_database ⟨_, _, rfl⟩) hnone)) fun operation w2 h2 => ?_
  exact wp_imp (fun _ w3 h3 => ⟨h3.1, plan.create, hcompiled, h3.2⟩)
    (fun _ _ he => he) (leaves_upOperation hid h2.1 h2.2 image _ _ _ _ _)

end Programs

/-! ### The next `up` -/

/-- Whether an `up` of the sandbox with this image would leave the image as it is. -/
def imageSettled (image : String) (id : SandboxId) (w : World) : Bool :=
  (w.runtime.container? id).any fun container =>
    match imageState (w.store.sandbox id) (Runtime.observe container).image image with
    | .ok state => !state.changeRequired
    | .error _ => false

theorem imageSettled_eq {image : String} {id : SandboxId} {w : World}
    (himmutable : immutableImageReference image = true)
    (hmade : MadeFrom image (w.runtime.made id)) :
    imageSettled image id w =
      ((w.store.sandbox id).bind storedImage).any (sameImmutableImage · image) := by
  obtain ⟨request, hrequest, rfl⟩ := hmade
  obtain ⟨container, hcontainer, rfl⟩ := Option.map_eq_some_iff.1 hrequest
  have hstate : imageState (w.store.sandbox id) (Runtime.observe container).image
      container.request.image = .ok ⟨(w.store.sandbox id).bind storedImage, container.request.image,
        container.request.image⟩ := by
    have hobserve : (Runtime.observe container).image = container.request.image := rfl
    rw [hobserve, imageState]
    simp [himmutable]
  unfold imageSettled
  rw [hcontainer, Option.any_some, hstate]
  simp [ImageState.changeRequired, sameImmutableImage_self himmutable]

theorem storedImage_of_records {id : SandboxId} {record : SandboxRecord} {w : World}
    (h : Records id record.imageResolution w) :
    (w.store.sandbox id).bind storedImage = storedImage record := by
  obtain ⟨row, hrow, himage⟩ := Option.map_eq_some_iff.1 h.2
  unfold Store.sandbox
  rw [hrow]
  show row.record.imageResolution.bind _ = record.imageResolution.bind _
  rw [himage]

theorem storedImage_newRecord {image : String} {spec : SandboxSpec}
    {prepared : Option PreparedSshCreate} {create : CreateRequest}
    (h : Compiled image spec prepared create) :
    storedImage (upRecord none spec create) = some image := by
  show (some create.image).filter immutableImageReference = some image
  rw [h.image]
  exact Option.filter_some_pos h.immutable

/-- After an `up` that made the container, the next one finds the image settled exactly when the
sandbox was new, or its record named the approved image. -/
theorem up_settles_image_iff {s : System} (hs : System.Reachable s) (image : String)
    (spec : SandboxSpec) (ts : Nat → Prog.Tick World Choice)
    (hwithin : (upInner image spec).Within perform (exclusiveEnv spec.id) ts s.world)
    (hnone : s.world.runtime.container? spec.id = none) {o : OperationId} {w : World}
    (hrun : (upInner image spec).follow perform ts s.world = (.ok o, w)) :
    imageSettled image spec.id w = true ↔
      ∀ old, s.world.store.sandbox spec.id = some old →
        (storedImage old).any (sameImmutableImage · image) = true := by
  have hleaves := wp_follow _ ts (leaves_upInner (System.reachable_inv hs)
    (Runtime.made_eq_none.2 hnone) image) hwithin
  rw [hrun] at hleaves
  obtain ⟨hmade, create, hcompiled, hrecords⟩ := hleaves
  rw [imageSettled_eq hcompiled.immutable hmade, storedImage_of_records hrecords]
  cases s.world.store.sandbox spec.id with
  | none =>
    -- The record is new, so it names the image of the request.
    rw [storedImage_newRecord hcompiled]
    simp [sameImmutableImage_self hcompiled.immutable]
  | some old =>
    -- The record is taken over with the image it names.
    have hkept : storedImage (upRecord (some old) spec create) = storedImage old := rfl
    rw [hkept]
    simp

def firstUp : Except ServiceError OperationId × World :=
  (upInner demoImage demoSpec).exec perform {} demoWorld

/-- The first `up` of a sandbox settles its image. -/
theorem first_up_settles_image :
    firstUp.1.isOk = true ∧ imageSettled demoImage demoId firstUp.2 = true := by
  have hok : firstUp.1.isOk = true := by decide +kernel
  obtain ⟨o, ho⟩ : ∃ o, firstUp.1 = .ok o := by
    cases h : firstUp.1 with
    | ok o => exact ⟨o, rfl⟩
    | error error =>
      rw [h] at hok
      cases hok
  have hrun : (upInner demoImage demoSpec).follow perform (fun _ => { choice := {} }) demoWorld =
      (.ok o, firstUp.2) := Prod.ext ho rfl
  have hwithin : (upInner demoImage demoSpec).Within perform (exclusiveEnv demoSpec.id)
      (fun _ => { choice := {} }) demoWorld :=
    within_of_allows (exclusive_refl _) (fun _ _ => trivial) _ _
  have hnew : demoWorld.store.sandbox demoSpec.id = none := rfl
  refine ⟨hok, (up_settles_image_iff demoWorld_reachable demoImage demoSpec _ hwithin rfl hrun).2
    fun old hold => ?_⟩
  cases hnew.symm.trans hold

/-- The next release destroyed the offline sandbox. Its record stays. -/
def tombstoned : World :=
  System.after (destroyInner demoId) (Script.of (List.replicate 20 {})) upgraded

/-- An `up` with the image of the next release makes the container from it. The record still names
the old image, and the `up` after it asks for an apply. -/
theorem recreated_image_unsettled :
    System.Reachable ⟨tombstoned, .serving nextImage []⟩ ∧
      tombstoned.runtime.container? demoId = none ∧
      (let first := (upInner nextImage demoSpec).exec perform {} tombstoned
       let second := (upInner nextImage demoSpec).exec perform {} first.2
       first.1.isOk = true ∧ imageSettled nextImage demoId first.2 = false ∧ second.1.isOk = true ∧
       second.2.store.events.any fun event =>
         (event.details.bind (·.getStr "reason")) = some "image_changed") := by
  refine ⟨upgraded_reachable.servedAfter (.destroy demoId) (System.quiet_of _) ?_, ?_⟩
  · decide +kernel
  · decide +kernel

end Gascan
