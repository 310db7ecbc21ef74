import Gascan.Backend.Creation
import Gascan.Proofs.Conduct

/-!
# `Gascan.Proofs.Removals`: what the daemon asks the runtime to remove

The resources of two sandboxes have different names (`disjoint_resourceIdentities`). A request and a
recovery ask the runtime only to remove resources of their own sandbox, whatever the runtime lists
(`removals_confined`). The evidence of a creation is what the constructors of `CreateOutcome` and
`CreateFailure` let through (`BackendReplies`).
-/

namespace Gascan

open Lib Lib.Prog Service List

/-! ### Names -/

variable {a b id : SandboxId} {resources : List RuntimeResource}
  {identities : List ResourceIdentity} {create : CreateRequest}

theorem SandboxId.eq_of_value (h : a.value = b.value) : a = b := by
  obtain ⟨value, _⟩ := a
  obtain rfl : value = b.value := h
  rfl

theorem append_cancel {left right right' : String} (h : left ++ right = left ++ right') :
    right = right' := by
  have hlist := congrArg String.toList h
  rw [String.toList_append, String.toList_append] at hlist
  exact String.toList_inj.1 (append_cancel_left hlist)

variable {identity : ResourceIdentity}

theorem mem_resourceIdentities_iff :
    identity ∈ resourceIdentities id ↔ identity = ⟨.container, id.value⟩ ∨
      (∃ name ∈ managedVolumeNames id.value, identity = ⟨.volume, name⟩) ∨
      identity = ⟨.network, managedNetworkName id⟩ := by
  simp only [resourceIdentities, cons_append, mem_cons, mem_append, mem_map,
    not_mem_nil, or_false, eq_comm]

theorem managedVolumeNames_inj {name : String} (ha : name ∈ managedVolumeNames a.value)
    (hb : name ∈ managedVolumeNames b.value) : a = b := by
  rw [managedVolumeNames, mem_map] at ha hb
  obtain ⟨kind, hkind, rfl⟩ := ha
  obtain ⟨kind', hkind', hsame⟩ := hb
  have hchars := congrArg String.toList hsame
  simp only [String.toList_append] at hchars
  -- Two different purposes differ in their first or second letter.
  have hvalue : b.value.toList = a.value.toList := by
    simp only [mem_cons, not_mem_nil, or_false] at hkind hkind'
    rcases hkind with rfl | rfl | rfl <;> rcases hkind' with rfl | rfl | rfl <;>
      first | exact append_cancel_left hchars | simp at hchars
  exact SandboxId.eq_of_value (String.toList_inj.1 hvalue.symm)

theorem disjoint_resourceIdentities (h : a ≠ b) :
    (resourceIdentities a).Disjoint (resourceIdentities b) := by
  intro identity ha hb
  rw [mem_resourceIdentities_iff] at ha hb
  refine h ?_
  rcases ha with rfl | ⟨name, hname, rfl⟩ | rfl
  · rcases hb with hb | ⟨_, _, hb⟩ | hb
    · exact SandboxId.eq_of_value (ResourceIdentity.mk.inj hb).2
    · cases hb
    · cases hb
  · rcases hb with hb | ⟨name', hname', hb⟩ | hb
    · cases hb
    · cases hb
      exact managedVolumeNames_inj hname hname'
    · cases hb
  · rcases hb with hb | ⟨_, _, hb⟩ | hb
    · cases hb
    · cases hb
    · exact SandboxId.eq_of_value (append_cancel (ResourceIdentity.mk.inj hb).2)

/-! ### Evidence -/

/-- A resource of a sandbox: owned, with the label of the sandbox, and expected there. -/
structure Own (id : SandboxId) (resource : RuntimeResource) : Prop where
  owned : resource.ownership = .gasCanOwned
  sandbox : resource.sandboxId = some id
  expected : ∃ identities, expectedResourceIdentities id = .ok identities ∧
    resource.identity ∈ identities

/-- Evidence of a creation: everything is allowed by the request, and owned. -/
def Evident (request : CreateRequest) (resources : List RuntimeResource) : Prop :=
  ∀ resource ∈ resources,
    request.allows resource.identity = true ∧ resource.ownedBy request.id = true

theorem evident_validEvidence (request : CreateRequest) (seen : List ResourceIdentity)
    (created : List RuntimeResource) : Evident request (validEvidence request seen created) := by
  induction created generalizing seen with
  | nil => exact fun _ h => absurd h (not_mem_nil)
  | cons resource rest ih =>
    rw [validEvidence]
    split
    next hkept =>
      simp only [Bool.and_eq_true] at hkept
      intro other hother
      rcases mem_cons.1 hother with rfl | hother
      · exact hkept.1
      · exact ih _ other hother
    next => exact ih _

theorem checkEvidence_ok {allowed : ResourceIdentity → Bool} {seen : List ResourceIdentity}
    (h : checkEvidence allowed id resources seen = .ok identities) :
    ∀ resource ∈ resources, allowed resource.identity = true ∧ resource.ownedBy id = true := by
  induction resources generalizing seen with
  | nil => exact fun _ h => absurd h (not_mem_nil)
  | cons resource rest ih =>
    rw [checkEvidence] at h
    split at h
    · cases h
    next hpassed =>
      simp only [Bool.or_eq_true, Bool.not_eq_true', decide_eq_true_eq, not_or,
        Bool.not_eq_false, not_not] at hpassed
      intro other hother
      rcases mem_cons.1 hother with rfl | hother
      · exact ⟨hpassed.1.1.1, by simp [RuntimeResource.ownedBy, hpassed.1.1.2, hpassed.1.2]⟩
      · exact ih h other hother

theorem new_eq_ok {kind : ResourceKind} {name : String}
    (h : ResourceIdentity.new kind name = .ok identity) : identity = ⟨kind, name⟩ := by
  rw [ResourceIdentity.new] at h
  split at h
  · cases h
  · cases h
    rfl

theorem mem_volumeIdentities {volumes : List RuntimeVolume} (h : List.Forall₂ (fun (volume :
      RuntimeVolume) identity => ResourceIdentity.new .volume volume.name = .ok identity) volumes
      identities) (hmem : identity ∈ identities) :
    ∃ volume ∈ volumes, identity = ⟨.volume, volume.name⟩ := by
  induction h with
  | nil => cases hmem
  | cons hnew _ ih =>
    rcases mem_cons.1 hmem with rfl | hmem
    · exact ⟨_, mem_cons_self .., new_eq_ok hnew⟩
    · obtain ⟨volume, hvolume, hidentity⟩ := ih hmem
      exact ⟨volume, mem_cons_of_mem _ hvolume, hidentity⟩

theorem evident_of_new {request : CreateRequest} {created : List RuntimeResource}
    {outcome : CreateOutcome} (h : CreateOutcome.new request created = .ok outcome) :
    Evident request outcome.created := by
  obtain ⟨hvalid, h⟩ := check_bind_eq_ok.1 h
  cases h
  obtain ⟨container, hcontainer, hvalid⟩ := bind_eq_ok.1 hvalid
  obtain ⟨volumes, hvolumes, hvalid⟩ := bind_eq_ok.1 hvalid
  obtain ⟨identities, hchecked, -⟩ := bind_eq_ok.1 hvalid
  intro resource hresource
  obtain ⟨hallowed, howned⟩ := checkEvidence_ok hchecked resource hresource
  refine ⟨?_, howned⟩
  simp only [Bool.or_eq_true, decide_eq_true_eq, contains_eq_mem] at hallowed
  simp only [CreateRequest.allows, Bool.or_eq_true, decide_eq_true_eq, contains_eq_mem,
    mem_map]
  rcases hallowed with (hsame | hvolume) | hnetwork
  · exact .inl (.inl (hsame.trans (new_eq_ok hcontainer)))
  · obtain ⟨volume, hmem, hidentity⟩ := mem_volumeIdentities (mapM_eq_ok.1 hvolumes) hvolume
    exact .inl (.inr ⟨volume, hmem, hidentity.symm⟩)
  · exact .inr hnetwork

/-- A request for the resources of a sandbox under their managed names. -/
structure Regular (id : SandboxId) (create : CreateRequest) : Prop where
  id_eq : create.id = id
  volumes : ∀ volume ∈ create.volumes, volume.name ∈ managedVolumeNames id.value
  network : ∀ name, create.network.managedName = some name → name = managedNetworkName id

theorem Regular.of_compiled {image : String} {spec : SandboxSpec}
    {prepared : Option PreparedSshCreate} (h : Compiled image spec prepared create) :
    Regular spec.id create := by
  refine ⟨h.id, fun volume hvolume => ?_, fun name hname => ?_⟩
  · rw [h.volumes, managedVolumes, mem_map] at hvolume
    obtain ⟨⟨name, target, capacity⟩, hzip, rfl⟩ := hvolume
    exact (of_mem_zip hzip).1
  · rw [h.network] at hname
    cases hmode : spec.manifest.network with
    | networked =>
      rw [hmode] at hname
      exact (Option.some.inj hname).symm
    | offline =>
      rw [hmode] at hname
      cases hname

/-- Evidence for such a request is of resources of the sandbox. -/
theorem own_of_evident (hcreate : Regular id create) (h : Evident create resources) :
    ∀ resource ∈ resources, Own id resource := by
  intro resource hresource
  obtain ⟨hallowed, howned⟩ := h resource hresource
  simp only [RuntimeResource.ownedBy, Bool.and_eq_true, decide_eq_true_eq] at howned
  refine ⟨howned.1, hcreate.id_eq ▸ howned.2, _, expectedResourceIdentities_eq id,
    mem_resourceIdentities_iff.2 ?_⟩
  simp only [CreateRequest.allows, Bool.or_eq_true, decide_eq_true_eq, contains_eq_mem,
    mem_map, allowedNetwork, Option.map_eq_some_iff] at hallowed
  rcases hallowed with (hsame | ⟨volume, hvolume, hsame⟩) | ⟨name, hname, hsame⟩
  · exact .inl (hcreate.id_eq ▸ hsame)
  · exact .inr (.inl ⟨volume.name, hcreate.volumes volume hvolume, hsame.symm⟩)
  · exact .inr (.inr (by rw [← hsame, hcreate.network name hname]))

/-! ### Commands and replies -/

/-- A removal of resources of the sandbox, or another command. -/
def Cmd.RemovesOwn (id : SandboxId) : Cmd → Prop
  | .remove request => ∀ resource ∈ request.resources, Own id resource
  | _ => True

/-- What a backend can answer. The replies to a creation are values of `CreateOutcome` and
`CreateFailure`, which are only built by their constructors. Everything else is arbitrary. -/
def BackendReplies : (c : Cmd) → Reply c → Prop
  | .create request, .ok outcome => ∃ created, CreateOutcome.new request created = .ok outcome
  | .create request, .error failure =>
    ∃ created source, failure = .fromCreatedEvidence request created source
  | .createContainer request, .ok outcome =>
    ∃ created, CreateOutcome.forRecreate request created = .ok outcome
  | .createContainer request, .error failure =>
    ∃ created source, failure = .fromCreatedEvidence request.create created source
  | _, _ => True

namespace Service

open Prog

theorem own_of_exactOwnedContainer {create : CreateRequest} {resources : List RuntimeResource}
    {container : RuntimeResource}
    (h : exactOwnedContainer create resources = .ok (some container)) :
    Own create.id container := by
  unfold exactOwnedContainer at h
  split at h
  · cases h
  next found hfound =>
    have hmem : found ∈ [found] := mem_singleton.2 rfl
    rw [← hfound, mem_filter] at hmem
    simp only [Bool.and_eq_true, decide_eq_true_eq] at hmem
    split at h
    · cases h
    next expected hexpected =>
      split at h
      · cases h
      next hsame =>
        cases h
        refine ⟨hmem.2.1.2, hmem.2.2, _, expectedResourceIdentities_eq create.id, ?_⟩
        rw [not_not.1 hsame, new_eq_ok hexpected, mem_resourceIdentities_iff]
        exact .inl rfl
  · cases h

theorem own_of_expected {id : SandboxId} {expected : List ResourceIdentity}
    {resource : RuntimeResource} (hexpected : expectedResourceIdentities id = .ok expected)
    (h : expectedOwned expected id resource = true) : Own id resource := by
  simp only [expectedOwned, Bool.and_eq_true, contains_eq_mem, decide_eq_true_eq] at h
  exact ⟨h.2, h.1.2, expected, hexpected, h.1.1⟩

/-! ### Requests -/

/-- What a backend can answer is evidence of resources of the sandbox, whatever record is loaded. -/
def backendSetting (id : SandboxId) : Setting id :=
  { answers := BackendReplies
    writes := fun _ => True
    names := (· = id)
    regular := Regular id
    removes := Own id
    writes_self := trivial
    names_self := rfl
    loaded := fun _ _ => trivial
    compiled := fun hid h => hid ▸ Regular.of_compiled (compilePolicy_eq_ok h)
    named := Regular.id_eq
    created := fun hcreate ⟨_, hnew⟩ => own_of_evident hcreate (evident_of_new hnew)
    failed := fun hcreate ⟨created, _, hfailure⟩ =>
      own_of_evident hcreate (hfailure ▸ evident_validEvidence _ [] created)
    refailed := fun hcreate ⟨created, _, hfailure⟩ =>
      own_of_evident hcreate (hfailure ▸ evident_validEvidence _ [] created)
    exact := fun hid h => hid ▸ own_of_exactOwnedContainer h
    expected := fun _ _ => own_of_expected }

theorem removesOwn_of_allows {id : SandboxId} {s : Standing} {c : Cmd}
    (h : (backendSetting id).Allows s c) : c.RemovesOwn id := by
  cases c with
  | remove request => exact h
  | _ => trivial

/-! ### Recovery -/

variable {α : Type} {id : SandboxId}

variable (sandbox : SandboxId) (record : SandboxRecord) (events : List OperationEvent)
  (actual : ActualState)

theorem removesOwn_of_steady (own : Option OperationId) {p : Svc α}
    (hp : p.Uses (Cmd.Steady sandbox own)) : p.Uses (Cmd.RemovesOwn id) := by
  refine uses_mono (fun c hc => ?_) hp
  cases c <;> trivial

theorem removesOwn_of_light {p : Svc α} (hp : p.Uses (Cmd.Light sandbox none)) :
    p.Uses (Cmd.RemovesOwn id) :=
  removesOwn_of_steady sandbox none (steady_of_light hp)

theorem replacing_removesOwn (id : SandboxId) :
    Cmd.Replacing id (Own id) (Cmd.RemovesOwn id) := by
  refine ⟨⟨fun c hc => ?_, fun _ => trivial, fun _ => trivial⟩, fun _ => trivial, fun _ h => h⟩
  cases c <;> trivial

theorem removesOwn_failOperation (o : OperationId) (actual : ActualState) (code : String)
    (details : Json) : (failOperation o actual code details).Uses (Cmd.RemovesOwn id) :=
  uses_bind (uses_database trivial) fun _ => trivial

variable (operation : OperationRecord)

theorem removesOwn_recoverSsh (hookEvidence : Bool) :
    (recoverSsh operation record events actual hookEvidence).Uses
      (Cmd.RemovesOwn operation.sandboxId) := by
  refine uses_bind (uses_database trivial) fun transport => ?_
  split
  · have hpublish : (recoverPendingSshPublication operation.id operation.sandboxId record
        events).Uses (Cmd.RemovesOwn operation.sandboxId) :=
      removesOwn_of_steady operation.sandboxId (some operation.id)
        (steady_of_light (light_recoverPendingSshPublication ..))
    refine uses_bind (uses_attempt hpublish) fun recovered => ?_
    cases recovered with
    | ok =>
      exact uses_bind (removesOwn_of_light operation.sandboxId (light_loadRecord _)) fun _ =>
        trivial
    | error error =>
      dsimp only
      split
      · trivial
      · refine uses_bind (uses_attempt (uses_rollbackInterruptedSshCreate
          (replacing_removesOwn _) fun _ _ => own_of_expected)) fun undone => ?_
        cases undone with
        | error => trivial
        | ok =>
          exact uses_bind (uses_bind (uses_database trivial) fun _ => trivial) fun _ => trivial
  · trivial

theorem removesOwn_recoverInspected (hookEvidence : Bool) :
    (recoverInspected operation record events actual hookEvidence).Uses
      (Cmd.RemovesOwn operation.sandboxId) := by
  refine uses_bind (removesOwn_recoverSsh ..) fun ssh => ?_
  cases ssh with
  | ended => trivial
  | ready record createSshReady =>
    refine uses_bind (uses_expectedAbsent operation
      (removesOwn_of_light operation.sandboxId light_listResources)) fun absent => ?_
    split
    · refine uses_bind (uses_bind (uses_elim trivial fun details => uses_database trivial)
        fun _ => uses_bind (uses_database trivial) fun _ => trivial) fun _ => trivial
    · exact uses_bind (removesOwn_failOperation ..) fun _ => trivial

theorem removesOwn_recoverOperation :
    (recoverOperation operation).Uses (Cmd.RemovesOwn operation.sandboxId) := by
  refine uses_bind (uses_database trivial) fun pending => ?_
  split
  · refine uses_bind (uses_database trivial) fun events => ?_
    refine uses_bind (removesOwn_of_light operation.sandboxId (light_loadRecord _)) fun record => ?_
    refine uses_bind ⟨trivial, fun _ => trivial⟩ fun inspected => ?_
    cases inspected with
    | error => trivial
    | ok inspected =>
      dsimp only
      split
      · exact uses_bind (removesOwn_failOperation ..) fun _ => trivial
      · exact removesOwn_recoverInspected ..
  · trivial

end Service

/-- **Removals stay within the sandbox.** The resources that two sandboxes are expected to have are
different. Every removal that the daemon asks for while it serves a request of a sandbox or recovers
one of its operations is of owned resources of this sandbox that it is expected to have. This is so
whatever the runtime lists and inspects, whatever fails, and wherever the program is cut. -/
theorem removals_confined :
    (∀ a b : SandboxId, a ≠ b → ∃ own other, expectedResourceIdentities a = .ok own ∧
      expectedResourceIdentities b = .ok other ∧ own.Disjoint other) ∧
    (∀ (image : String) (request : Request),
      (request.program image).Obeys BackendReplies (Cmd.RemovesOwn request.id) fun _ => True) ∧
    ∀ operation : OperationRecord,
      (recoverOperation operation).Obeys BackendReplies (Cmd.RemovesOwn operation.sandboxId)
        fun _ => True := by
  refine ⟨fun a b h => ?_, fun image request => ?_, fun operation => ?_⟩
  · exact ⟨_, _, expectedResourceIdentities_eq a, expectedResourceIdentities_eq b,
      disjoint_resourceIdentities h⟩
  · exact obeys_of_abides (proceeds_request image request (backendSetting request.id))
      fun _ _ => removesOwn_of_allows
  · exact obeys_of_uses (removesOwn_recoverOperation operation) (yields_true _)

end Gascan
