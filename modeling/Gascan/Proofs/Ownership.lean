import Gascan.Backend.Listing
import Gascan.Lib.Result

/-!
# `Gascan.Proofs.Ownership`: when the two backends see the same owner

Both backends are meant to report the same owner for a resource, and a strange label to leave the
listing of the others alone. `seesAlike_iff` says for which labels this is so. The backends differ
on resources with one of the two labels, on volumes and networks that another tool manages or whose
label is not an identity; and a label that makes `SandboxId::try_from` panic ends the listing of
both.
-/

namespace Gascan.Backend

open Lib Apple

/-- What a backend says about a resource. -/
def view (resource : RuntimeResource) : Option SandboxId × ResourceOwnership :=
  (resource.sandboxId, resource.ownership)

/-- The same resource without a sandbox label. -/
def Resource.unlabelled (resource : Resource) : Resource :=
  { resource with labels := { resource.labels with sandboxId := none } }

/-- Both backends say the same about a resource, and its sandbox label does not make a listing fail
that would succeed without it. -/
structure SeesAlike (resource : Resource) : Prop where
  same : ∀ observations fresh,
    (inventory observations fresh [resource]).toOption.map (fun out => out.2.map view) =
      (Arca.runtimeResources fresh [resource]).toOption.map (·.map view)
  isolatedApple : ∀ observations fresh before after,
    (inventory observations fresh (before ++ resource.unlabelled :: after)).isOk = true →
      (inventory observations fresh (before ++ resource :: after)).isOk = true
  isolatedArca : ∀ fresh before after,
    (Arca.runtimeResources fresh (before ++ resource.unlabelled :: after)).isOk = true →
      (Arca.runtimeResources fresh (before ++ resource :: after)).isOk = true

/-- Whether the name is not that of a resource. Both backends refuse it. -/
def nameRefused (resource : Resource) : Bool :=
  !(ResourceIdentity.new resource.kind resource.name).isOk

/-- Whether the labels are among those that both backends read alike. -/
def labelsAgree (resource : Resource) : Bool :=
  match resource.labels.managedBy, resource.labels.sandboxId with
  | none, none => true
  | some manager, none => manager ≠ managedBy
  | none, some _ => false
  | some manager, some value =>
    match readSandboxId value with
    | .ok _ => resource.kind = .container || manager = managedBy
    | .error (.refused _) => resource.kind = .container
    | .error .panicked => false

/-! ### Listings -/

/-- What a reader reports about a resource. -/
def reports (read : Nat → Resource → Except ListFailure RuntimeResource) (resource : Resource) :
    Option (Option SandboxId × ResourceOwnership) :=
  (read 0 resource).toOption.map view

/-- A reader makes the same report whatever the removal proof is. -/
def Uniform (read : Nat → Resource → Except ListFailure RuntimeResource) : Prop :=
  ∀ proof resource, (read proof resource).toOption.map view = reports read resource

variable {read : Nat → Resource → Except ListFailure RuntimeResource}
  (observations : Observations) (fresh : Nat) (resource : Resource)
  (resources : List Resource)

theorem isOk_listAll (hread : Uniform read) {fresh : Nat} {resources : List Resource} :
    (listAll read fresh resources).isOk = true ↔
      ∀ resource ∈ resources, (reports read resource).isSome = true := by
  induction resources generalizing fresh with
  | nil => simp [listAll, Except.isOk, Except.toBool]
  | cons resource rest ih =>
    have hrest : (listAll read (fresh + 1) rest).isOk = true ↔ _ := ih
    rw [List.forall_mem_cons, ← hrest, ← hread fresh resource, listAll]
    cases read fresh resource with
    | error failure => simp [Except.isOk, Except.toBool, Except.toOption]
    | ok listed =>
      rw [ok_bind]
      cases listAll read (fresh + 1) rest <;>
        simp [Except.isOk, Except.toBool, Except.toOption, bind, Except.bind, pure, Except.pure]

theorem listAll_singleton (hread : Uniform read) (fresh : Nat) (resource : Resource) :
    (listAll read fresh [resource]).toOption.map (·.map view) =
      (reports read resource).map ([·]) := by
  rw [← hread fresh resource, listAll]
  cases read fresh resource <;> rfl

/-- A resource leaves the listing of the others alone when it is read with its label as well as
without it. -/
theorem isolated_iff {listed : List Resource → Bool} {read : Resource → Bool}
    (hlisted : ∀ resources, listed resources = true ↔ ∀ resource ∈ resources, read resource = true)
    (resource : Resource) :
    (∀ before after, listed (before ++ resource.unlabelled :: after) = true →
      listed (before ++ resource :: after) = true) ↔
      (read resource.unlabelled = true → read resource = true) := by
  constructor
  · intro h hunlabelled
    have hone := h [] []
    rw [hlisted, hlisted] at hone
    exact hone (by simpa using hunlabelled) resource (by simp)
  · intro h before after hbefore
    rw [hlisted] at hbefore ⊢
    intro other hother
    rcases List.mem_append.1 hother with hmem | hmem
    · exact hbefore other (List.mem_append_left _ hmem)
    · rcases List.mem_cons.1 hmem with rfl | hafter
      · exact h (hbefore _ (by simp))
      · exact hbefore other (by simp [hafter])

/-! ### The cache -/

/-- The cache changes the removal proof of an observation at most. -/
theorem view_stable (resource : RuntimeResource) :
    view (stable observations resource) = view resource := by
  unfold stable
  cases observations resource.identity with
  | none => rfl
  | some prior =>
    dsimp only
    split
    next hsame => exact Prod.ext hsame.1 hsame.2
    · rfl

theorem view_reconcile (resources : List RuntimeResource) :
    (reconcile observations resources).2.map view = resources.map view := by
  induction resources generalizing observations with
  | nil => rfl
  | cons resource rest ih =>
    simp only [reconcile, List.map_cons, ih, view_stable]

theorem view_inventory :
    (inventory observations fresh resources).toOption.map (fun out => out.2.map view) =
      (list fresh resources).toOption.map (·.map view) := by
  unfold inventory
  cases list fresh resources with
  | error failure => rfl
  | ok listed => exact congrArg some (view_reconcile observations listed)

theorem isOk_inventory :
    (inventory observations fresh resources).isOk = (list fresh resources).isOk := by
  unfold inventory
  cases list fresh resources <;> rfl

theorem mem_ofKind {resources : List Resource} {resource : Resource} :
    resource ∈ ofKind .container resources ++ ofKind .volume resources ++
      ofKind .network resources ↔ resource ∈ resources := by
  simp only [ofKind, List.mem_append, List.mem_filter, decide_eq_true_eq]
  cases hkind : resource.kind <;> simp

theorem list_singleton :
    list fresh [resource] = listAll listResource fresh [resource] := by
  unfold list ofKind
  cases hkind : resource.kind <;> simp [hkind]

/-! ### One resource -/

theorem toOption_resourceIdentity :
    (resourceIdentity resource.kind resource.name).toOption =
      if nameRefused resource then none else some ⟨resource.kind, resource.name⟩ := by
  unfold resourceIdentity nameRefused ResourceIdentity.new
  split <;> rfl

/-- The label of a volume or a network, read strictly. -/
def labelledId (label : Option String) : Option (Option SandboxId) :=
  match label with
  | none => some none
  | some value => (readSandboxId value).toOption.map some

theorem toOption_strictLabel (operation : String) (label : Option String) :
    (strictLabel operation label).toOption = labelledId label := by
  unfold strictLabel labelledId
  cases label with
  | none => rfl
  | some value =>
    dsimp only
    cases readSandboxId value with
    | ok id => rfl
    | error failure => cases failure <;> rfl

theorem mapState_stateText (id : String) (state : ContainerState) :
    mapState id (stateText state) = .ok state := by
  cases state <;> rfl

/-- What the Apple backend reports. -/
def appleReport (resource : Resource) : Option (Option SandboxId × ResourceOwnership) :=
  let classify :=
    classifyResourceOwnership resource.kind resource.name resource.labels.managedBy
  if nameRefused resource then none
  else
    match resource.kind with
    | .container => (lenientLabel resource.labels.sandboxId).toOption.map fun label =>
      (claimedId resource.labels.managedBy label, classify label)
    | _ => (labelledId resource.labels.sandboxId).map fun id =>
      (id, classify (id.elim .absent .parsed))

/-- What the Arca backend reports. -/
def arcaReport (resource : Resource) : Option (Option SandboxId × ResourceOwnership) :=
  let owner := Arca.ownerOf resource.labels
  if nameRefused resource then none
  else (lenientLabel (owner.map (·.sandboxId))).toOption.map fun label =>
    (claimedId (owner.map (·.managedBy)) label,
      classifyResourceOwnership resource.kind resource.name (owner.map (·.managedBy)) label)

theorem view_runtimeResource (proof : Nat) (resource : Resource) :
    (Arca.runtimeResource proof resource).toOption.map view = arcaReport resource := by
  simp only [Arca.runtimeResource, arcaReport, toOption_bind, toOption_resourceIdentity]
  split
  · rfl
  · cases lenientLabel ((Arca.ownerOf resource.labels).map (·.sandboxId)) <;> rfl

/-- What the loop for volumes, or the one for networks, reports. -/
theorem view_listNamed (operation mismatch : String) (proof : Nat) (resource : Resource) :
    (listNamed resource.kind operation mismatch proof
      ⟨resource.name, resource.name, resource.labels⟩).toOption.map view =
      if nameRefused resource then none
      else (labelledId resource.labels.sandboxId).map fun id =>
        (id, classifyResourceOwnership resource.kind resource.name resource.labels.managedBy
          (id.elim .absent .parsed)) := by
  simp only [listNamed, toOption_bind, toOption_resourceIdentity, toOption_strictLabel,
    ne_eq, not_true_eq_false, if_false]
  cases labelledId resource.labels.sandboxId with
  | none => split <;> rfl
  | some id => split <;> rfl

theorem view_listContainer (proof : Nat) {resource : Resource}
    (hkind : resource.kind = .container) :
    (listContainer proof ⟨resource.name, resource.labels,
      stateText resource.state⟩).toOption.map view =
      if nameRefused resource then none
      else (lenientLabel resource.labels.sandboxId).toOption.map fun label =>
        (claimedId resource.labels.managedBy label,
          classifyResourceOwnership resource.kind resource.name resource.labels.managedBy
            label) := by
  have hname := toOption_resourceIdentity resource
  rw [hkind] at hname ⊢
  simp only [listContainer, toOption_bind, hname, mapState_stateText]
  cases lenientLabel resource.labels.sandboxId with
  | error failure => split <;> rfl
  | ok label => split <;> rfl

theorem view_listResource (proof : Nat) (resource : Resource) :
    (listResource proof resource).toOption.map view = appleReport resource := by
  unfold listResource appleReport
  cases hkind : resource.kind with
  | container => simpa only [hkind] using view_listContainer proof hkind
  | volume =>
    simpa only [listVolume, hkind] using
      view_listNamed "container volume list" "volume id and name differ"
      proof resource
  | network =>
    simpa only [listNetwork, hkind] using
      view_listNamed "container network list" "network id and name differ"
      proof resource

theorem uniform_listResource : Uniform listResource := fun proof resource =>
  (view_listResource proof resource).trans (view_listResource 0 resource).symm

theorem uniform_runtimeResource : Uniform Arca.runtimeResource := fun proof resource =>
  (view_runtimeResource proof resource).trans (view_runtimeResource 0 resource).symm

theorem reports_listResource : reports listResource resource = appleReport resource :=
  view_listResource 0 resource

theorem reports_runtimeResource : reports Arca.runtimeResource resource = arcaReport resource :=
  view_runtimeResource 0 resource

theorem isOk_inventory_iff :
    (inventory observations fresh resources).isOk = true ↔
      ∀ resource ∈ resources, (appleReport resource).isSome = true := by
  rw [isOk_inventory, list, isOk_listAll uniform_listResource]
  simp only [mem_ofKind, reports_listResource]

theorem isOk_runtimeResources_iff :
    (Arca.runtimeResources fresh resources).isOk = true ↔
      ∀ resource ∈ resources, (arcaReport resource).isSome = true := by
  rw [Arca.runtimeResources, isOk_listAll uniform_runtimeResource]
  simp only [reports_runtimeResource]

/-! ### Agreement -/

theorem seesAlike_iff_reports :
    SeesAlike resource ↔
      appleReport resource = arcaReport resource ∧
        ((appleReport resource.unlabelled).isSome = true →
          (appleReport resource).isSome = true) ∧
        ((arcaReport resource.unlabelled).isSome = true → (arcaReport resource).isSome = true) := by
  have happle (observations : Observations) (fresh : Nat) :
      (inventory observations fresh [resource]).toOption.map (fun out => out.2.map view) =
        (appleReport resource).map ([·]) := by
    rw [view_inventory, list_singleton, listAll_singleton uniform_listResource,
      reports_listResource]
  have harca (fresh : Nat) : (Arca.runtimeResources fresh [resource]).toOption.map (·.map view) =
      (arcaReport resource).map ([·]) := by
    rw [Arca.runtimeResources, listAll_singleton uniform_runtimeResource, reports_runtimeResource]
  have hinjective := Option.map_injective
    (List.singleton_injective (α := Option SandboxId × ResourceOwnership))
  constructor
  · intro h
    have hsame := h.same (fun _ => none) 0
    rw [happle, harca] at hsame
    exact ⟨hinjective hsame,
      (isolated_iff (isOk_inventory_iff (fun _ => none) 0) resource).1
        (h.isolatedApple (fun _ => none) 0),
      (isolated_iff (isOk_runtimeResources_iff 0) resource).1 (h.isolatedArca 0)⟩
  · rintro ⟨hsame, hisolated, hisolated'⟩
    exact
      { same := fun observations fresh => by rw [happle, harca, hsame]
        isolatedApple := fun observations fresh =>
          (isolated_iff (isOk_inventory_iff observations fresh) resource).2 hisolated
        isolatedArca := fun fresh =>
          (isolated_iff (isOk_runtimeResources_iff fresh) resource).2 hisolated' }

/-- The two backends see a resource alike exactly when its name is refused by both or its labels are
read alike. -/
theorem seesAlike_iff (resource : Resource) :
    SeesAlike resource ↔ nameRefused resource = true ∨ labelsAgree resource = true := by
  rw [seesAlike_iff_reports]
  have hunlabelled : nameRefused resource.unlabelled = nameRefused resource := rfl
  cases hrefused : nameRefused resource with
  | true => simp [appleReport, arcaReport, hrefused, hunlabelled]
  | false =>
    simp only [appleReport, arcaReport, hunlabelled, hrefused, labelsAgree]
    obtain ⟨kind, name, ⟨manager, label⟩, state⟩ := resource
    -- A label is absent, or it is an identity, is refused or panics.
    rcases label with _ | value
    rotate_left
    rcases hread : readSandboxId value with (message | _) | id
    all_goals
      rcases manager with _ | manager
      · cases kind <;> simp [Resource.unlabelled, Arca.ownerOf, lenientLabel, labelledId, claimedId,
          classifyResourceOwnership, Except.toOption, *]
      · by_cases hmanager : manager = managedBy <;> cases kind <;>
          simp [Resource.unlabelled, Arca.ownerOf, lenientLabel, labelledId, claimedId,
            classifyResourceOwnership, Except.toOption, *]

/-- A volume of another tool that labels it with an identity. -/
def foreignVolume : Resource :=
  ⟨.volume, "data", ⟨some "other-tool", some "demo-0123456789ab"⟩, .running⟩

def strayVolume : Resource := ⟨.volume, "stray", ⟨some "gascan", some "stray"⟩, .running⟩

/-- A container whose label has a character of two bytes across the place where it is split. -/
def slicedContainer : Resource :=
  ⟨.container, "sliced", ⟨some "gascan", some "aé00000000000"⟩, .running⟩

def ownContainer : Resource :=
  ⟨.container, "demo-0123456789ab", ⟨some "gascan", some "demo-0123456789ab"⟩, .running⟩

/-- The backends report a foreign volume differently, a stray label ends the listing of the Apple
backend, and a panic ends that of both. -/
theorem backends_differ :
    (inventory (fun _ => none) 0 [foreignVolume]).toOption.map (fun out => out.2.map view) ≠
        (Arca.runtimeResources 0 [foreignVolume]).toOption.map (·.map view) ∧
      (inventory (fun _ => none) 0 [ownContainer]).isOk = true ∧
      (inventory (fun _ => none) 0 [ownContainer, strayVolume]).isOk = false ∧
      (Arca.runtimeResources 0 [ownContainer, strayVolume]).isOk = true ∧
      (inventory (fun _ => none) 0 [ownContainer, slicedContainer]).isOk = false ∧
      (Arca.runtimeResources 0 [ownContainer, slicedContainer]).isOk = false := by
  decide +kernel

end Gascan.Backend
