import Gascan.Backend.Creation
import Gascan.Lib.Trace
import Gascan.Proofs.Translate

/-!
# `Gascan.Proofs.Creation`: a failed creation reports what it made

The commands of Apple's backend and their replies are noted in a log of `Event`s. A resource is
`Made` when the command that creates it succeeded. `right_createSandbox` says which made resources
stand in the evidence of a failure: those that the listing right after their command found
(`Checked`), and those that the last listing of the run shows (`Seen`). `Tracks` is the invariant.

`wp_createContainer` is about a container on retained volumes: once its command succeeded, a failure
has no evidence at all. In the same way, `Arca.createOutcome` drops what the engine listed when it
refuses a response that reports success.
-/

namespace Gascan

open Lib Lib.Prog List

/-! ### What evidence keeps -/

/-- Whether resources include one of an identity that the sandbox owns. -/
def Shows (id : SandboxId) (resources : List RuntimeResource) (identity : ResourceIdentity) :
    Prop :=
  ∃ resource ∈ resources, resource.identity = identity ∧ resource.ownedBy id = true

variable {identity : ResourceIdentity} {resources : List RuntimeResource} {source : RuntimeError}

variable {id : SandboxId} {rest : List RuntimeResource} {request : CreateRequest}

theorem shows_cons {resource : RuntimeResource} :
    Shows id (resource :: rest) identity ↔
      (resource.identity = identity ∧ resource.ownedBy id = true) ∨ Shows id rest identity := by
  simp [Shows]

theorem shows_append {first : List RuntimeResource} :
    Shows id (first ++ rest) identity ↔ Shows id first identity ∨ Shows id rest identity := by
  simp [Shows, or_and_right, exists_or]

theorem not_shows_nil : ¬ Shows id [] identity := by
  simp [Shows]

theorem shows_validEvidence (created : List RuntimeResource) (seen : List ResourceIdentity) :
    Shows request.id (validEvidence request seen created) identity ↔
      identity ∉ seen ∧ request.allows identity = true ∧ Shows request.id created identity := by
  induction created generalizing seen with
  | nil => simp [validEvidence, Shows]
  | cons resource rest ih =>
    rw [shows_cons, validEvidence]
    split
    next hkept =>
      simp only [Bool.and_eq_true, Bool.not_eq_true', contains_eq_mem,
        decide_eq_false_iff_not] at hkept
      obtain ⟨⟨hallowed, howned⟩, hnew⟩ := hkept
      rw [shows_cons, ih, mem_cons]
      by_cases hsame : resource.identity = identity
      · subst hsame
        simp [hallowed, howned, hnew]
      · simp [hsame, Ne.symm hsame]
    next hdropped =>
      rw [ih]
      -- What is dropped is not allowed, not owned, or was seen before.
      constructor
      · rintro ⟨hnew, hallowed, hrest⟩
        exact ⟨hnew, hallowed, Or.inr hrest⟩
      · rintro ⟨hnew, hallowed, ⟨rfl, howned⟩ | hrest⟩
        · simp [hallowed, howned, hnew] at hdropped
        · exact ⟨hnew, hallowed, hrest⟩

/-- The evidence of a failure: what was made, is allowed and is owned. -/
theorem shows_fromCreatedEvidence {created : List RuntimeResource} :
    Shows request.id (CreateFailure.fromCreatedEvidence request created source).created identity ↔
      request.allows identity = true ∧ Shows request.id created identity := by
  rw [CreateFailure.fromCreatedEvidence, shows_validEvidence]
  simp

namespace Backend.Apple

/-! ### The log of a run -/

/-- A command of the backend with its reply. -/
inductive Event where
  | ran (spec : CommandSpec) (result : Except RuntimeError Unit)
  | listed (result : Except RuntimeError (List RuntimeResource))

def deeds : (c : Cmd) → Reply c → List Event
  | .run spec, result => [.ran spec result]
  | .inventory, result => [.listed result]

/-- A script of results: what the runner and the inventory reply at each command. -/
abbrev Script : Type := List ((c : Cmd) → Reply c)

/-- The run of a program under a script, with its log. -/
def replay {α : Type} (p : Io α) (script : Script) : Prog.Outcome CreateFailure α × List Event :=
  p.run (Prog.answer deeds) (script.map fun replies => { choice := replies }) []

variable (request : CreateRequest) (canonicalize : Path → Option Path)

/-- The resource that a command creates. -/
def createdBy (spec : CommandSpec) : Option ResourceIdentity :=
  if request.network.managedName.map (networkCommand request) = some spec then
    allowedNetwork request
  else
    match request.volumes.find? (volumeCommand request · = spec) with
    | some volume => some ⟨.volume, volume.name⟩
    | none =>
      if (Apple.create canonicalize request).toOption = some spec then
        some ⟨.container, request.id.value⟩
      else none

/-- The resource that an event reports as created. -/
def Event.made : Event → Option ResourceIdentity
  | .ran spec (.ok ()) => createdBy request canonicalize spec
  | _ => none

/-- Whether the event is a listing in which the first resource of an identity is owned. -/
def Event.Finds (identity : ResourceIdentity) : Event → Prop
  | .listed (.ok resources) =>
    ∃ resource, resources.find? (·.identity = identity) = some resource ∧
      resource.ownedBy request.id = true
  | _ => False

/-- Whether the event is a listing that shows an owned resource of an identity. -/
def Event.Shows (identity : ResourceIdentity) : Event → Prop
  | .listed (.ok resources) => Gascan.Shows request.id resources identity
  | _ => False

/-- A command that creates the resource succeeded. -/
def Made (log : List Event) (identity : ResourceIdentity) : Prop :=
  ∃ event ∈ log, event.made request canonicalize = some identity

/-- Right after the command that created the resource, a listing found it. -/
def Checked (identity : ResourceIdentity) : List Event → Prop
  | [] => False
  | event :: rest =>
    (event.made request canonicalize = some identity ∧
      ∃ next ∈ rest.head?, next.Finds request identity) ∨
    (event.made request canonicalize ≠ some identity ∧ Checked identity rest)

/-- The last command of the run was a listing that shows the resource. -/
def Seen (log : List Event) (identity : ResourceIdentity) : Prop :=
  ∃ last ∈ log.getLast?, last.Shows request identity

variable {request} {canonicalize} {log : List Event} {identity : ResourceIdentity}

variable {rest : List Event} {α : Type} {Q : α → List Event → Prop} {resource : RuntimeResource}
  {image : String} {script : Script}

theorem made_append :
    Made request canonicalize (log ++ rest) identity ↔
      Made request canonicalize log identity ∨ Made request canonicalize rest identity := by
  simp [Made, or_and_right, exists_or]

theorem Checked.append (h : Checked request canonicalize identity log) (rest : List Event) :
    Checked request canonicalize identity (log ++ rest) := by
  induction log with
  | nil => exact h.elim
  | cons event log ih =>
    rcases h with ⟨hmade, next, hnext, hfinds⟩ | ⟨hother, hlater⟩
    · cases log with
      | nil => cases hnext
      | cons _ _ => exact Or.inl ⟨hmade, next, hnext, hfinds⟩
    · exact Or.inr ⟨hother, ih hlater⟩

/-- Commands that did not create the resource do not matter. -/
theorem checked_append_iff (h : ¬ Made request canonicalize log identity) :
    Checked request canonicalize identity (log ++ rest) ↔
      Checked request canonicalize identity rest := by
  induction log with
  | nil => rfl
  | cons event log ih =>
    have hother : event.made request canonicalize ≠ some identity := fun hmade =>
      h ⟨event, mem_cons_self .., hmade⟩
    have hlog : ¬ Made request canonicalize log identity := fun ⟨e, he, hmade⟩ =>
      h ⟨e, mem_cons_of_mem _ he, hmade⟩
    rw [cons_append, Checked, ih hlog]
    simp [hother]

/-! ### What a run keeps -/

variable (request) (canonicalize)

/-- What holds between two steps of a creation: everything made so far is in `created`, and it was
found by the listing that followed its command. -/
structure Tracks (created : List RuntimeResource) (log : List Event) : Prop where
  owned : ∀ resource ∈ created, resource.ownedBy request.id = true
  allowed : ∀ resource ∈ created, request.allows resource.identity = true
  made : ∀ identity, Made request canonicalize log identity → Shows request.id created identity
  checked : ∀ identity, Made request canonicalize log identity →
    Checked request canonicalize identity log

/-- The evidence of a failure has, of what was made, exactly what a listing confirmed. -/
def Reports (failure : CreateFailure) (log : List Event) : Prop :=
  ∀ identity, Made request canonicalize log identity →
    (Shows request.id failure.created identity ↔
      Checked request canonicalize identity log ∨ Seen request log identity)

/-- The weakest precondition of a creation under any replies, when its failures report. -/
def Right {α : Type} (p : Io α) (Q : α → List Event → Prop) (log : List Event) : Prop :=
  p.wp (Prog.answer deeds) Prog.anyReply (fun _ _ => True) Q (Reports request canonicalize) log

/-- A resource that a step of the creation is about. -/
structure Target (before : List RuntimeResource) (spec : CommandSpec)
    (identity : ResourceIdentity) : Prop where
  creates : createdBy request canonicalize spec = some identity
  valid : ResourceIdentity.new identity.kind identity.name = .ok identity
  allowed : request.allows identity = true
  named : ∀ resource : RuntimeResource, resource.identity = identity →
    usesName request resource = true
  fresh : ∀ resource ∈ before, resource.identity ≠ identity

variable {request} {canonicalize} {created before : List RuntimeResource} {spec : CommandSpec}

theorem not_made_of_quiet (h : ∀ event ∈ log, event.made request canonicalize = none) :
    ¬ Made request canonicalize log identity := by
  rintro ⟨event, hevent, hmade⟩
  rw [h event hevent] at hmade
  cases hmade

theorem tracks_nil (h : ∀ event ∈ log, event.made request canonicalize = none) :
    Tracks request canonicalize [] log :=
  ⟨nofun, nofun, fun _ hmade => (not_made_of_quiet h hmade).elim,
    fun _ hmade => (not_made_of_quiet h hmade).elim⟩

theorem Tracks.append (h : Tracks request canonicalize created log)
    (hrest : ∀ event ∈ rest, event.made request canonicalize = none) :
    Tracks request canonicalize created (log ++ rest) := by
  have hmade : ∀ identity, Made request canonicalize (log ++ rest) identity →
      Made request canonicalize log identity := fun identity hmade =>
    (made_append.1 hmade).resolve_right (not_made_of_quiet hrest)
  exact ⟨h.owned, h.allowed, fun identity hlog => h.made identity (hmade identity hlog),
    fun identity hlog => (h.checked identity (hmade identity hlog)).append rest⟩

theorem Tracks.allows (h : Tracks request canonicalize created log)
    (hmade : Made request canonicalize log identity) : request.allows identity = true := by
  obtain ⟨resource, hresource, rfl, -⟩ := h.made identity hmade
  exact h.allowed resource hresource

/-- A failure that reports all that was created so far is right. -/
theorem Tracks.reports (h : Tracks request canonicalize created log)
    {reported : List RuntimeResource} (hreported : ∀ identity, Shows request.id created identity →
      Shows request.id reported identity) :
    Reports request canonicalize (.fromCreatedEvidence request reported source) log := by
  intro identity hmade
  rw [shows_fromCreatedEvidence]
  exact iff_of_true ⟨h.allows hmade, hreported identity (h.made identity hmade)⟩
    (Or.inl (h.checked identity hmade))

/-- The loop of `reconcile_created` keeps what was created. -/
theorem shows_addCreated_of_shows (current : List RuntimeResource)
    (h : Shows request.id created identity) :
    Shows request.id (addCreated request before created current) identity := by
  induction current generalizing created with
  | nil => exact h
  | cons resource rest ih =>
    rw [addCreated]
    split
    · exact ih (shows_append.2 (Or.inl h))
    · exact ih h

/-- The loop adds a resource of the target exactly if the current inventory shows one. -/
theorem Target.shows_addCreated (h : Target request canonicalize before spec identity)
    (current : List RuntimeResource)
    (howned : ∀ resource ∈ created, resource.ownedBy request.id = true) :
    Shows request.id (addCreated request before created current) identity ↔
      Shows request.id created identity ∨ Shows request.id current identity := by
  induction current generalizing created with
  | nil => simp [addCreated, Shows]
  | cons resource rest ih =>
    rw [addCreated, shows_cons]
    split
    next hadded =>
      simp only [Bool.and_eq_true] at hadded
      have hnext : ∀ r ∈ created ++ [resource], r.ownedBy request.id = true :=
        forall_mem_append.2 ⟨howned, forall_mem_singleton.2 hadded.1.1.1⟩
      rw [ih hnext, shows_append, shows_cons, or_assoc, or_assoc]
      simp [Shows]
    next hskipped =>
      rw [ih howned]
      -- A skipped resource of the target is not owned, or it stands in `created` already.
      constructor
      · rintro (hshown | hshown)
        · exact Or.inl hshown
        · exact Or.inr (Or.inr hshown)
      · rintro (hshown | ⟨hidentity, hmine⟩ | hshown)
        · exact Or.inl hshown
        · have hfresh : before.any (·.identity = resource.identity) = false := by
            rw [any_eq_false]
            intro r hr
            rw [hidentity]
            simpa using h.fresh r hr
          simp only [hmine, hfresh, h.named resource hidentity, Bool.not_false, Bool.and_self,
            Bool.true_and, Bool.not_eq_true', Bool.not_eq_false, any_eq_true,
            decide_eq_true_eq] at hskipped
          obtain ⟨r, hr, hsame⟩ := hskipped
          exact Or.inl ⟨r, hr, hsame.trans hidentity, howned r hr⟩
        · exact Or.inr hshown

/-! ### The steps of a creation -/

/-- Looking once more before failing keeps a report right, when nothing is unconfirmed. -/
theorem Tracks.failReconciled (h : Tracks request canonicalize created log) (error : RuntimeError) :
    Right request canonicalize (failReconciled request before created error) Q log := by
  refine wp_answer fun reply => ?_
  have htracks : Tracks request canonicalize created (log ++ deeds .inventory reply) :=
    h.append (by simp [deeds, Event.made])
  cases reply with
  | error _ => exact htracks.reports fun _ hshown => hshown
  | ok current => exact htracks.reports fun _ hshown => shows_addCreated_of_shows current hshown

/-- A step makes its target, if what follows the command makes nothing. -/
theorem Target.made_of_append (h : Target request canonicalize before spec identity)
    (hquiet : ∀ event ∈ rest, event.made request canonicalize = none) {other : ResourceIdentity}
    (hmade : Made request canonicalize (log ++ .ran spec (.ok ()) :: rest) other) :
    Made request canonicalize log other ∨ other = identity := by
  rcases made_append.1 hmade with hold | ⟨event, hevent, hmade⟩
  · exact Or.inl hold
  · rcases mem_cons.1 hevent with rfl | hevent
    · exact Or.inr (Option.some.inj (hmade.symm.trans h.creates))
    · exact (not_made_of_quiet hquiet ⟨event, hevent, hmade⟩).elim

section

variable (h : Target request canonicalize before spec identity)
  (htracks : Tracks request canonicalize created log) (hnew : ¬ Shows request.id created identity)

include h htracks hnew

/-- A resource that was made and not found is reported exactly if the last listing shows it. -/
theorem Target.failReconciled {result : Event} (hquiet : result.made request canonicalize = none)
    (hmissed : ¬ result.Finds request identity) (error : RuntimeError) :
    Right request canonicalize (Apple.failReconciled request before created error) Q
      (log ++ [.ran spec (.ok ()), result]) := by
  refine wp_answer fun reply => ?_
  have hunmade : ¬ Made request canonicalize log identity := fun hmade =>
    hnew (htracks.made identity hmade)
  have hmadeBy : (Event.ran spec (.ok ())).made request canonicalize = some identity := h.creates
  have hlog : log ++ [.ran spec (.ok ()), result] ++ deeds .inventory reply =
      log ++ [.ran spec (.ok ()), result, .listed reply] := by
    simp [deeds]
  rw [hlog]
  -- The evidence of the resource itself comes from this last listing only.
  have hself : ∀ reported : List RuntimeResource,
      (Shows request.id reported identity ↔
        Seen request (log ++ [.ran spec (.ok ()), result, .listed reply]) identity) →
      (∀ other, Shows request.id created other → Shows request.id reported other) →
      Reports request canonicalize (.fromCreatedEvidence request reported error)
        (log ++ [.ran spec (.ok ()), result, .listed reply]) := by
    intro reported hseen hkept other hmade
    rw [shows_fromCreatedEvidence]
    by_cases hsame : other = identity
    · subst hsame
      rw [checked_append_iff hunmade, hseen]
      simp [Checked, hmadeBy, hmissed, h.allowed]
    · have hold : Made request canonicalize log other :=
        (h.made_of_append (forall_mem_cons.2 ⟨hquiet, forall_mem_singleton.2 rfl⟩)
          hmade).resolve_right hsame
      exact iff_of_true ⟨htracks.allows hold, hkept other (htracks.made other hold)⟩
        (Or.inl ((htracks.checked other hold).append _))
  cases reply with
  | error _ =>
    refine hself created ?_ fun _ hshown => hshown
    simp [hnew, Seen, Event.Shows]
  | ok current =>
    refine hself _ ?_ fun _ hshown => shows_addCreated_of_shows current hshown
    rw [h.shows_addCreated current htracks.owned]
    simp [hnew, Seen, Event.Shows]

/-- A resource that was made and found joins what was created. -/
theorem Target.tracks_push (hfound : resources.find? (·.identity = identity) = some resource)
    (howned : resource.ownedBy request.id = true) :
    Tracks request canonicalize (created ++ [resource])
      (log ++ [.ran spec (.ok ()), .listed (.ok resources)]) := by
  have hidentity : resource.identity = identity := by simpa using find?_some hfound
  have hunmade : ¬ Made request canonicalize log identity := fun hmade =>
    hnew (htracks.made identity hmade)
  have hmadeBy : (Event.ran spec (.ok ())).made request canonicalize = some identity := h.creates
  have hmade : ∀ other, Made request canonicalize
      (log ++ [.ran spec (.ok ()), .listed (.ok resources)]) other →
      Made request canonicalize log other ∨ other = identity :=
    fun _ => h.made_of_append (by simp [Event.made])
  refine ⟨?_, ?_, ?_, ?_⟩
  · simpa [or_imp, forall_and, howned] using htracks.owned
  · simpa [or_imp, forall_and, hidentity, h.allowed] using htracks.allowed
  · intro other hother
    rw [shows_append]
    rcases hmade other hother with hold | rfl
    · exact Or.inl (htracks.made other hold)
    · exact Or.inr ⟨resource, mem_singleton_self _, hidentity, howned⟩
  · intro other hother
    rcases hmade other hother with hold | rfl
    · exact (htracks.checked other hold).append _
    · rw [checked_append_iff hunmade]
      exact Or.inl ⟨hmadeBy, _, rfl, resource, hfound, howned⟩

/-- One step: the resource joins what was created, or the failure reports. -/
theorem Target.createResource :
    Right request canonicalize (createResource request before created spec identity)
      (fun resource log' => resource.identity = identity ∧
        Tracks request canonicalize (created ++ [resource]) log') log := by
  refine wp_answer fun reply => ?_
  cases reply with
  | error error =>
    have hfailed : Tracks request canonicalize created (log ++ [.ran spec (.error error)]) :=
      htracks.append (by simp [Event.made])
    dsimp only
    split
    · exact hfailed.failReconciled error
    · exact hfailed.reports fun _ hshown => hshown
  | ok result =>
    rw [h.valid]
    refine wp_answer fun reply => ?_
    have hlog : log ++ deeds (.run spec) (.ok result) ++ deeds .inventory reply =
        log ++ [.ran spec (.ok ()), .listed reply] := by
      simp [deeds]
    rw [hlog]
    have hfail : ¬ (Event.listed reply).Finds request identity → ∀ error,
        Right request canonicalize (Apple.failReconciled request before created error)
          (fun resource log' => resource.identity = identity ∧
            Tracks request canonicalize (created ++ [resource]) log')
          (log ++ [.ran spec (.ok ()), .listed reply]) := fun hmissed error =>
      h.failReconciled htracks hnew rfl hmissed error
    cases reply with
    | error error => exact hfail (fun hfinds => hfinds) error
    | ok resources =>
      simp only [currentFor, Except.map]
      cases hfound : resources.find? (·.identity = identity) with
      | none => exact hfail (by simp [Event.Finds, hfound]) _
      | some resource =>
        dsimp only
        split
        next howned =>
          exact ⟨by simpa using find?_some hfound,
            h.tracks_push htracks hnew hfound howned⟩
        next hforeign => exact hfail (by simp [Event.Finds, hfound, hforeign]) _

end

/-! ### The resources of a request -/

variable (request) in
/-- The names of the resources of a request are well formed, and those of its volumes differ. -/
structure Nameable : Prop where
  container : ResourceIdentity.new .container request.id.value = .ok ⟨.container, request.id.value⟩
  volume : ∀ volume ∈ request.volumes,
    ResourceIdentity.new .volume volume.name = .ok ⟨.volume, volume.name⟩
  network : ∀ name, request.network.managedName = some name →
    ResourceIdentity.new .network name = .ok ⟨.network, name⟩
  distinct : (request.volumes.map (·.name)).Nodup

variable {sandbox : SandboxSpec} {failure : CreateFailure} {E : CreateFailure → List Event → Prop}
  (recreate : RecreateRequest)

theorem nameable_of_issued (h : Issued sandbox image request) : Nameable request := by
  have hrequest := h.request
  refine ⟨?_, ?_, ?_, ?_⟩
  · simpa using ResourceIdentity.new_append .container "" (by decide) request.id
  · intro volume hvolume
    rw [hrequest.volumes] at hvolume
    simp only [managedVolumes, managedVolumeNames, map_cons, map_nil, zip_cons_cons,
      zip_nil_left, mem_cons, not_mem_nil, or_false] at hvolume
    rcases hvolume with rfl | rfl | rfl <;>
      exact ResourceIdentity.new_append .volume _ (by decide) sandbox.id
  · intro name hname
    rw [hrequest.network] at hname
    cases hmode : sandbox.manifest.network with
    | networked =>
      rw [hmode] at hname
      cases hname
      exact ResourceIdentity.new_append .network _ (by decide) sandbox.id
    | offline =>
      rw [hmode] at hname
      cases hname
  · have hnames : request.volumes.map (·.name) = managedVolumeNames sandbox.id.value := by
      rw [hrequest.volumes]
      rfl
    have hne : ∀ a b : String, a ≠ b → a ++ sandbox.id.value ≠ b ++ sandbox.id.value := by
      intro a b hab heq
      exact hab (by simpa using heq)
    rw [hnames]
    simp only [managedVolumeNames, map_cons, map_nil, nodup_cons, mem_cons,
      not_mem_nil, or_false, not_or, not_false_eq_true, nodup_nil, and_true]
    exact ⟨⟨hne _ _ (by decide), hne _ _ (by decide)⟩, hne _ _ (by decide)⟩

theorem fresh_of_unused (h : before.find? (usesName request) = none)
    (hnamed : ∀ resource : RuntimeResource, resource.identity = identity →
      usesName request resource = true) :
    ∀ resource ∈ before, resource.identity ≠ identity := by
  intro resource hresource hidentity
  exact find?_eq_none.1 h resource hresource (hnamed resource hidentity)

theorem target_network (h : Nameable request) (hbefore : before.find? (usesName request) = none)
    {name : String} (hname : request.network.managedName = some name) :
    Target request canonicalize before (networkCommand request name) ⟨.network, name⟩ := by
  have hnamed : ∀ resource : RuntimeResource, resource.identity = ⟨.network, name⟩ →
      usesName request resource = true := by
    intro resource hidentity
    simp [usesName, hidentity, hname]
  refine ⟨?_, h.network name hname, ?_, hnamed, fresh_of_unused hbefore hnamed⟩
  · simp [createdBy, allowedNetwork, hname]
  · simp [CreateRequest.allows, allowedNetwork, hname]

theorem networkCommand_ne {name : String} (hhead : spec.args.head? ≠ some "network") :
    networkCommand request name ≠ spec := by
  rintro rfl
  exact hhead rfl

theorem createdBy_of_head (hhead : spec.args.head? ≠ some "network") :
    createdBy request canonicalize spec =
      match request.volumes.find? (volumeCommand request · = spec) with
      | some volume => some ⟨.volume, volume.name⟩
      | none =>
        if (Apple.create canonicalize request).toOption = some spec then
          some ⟨.container, request.id.value⟩
        else none := by
  have hother : request.network.managedName.map (networkCommand request) ≠ some spec := by
    intro hsame
    obtain ⟨name, -, hname⟩ := Option.map_eq_some_iff.1 hsame
    exact networkCommand_ne hhead hname
  rw [createdBy, if_neg hother]

theorem target_volume (h : Nameable request) (hbefore : before.find? (usesName request) = none)
    {volume : RuntimeVolume} (hvolume : volume ∈ request.volumes) :
    Target request canonicalize before (volumeCommand request volume) ⟨.volume, volume.name⟩ := by
  have hnamed : ∀ resource : RuntimeResource, resource.identity = ⟨.volume, volume.name⟩ →
      usesName request resource = true := by
    intro resource hidentity
    have hany : request.volumes.any (·.name = volume.name) = true :=
      any_eq_true.2 ⟨volume, hvolume, decide_eq_true rfl⟩
    simp [usesName, hidentity, hany]
  refine ⟨?_, h.volume volume hvolume, ?_, hnamed, fresh_of_unused hbefore hnamed⟩
  · rw [createdBy_of_head (by simp [volumeCommand])]
    cases hfound :
      request.volumes.find? (volumeCommand request · = volumeCommand request volume) with
    | none =>
      have hnone := find?_eq_none.1 hfound volume hvolume
      simp at hnone
    | some found =>
      -- Two volumes with the same command have the same name.
      have hsame : volumeCommand request found = volumeCommand request volume := by
        simpa using find?_some hfound
      have hname : found.name = volume.name := by
        simp only [volumeCommand, ownerArguments, CommandSpec.mk.injEq] at hsame
        have hrest := (append_inj hsame.2.1 rfl).2
        simp only [List.cons.injEq, and_true, true_and] at hrest
        exact hrest.2
      simp [hname]
  · simp only [CreateRequest.allows, Bool.or_eq_true]
    exact Or.inl (Or.inr (by simpa using ⟨volume, hvolume, rfl⟩))

theorem head_create (h : Apple.create canonicalize request = .ok spec) :
    spec.args.head? = some "run" := by
  unfold Apple.create at h
  obtain ⟨_, -, h⟩ := bind_eq_ok.1 h
  obtain ⟨_, -, h⟩ := bind_eq_ok.1 h
  obtain ⟨_, -, h⟩ := bind_eq_ok.1 h
  obtain ⟨_, -, h⟩ := bind_eq_ok.1 h
  cases h
  rfl

theorem createdBy_container (h : Apple.create canonicalize request = .ok spec) :
    createdBy request canonicalize spec = some ⟨.container, request.id.value⟩ := by
  have hhead := head_create h
  have hnone : request.volumes.find? (volumeCommand request · = spec) = none := by
    rw [find?_eq_none]
    intro volume _ hsame
    rw [← of_decide_eq_true hsame] at hhead
    simp [volumeCommand] at hhead
  rw [createdBy_of_head (by rw [hhead]; decide), hnone]
  simp [h, Except.toOption]

theorem target_container (h : Nameable request) (hbefore : before.find? (usesName request) = none)
    (hspec : Apple.create canonicalize request = .ok spec) :
    Target request canonicalize before spec ⟨.container, request.id.value⟩ := by
  have hnamed : ∀ resource : RuntimeResource,
      resource.identity = ⟨.container, request.id.value⟩ → usesName request resource = true := by
    intro resource hidentity
    simp [usesName, hidentity]
  refine ⟨createdBy_container hspec, h.container, ?_, hnamed, fresh_of_unused hbefore hnamed⟩
  simp [CreateRequest.allows]

/-! ### Whole runs of a creation -/

theorem not_shows_push (h : ¬ Shows request.id created identity)
    (hother : resource.identity ≠ identity) :
    ¬ Shows request.id (created ++ [resource]) identity := by
  rw [shows_append, shows_cons]
  rintro (hshown | ⟨hsame, -⟩ | hshown)
  · exact h hshown
  · exact hother hsame
  · exact not_shows_nil hshown

theorem right_createNetwork (h : Nameable request)
    (hbefore : before.find? (usesName request) = none)
    (htracks : Tracks request canonicalize [] log) :
    Right request canonicalize (createNetwork request before)
      (fun created log' => Tracks request canonicalize created log' ∧
        ∀ identity : ResourceIdentity, identity.kind ≠ .network →
          ¬ Shows request.id created identity) log := by
  unfold createNetwork
  cases hname : request.network.managedName with
  | none => exact ⟨htracks, fun _ _ => not_shows_nil⟩
  | some name =>
    refine wp_seq ((target_network h hbefore hname).createResource htracks not_shows_nil) ?_
    rintro resource log' ⟨hidentity, hpushed⟩
    refine ⟨hpushed, fun identity hkind => not_shows_push not_shows_nil ?_⟩
    rintro rfl
    exact hkind (by rw [hidentity])

/-- The loop over the volumes, by induction on those still to be made. -/
theorem right_createVolumes (h : Nameable request)
    (hbefore : before.find? (usesName request) = none) (rest : List RuntimeVolume)
    (hrest : ∀ volume ∈ rest, volume ∈ request.volumes) (hdistinct : (rest.map (·.name)).Nodup)
    (hcontainer : ¬ Shows request.id created ⟨.container, request.id.value⟩)
    (hnew : ∀ volume ∈ rest, ¬ Shows request.id created ⟨.volume, volume.name⟩)
    (htracks : Tracks request canonicalize created log) :
    Right request canonicalize (createVolumes request before created rest)
      (fun created log' => Tracks request canonicalize created log' ∧
        ¬ Shows request.id created ⟨.container, request.id.value⟩) log := by
  induction rest generalizing created log with
  | nil => exact ⟨htracks, hcontainer⟩
  | cons volume rest ih =>
    rw [map_cons, nodup_cons] at hdistinct
    have htarget : Target request canonicalize before (volumeCommand request volume)
        ⟨.volume, volume.name⟩ := target_volume h hbefore (hrest volume (mem_cons_self ..))
    refine wp_seq
      (htarget.createResource htracks (hnew volume (mem_cons_self ..))) ?_
    rintro resource log' ⟨hidentity, hpushed⟩
    refine ih (fun v hv => hrest v (mem_cons_of_mem _ hv)) hdistinct.2 ?_ ?_ hpushed
    · refine not_shows_push hcontainer ?_
      rw [hidentity]
      simp
    · intro v hv
      refine not_shows_push (hnew v (mem_cons_of_mem _ hv)) ?_
      rw [hidentity]
      intro hsame
      have hname : volume.name = v.name := congrArg ResourceIdentity.name hsame
      exact hdistinct.1 (mem_map.2 ⟨v, hv, hname.symm⟩)

/-- Every failure of `Apple.createSandbox` reports what it made and a listing confirmed. -/
theorem right_createSandbox (h : Nameable request) :
    Right request canonicalize (createSandbox request canonicalize) (fun _ _ => True) [] := by
  refine wp_answer fun reply => ?_
  have hstart : Tracks request canonicalize [] ([] ++ deeds .inventory reply) :=
    tracks_nil (by simp [deeds, Event.made])
  have hsource : ∀ error, Reports request canonicalize (.fromSource error)
      ([] ++ deeds .inventory reply) := fun error identity hmade =>
    (not_shows_nil (hstart.made identity hmade)).elim
  cases reply with
  | error error => exact hsource error
  | ok before =>
    dsimp only
    cases hbefore : before.find? (usesName request) with
    | some resource => exact hsource _
    | none =>
      refine wp_seq (right_createNetwork h hbefore hstart) ?_
      rintro created log ⟨htracks, hothers⟩
      refine wp_seq (right_createVolumes h hbefore request.volumes (fun _ hv => hv)
        h.distinct (hothers _ (by simp)) (fun _ _ => hothers _ (by simp)) htracks) ?_
      rintro created log ⟨htracks, hcontainer⟩
      cases hspec : Apple.create canonicalize request with
      | error error => exact htracks.reports fun _ hshown => hshown
      | ok spec =>
        refine wp_seq
          ((target_container h hbefore hspec).createResource htracks hcontainer) ?_
        rintro resource log ⟨-, hpushed⟩
        cases CreateOutcome.new request (created ++ [resource]) with
        | ok outcome => trivial
        | error error => exact hpushed.reports fun _ hshown => hshown

/-! ### A container on retained volumes -/

variable (request) (canonicalize) in
/-- A failure has evidence only if nothing was made. -/
def Forgets (failure : CreateFailure) (log : List Event) : Prop :=
  ∀ identity, Made request canonicalize log identity → failure.created = []

theorem forgets_fromSource (error : RuntimeError) :
    Forgets request canonicalize (.fromSource error) log := fun _ _ => rfl

theorem forgets_of_quiet (h : ∀ event ∈ log, event.made request canonicalize = none) :
    Forgets request canonicalize failure log :=
  fun _ hmade => (not_made_of_quiet h hmade).elim

theorem wp_reconcileRecreatedContainer (h : ∀ event ∈ log, event.made request canonicalize = none) :
    (reconcileRecreatedContainer recreate).wp (Prog.answer deeds) Prog.anyReply (fun _ _ => True)
      (fun _ log' => ∀ event ∈ log', event.made request canonicalize = none) E log := by
  unfold reconcileRecreatedContainer
  split
  · exact h
  · refine wp_answer fun reply => ?_
    have hlisted : ∀ event ∈ log ++ deeds .inventory reply,
        event.made request canonicalize = none := by
      simpa [deeds, or_imp, forall_and, Event.made] using h
    split
    · split <;> exact hlisted
    · exact hlisted

theorem wp_confirmContainer :
    (confirmContainer recreate).wp (Prog.answer deeds) Prog.anyReply (fun _ _ => True)
      (fun _ _ => True) (Forgets request canonicalize) log := by
  unfold confirmContainer
  split
  · exact forgets_fromSource _
  · refine wp_answer fun reply => ?_
    split
    · split
      · split
        · trivial
        · exact forgets_fromSource _
      · exact forgets_fromSource _
    · exact forgets_fromSource _
    · exact forgets_fromSource _

/-- Once the command of a container on retained volumes succeeded, no failure has evidence. -/
theorem wp_createContainer :
    (createContainer canonicalize recreate).wp (Prog.answer deeds) Prog.anyReply (fun _ _ => True)
      (fun _ _ => True) (Forgets recreate.create canonicalize) [] := by
  refine wp_answer fun reply => ?_
  cases reply with
  | error error => exact forgets_fromSource _
  | ok inventory =>
    dsimp only
    split
    · exact forgets_fromSource _
    · split
      · exact forgets_fromSource _
      · split
        · exact forgets_fromSource _
        next spec _ =>
          refine wp_answer fun reply => ?_
          cases reply with
          | error error =>
            -- The command did not succeed, so nothing was made, whatever is listed later.
            have hquiet : ∀ event ∈ [] ++ deeds .inventory (.ok inventory) ++
                deeds (.run spec) (.error error),
                event.made recreate.create canonicalize = none := by
              simp [deeds, Event.made]
            dsimp only
            split
            · exact wp_seq (wp_reconcileRecreatedContainer recreate hquiet)
                fun _ _ hlater => forgets_of_quiet hlater
            · exact forgets_of_quiet hquiet
          | ok result => exact wp_confirmContainer recreate

variable (request) (canonicalize) in
/-- Whatever was made and is shown at the end stands in the evidence. -/
def Remembers (final : List RuntimeResource) (failure : CreateFailure) (log : List Event) : Prop :=
  ∀ identity, Made request canonicalize log identity → Shows request.id final identity →
    Shows request.id failure.created identity

theorem of_threw {p : Io α} (hp : p.wp (Prog.answer deeds) Prog.anyReply (fun _ _ => True) Q E [])
    (hrun : replay p script = (.threw failure, log)) : E failure log := by
  have hrespects : p.Respects (Prog.answer deeds) Prog.anyReply
      (script.map fun replies => { choice := replies }) [] := by
    refine respects_of_quiet (fun _ => rfl) (fun _ _ _ => trivial) ?_ p []
    simp
  have hend := wp_run p _ hp hrespects
  rw [← replay, hrun] at hend
  exact hend

end Backend.Apple

/-! ### The engine's answer -/

namespace Backend.Arca

/-- The resources that a response lists. -/
def CreateResponse.listed : CreateResponse → List Resource
  | .created listed => listed
  | .failed _ listed => listed
  | .unset => []

/-- A resource that the request names and its sandbox owns. -/
def Named (request : CreateRequest) (resource : RuntimeResource) : Prop :=
  resource.ownedBy request.id = true ∧ request.allows resource.identity = true

theorem createOutcome_reports {path : CreatePath} {operation : String} {fresh : Nat}
    {response : CreateResponse} {failure : CreateFailure}
    (hlisted : runtimeResources fresh response.listed = .ok resources)
    (hfailure : createOutcome path operation fresh response = some (.error failure)) :
    (∀ resource ∈ resources, Named path.request resource →
        Shows path.request.id failure.created resource.identity) ↔
      (∃ error listed, response = .failed error listed) ∨
        ∀ resource ∈ resources, ¬ Named path.request resource := by
  -- Without evidence, nothing that the request names may be listed.
  have hempty : failure.created = [] →
      ((∀ resource ∈ resources, Named path.request resource →
          Shows path.request.id failure.created resource.identity) ↔
        ∀ resource ∈ resources, ¬ Named path.request resource) := by
    intro hnone
    rw [hnone]
    exact forall_congr' fun _ => forall_congr' fun _ =>
      ⟨fun hshown hnamed => not_shows_nil (hshown hnamed), fun hnot hnamed => (hnot hnamed).elim⟩
  cases response with
  | created listed =>
    simp only [CreateResponse.listed] at hlisted
    simp only [createOutcome, hlisted, Option.some.injEq] at hfailure
    have hnone : failure.created = [] := by
      cases houtcome : path.outcome resources with
      | ok outcome =>
        rw [houtcome] at hfailure
        cases hfailure
      | error error =>
        rw [houtcome] at hfailure
        cases hfailure
        rfl
    rw [hempty hnone]
    simp
  | failed error listed =>
    simp only [CreateResponse.listed] at hlisted
    simp only [createOutcome, hlisted, Option.some.injEq, Except.error.injEq] at hfailure
    subst hfailure
    refine iff_of_true ?_ (Or.inl ⟨error, listed, rfl⟩)
    rintro resource hresource ⟨howned, hallowed⟩
    exact shows_fromCreatedEvidence.2 ⟨hallowed, resource, hresource, rfl, howned⟩
  | unset =>
    cases hfailure
    rw [hempty rfl]
    simp

end Backend.Arca

namespace Backend.Apple

/-! ### What a failed creation remembers -/

/-- When a failed creation remembers what it made. A creation from nothing does if each resource
that is shown at the end was found right after its command, or by the last listing. A container on
retained volumes is never remembered once its command succeeded. And Arca's backend remembers what
the engine lists unless the engine reports success. -/
theorem creation_remembers_iff {sandbox : SandboxSpec} {image : String} {request : CreateRequest}
    (h : Issued sandbox image request) (canonicalize : Path → Option Path) :
    (∀ (script : Script) (failure : CreateFailure) (log : List Event)
        (final : List RuntimeResource),
      replay (createSandbox request canonicalize) script = (.threw failure, log) →
      (Remembers request canonicalize final failure log ↔
        ∀ identity, Made request canonicalize log identity → Shows request.id final identity →
          Checked request canonicalize identity log ∨ Seen request log identity)) ∧
    (∀ (recreate : RecreateRequest) (script : Script) (failure : CreateFailure)
        (log : List Event) (final : List RuntimeResource),
      replay (createContainer canonicalize recreate) script = (.threw failure, log) →
      (Remembers recreate.create canonicalize final failure log ↔
        ∀ identity, Made recreate.create canonicalize log identity →
          ¬ Shows recreate.create.id final identity)) ∧
    (∀ (path : Arca.CreatePath) (operation : String) (fresh : Nat)
        (response : Arca.CreateResponse) (resources : List RuntimeResource)
        (failure : CreateFailure),
      Arca.runtimeResources fresh response.listed = .ok resources →
      Arca.createOutcome path operation fresh response = some (.error failure) →
      ((∀ resource ∈ resources, Arca.Named path.request resource →
          Shows path.request.id failure.created resource.identity) ↔
        (∃ error listed, response = .failed error listed) ∨
          ∀ resource ∈ resources, ¬ Arca.Named path.request resource)) := by
  refine ⟨?_, ?_, ?_⟩
  · intro script failure log final hrun
    have hreports : Reports request canonicalize failure log :=
      of_threw (right_createSandbox (nameable_of_issued h)) hrun
    exact forall_congr' fun identity => forall_congr' fun hmade => forall_congr' fun _ =>
      hreports identity hmade
  · intro recreate script failure log final hrun
    have hempty := of_threw (wp_createContainer recreate) hrun
    refine forall_congr' fun identity => forall_congr' fun hmade => ?_
    rw [hempty identity hmade]
    exact ⟨fun hshown hfinal => not_shows_nil (hshown hfinal),
      fun hnone hfinal => (hnone hfinal).elim⟩
  · intro path operation fresh response resources failure hlisted hfailure
    exact Arca.createOutcome_reports hlisted hfailure

/-- The replies of one step of a script. -/
def replies (ran : Except RuntimeError Unit) (listed : Except RuntimeError (List RuntimeResource)) :
    (c : Cmd) → Reply c
  | .run _ => ran
  | .inventory => listed

/-- A resource of the plain sandbox. -/
def plainResource (kind : ResourceKind) (name : String) : RuntimeResource where
  identity := ⟨kind, name⟩
  sandboxId := some (plainSpec .workspace "/work/plain").id
  ownership := .gasCanOwned
  removalProof := 0

def plainNetwork : RuntimeResource :=
  plainResource .network (managedNetworkName (plainSpec .workspace "/work/plain").id)

def plainRetained : List RuntimeResource :=
  plainNetwork :: (managedVolumeNames "plain-0123456789ab").map (plainResource .volume)

def volumeFails : Script :=
  [replies (.ok ()) (.ok []), replies (.ok ()) (.ok []), replies (.ok ()) (.ok [plainNetwork]),
    replies (.error (.commandFailed "volume create" (some 1) "")) (.ok [])]

theorem plainNetwork_remembered :
    ∃ request failure log, plainRequest .workspace "/work/plain" = .ok request ∧
      replay (createSandbox request some) volumeFails = (.threw failure, log) ∧
      Made request some log plainNetwork.identity ∧
      Remembers request some [plainNetwork] failure log := by
  obtain ⟨request, hrequest⟩ := isOk_iff.1
    (show (plainRequest .workspace "/work/plain").isOk = true by decide +kernel)
  have hissued : Issued (plainSpec .workspace "/work/plain") plainImage request :=
    .compiled hrequest
  have hname : request.network.managedName = some plainNetwork.identity.name := by
    rw [hissued.request.network]
    rfl
  have howned : plainNetwork.ownedBy request.id = true := by
    rw [hissued.request.id]
    decide
  have hvolumes := hissued.request.volumes
  have hvalid : ResourceIdentity.new .network plainNetwork.identity.name =
      .ok plainNetwork.identity := (nameable_of_issued hissued).network _ hname
  obtain ⟨first, rest, hfirst⟩ : ∃ first rest, request.volumes = first :: rest :=
    ⟨_, _, hvolumes⟩
  have hrun : replay (createSandbox request some) volumeFails =
      (.threw (.fromCreatedEvidence request [plainNetwork]
          (.commandFailed "volume create" (some 1) "")),
        [.listed (.ok []), .ran (networkCommand request plainNetwork.identity.name) (.ok ()),
          .listed (.ok [plainNetwork]), .ran (volumeCommand request first)
            (.error (.commandFailed "volume create" (some 1) ""))]) := by
    simp [replay, createSandbox, createNetwork, createVolumes, createResource, volumeFails, replies,
      hname, hfirst, hvalid, howned, Prog.run, Prog.answer, deeds, currentFor, Except.map,
      isCommandIo]
  have hmade : (Event.ran (networkCommand request plainNetwork.identity.name) (.ok ())).made
      request some = some plainNetwork.identity := by
    simp [Event.made, createdBy, allowedNetwork, hname]
    rfl
  refine ⟨request, _, _, hrequest, hrun, ⟨_, by simp, hmade⟩, ?_⟩
  refine ((creation_remembers_iff hissued some).1 _ _ _ _ hrun).2 ?_
  rintro identity - ⟨resource, hresource, rfl, -⟩
  rw [mem_singleton.1 hresource]
  refine Or.inl (Or.inr ⟨by simp [Event.made], Or.inl ⟨hmade, _, rfl, plainNetwork, ?_, howned⟩⟩)
  simp

def listingFails : Script :=
  [replies (.ok ()) (.ok plainRetained), replies (.ok ()) (.ok []),
    replies (.ok ()) (.error (.commandIo "container list" "timed out"))]

/-- The container was made and is there, and the failure has no evidence of it. -/
theorem container_forgotten :
    ∃ request recreate failure log, plainRequest .workspace "/work/plain" = .ok request ∧
      RecreateRequest.create recreate = request ∧
      replay (createContainer some recreate) listingFails = (.threw failure, log) ∧
      failure.created = [] ∧
      Made request some log ⟨.container, request.id.value⟩ ∧
      Shows request.id [plainResource .container "plain-0123456789ab"]
        ⟨.container, request.id.value⟩ ∧
      ¬ Remembers request some [plainResource .container "plain-0123456789ab"] failure log := by
  obtain ⟨request, command, hrequest, hcommand, -⟩ :=
    plainRequest_created "/work/plain" (by decide +kernel)
  have hissued : Issued (plainSpec .workspace "/work/plain") plainImage request :=
    .compiled hrequest
  have hid : request.id = (plainSpec .workspace "/work/plain").id := hissued.request.id
  have hvalid : ((plainRequest .workspace "/work/plain").toOption.elim false fun request =>
      (validateRetainedResources request plainRetained).isOk) = true := by decide +kernel
  rw [hrequest] at hvalid
  obtain ⟨⟨⟩, hvalid⟩ := isOk_iff.1 hvalid
  let recreate : RecreateRequest := ⟨request, ⟨plainRetained⟩, hvalid⟩
  have hretained : (plainRetained.find? fun retained =>
      plainRetained.find? (·.identity = retained.identity) ≠ some retained) = none := by
    decide +kernel
  have habsent : plainRetained.any (·.identity = ⟨.container, request.id.value⟩) = false := by
    rw [hid]
    decide +kernel
  have hcontainer := (nameable_of_issued hissued).container
  have hrun : replay (createContainer some recreate) listingFails =
      (.threw (.fromSource (.commandIo "container list" "timed out")),
        [.listed (.ok plainRetained), .ran command (.ok ()),
          .listed (.error (.commandIo "container list" "timed out"))]) := by
    simp only [recreate, replay, createContainer, createWithRetained, confirmContainer,
      listingFails, replies, hcommand, hcontainer, hretained, habsent, Prog.run, Prog.answer, deeds,
      currentFor, Except.map, map_cons, map_nil, id, Bool.false_eq_true, if_false,
      nil_append, cons_append]
  have hmade : Made request some [.listed (.ok plainRetained), .ran command (.ok ()),
      .listed (.error (.commandIo "container list" "timed out"))]
      ⟨.container, request.id.value⟩ :=
    ⟨.ran command (.ok ()), by simp, createdBy_container hcommand⟩
  have hshown : Shows request.id [plainResource .container "plain-0123456789ab"]
      ⟨.container, request.id.value⟩ := by
    rw [hid]
    exact ⟨_, mem_singleton_self _, rfl, by decide⟩
  refine ⟨request, recreate, _, _, hrequest, rfl, hrun, rfl, hmade, hshown, ?_⟩
  exact fun hremembers => not_shows_nil (hremembers _ hmade hshown)

end Backend.Apple

end Gascan
