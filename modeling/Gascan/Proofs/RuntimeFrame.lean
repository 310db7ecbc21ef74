import Gascan.Proofs.Footprint

/-!
# `Gascan.Proofs.RuntimeFrame`: the request that a container was made from

A container keeps the request it was made from as long as it is there. Starting, stopping and
provisioning containers change neither that nor which sandboxes have a container
(`perform_made_of_steady`).
-/

namespace Gascan

open Lib

namespace Runtime

/-- The request that the container of a sandbox was made from. -/
def made (rt : Runtime) (id : SandboxId) : Option CreateRequest :=
  (rt.container? id).map (·.request)

variable {rt rt' : Runtime} {id : SandboxId}

theorem made_eq_none : rt.made id = none ↔ rt.container? id = none := Option.map_eq_none_iff

variable {other : SandboxId} {created : List RuntimeResource}

theorem made_updateContainer {f : Container → Container} (hf : ∀ c, (f c).request = c.request) :
    (rt.updateContainer other f).made id = rt.made id := by
  have hkey : ∀ c, (f c).id = c.id := fun c => congrArg CreateRequest.id (hf c)
  rw [made, made, container?, updateContainer, Table.lookup_update hkey, Option.map_map, container?]
  congr 1
  funext c
  show (if id = other then f c else c).request = c.request
  split
  · exact hf c
  · rfl

variable {request : CreateRequest} {fault : Option RuntimeFault}

theorem made_addContainer (h : rt.container? request.id = none) :
    (rt.addContainer request).2.made request.id = some request := by
  rw [container?] at h
  show (Table.lookup Container.id request.id (rt.containers ++ [_])).map _ = _
  rw [Table.lookup_append_one, h]
  simp

theorem containers_createNetwork (h : rt.createNetwork request fault = (.ok created, rt')) :
    rt'.containers = rt.containers := by
  simp only [createNetwork, addNetwork] at h
  repeat' split at h
  all_goals cases h
  all_goals rfl

theorem containers_createVolumes {volumes : List RuntimeVolume} {created' : List RuntimeResource}
    (h : createVolumes request fault volumes created rt = (.ok created', rt')) :
    rt'.containers = rt.containers := by
  induction volumes generalizing created rt with
  | nil => cases h; rfl
  | cons volume rest ih =>
    simp only [createVolumes, addVolume] at h
    split at h
    · split at h
      · exact ih h
      · cases h
    · split at h
      · cases h
      · exact (ih h).trans rfl

theorem made_create {outcome : CreateOutcome} (h : rt.create request fault = (.ok outcome, rt')) :
    rt'.made request.id = some request := by
  unfold create at h
  split at h
  · cases h
  split at h
  · cases h
  split at h
  · cases h
  next hfree =>
    split at h
    · cases h
    next created rt1 hnetwork =>
      split at h
      · cases h
      next created' rt2 hvolumes =>
        have hnone : rt2.container? request.id = none := by
          rw [container?, containers_createVolumes hvolumes, containers_createNetwork hnetwork]
          exact Option.not_isSome_iff_eq_none.1 hfree
        dsimp only at h
        split at h
        · cases h
        · cases h
          exact made_addContainer hnone

theorem made_setState {state : ContainerState} :
    (rt.setState other state fault).2.made id = rt.made id := by
  unfold setState
  split
  · rfl
  · split
    · rfl
    · dsimp only
      split <;> exact made_updateContainer fun _ => rfl

theorem made_updateHome {c : Container} {f : ConfigHome → ConfigHome} :
    (rt.updateHome c f).made id = rt.made id := by
  unfold updateHome
  split <;> rfl

theorem made_runGuest {c : Container} {content : Path → Except ProvisionError (List Nat)}
    {command : GuestCommand} : (rt.runGuest c content command).made id = rt.made id := by
  unfold runGuest
  split
  · exact made_updateHome
  · exact made_updateHome
  · exact made_updateContainer fun _ => rfl
  · exact made_updateContainer fun _ => rfl
  · rfl

end Runtime

variable {sandbox : SandboxId} {own : Option OperationId}

/-- A steady command is light, starts or stops a container, runs a guest command, or asks the
provisioner. -/
theorem Cmd.Steady.light_or {c : Cmd} (hc : c.Steady sandbox own) :
    c.Light sandbox own ∨ (∃ id, c = .start id) ∨ (∃ id, c = .stop id) ∨
      (∃ id command, c = .exec id command) ∨ ∃ spec create, c = .provision spec create := by
  cases c with
  | create | createContainer | remove => exact hc.elim
  | start id => exact .inr (.inl ⟨id, rfl⟩)
  | stop id => exact .inr (.inr (.inl ⟨id, rfl⟩))
  | exec id command => exact .inr (.inr (.inr (.inl ⟨id, command, rfl⟩)))
  | provision spec create => exact .inr (.inr (.inr (.inr ⟨spec, create, rfl⟩)))
  | _ => exact .inl hc

theorem perform_made_of_steady {c : Cmd} (hc : c.Steady sandbox own) (x : Choice) (w : World)
    (id : SandboxId) : (perform c x w).2.runtime.made id = w.runtime.made id := by
  rcases hc.light_or with hlight | ⟨other, rfl⟩ | ⟨other, rfl⟩ | ⟨other, command, rfl⟩ |
    ⟨spec, create, rfl⟩
  · rw [perform_runtime_of_light hlight]
  · exact Runtime.made_setState
  · exact Runtime.made_setState
  · show (performExec other command x.exec w).2.runtime.made id = _
    unfold performExec
    split
    · rfl
    · split
      · rfl
      · dsimp only
        split <;> split <;> first | rfl | exact Runtime.made_runGuest
  · rfl

end Gascan
