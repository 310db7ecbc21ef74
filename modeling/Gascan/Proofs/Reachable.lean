import Gascan.Daemon.System
import Gascan.Proofs.StoreFrame

/-!
# `Gascan.Proofs.Reachable`: the stores a daemon can leave behind

`reachable_inv` carries the invariant of the store over every run of the system: concurrent
requests, crashes, recoveries and changes from outside. The `Reachable` lemmas turn the run of a
program on a given script into a run of the system.

`destroy_begin_iff` says that a `destroy` is admitted exactly when the sandbox is not recorded as
being created. A recovery that meets a container of someone else leaves a sandbox in that state.
-/

namespace Gascan

open Lib Service

/-! ### The invariant over runs -/

namespace System

variable {s : System}

theorem Step.inv {s' : System} {event : Event} (h : Step s event s') (hs : s.world.store.Inv) :
    s'.world.store.Inv := by
  cases h with
  | recover w image c k x => exact perform_inv hs c x
  | advance w image before after request c k x => exact perform_inv hs c x
  | outside w w' daemon hstore => exact hstore.symm ▸ hs
  | _ => exact hs

theorem reachable_inv (hs : Reachable s) : s.world.store.Inv := by
  obtain ⟨w, hempty, hsteps⟩ := hs
  induction hsteps with
  | refl => exact hempty.symm ▸ Store.inv_empty
  | tail _ hstep ih =>
    obtain ⟨event, hstep⟩ := hstep
    exact hstep.inv ih

/-! ### Runs of programs as runs of the system -/

/-- A script whose outside changes leave the store alone. -/
def Quiet (ts : Script) : Prop :=
  ∀ t ∈ ts, ∀ w, (t.interfere w).store = w.store

theorem quiet_of (choices : List Choice) : Quiet (Script.of choices) := by
  intro t ht w
  obtain ⟨x, -, rfl⟩ := List.mem_map.1 ht
  rfl

/-- What is left of a program after a run. -/
def rest {α : Type} : Svc α → Script → World → Svc α
  | .call c k, t :: ts, w =>
    rest (k (perform c t.choice (t.interfere w)).1) ts (perform c t.choice (t.interfere w)).2
  | p, _, _ => p

variable {ts : Script} {w : World} {image : String}

theorem rest_of_returned {α : Type} {p : Svc α} {a : α} (h : (p.run perform ts w).1 = .returned a) :
    rest p ts w = .pure a := by
  induction p generalizing ts w with
  | pure b => cases h; rfl
  | throw e => cases h
  | call c k ih =>
    cases ts with
    | nil => cases h
    | cons t ts => exact ih _ h

theorem rest_of_threw {α : Type} {p : Svc α} {e : ServiceError}
    (h : (p.run perform ts w).1 = .threw e) : rest p ts w = .throw e := by
  induction p generalizing ts w with
  | pure b => cases h
  | throw e' => cases h; rfl
  | call c k ih =>
    cases ts with
    | nil => cases h
    | cons t ts => exact ih _ h

theorem steps_recovering (image : String) (p : Svc (List ReconcileFinding)) (hts : Quiet ts)
    (w : World) :
    Steps ⟨w, .recovering image p⟩ ⟨(p.run perform ts w).2, .recovering image (rest p ts w)⟩ := by
  induction p generalizing ts w with
  | pure a => exact .refl
  | throw e => exact .refl
  | call c k ih =>
    cases ts with
    | nil => exact .refl
    | cons t ts =>
      have hquiet : Quiet ts := fun t' ht' => hts t' (List.mem_cons_of_mem _ ht')
      refine .head ⟨_, .outside w (t.interfere w) _ (hts t List.mem_cons_self w)⟩ ?_
      exact .head ⟨_, .recover (t.interfere w) image c k t.choice⟩ (ih _ hquiet _)

theorem steps_serving (image : String) (before after : List Task) (request : Request)
    (p : Svc OperationId) (hts : Quiet ts) (w : World) :
    Steps ⟨w, .serving image (before ++ ⟨request, p⟩ :: after)⟩
      ⟨(p.run perform ts w).2, .serving image (before ++ ⟨request, rest p ts w⟩ :: after)⟩ := by
  induction p generalizing ts w with
  | pure a => exact .refl
  | throw e => exact .refl
  | call c k ih =>
    cases ts with
    | nil => exact .refl
    | cons t ts =>
      have hquiet : Quiet ts := fun t' ht' => hts t' (List.mem_cons_of_mem _ ht')
      refine .head ⟨_, .outside w (t.interfere w) _ (hts t List.mem_cons_self w)⟩ ?_
      exact .head ⟨_, .advance (t.interfere w) image before after request c k t.choice⟩
        (ih _ hquiet _)

theorem Reachable.steps {s' : System} (hs : Reachable s) (h : Steps s s') : Reachable s' := by
  obtain ⟨w, hempty, hsteps⟩ := hs
  exact ⟨w, hempty, hsteps.trans h⟩

theorem Reachable.initial (hw : w.store = {}) : Reachable ⟨w, .down⟩ :=
  ⟨w, hw, .refl⟩

theorem Reachable.boot (hs : Reachable ⟨w, .down⟩) (image : String) (hts : Quiet ts)
    (h : (recoverPending.run perform ts w).1.isReturned = true) :
    Reachable ⟨(recoverPending.run perform ts w).2, .serving image []⟩ := by
  refine hs.steps (.head ⟨_, .boot w image⟩ ?_)
  have hrun := steps_recovering image recoverPending hts w
  cases hend : (recoverPending.run perform ts w).1 with
  | returned findings =>
    rw [rest_of_returned hend] at hrun
    exact hrun.tail ⟨_, .recovered _ image findings⟩
  | threw e => rw [hend] at h; cases h
  | cut => rw [hend] at h; cases h

/-- A request that ends, with no other request at the same time. -/
theorem Reachable.served (hs : Reachable ⟨w, .serving image []⟩) (request : Request)
    (hts : Quiet ts) (h : ((request.program image).run perform ts w).1.ended = true) :
    Reachable ⟨((request.program image).run perform ts w).2, .serving image []⟩ := by
  refine hs.steps (.head ⟨_, .request w image [] request (by simp)⟩ ?_)
  have hrun := steps_serving image [] [] request (request.program image) hts w
  cases hend : ((request.program image).run perform ts w).1 with
  | returned a =>
    rw [rest_of_returned hend] at hrun
    exact hrun.tail ⟨_, .returned _ image [] [] request a⟩
  | threw e =>
    rw [rest_of_threw hend] at hrun
    exact hrun.tail ⟨_, .threw _ image [] [] request e⟩
  | cut => rw [hend] at h; cases h

theorem Reachable.killed (hs : Reachable ⟨w, .serving image []⟩) (request : Request)
    (hts : Quiet ts) : Reachable ⟨((request.program image).run perform ts w).2, .down⟩ :=
  hs.steps (.head ⟨_, .request w image [] request (by simp)⟩
    ((steps_serving image [] [] request (request.program image) hts w).tail ⟨_, .crash _⟩))

/-- The world after a run. -/
def after {α : Type} (p : Svc α) (ts : Script) (w : World) : World := (p.run perform ts w).2

/-- The same with the world given a name, so that it is not computed when two states are compared.
-/
theorem Reachable.servedAfter (hs : Reachable ⟨w, .serving image []⟩) (request : Request)
    (hts : Quiet ts) (h : ((request.program image).run perform ts w).1.ended = true) :
    Reachable ⟨after (request.program image) ts w, .serving image []⟩ :=
  hs.served request hts h

/-- Two requests for different sandboxes: the first one pauses, and the second one runs meanwhile.
-/
theorem Reachable.meanwhile (hs : Reachable ⟨w, .serving image []⟩) (first second : Request)
    (hne : first.id ≠ second.id) {ts' : Script} (hts : Quiet ts) (hts' : Quiet ts') :
    Reachable ⟨after (second.program image) ts' (after (first.program image) ts w), .serving image
      [⟨first, rest (first.program image) ts w⟩,
        ⟨second, rest (second.program image) ts' (after (first.program image) ts w)⟩]⟩ := by
  have hfirst := steps_serving image [] [] first (first.program image) hts w
  have hsecond := steps_serving image [⟨first, rest (first.program image) ts w⟩] [] second
    (second.program image) hts' (after (first.program image) ts w)
  refine hs.steps (.head ⟨_, .request w image [] first (by simp)⟩ (hfirst.trans ?_))
  refine .head ⟨_, .request (after (first.program image) ts w) image _ second
    fun task htask => ?_⟩ hsecond
  rw [List.mem_singleton.1 htask]
  exact hne

/-- A request that runs alone, with one choice for every command. -/
theorem runsWithin_exec {allowed : System → Event → Prop} (request : Request) {x : Choice}
    {test : Cmd → Choice → World → Bool} (hadvance : ∀ c k w, test c x w = true → allowed ⟨w,
      .serving image [⟨request, .call c k⟩]⟩ (.advance request c x))
    (hreturned : ∀ s o, allowed s (.returned request o))
    (hthrew : ∀ s error, allowed s (.threw request error)) (p : Svc OperationId)
    (h : p.check perform test x w = true) :
    RunsWithin allowed ⟨w, .serving image [⟨request, p⟩]⟩
      ⟨(p.exec perform x w).2, .serving image []⟩ := by
  induction p generalizing w with
  | pure a => exact .single ⟨_, hreturned _ a, .returned w image [] [] request a⟩
  | throw e => exact .single ⟨_, hthrew _ e, .threw w image [] [] request e⟩
  | call c k ih =>
    obtain ⟨hc, hk⟩ := Bool.and_eq_true_iff.1 h
    exact .head ⟨_, hadvance c k w hc, .advance w image [] [] request c k x⟩ (ih _ hk)

end System

/-! ### A sandbox to start from -/

/-- The identity of the sandbox that the examples use. -/
def demoId : SandboxId := ⟨"demo-0123456789ab", .refl true⟩

/-- An offline manifest with every default. -/
def demoManifest : Manifest where
  name := none
  network := .offline
  user := .workspace
  gascamp := .bundled
  setup := none
  resources := ⟨none, none, none⟩
  storage := .defaults
  tools := .empty
  ports := .empty
  ssh := ⟨false, none, by decide, nofun⟩
  prompt := .standard
  canonicalRoot := "/work/demo"
  networked_of_ssh := by decide
  cpus_ne_zero := by decide
  tools_le := by decide
  cache_le := by decide
  config_le := by decide

def demoSpec : SandboxSpec := ⟨demoId, "/work/demo", demoManifest⟩

/-- An immutable image reference. -/
def demoImage : String :=
  "registry.example/workspace:1@sha256:" ++
    "0123456789abcdef0123456789abcdef0123456789abcdef0123456789abcdef"

/-- An empty store and an empty runtime. -/
def demoWorld : World := { identity := ⟨"ssh-ed25519 AAAA", "SHA256:client"⟩ }

theorem demoWorld_reachable : System.Reachable ⟨demoWorld, .serving demoImage []⟩ :=
  (System.Reachable.initial (w := demoWorld) rfl).boot demoImage (System.quiet_of [{}]) rfl

/-- A manifest with SSH, a tool and a setup script. -/
def fullManifest : Manifest :=
  { demoManifest with
    network := .networked
    setup := some "setup.sh"
    tools := OrdMap.empty.insert "node" "24"
    ssh := ⟨true, some 2222, by decide, by rintro _ ⟨⟩; decide⟩
    networked_of_ssh := by decide }

def fullSpec : SandboxSpec := ⟨demoId, "/work/demo", fullManifest⟩

/-- A host with a client key and an empty setup script in the workspace. -/
def fullWorld : World where
  identity := ⟨"ssh-ed25519 AAAAC3NzaC1lZDI1NTE5AAAAI" ++ String.ofList (List.replicate 43 'A'),
    "SHA256:client"⟩
  files _ _ := .ok []

theorem fullWorld_reachable : System.Reachable ⟨fullWorld, .serving demoImage []⟩ :=
  (System.Reachable.initial (w := fullWorld) rfl).boot demoImage (System.quiet_of [{}]) rfl

/-- The first `up` of a sandbox, when everything succeeds. -/
def upped : World :=
  ((upInner demoImage demoSpec).run perform (Script.of (List.replicate 60 {})) demoWorld).2

theorem upped_reachable : System.Reachable ⟨upped, .serving demoImage []⟩ :=
  demoWorld_reachable.served (.up demoSpec) (System.quiet_of _) (by decide +kernel)

/-- The image of a later release. -/
def nextImage : String :=
  "registry.example/workspace:2@sha256:" ++
    "fedcba9876543210fedcba9876543210fedcba9876543210fedcba9876543210"

/-- The next release of the daemon finds nothing to recover. -/
def upgraded : World := (recoverPending.run perform (Script.of [{}]) upped).2

theorem upgraded_reachable : System.Reachable ⟨upgraded, .serving nextImage []⟩ :=
  (upped_reachable.steps (.single ⟨_, .crash _⟩)).boot nextImage (System.quiet_of _)
    (by decide +kernel)

theorem upped_sandbox : (upped.store.sandbox demoId).isSome := by decide +kernel

/-! ### Whether a sandbox can be destroyed -/

theorem destroyRecord_transition (record : SandboxRecord) :
    actualTransition record.actualState (destroyRecord record).actualState = true ↔
      record.actualState ≠ .creating := by
  show actualTransition record.actualState
    (if record.actualState = .absent then .absent else .destroying) = true ↔ _
  cases record.actualState <;> decide

/-- In every reachable store, the operation of a `destroy` of a sandbox without a pending operation
is admitted exactly when the sandbox is not recorded as being created. -/
theorem destroy_begin_iff {s : System} (hs : System.Reachable s) {id : SandboxId}
    {record : SandboxRecord} (hrecord : s.world.store.sandbox id = some record)
    (hfree : s.world.store.hasPending id = false) (now : Int) :
    (∃ result, s.world.store.beginOperation (destroyRecord record) .destroy now = .ok result) ↔
      record.actualState ≠ .creating := by
  have hinv := System.reachable_inv hs
  have hid : record.id = id := Store.id_of_sandbox hrecord
  have hput : s.world.store.checkPut (destroyRecord record) = .ok () ↔
      record.actualState ≠ .creating :=
    Iff.trans (Store.checkPut_of_sandbox hinv hrecord _ rfl rfl) (destroyRecord_transition record)
  rw [← hput]
  constructor
  · rintro ⟨⟨operation, store⟩, h⟩
    exact (Store.beginOperation_eq_ok.1 h).2.1
  · intro h
    have hres := Store.validateResolutions_of_sandbox hinv hrecord
    have hnone : s.world.store.hasPending (destroyRecord record).id = false := hid.symm ▸ hfree
    exact ⟨_, Store.beginOperation_eq_ok.2 ⟨hres, h, hnone, rfl, rfl⟩⟩

/-- A sandbox that was brought up can be destroyed. -/
theorem destroy_begin_upped :
    ∃ result, upped.store.beginOperation
      (destroyRecord ((upped.store.sandbox demoId).get upped_sandbox)) .destroy 0 = .ok result :=
  (destroy_begin_iff upped_reachable (Option.some_get upped_sandbox).symm (by decide +kernel)
    0).2 (by decide +kernel)

/-- A running container under the name of the sandbox that Gas Can did not create. -/
def foreignContainer : Container where
  request :=
    { id := demoId, image := demoImage, bindMounts := [], volumes := [], ports := []
      environment := .empty, resources := ⟨none, none, none, none⟩, network := .offline
      user := .workspace, init := true, ownership := ⟨"someone", demoId⟩ }
  state := .running
  ownership := ⟨"someone", demoId⟩
  resource := ⟨⟨.container, demoId.value⟩, some demoId, .mismatched, 0⟩

/-- The first `up` of a sandbox, killed right after it recorded its operation. -/
def killedUp : World :=
  ((upInner demoImage demoSpec).run perform (Script.of (List.replicate 4 {})) demoWorld).2

theorem killedUp_reachable : System.Reachable ⟨killedUp, .down⟩ :=
  demoWorld_reachable.killed (.up demoSpec) (System.quiet_of _)

/-- The world that the next daemon finds: the container was not created by Gas Can. -/
def foundForeign : World :=
  { killedUp with runtime := { containers := [foreignContainer] } }

/-- The recovery fails the operation and keeps the recorded state. -/
def recoveredForeign : World :=
  (recoverPending.run perform (Script.of (List.replicate 6 {})) foundForeign).2

theorem recoveredForeign_reachable :
    System.Reachable ⟨recoveredForeign, .serving demoImage []⟩ := by
  have hfound : System.Reachable ⟨foundForeign, .down⟩ :=
    killedUp_reachable.steps (.single ⟨_, .outside _ _ _ rfl⟩)
  exact hfound.boot demoImage (System.quiet_of _) (by decide +kernel)

theorem recoveredForeign_sandbox : (recoveredForeign.store.sandbox demoId).isSome := by
  decide +kernel

/-- A sandbox without a pending operation that no `destroy` is admitted for. -/
theorem destroy_begin_refused :
    ∃ s id record, System.Reachable s ∧ s.world.store.sandbox id = some record ∧
      s.world.store.hasPending id = false ∧
      ∀ now, s.world.store.beginOperation (destroyRecord record) .destroy now =
        .error (.invalidTransition "creating" "destroying") := by
  have hcheck : recoveredForeign.store.checkPut
      (destroyRecord ((recoveredForeign.store.sandbox demoId).get recoveredForeign_sandbox)) =
        .error (.invalidTransition "creating" "destroying") := by decide +kernel
  refine ⟨_, demoId, _, recoveredForeign_reachable, (Option.some_get recoveredForeign_sandbox).symm,
    by decide +kernel, fun now => ?_⟩
  exact Store.beginOperation_error (by decide +kernel) hcheck

end Gascan
