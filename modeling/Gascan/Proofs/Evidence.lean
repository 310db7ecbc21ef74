import Gascan.Proofs.Phases
import Gascan.Proofs.Recovery

/-!
# `Gascan.Proofs.Evidence`: what a completed recovery can rely on

`recover_pending` completes an interrupted `up` or `apply` when `orderedHookEvidence` accepts its
log, and then records what the log says was provisioned. `Evidence` is what such a log has to show:
a health check that passed with a fingerprint, and after everything that was provisioned.
`evidence_of_hooks` derives it from the log of an interrupted operation, and `tracks_recoverPending`
follows the recovery to the record that it leaves.
-/

namespace Gascan

open Lib Service List Store Option
open Lib.Prog hiding pure
open Store (Pending)

/-! ### The log of an operation -/

/-- What `orderedHookEvidence` reads of an event. -/
abbrev Phase : Type := String × Option String × Option Nat

/-- The phase of an event with the given details. -/
def phaseOf (details : Json) : Option Phase :=
  (details.getStr "phase").map fun phase =>
    (phase, details.getStr "desired_fingerprint", details.getNat "resolution_version")

/-- The phase that a deed has in the log. -/
def Deed.phase? (deed : Deed) : Option Phase := deed.details?.bind phaseOf

/-- Whether a deed begins a provisioning or belongs to one. -/
def Deed.Provisions : Deed → Prop
  | .provisioning => True
  | .logged details => details.getStr "phase" = some "before_provision"

/-- Whether a deed ends a provisioning. -/
def Deed.EndsProvision : Deed → Prop
  | .provisioning => False
  | .logged details => details.getStr "phase" = some "after_provision"

/-- Everything that was provisioned has its `after_provision` event. -/
def Provisioned (deeds : List Deed) : Prop :=
  (∀ deed ∈ deeds, ¬deed.Provisions) ∨
    ∃ first deed rest, deeds = first ++ deed :: rest ∧ deed.EndsProvision ∧
      ∀ deed ∈ rest, ¬deed.Provisions

/-- A health check passed with the fingerprint, after a `before_health` event and after everything
that was provisioned. -/
def Evidence (deeds : List Deed) (fingerprint : String) : Prop :=
  ∃ first health rest, deeds = first ++ .logged health :: rest ∧
    health.getStr "phase" = some "after_health" ∧
    health.getStr "desired_fingerprint" = some fingerprint ∧
    (∃ before, .logged before ∈ first ∧ before.getStr "phase" = some "before_health") ∧
    Provisioned first ∧ ∀ deed ∈ rest, ¬deed.Provisions

section Log

variable {events : List OperationEvent} {deeds first rest : List Deed} {deed : Deed}
  {stage next : ProvisionStage} {record : SandboxRecord}

theorem phases_eq (hlog : events.filterMap (·.details) = logOf deeds) :
    events.filterMap eventPhase = deeds.filterMap Deed.phase? := by
  have hevents :
    events.filterMap eventPhase = (events.filterMap (·.details)).filterMap phaseOf := by
    rw [filterMap_filterMap]
    rfl
  rw [hevents, hlog, logOf, filterMap_filterMap]
  rfl

theorem phase?_eq_some {phase : Phase} (h : deed.phase? = some phase) :
    ∃ details, deed = .logged details ∧ details.getStr "phase" = some phase.1 ∧
      details.getStr "desired_fingerprint" = phase.2.1 := by
  cases deed with
  | provisioning => exact absurd h nofun
  | logged details =>
    obtain ⟨name, hname, rfl⟩ := Option.map_eq_some_iff.1 h
    exact ⟨details, rfl, hname, rfl⟩

/-! ### Stages -/

theorem next_before (h : ProvisionStage.before.next deed = some next) (hdeed : ¬deed.Provisions) :
    next = .before ∧ ¬deed.EndsProvision := by
  cases deed with
  | provisioning => exact absurd trivial hdeed
  | logged details =>
    have hbegins : details.getStr "phase" ≠ some "before_provision" := hdeed
    rw [ProvisionStage.next, if_neg hbegins] at h
    split at h
    · exact absurd h (by simp)
    · exact ⟨(Option.some.inj h).symm, by assumption⟩

theorem next_after (h : ProvisionStage.after.next deed = some next) :
    next = .after ∧ ¬deed.Provisions := by
  cases deed with
  | provisioning => exact absurd h nofun
  | logged details =>
    rw [ProvisionStage.next] at h
    split at h
    · exact absurd h (by simp)
    · split at h
      · exact absurd h (by simp)
      · exact ⟨(Option.some.inj h).symm, by assumption⟩

/-- The event that ends a provisioning leads to the last stage. -/
theorem next_of_ends (h : stage.next deed = some next) (hdeed : deed.EndsProvision) :
    stage = .during ∧ next = .after := by
  cases deed with
  | provisioning => exact hdeed.elim
  | logged details =>
    have hdetails : details.getStr "phase" = some "after_provision" := hdeed
    simp only [ProvisionStage.next, hdetails, Option.some.injEq, String.reduceEq, if_false,
      if_true] at h
    split at h
    next hduring => exact ⟨hduring.1, (Option.some.inj h).symm⟩
    next => cases h

theorem stageAfter_cons_eq_some :
    stageAfter stage (deed :: deeds) = some next ↔
      ∃ middle, stage.next deed = some middle ∧ stageAfter middle deeds = some next :=
  bind_eq_some_iff

theorem stageAfter_after (h : stageAfter .after deeds = some next) :
    next = .after ∧ ∀ deed ∈ deeds, ¬deed.Provisions := by
  induction deeds with
  | nil => exact ⟨(Option.some.inj h).symm, nofun⟩
  | cons deed deeds ih =>
    obtain ⟨middle, hmiddle, hrest⟩ := stageAfter_cons_eq_some.1 h
    obtain ⟨rfl, hdeed⟩ := next_after hmiddle
    obtain ⟨hnext, hdeeds⟩ := ih hrest
    exact ⟨hnext, forall_mem_cons.2 ⟨hdeed, hdeeds⟩⟩

theorem stageAfter_of_ends (h : stageAfter stage deeds = some next) (hmem : deed ∈ deeds)
    (hdeed : deed.EndsProvision) : next = .after := by
  induction deeds generalizing stage with
  | nil => exact absurd hmem not_mem_nil
  | cons other deeds ih =>
    obtain ⟨middle, hmiddle, hrest⟩ := stageAfter_cons_eq_some.1 h
    rcases mem_cons.1 hmem with rfl | hmem
    · obtain ⟨-, rfl⟩ := next_of_ends hmiddle hdeed
      exact (stageAfter_after hrest).1
    · exact ih hrest hmem

/-- Without an event that begins a provisioning, nothing was provisioned. -/
theorem not_provisions_of_unbegun (h : (stageAfter .before deeds).isSome)
    (hbegun : ∀ details, Deed.logged details ∈ deeds →
      details.getStr "phase" ≠ some "before_provision") :
    ∀ deed ∈ deeds, ¬deed.Provisions ∧ ¬deed.EndsProvision := by
  induction deeds with
  | nil => exact nofun
  | cons deed deeds ih =>
    obtain ⟨final, hfinal⟩ := Option.isSome_iff_exists.1 h
    obtain ⟨middle, hmiddle, hrest⟩ := stageAfter_cons_eq_some.1 hfinal
    have hdeed : ¬deed.Provisions := by
      cases deed with
      | provisioning => exact absurd hmiddle nofun
      | logged details => exact hbegun details mem_cons_self
    obtain ⟨rfl, hends⟩ := next_before hmiddle hdeed
    refine forall_mem_cons.2 ⟨⟨hdeed, hends⟩, ih (hrest ▸ rfl) fun details hmem => ?_⟩
    exact hbegun details (mem_cons_of_mem deed hmem)

/-- What the stages say about the deeds around the event that ends a provisioning. -/
theorem provisions_around_ends (h : Staged (first ++ deed :: rest)) (hdeed : deed.EndsProvision) :
    (∀ other ∈ first, ¬other.EndsProvision) ∧ ∀ other ∈ rest, ¬other.Provisions := by
  obtain ⟨final, hfinal⟩ := Option.isSome_iff_exists.1 h
  rw [stageAfter_append, bind_eq_some_iff] at hfinal
  obtain ⟨stage, hfirst, hrest⟩ := hfinal
  obtain ⟨middle, hmiddle, hrest⟩ := stageAfter_cons_eq_some.1 hrest
  obtain ⟨rfl, rfl⟩ := next_of_ends hmiddle hdeed
  refine ⟨fun other hmem hother => ?_, (stageAfter_after hrest).2⟩
  exact absurd (stageAfter_of_ends hfirst hmem hother) nofun

/-! ### The evidence in a log -/

theorem lastIdxOf_eq_some {α : Type} {p : α → Bool} {l : List α} {i : Nat}
    (h : lastIdxOf p l = some i) : ∃ a, l[i]? = some a ∧ p a = true := by
  obtain ⟨j, hj, rfl⟩ := Option.map_eq_some_iff.1 h
  obtain ⟨hlt, hp, -⟩ := findIdx?_eq_some_iff_getElem.1 hj
  rw [length_reverse] at hlt
  refine ⟨_, getElem?_eq_getElem (by omega), ?_⟩
  rw [getElem_reverse] at hp
  exact hp

theorem findIdx?_eq_some {α : Type} {p : α → Bool} {l : List α} {i : Nat}
    (h : l.findIdx? p = some i) : ∃ a, l[i]? = some a ∧ p a = true := by
  obtain ⟨hlt, hp, -⟩ := findIdx?_eq_some_iff_getElem.1 h
  exact ⟨_, getElem?_eq_getElem hlt, hp⟩

theorem split_of_phase {phase : Phase} {i : Nat}
    (h : ((first ++ rest).filterMap Deed.phase?)[i]? = some phase)
    (hi : i < (first.filterMap Deed.phase?).length) :
    ∃ begun details tail, first = begun ++ .logged details :: tail ∧
      details.getStr "phase" = some phase.1 ∧
      details.getStr "desired_fingerprint" = phase.2.1 := by
  rw [filterMap_append, getElem?_append_left hi] at h
  obtain ⟨begun, deed, tail, rfl, hphase, -⟩ := exists_split_of_getElem?_filterMap h
  obtain ⟨details, rfl, hname, hfingerprint⟩ := phase?_eq_some hphase
  exact ⟨begun, details, tail, rfl, hname, hfingerprint⟩

/-- The details of the first `after_provision` event. -/
def provisionEnd (deeds : List Deed) : Option Json :=
  (logOf deeds).find? fun details => details.getStr "phase" = some "after_provision"

theorem provisionEnd_eq_none (h : ∀ deed ∈ deeds, ¬deed.EndsProvision) :
    provisionEnd deeds = none := by
  refine find?_eq_none.2 fun details hmem hdetails => ?_
  obtain ⟨deed, hdeed, hlogged⟩ := mem_filterMap.1 hmem
  cases deed with
  | provisioning => exact absurd hlogged nofun
  | logged details' =>
    obtain rfl : details' = details := Option.some.inj hlogged
    exact h (.logged details') hdeed (of_decide_eq_true (p := _ = _) hdetails)

theorem provisionEnd_eq_some {details : Json} (h : Staged (first ++ .logged details :: rest))
    (hdetails : details.getStr "phase" = some "after_provision") :
    provisionEnd (first ++ .logged details :: rest) = some details := by
  have hfirst : provisionEnd first = none :=
    provisionEnd_eq_none (provisions_around_ends h hdetails).1
  rw [provisionEnd, logOf] at hfirst ⊢
  rw [filterMap_append, find?_append, hfirst]
  simp [Deed.details?, hdetails]

/-- What `provisionEvidence` finds in the log of an operation that provisions. -/
theorem provisionEvidence_eq {kind : OperationKind} (hkind : kind = .create ∨ kind = .apply)
    (hlog : events.filterMap (·.details) = logOf deeds) :
    provisionEvidence kind events = provisionEnd deeds := by
  have hprovisions : (kind = .create || kind = .apply) = true := by
    rcases hkind with rfl | rfl <;> rfl
  rw [provisionEvidence, if_pos hprovisions, hlog]
  rfl

theorem orderedHookEvidence_eq_true (h : orderedHookEvidence events record = true) :
    let phases := events.filterMap eventPhase
    ∃ before after fingerprint, phases.findIdx? (·.1 = "before_health") = some before ∧
      lastIdxOf (·.1 = "after_health") phases = some after ∧ before < after ∧
      phases[after]?.bind (·.2.1) = some fingerprint ∧
      ((∃ provision ended, phases.findIdx? (·.1 = "before_provision") = some provision ∧
          phases.findIdx? (fun phase => phase.1 = "after_provision" && phase.2.2 = some 1) =
            some ended ∧ ended < before ∧ phases[ended]?.bind (·.2.1) = some fingerprint) ∨
        (phases.findIdx? (·.1 = "before_provision") = none ∧
          resolutionMatches record fingerprint = true)) := by
  intro phases
  unfold orderedHookEvidence at h
  dsimp only at h
  split at h
  next before after hbefore hafter =>
    split at h
    · exact absurd h nofun
    next hlt =>
      split at h
      · exact absurd h nofun
      next fingerprint hfingerprint =>
        refine ⟨before, after, fingerprint, hbefore, hafter, Nat.lt_of_not_le hlt, hfingerprint, ?_⟩
        split at h
        next provision ended hprovision hended =>
          simp only [Bool.and_eq_true, decide_eq_true_eq] at h
          exact .inl ⟨provision, ended, hprovision, hended, h.1.2, h.2⟩
        next hprovision hended => exact .inr ⟨hprovision, h⟩
        next => exact absurd h nofun
  next => exact absurd h nofun

theorem unbegun_of_phases
    (h : (deeds.filterMap Deed.phase?).findIdx? (·.1 = "before_provision") = none) (details : Json)
    (hmem : .logged details ∈ deeds) : details.getStr "phase" ≠ some "before_provision" := by
  intro hdetails
  have hphase : ("before_provision", details.getStr "desired_fingerprint",
      details.getNat "resolution_version") ∈ deeds.filterMap Deed.phase? := by
    refine mem_filterMap.2 ⟨.logged details, hmem, ?_⟩
    show phaseOf details = _
    rw [phaseOf, hdetails]
    rfl
  exact absurd (findIdx?_eq_none_iff.1 h _ hphase) (by simp)

/-- The log of an interrupted operation that the hook evidence accepts shows a health check after
the provisioning, and the event that the recovery records it from has the same fingerprint. -/
theorem evidence_of_hooks (hstaged : Staged deeds)
    (hlog : events.filterMap (·.details) = logOf deeds)
    (h : orderedHookEvidence events record = true) :
    ∃ fingerprint, Evidence deeds fingerprint ∧
      match provisionEnd deeds with
      | some details => details.getStr "desired_fingerprint" = some fingerprint
      | none => resolutionMatches record fingerprint = true := by
  obtain ⟨before, after, fingerprint, hbefore, hafter, hlt, hfingerprint, hprovision⟩ :=
    orderedHookEvidence_eq_true h
  rw [phases_eq hlog] at hbefore hafter hfingerprint hprovision
  -- The deeds are split at the last `after_health` event.
  obtain ⟨health, hhealth, hname⟩ := lastIdxOf_eq_some hafter
  rw [hhealth, bind_some] at hfingerprint
  obtain ⟨first, deed, rest, rfl, hphase, rfl⟩ := exists_split_of_getElem?_filterMap hhealth
  obtain ⟨details, rfl, hdetails, hcarried⟩ := phase?_eq_some hphase
  obtain ⟨check, hcheck, hchecked⟩ := findIdx?_eq_some hbefore
  obtain ⟨begun, checked, tail, hsplit, hcheckName, -⟩ := split_of_phase hcheck hlt
  have hbeforeHealth : ∃ before, .logged before ∈ first ∧
      before.getStr "phase" = some "before_health" := by
    refine ⟨checked, hsplit ▸ mem_append_right begun mem_cons_self, ?_⟩
    rw [hcheckName, of_decide_eq_true hchecked]
  have hevidence : Provisioned first → (∀ deed ∈ rest, ¬deed.Provisions) →
      Evidence (first ++ .logged details :: rest) fingerprint := by
    intro hfirst hrest
    refine ⟨first, details, rest, rfl, ?_, hcarried.trans hfingerprint, hbeforeHealth, hfirst,
      hrest⟩
    rw [hdetails, of_decide_eq_true hname]
  refine ⟨fingerprint, ?_⟩
  rcases hprovision with ⟨-, ended, -, hended, hendedLt, hendedFingerprint⟩ | ⟨hnone, hmatches⟩
  · -- The provisioning ended before the first `before_health` event.
    obtain ⟨phase, hendedPhase, hendedName⟩ := findIdx?_eq_some hended
    rw [hendedPhase, bind_some] at hendedFingerprint
    obtain ⟨started, ending, tail, rfl, hendingName, hendingFingerprint⟩ :=
      split_of_phase hendedPhase (hendedLt.trans hlt)
    rw [of_decide_eq_true (Bool.and_eq_true_iff.1 hendedName).1] at hendingName
    have hstaged' : Staged (started ++ .logged ending :: (tail ++ .logged details :: rest)) := by
      rw [append_assoc, cons_append] at hstaged
      exact hstaged
    have hlater := (provisions_around_ends hstaged' hendingName).2
    refine ⟨hevidence (.inr ⟨started, .logged ending, tail, rfl, hendingName, fun other hmem => ?_⟩)
      fun other hmem => ?_, ?_⟩
    · exact hlater other (mem_append_left _ hmem)
    · exact hlater other (mem_append_right _ (mem_cons_of_mem _ hmem))
    · rw [append_assoc, cons_append, provisionEnd_eq_some hstaged' hendingName]
      exact hendingFingerprint.trans hendedFingerprint
  · -- The operation provisioned nothing, and the record already has the fingerprint.
    have hunbegun := not_provisions_of_unbegun hstaged (unbegun_of_phases hnone)
    rw [provisionEnd_eq_none fun other hmem => (hunbegun other hmem).2]
    refine ⟨hevidence (.inl fun other hmem => ?_) fun other hmem => ?_, hmatches⟩
    · exact (hunbegun other (mem_append_left _ hmem)).1
    · exact (hunbegun other (mem_append_right _ (mem_cons_of_mem _ hmem))).1

end Log

/-! ### The recovery of one operation -/

/-- The environment of a start of the daemon: nobody else writes to the store, and everything may
fail or change from outside. -/
def loneEnv : Prog.Env Cmd World Choice where
  rely w w' := w'.store = w.store
  allows _ _ _ := True

/-- The provisioning resolutions of a record. -/
def provisionedOf (record : SandboxRecord) : Option Resolution × Option Resolution :=
  (record.setupResolution, record.toolResolution)

/-- The record of an operation that provisions, with what its log says was provisioned. -/
def withEvidence (operation : OperationRecord) (events : List OperationEvent)
    (record : SandboxRecord) : SandboxRecord :=
  (provisionEvidence operation.kind events).elim record (recoveredRecord record record.actualState)

/-- If the recovery that began in the store `s` has completed an operation that provisions, then its
log had the hook evidence, and what the log says was provisioned is recorded. -/
def Completes (s : Store) (operation : OperationRecord) (s' : Store) : Prop :=
  ∃ found, s'.operation? operation.id = some found ∧ found.sandboxId = operation.sandboxId ∧
    (found.status = .completed → operation.kind = .create ∨ operation.kind = .apply →
      ∃ row row', s.row? operation.sandboxId = some row ∧
        orderedHookEvidence (s.operationEvents operation.id) (s.recordOf row) = true ∧
        s'.row? operation.sandboxId = some row' ∧
        provisionedOf row'.record =
          provisionedOf (withEvidence operation (s.operationEvents operation.id) row.record))

/-- What each command of the recovery of an operation guarantees: it leaves the other sandboxes
alone, and completes the operation only as it should. -/
def Recovered (s : Store) (operation : OperationRecord) (w w' : World) : Prop :=
  (w.store.Inv → w'.store.Inv ∧
    ∀ other, other ≠ operation.sandboxId → Store.Alike other w.store w'.store) ∧
  Completes s operation w'.store

/-- An operation that is still pending, with the provisioning resolutions of its sandbox. -/
def HeldOpen (operation : OperationRecord) (resolutions : Option Resolution × Option Resolution)
    (w : World) : Prop :=
  ∃ row, Pending w.store operation row ∧ provisionedOf row.record = resolutions

/-- The provisioning resolutions that the store has for a sandbox. -/
def provisionedIn (s : Store) (id : SandboxId) : Option (Option Resolution × Option Resolution) :=
  (s.row? id).map fun row => provisionedOf row.record

theorem provisioned_updateRow {s : Store} {id : SandboxId} {f : SandboxRow → SandboxRow}
    (hid : ∀ row, (f row).id = row.id)
    (hkept : ∀ row, provisionedOf (f row).record = provisionedOf row.record) (id' : SandboxId) :
    provisionedIn (s.updateRow id f) id' = provisionedIn s id' := by
  rw [provisionedIn, provisionedIn, row?_updateRow hid, Option.map_map]
  cases s.row? id' with
  | none => rfl
  | some row =>
    by_cases h : id' = id
    · simp [h, hkept]
    · simp [h]

/-- SSH and the log leave the provisioning resolutions alone. -/
theorem StoreOp.run_provisioned {s s' : Store} {now : Int} {op : StoreOp} {id : SandboxId}
    {own : Option OperationId} (hop : op.Keeps id own) {result : op.Result}
    (h : op.run s now = .ok (result, s')) (id' : SandboxId) :
    provisionedIn s' id' = provisionedIn s id' := by
  have hwrites := StoreOp.writes_of_run h
  cases op with
  | setSshResolution id resolution =>
    obtain ⟨-, -, rfl⟩ := Store.setSshResolution_eq_ok.1 hwrites
    refine provisioned_updateRow ?_ ?_ id' <;> exact fun _ => rfl
  | appendOperationEvent o details =>
    obtain ⟨_, -, -, rfl⟩ := hwrites
    rfl
  | beginOperation | putSandbox | putSandboxWithSshTransport | finishOperation => exact hop.elim
  | _ => rw [show s' = s from hwrites]

theorem perform_provisioned {c : Cmd} {id : SandboxId} {own : Option OperationId}
    (hc : c.Keeps id own) (x : Choice) (w : World) (id' : SandboxId) :
    provisionedIn (perform c x w).2.store id' = provisionedIn w.store id' := by
  have hkept : ∀ op send, c = .store op send → op.Keeps id own := fun op send hop => by
    subst hop
    exact hc.1
  exact perform_rel (R := fun s s' => provisionedIn s' id' = provisionedIn s id') (fun _ => rfl) x
    fun op send hop _ _ _ hrun => StoreOp.run_provisioned (hkept op send hop) hrun id'

section Operation

variable {α : Type} {w : World} {s : Store} {operation : OperationRecord} {row : SandboxRow}
  {resolutions : Option Resolution × Option Resolution} {actual : ActualState}

/-- A part of the recovery of an operation that began in the store `s`. -/
abbrev Recovers (s : Store) (operation : OperationRecord) (p : Svc α) (Q : α → World → Prop)
    (w : World) : Prop :=
  p.wp perform loneEnv (Recovered s operation) Q (fun _ _ => True) w

theorem completes_of_pending {s' : Store} (hp : Pending s' operation row) :
    Completes s operation s' := by
  refine ⟨operation, hp.found, rfl, fun hcompleted => ?_⟩
  exact absurd (hp.pending.symm.trans hcompleted) nofun

theorem HeldOpen.of_store {w' : World} (h : HeldOpen operation resolutions w)
    (hstore : w'.store = w.store) : HeldOpen operation resolutions w' := by
  obtain ⟨row, hp, hkept⟩ := h
  exact ⟨row, hstore ▸ hp, hkept⟩

theorem HeldOpen.recovered {w' : World} (h : HeldOpen operation resolutions w')
    (halike : w.store.Inv → ∀ other, other ≠ operation.sandboxId →
      Store.Alike other w.store w'.store) : Recovered s operation w w' := by
  obtain ⟨row, hp, -⟩ := h
  exact ⟨fun hinv => ⟨hp.inv, halike hinv⟩, completes_of_pending hp⟩

/-- A command that moves neither the states nor the operations keeps the operation. -/
theorem held_of_keeps {c : Cmd} (hc : c.Keeps operation.sandboxId (some operation.id)) (x : Choice)
    (h : HeldOpen operation resolutions w) :
    Recovered s operation w (perform c x w).2 ∧ HeldOpen operation resolutions
      (perform c x w).2 := by
  obtain ⟨row, hp, hkept⟩ := h
  obtain ⟨row', hp', -⟩ := hp.same (perform_same hc x w) (perform_inv hp.inv c x)
  have hrow := perform_provisioned hc x w operation.sandboxId
  rw [provisionedIn, provisionedIn, hp.row, hp'.row, map_some, map_some, hkept] at hrow
  have hheld : HeldOpen operation resolutions (perform c x w).2 := ⟨row', hp', Option.some.inj hrow⟩
  refine ⟨hheld.recovered fun hinv other hother => ?_, hheld⟩
  refine perform_alike hinv (fun op send heq => ?_) hother
  subst heq
  refine StoreOp.Keeps.about hc.1 fun o ho found hfound => ?_
  obtain rfl : operation.id = o := Option.some.inj ho
  obtain rfl : operation = found := Option.some.inj (hp.found.symm.trans hfound)
  rfl

theorem recovers_held {p : Svc α} (hp : p.Uses (Cmd.Keeps operation.sandboxId (some operation.id)))
    (h : HeldOpen operation resolutions w) :
    p.wp perform loneEnv (Recovered s operation) (fun _ => HeldOpen operation resolutions)
      (fun _ => HeldOpen operation resolutions) w := by
  have hrely : ∀ w w' : World, loneEnv.rely w w' → HeldOpen operation resolutions w →
      HeldOpen operation resolutions w' := fun _ _ hstore hI => hI.of_store hstore
  refine wp_of_uses hp hrely (fun c x w1 hc hI _ => ?_) h
  exact held_of_keeps hc x hI

theorem recovers_light {p : Svc α} (hp : p.Uses (Cmd.Light operation.sandboxId (some operation.id)))
    (h : HeldOpen operation resolutions w) :
    Recovers s operation p (fun _ => HeldOpen operation resolutions) w :=
  wp_imp_error (fun _ _ _ => trivial)
    (recovers_held (keeps_of_light hp) h)

theorem recovers_finish {status : OperationStatus} {code : Option String}
    {details : Option Json} {clear : Bool} (h : HeldOpen operation resolutions w)
    (hcompletes : status = .completed → operation.kind = .create ∨ operation.kind = .apply →
      ∃ row, s.row? operation.sandboxId = some row ∧
        orderedHookEvidence (s.operationEvents operation.id) (s.recordOf row) = true ∧
        resolutions = provisionedOf (withEvidence operation (s.operationEvents operation.id)
          row.record)) :
    Recovers s operation (do
      let _ ← database (.finishOperation operation.id actual status code details clear)
      pure ()) (fun _ _ => True) w := by
  refine (wp_bind _ _).2 (wp_transaction (fun w1 hrely now result store hrun => ?_)
    fun w1 hrely error => ?_)
  · obtain ⟨row, hp, hkept⟩ := h.of_store hrely
    obtain ⟨found, -, hfound, -, -, -, -, -, rfl⟩ := finishOperation_eq_ok hrun
    obtain rfl : operation = found := Option.some.inj (hp.found.symm.trans hfound)
    refine ⟨⟨fun hinv => ⟨hinv.run _ hrun, fun other hother =>
      alike_finished hinv hp.found hother⟩, finishRecord status code details operation,
      ?_, rfl, fun hstatus hkind => ?_⟩, trivial⟩
    · rw [operation?_finished, hp.found, map_some, if_pos rfl]
    obtain ⟨row0, hrow0, hhooks, rfl⟩ := hcompletes hstatus hkind
    refine ⟨row0, finishRow actual clear now row, hrow0, hhooks, ?_, hkept⟩
    rw [row?_finished, hp.row, map_some, if_pos rfl]
  · obtain ⟨row, hp, -⟩ := h.of_store hrely
    exact ⟨⟨fun hinv => ⟨hinv, fun other _ => .refl other _⟩, completes_of_pending hp⟩, trivial⟩

/-- What the SSH part of the recovery leaves: the operation was dealt with, or it is still pending
and the record has the provisioning resolutions of its sandbox. -/
def SshHeldOpen (operation : OperationRecord) (resolutions : Option Resolution × Option Resolution)
    (ssh : SshRecovery) (w : World) : Prop :=
  match ssh with
  | .ended _ => True
  | .ready record _ => record.id = operation.sandboxId ∧ provisionedOf record = resolutions ∧
    HeldOpen operation resolutions w

theorem recovers_abandonSshCreate (h : HeldOpen operation resolutions w) (error : ServiceError) :
    Recovers s operation (abandonSshCreate operation error)
      (SshHeldOpen operation resolutions) w := by
  refine wp_handle (recovers_held (keeps_rollbackInterruptedSshCreate _) h)
    (fun _ w1 h1 => ?_) fun _ _ _ => trivial
  have hfail : Recovers s operation (failCreateOperationClearingSsh operation.id error.code
      (failureDetails error)) (fun _ _ => True) w1 := recovers_finish h1 nofun
  exact wp_seq hfail fun _ _ _ => trivial

theorem recovers_loadRecord (h : HeldOpen operation resolutions w) :
    Recovers s operation (loadRecord operation.sandboxId)
      (fun record w' => record.id = operation.sandboxId ∧ provisionedOf record = resolutions ∧
        HeldOpen operation resolutions w') w := by
  have hread : ∀ w1 : World, w1.store = w.store → Recovered s operation w1 w1 := fun w1 hstore =>
    (h.of_store hstore).recovered fun _ other _ => .refl other _
  refine (wp_bind _ _).2 (wp_transaction (fun w1 hrely now record store hrun => ?_)
    fun w1 hrely error => ⟨hread w1 hrely, trivial⟩)
  obtain ⟨rfl, rfl⟩ := Prod.mk.inj (Except.ok.inj hrun)
  obtain ⟨row, hp, hkept⟩ : HeldOpen operation resolutions w1 := h.of_store hrely
  refine ⟨hread w1 hrely, ?_⟩
  rw [Store.sandbox, hp.row]
  exact ⟨id_of_row? hp.row, hkept, row, hp, hkept⟩

theorem recovers_recoverSsh (h : HeldOpen operation resolutions w) {record : SandboxRecord}
    (hid : record.id = operation.sandboxId) (hrecord : provisionedOf record = resolutions)
    (events : List OperationEvent) (actual : ActualState) (hookEvidence : Bool) :
    Recovers s operation (recoverSsh operation record events actual hookEvidence)
      (SshHeldOpen operation resolutions) w := by
  refine wp_seq (recovers_light (uses_database ⟨trivial, rfl⟩) h) fun transport w1 h1 => ?_
  split
  · have hssh : (recoverPendingSshPublication operation.id operation.sandboxId record events).Uses
        (Cmd.Keeps operation.sandboxId (some operation.id)) :=
      keeps_of_light (light_recoverPendingSshPublication ..)
    refine wp_handle (recovers_held hssh h1) (fun _ w2 h2 => ?_) fun error w2 h2 => ?_
    · exact wp_seq (recovers_loadRecord h2) fun record w3 h3 => h3
    · dsimp only
      split
      · trivial
      · exact recovers_abandonSshCreate h2 error
  · exact ⟨hid, hrecord, h1⟩

/-- The record that the log describes is written, if the log describes one. -/
theorem recovers_putRecovered {record : SandboxRecord} (hid : record.id = operation.sandboxId)
    (h : HeldOpen operation (provisionedOf record) w) (events : List OperationEvent)
    (actual : ActualState) :
    Recovers s operation ((provisionEvidence operation.kind events).elim (pure ()) fun details =>
        database (.putSandbox (recoveredRecord record actual details)))
      (fun _ => HeldOpen operation (provisionedOf (withEvidence operation events record))) w := by
  unfold withEvidence
  cases provisionEvidence operation.kind events with
  | none => exact h
  | some details =>
    refine wp_transaction (fun w1 hrely now result store hrun => ?_) fun w1 hrely error => ?_
    · obtain ⟨row, hp, -⟩ : HeldOpen operation (provisionedOf record) w1 := h.of_store hrely
      have hinv : store.Inv := hp.inv.run _ hrun
      have hrecord : (recoveredRecord record actual details).id = operation.sandboxId := hid
      have habout : (StoreOp.putSandbox (recoveredRecord record actual details)).About
          operation.sandboxId w1.store := hrecord
      have halike : ∀ other, other ≠ operation.sandboxId → Store.Alike other w1.store store :=
        fun other hother => StoreOp.run_alike hp.inv habout hother hrun
      obtain ⟨s1, hs1, heq⟩ := map_eq_ok.1 hrun
      obtain ⟨-, rfl⟩ := Prod.mk.inj heq
      obtain ⟨-, -, rfl⟩ := Store.putSandbox_eq_ok.1 hs1
      have hheld : HeldOpen operation
          (provisionedOf (recoveredRecord record record.actualState details))
          { w1 with store := w1.store.upsert (recoveredRecord record actual details) now } :=
        ⟨_, ⟨hinv, by rw [operation?, operations_upsert]; exact hp.found, hp.pending,
          row?_upsert_of_row hp.row hrecord⟩, rfl⟩
      exact ⟨hheld.recovered fun _ => halike, hheld⟩
    · exact ⟨(h.of_store hrely).recovered fun _ other _ => .refl other _, trivial⟩

/-- An operation that provisions converges only with its hook evidence. -/
theorem hooks_of_converged {kind : OperationKind} {hookEvidence createSshReady absent : Bool}
    (h : converged kind actual hookEvidence createSshReady absent = true)
    (hkind : kind = .create ∨ kind = .apply) : hookEvidence = true := by
  rcases hkind with rfl | rfl
  · simp only [converged, Bool.and_eq_true] at h
    exact h.1.2
  · simp only [converged, Bool.and_eq_true] at h
    exact h.1

section

variable (hw : w.store = s) (hp : Pending s operation row)

include hw hp

theorem recovers_recoverInspected
    (actual : ActualState) :
    Recovers s operation (recoverInspected operation (s.recordOf row)
      (s.operationEvents operation.id) actual
      (orderedHookEvidence (s.operationEvents operation.id) (s.recordOf row)))
      (fun _ _ => True) w := by
  have hheld : HeldOpen operation (provisionedOf row.record) w := ⟨row, hw.symm ▸ hp, rfl⟩
  have hid : (s.recordOf row).id = operation.sandboxId := id_of_row? hp.row
  refine wp_seq (recovers_recoverSsh hheld hid rfl _ _ _) fun ssh w1 h1 => ?_
  cases ssh with
  | ended findings => trivial
  | ready record createSshReady =>
    obtain ⟨hrecord, hkept, h1⟩ := h1
    refine wp_seq (recovers_light (uses_expectedAbsent operation light_listResources) h1)
      fun absent w2 h2 => ?_
    split
    next hconverged =>
      rw [← hkept] at h2
      have hput := recovers_putRecovered (s := s) hrecord h2 (s.operationEvents operation.id) actual
      have hcomplete : Recovers s operation (completeRecovered operation record
          (s.operationEvents operation.id) actual) (fun _ _ => True) w2 := by
        refine wp_seq hput fun _ w3 h3 => recovers_finish h3 fun _ hkind => ?_
        refine ⟨row, hp.row, hooks_of_converged hconverged hkind, ?_⟩
        -- What was provisioned does not depend on which of the two records is completed.
        unfold withEvidence
        cases provisionEvidence operation.kind (s.operationEvents operation.id) with
        | none => exact hkept
        | some details => rfl
      exact wp_seq hcomplete fun _ _ _ => trivial
    next =>
      have hfail : Recovers s operation (failRecovered operation actual) (fun _ _ => True) w2 :=
        recovers_finish h2 nofun
      exact wp_seq hfail fun _ _ _ => trivial

theorem recovers_read {op : StoreOp} {read : Store → op.Result}
    (hop : ∀ s now, op.run s now = .ok (read s, s)) :
    Recovers s operation (database op) (fun result w' => result = read s ∧ w'.store = s) w := by
  have hread : ∀ w1 : World, w1.store = w.store → Recovered s operation w1 w1 := by
    intro w1 hstore
    have hheld : HeldOpen operation (provisionedOf row.record) w1 :=
      ⟨row, (hstore.trans hw).symm ▸ hp, rfl⟩
    exact hheld.recovered fun _ other _ => .refl other _
  refine wp_transaction (fun w1 hrely now result store hrun => ?_)
    fun w1 hrely error => ⟨hread w1 hrely, trivial⟩
  obtain ⟨rfl, rfl⟩ := Prod.mk.inj (Except.ok.inj ((hop _ _).symm.trans hrun))
  have hstore : w1.store = s := hrely.trans hw
  exact ⟨hread w1 hrely, congrArg read hstore, hstore⟩

theorem recovers_recoverStillPending :
    Recovers s operation (recoverStillPending operation) (fun _ _ => True) w := by
  refine wp_seq (recovers_read hw hp (fun _ _ => rfl)) fun events w1 h1 => ?_
  obtain ⟨rfl, hw1⟩ := h1
  have hload : Recovers s operation (loadRecord operation.sandboxId)
      (fun record w' => record = s.recordOf row ∧ w'.store = s) w1 := by
    refine wp_seq (recovers_read hw1 hp (fun _ _ => rfl)) fun record w2 h2 => ?_
    obtain ⟨rfl, hw2⟩ := h2
    rw [Store.sandbox, hp.row]
    exact ⟨rfl, hw2⟩
  refine wp_seq hload fun record w2 h2 => ?_
  obtain ⟨rfl, hw2⟩ := h2
  have hinspect : Recovers s operation (.call (.inspect operation.sandboxId) .pure :
      Svc (Except RuntimeError (Option RuntimeSandbox))) (fun _ w' => w'.store = s) w2 := by
    intro w3 hrely x _
    have hw3 : w3.store = s := hrely.trans hw2
    have hheld : HeldOpen operation (provisionedOf row.record) w3 := ⟨row, hw3.symm ▸ hp, rfl⟩
    exact ⟨hheld.recovered fun _ other _ => .refl other _, hw3⟩
  refine wp_seq hinspect fun inspected w3 hw3 => ?_
  cases inspected with
  | error error => trivial
  | ok inspected =>
    dsimp only
    split
    · have hheld : HeldOpen operation (provisionedOf row.record) w3 := ⟨row, hw3.symm ▸ hp, rfl⟩
      have hfail : Recovers s operation (failOperation operation.id (s.recordOf row).actualState
          "ownership_mismatch" (.obj [("phase", .str "reconcile")])) (fun _ _ => True) w3 :=
        recovers_finish hheld fun hcompleted => absurd hcompleted (by decide)
      exact wp_seq hfail fun _ _ _ => trivial
    · exact recovers_recoverInspected hw3 hp _

theorem recovers_recoverOperation :
    Recovers s operation (recoverOperation operation) (fun _ _ => True) w := by
  refine wp_seq (recovers_read hw hp (fun _ _ => rfl)) fun pending w1 h1 => ?_
  split
  · exact recovers_recoverStillPending h1.2 hp
  · trivial

end

end Operation

/-! ### All pending operations -/

/-- Operations that are pending as they were read, each on a sandbox of its own. -/
structure AwaitTurn (operations : List OperationRecord) (s : Store) : Prop where
  pending : ∀ operation ∈ operations, ∃ row, Pending s operation row
  apart : operations.Pairwise fun operation other => operation.sandboxId ≠ other.sandboxId

section Operations

variable {w : World} {s s' : Store} {operation target : OperationRecord}
  {operations : List OperationRecord} {row : SandboxRow}

theorem waiting_pendingOperations (hs : s.Inv) : AwaitTurn s.pendingOperations s := by
  have hfound : ∀ operation ∈ s.pendingOperations,
      operation ∈ s.operations ∧ operation.status = .pending :=
    fun operation hmem => (mem_filter.1 hmem).imp_right of_decide_eq_true
  refine ⟨fun operation hmem => ?_, ?_⟩
  · obtain ⟨hmem, hpending⟩ := hfound operation hmem
    obtain ⟨row, hrow⟩ := Option.isSome_iff_exists.1 (hs.referenced operation hmem)
    exact ⟨row, hs, hs.operation?_eq_some.2 ⟨hmem, rfl⟩, hpending, hrow⟩
  · have hnodup : s.pendingOperations.Nodup := (List.Nodup.of_map _ hs.operationIds).filter _
    refine hnodup.pairwise_of_forall_ne fun operation hmem other hother hne heq => hne ?_
    obtain ⟨hmem, hpending⟩ := hfound operation hmem
    obtain ⟨hother, hpending'⟩ := hfound other hother
    exact hs.onePending operation hmem other hother hpending hpending' heq

/-- The recovery of an operation leaves those that wait for theirs alone. -/
theorem AwaitTurn.recovered {w1 w2 : World} (h : AwaitTurn operations w1.store)
    (hapart : ∀ other ∈ operations, operation.sandboxId ≠ other.sandboxId)
    (hrecovered : Recovered s operation w1 w2) : AwaitTurn operations w2.store := by
  refine ⟨fun other hmem => ?_, h.apart⟩
  obtain ⟨row, hp⟩ := h.pending other hmem
  obtain ⟨hinv, halike⟩ := hrecovered.1 hp.inv
  exact ⟨row, hp.alike (halike _ (hapart other hmem).symm) hinv⟩

/-- What a recovery completed is not touched by the recovery of another sandbox. -/
theorem Completes.alike {s'' : Store} (h : Completes s operation s')
    (halike : Store.Alike operation.sandboxId s' s'') (hinv : s''.Inv) :
    Completes s operation s'' := by
  obtain ⟨found, hfound, hid, hcompleted⟩ := h
  have hmem : found ∈ s''.operations :=
    (halike.mem_operations hid).2 (mem_of_operation? hfound)
  refine ⟨found, hinv.operation?_eq_some.2 ⟨hmem, id_of_operation? hfound⟩, hid,
    fun hstatus hkind => ?_⟩
  obtain ⟨row, row', hrow, hhooks, hrow', hkept⟩ := hcompleted hstatus hkind
  exact ⟨row, row', hrow, hhooks, halike.row.trans hrow', hkept⟩

/-- The recovery of an operation may begin later, when only other sandboxes were dealt with. -/
theorem Completes.of_alike {s0 : Store} (h : Completes s operation s')
    (hp : Pending s0 operation row) (halike : Store.Alike operation.sandboxId s0 s) :
    Completes s0 operation s' := by
  obtain ⟨found, hfound, hid, hcompleted⟩ := h
  refine ⟨found, hfound, hid, fun hstatus hkind => ?_⟩
  obtain ⟨row', row'', hrow', hhooks, hrow'', hkept⟩ := hcompleted hstatus hkind
  have hevents := halike.events operation (mem_of_operation? hp.found) rfl
  have hrow0 := halike.row.symm.trans hrow'
  have hrecord : s.recordOf row' = s0.recordOf row' := by
    have hsandbox := halike.sandbox
    rw [Store.sandbox, Store.sandbox, hrow', hrow0] at hsandbox
    exact Option.some.inj hsandbox
  rw [hevents, hrecord] at hhooks
  rw [hevents] at hkept
  exact ⟨row', row'', hrow0, hhooks, hrow'', hkept⟩

/-- The invariant of a recovery that began in the store `s`. -/
def Tracks (s : Store) (operation : OperationRecord) (w : World) : Prop :=
  w.store.Inv ∧ Completes s operation w.store

/-- The recovery of a list of operations, one of which is followed. -/
theorem tracks_recoverEach (hp : Pending s target row) (hinv : w.store.Inv)
    (hwaiting : AwaitTurn operations w.store) (hothers : ∀ operation ∈ operations,
      operation = target ∨ operation.sandboxId ≠ target.sandboxId)
    (hahead : target ∈ operations → Store.Alike target.sandboxId s w.store) :
    (recoverEach operations).wp perform loneEnv
      (fun w1 w2 => Tracks s target w1 → Tracks s target w2) (fun _ _ => True) (fun _ _ => True)
      w := by
  induction operations generalizing w with
  | nil => trivial
  | cons operation operations ih =>
    obtain ⟨hapart, hrest⟩ := pairwise_cons.1 hwaiting.apart
    obtain ⟨row', hp'⟩ := hwaiting.pending operation mem_cons_self
    have hbehind : AwaitTurn operations w.store :=
      ⟨fun other hmem => hwaiting.pending other (mem_cons_of_mem operation hmem), hrest⟩
    have hrecovers := recovers_recoverOperation (w := w) rfl hp'
    -- The operations behind this one wait, and see nothing of its recovery.
    have hframed := wp_frame (I := fun w1 => w1.store.Inv ∧ AwaitTurn operations w1.store ∧
      (target ∈ operations → Store.Alike target.sandboxId s w1.store)) (recoverOperation operation)
      (fun w1 w2 (hstore : w2.store = w1.store) hI => by rwa [hstore])
      (fun w1 w2 hg hI => ⟨(hg.1 hI.1).1, hI.2.1.recovered hapart hg, fun hmem =>
        (hI.2.2 hmem).trans ((hg.1 hI.1).2 _ (hapart target hmem).symm)⟩)
      hrecovers ⟨hinv, hbehind, fun hmem => hahead (mem_cons_of_mem operation hmem)⟩
    have hstep : ∀ w1 w2, Recovered w.store operation w1 w2 → Tracks s target w1 →
        Tracks s target w2 := by
      intro w1 w2 hg htracks
      obtain ⟨hinv2, halike⟩ := hg.1 htracks.1
      refine ⟨hinv2, ?_⟩
      rcases hothers operation mem_cons_self with rfl | hne
      · exact hg.2.of_alike hp (hahead mem_cons_self)
      · exact htracks.2.alike (halike _ hne.symm) hinv2
    have hfirst := wp_mono (recoverOperation operation) hstep (fun _ _ hq => hq.2)
      (fun _ _ _ => trivial) hframed
    refine wp_seq hfirst fun findings w1 h1 => ?_
    obtain ⟨hinv1, hwaiting1, hahead1⟩ := h1
    have hothers1 : ∀ other ∈ operations, other = target ∨ other.sandboxId ≠ target.sandboxId :=
      fun other hmem => hothers other (mem_cons_of_mem operation hmem)
    exact wp_seq (ih hinv1 hwaiting1 hothers1 hahead1) fun _ _ _ => trivial

theorem tracks_recoverPending (hp : Pending w.store target row) :
    recoverPending.wp perform loneEnv (fun w1 w2 => Tracks w.store target w1 →
      Tracks w.store target w2) (fun _ _ => True) (fun _ _ => True) w := by
  refine (wp_bind _ _).2 (wp_transaction (fun w1 hrely now pending store hrun => ?_)
    fun w1 hrely error => ⟨fun htracks => htracks, trivial⟩)
  obtain ⟨rfl, rfl⟩ := Prod.mk.inj (Except.ok.inj hrun)
  have hstore : w1.store = w.store := hrely
  refine ⟨fun htracks => htracks, ?_⟩
  rw [← hstore] at hp ⊢
  refine tracks_recoverEach hp hp.inv (waiting_pendingOperations hp.inv) (fun operation hmem => ?_)
    fun _ => .refl _ _
  by_cases hid : operation.sandboxId = target.sandboxId
  · obtain ⟨hmem, hpending⟩ := mem_filter.1 hmem
    exact .inl (hp.inv.onePending operation hmem target (mem_of_operation? hp.found)
      (of_decide_eq_true hpending) hp.pending hid)
  · exact .inr hid

end Operations

/-- The fingerprint of the event that the recovery records from is that of both resolutions. -/
theorem resolutionMatches_recovered {details : Json} {fingerprint : String}
    (h : details.getStr "desired_fingerprint" = some fingerprint) (record : SandboxRecord)
    (actual : ActualState) :
    resolutionMatches (recoveredRecord record actual details) fingerprint = true := by
  obtain ⟨value, hvalue, hstr⟩ := Option.bind_eq_some_iff.1 h
  have hmember : jsonOpt (details.get "desired_fingerprint") = value := by rw [hvalue]; rfl
  -- The fingerprint is the first member of both resolutions.
  have hfirst : ∀ rest, (Json.obj (("desired_fingerprint", value) :: rest)).getStr
      "desired_fingerprint" = some fingerprint := fun rest => hstr
  simp only [resolutionMatches, fingerprintMatches, recoveredRecord, hmember, any_some,
    setupResolutionOf, toolResolutionOf, hfirst, decide_true, Bool.and_self]

theorem resolutionMatches_congr {record record' : SandboxRecord}
    (h : provisionedOf record = provisionedOf record') (fingerprint : String) :
    resolutionMatches record fingerprint = resolutionMatches record' fingerprint := by
  obtain ⟨hsetup, htool⟩ := Prod.mk.inj h
  rw [resolutionMatches, resolutionMatches, hsetup, htool]

/-- Wherever an `up` or an `apply` was cut, and whatever its sandbox has recorded: if a later
`recover_pending`, which may itself be cut and in which everything may fail, has completed the
operation, then a health check had passed with some fingerprint after everything that the operation
provisioned, and both provisioning resolutions that are recorded now carry this fingerprint. -/
theorem completed_with_evidence {operation : OperationRecord} {deeds : List Deed}
    (hcut : Interrupted operation.id operation.kind deeds) {w : World} {row : SandboxRow}
    (hp : Pending w.store operation row)
    (hlog : (w.store.operationEvents operation.id).filterMap (·.details) = logOf deeds)
    {ticks : List (Prog.Tick World Choice)}
    (hticks : recoverPending.Respects perform loneEnv ticks w) {ended : OperationRecord}
    (hended : (recoverPending.run perform ticks w).2.store.operation? operation.id = some ended)
    (hcompleted : ended.status = .completed) :
    ∃ fingerprint row', Evidence deeds fingerprint ∧
      (recoverPending.run perform ticks w).2.store.row? operation.sandboxId = some row' ∧
      resolutionMatches row'.record fingerprint = true := by
  have hkind : operation.kind = .create ∨ operation.kind = .apply := by
    generalize operation.kind = kind at hcut
    cases hcut with
    | up => exact .inl rfl
    | apply => exact .inr rfl
  have htracks : Tracks w.store operation (recoverPending.run perform ticks w).2 := by
    refine run_invariant _ ticks (tracks_recoverPending hp) hticks ?_ (fun _ _ hg => hg)
      ⟨hp.inv, completes_of_pending hp⟩
    intro w₁ w₂ (hstore : w₂.store = w₁.store) hI
    rwa [Tracks, hstore]
  obtain ⟨found, hfound, -, hcompletes⟩ := htracks.2
  obtain rfl : ended = found := Option.some.inj (hended.symm.trans hfound)
  obtain ⟨row₀, row', -, hhooks, hrow', hkept⟩ := hcompletes hcompleted hkind
  obtain ⟨fingerprint, hevidence, hcarried⟩ :=
    evidence_of_hooks (interrupted_staged hcut) hlog hhooks
  refine ⟨fingerprint, row', hevidence, hrow', ?_⟩
  rw [resolutionMatches_congr hkept, withEvidence, provisionEvidence_eq hkind hlog]
  cases hend : provisionEnd deeds with
  | some details =>
    rw [hend] at hcarried
    exact resolutionMatches_recovered hcarried _ _
  | none =>
    rw [hend] at hcarried
    exact hcarried

def demoUp : Svc OperationId :=
  upOperation demoImage demoSpec foreignContainer.request ({} : Choice).capabilities none
    (newRecord demoSpec foreignContainer.request) none
    ⟨1, "sha256:f", requestedStorageFromManifest .defaults⟩

/-- The first `up` of a sandbox, killed right after its health check passed. -/
def checkedUp : World := (demoUp.run perform (Script.of (List.replicate 25 {})) killedUp).2

def completedUp :
    World := (recoverPending.run perform (Script.of (List.replicate 10 {})) checkedUp).2

theorem interfere_of_script (choices : List Choice) :
    ∀ tick ∈ Script.of choices, tick.interfere = id := by
  intro tick hmem
  obtain ⟨x, -, rfl⟩ := mem_map.1 hmem
  rfl

theorem checkedUp_completed :
    ∃ deeds fingerprint row, Interrupted 1 .create deeds ∧ Evidence deeds fingerprint ∧
      completedUp.store.row? demoId = some row ∧
      resolutionMatches row.record fingerprint = true := by
  have hbegun : (killedUp.store.operation? 1).isSome = true ∧
      ((killedUp.store.operationEvents 1).filterMap (·.details)).isEmpty = true := by decide +kernel
  have hpending : (checkedUp.store.operation? 1).any (fun operation => operation.kind = .create &&
      operation.status = .pending && operation.sandboxId = demoId) = true := by decide +kernel
  have hcompleted : (completedUp.store.operation? 1).any (·.status = .completed) = true := by
    decide +kernel
  have hkept : LogKept 1 killedUp [] := by
    obtain ⟨begun, hfound⟩ := Option.isSome_iff_exists.1 hbegun.1
    exact ⟨System.reachable_inv killedUp_reachable, begun, hfound,
      fun _ => List.isEmpty_iff.1 hbegun.2⟩
  have hticks : demoUp.Respects perform (logEnv 1) (Script.of (List.replicate 25 {})) killedUp := by
    refine respects_of_quiet (fun w => ?_) (fun _ _ _ => trivial) (interfere_of_script _) _ _
    exact ⟨fun h => h, rfl, rfl⟩
  have hrecovery : recoverPending.Respects perform loneEnv (Script.of (List.replicate 10 {}))
      checkedUp :=
    respects_of_quiet (fun _ => rfl) (fun _ _ _ => trivial) (interfere_of_script _) _ _
  obtain ⟨deeds, hcut, hlogged⟩ := interrupted_of_upOperation demoImage demoSpec
    foreignContainer.request ({} : Choice).capabilities none
    (newRecord demoSpec foreignContainer.request) none
    ⟨1, "sha256:f", requestedStorageFromManifest .defaults⟩ hticks hkept
  obtain ⟨hinv, operation, hfound, hlog⟩ : LogKept 1 checkedUp deeds := hlogged
  simp only [hfound, any_some, Bool.and_eq_true, decide_eq_true_eq] at hpending
  obtain ⟨⟨hkind, hpending⟩, hid⟩ := hpending
  have ho : operation.id = 1 := id_of_operation? hfound
  obtain ⟨row, hrow⟩ := Option.isSome_iff_exists.1
    (hinv.referenced operation (mem_of_operation? hfound))
  obtain ⟨ended, hended, hstatus⟩ := (Option.any_eq_true _ _).1 hcompleted
  rw [← ho, completedUp] at hended
  have hp : Pending checkedUp.store operation row := ⟨hinv, ho.symm ▸ hfound, hpending, hrow⟩
  obtain ⟨fingerprint, row', hevidence, hrow', hmatches⟩ :=
    completed_with_evidence (ho.symm ▸ hkind.symm ▸ hcut) hp (ho.symm ▸ hlog hpending) hrecovery
      hended (of_decide_eq_true hstatus)
  rw [hid, ← completedUp] at hrow'
  exact ⟨deeds, fingerprint, row', hcut, hevidence, hrow', hmatches⟩

end Gascan
