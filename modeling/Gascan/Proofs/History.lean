import Gascan.Proofs.Publication
import Gascan.Proofs.StoreRuns
import Gascan.Proofs.Stream
import Gascan.Proofs.Trust

/-!
# `Gascan.Proofs.History`: what runs of the daemon do to the records

The results are about every interleaving of requests, crashes, recoveries and outside changes. No
operation is forgotten and no log rewritten (`history_kept`), only its own requests and recoveries
change what is recorded of a sandbox (`sandbox_untouched`), and a request acts on a sandbox only
while an operation on it is recorded as pending (`written_ahead`).
-/

namespace Gascan

open Lib Service Gascan.System List

variable {s t : System} {w w' : World} {c : Cmd} {k : Reply c → Svc OperationId} {id : SandboxId}
  {event : Event} {request : Request} {task : Task} {image : String} {before after : List Task}

/-! ### The history -/

/-- The log of all events is only appended to. -/
theorem StoreOp.run_events {s s' : Store} {now : Int} {op : StoreOp} {result : op.Result}
    (h : op.run s now = .ok (result, s')) : s.events <+: s'.events := by
  have hwrites := StoreOp.writes_of_run h
  have hupsert (record : SandboxRecord) : s.events <+: (s.upsert record now).events := by simp
  cases op with
  | beginOperation record kind =>
    obtain ⟨-, -, -, rfl, rfl⟩ := Store.beginOperation_eq_ok.1 h
    exact (hupsert record).trans (prefix_append _ _)
  | putSandbox record =>
    obtain ⟨-, -, rfl⟩ := hwrites
    exact hupsert record
  | putSandboxWithSshTransport record policy =>
    obtain ⟨-, -, -, rfl⟩ := hwrites
    exact hupsert record
  | setSshResolution id resolution =>
    obtain ⟨-, -, rfl⟩ := Store.setSshResolution_eq_ok.1 hwrites
    exact prefix_rfl
  | appendOperationEvent o details =>
    obtain ⟨_, -, -, rfl⟩ := hwrites
    exact prefix_append _ _
  | finishOperation o actual status code details clear =>
    obtain ⟨_, _, -, -, -, -, -, -, rfl⟩ := hwrites
    exact prefix_append _ _
  | _ => exact hwrites ▸ prefix_rfl

/-- How a store may go on: no operation disappears, one that ended keeps its record and its log, and
events are only appended. -/
structure Store.Continues (s s' : Store) : Prop where
  operations : ∀ o, (s.operation? o).isSome → (s'.operation? o).isSome
  ended : ∀ o operation, s.operation? o = some operation → operation.status ≠ .pending →
    s'.operation? o = some operation ∧ s'.operationEvents o = s.operationEvents o
  events : s.events <+: s'.events

theorem Store.Continues.refl (s : Store) : Continues s s :=
  ⟨fun _ h => h, fun _ _ h _ => ⟨h, rfl⟩, prefix_rfl⟩

theorem Store.Continues.trans {s s' s'' : Store} (h : Continues s s') (h' : Continues s' s'') :
    Continues s s'' where
  operations o ho := h'.operations o (h.operations o ho)
  ended o operation ho hended := by
    obtain ⟨hkept, hlog⟩ := h.ended o operation ho hended
    obtain ⟨hkept', hlog'⟩ := h'.ended o operation hkept hended
    exact ⟨hkept', hlog'.trans hlog⟩
  events := h.events.trans h'.events

theorem perform_continues (hw : w.store.Inv) (c : Cmd) (x : Choice) :
    Store.Continues w.store (perform c x w).2.store where
  operations o ho := by
    obtain ⟨operation, ho⟩ := Option.isSome_iff_exists.1 ho
    obtain ⟨operation', ho', -⟩ := perform_extends c x w o operation ho
    exact ho' ▸ rfl
  ended o operation ho hended := by
    obtain ⟨operation', ho', rfl | ⟨hpending, -⟩⟩ := perform_extends c x w o operation ho
    · exact ⟨ho', perform_log hw c x ⟨operation', ho, hended⟩⟩
    · exact absurd hpending hended
  events := perform_rel (R := fun s s' => s.events <+: s'.events) (fun _ => prefix_rfl) x
    fun _ _ _ _ _ _ => StoreOp.run_events

theorem System.Step.continues (h : Step s event t) (hs : s.world.store.Inv) :
    s.world.store.Continues t.world.store := by
  cases h with
  | recover w image c k x => exact perform_continues hs c x
  | advance w image before after request c k x => exact perform_continues hs c x
  | outside w w' daemon hstore => exact hstore.symm ▸ .refl w.store
  | _ => exact .refl _

/-- Whatever the daemon does, and however often it crashes and recovers, its store only goes on. -/
theorem history_kept (hs : Reachable s) (hrun : Steps s t) :
    s.world.store.Continues t.world.store := by
  induction hrun with
  | refl => exact .refl _
  | tail hrun hstep ih =>
    obtain ⟨event, hstep⟩ := hstep
    exact ih.trans (hstep.continues (reachable_inv (hs.steps hrun)))

/-- A destroy keeps the history of the sandbox. -/
theorem destroy_keeps_history : upped.store.Continues
    (System.after (destroyInner demoId) (Script.of (replicate 20 {})) upped).store :=
  history_kept upped_reachable (.head ⟨_, .request upped _ [] (.destroy demoId) (by simp)⟩
    (steps_serving _ [] [] _ (destroyInner demoId) (quiet_of (replicate 20 {})) upped))

/-! ### The tasks -/

/-- A task keeps to the protocol of its request, in a standing that the store confirms. -/
def Task.Conducted (task : Task) (w : World) : Prop :=
  ∃ standing : Standing,
    Proceeds (trustSetting task.id) task.program standing ∧ standing.Kept task.id w

theorem Task.Conducted.undisturbed (h : task.Conducted w) (hrely : Undisturbed task.id w w') :
    task.Conducted w' := by
  obtain ⟨standing, hproceeds, hkept⟩ := h
  exact ⟨standing, hproceeds, hkept.undisturbed hrely⟩

/-- A command of a task leaves the other sandboxes alone. -/
theorem Task.Conducted.advance (h : Task.Conducted ⟨request, .call c k⟩ w) (x : Choice) :
    Elsewhere request.id w (perform c x w).2 ∧
      Task.Conducted ⟨request, k (perform c x w).1⟩ (perform c x w).2 := by
  obtain ⟨standing, hproceeds, hkept⟩ := h
  obtain ⟨hloads, hguarded, hnext⟩ := goes_of_allows hkept hproceeds.1 x
  exact ⟨hguarded.1, _, hproceeds.2 _ hloads, hnext⟩

/-- The tasks are conducted, on different sandboxes. -/
def System.Orderly (s : System) : Prop :=
  ∀ image tasks, s.daemon = .serving image tasks →
    (tasks.map Task.id).Nodup ∧ ∀ task ∈ tasks, task.Conducted s.world

theorem System.Step.orderly (h : Step s event t) (hs : s.world.store.Inv) (horderly : s.Orderly) :
    t.Orderly := by
  intro image' tasks' hdaemon
  cases h with
  | boot | recover | refused | crash => cases hdaemon
  | recovered w image findings =>
    cases hdaemon
    exact ⟨nodup_nil, fun _ hmem => absurd hmem not_mem_nil⟩
  | request w image tasks request hfree =>
    cases hdaemon
    obtain ⟨hlocks, htasks⟩ := horderly _ _ rfl
    exact ⟨Serving.locks_request hlocks hfree, forall_mem_append.2
      ⟨htasks, forall_mem_singleton.2 ⟨.free, proceeds_request _ request _, hs⟩⟩⟩
  | advance w image before after request c k x =>
    cases hdaemon
    obtain ⟨hlocks, htasks⟩ := horderly _ _ rfl
    obtain ⟨helsewhere, hnext⟩ := (htasks _ (Serving.mem_around.2 (.inl rfl))).advance x
    refine ⟨by simpa only [map_append, map_cons] using hlocks, fun task hmem => ?_⟩
    rcases Serving.mem_around.1 hmem with rfl | hmem
    · exact hnext
    · exact (htasks task (Serving.mem_around.2 (.inr hmem))).undisturbed
        (helsewhere.undisturbed (Serving.ne_of_mem hlocks hmem))
  | returned | threw =>
    cases hdaemon
    obtain ⟨hlocks, htasks⟩ := horderly _ _ rfl
    exact ⟨Serving.locks_ended hlocks,
      fun task hmem => htasks task (Serving.mem_around.2 (.inr hmem))⟩
  | outside w w' daemon hstore =>
    obtain ⟨hlocks, htasks⟩ := horderly image' tasks' hdaemon
    exact ⟨hlocks, fun task hmem =>
      (htasks task hmem).undisturbed (Serving.undisturbed_of_store hstore _)⟩

/-- In every reachable state, a task is conducted. -/
theorem System.Reachable.conducted
    (hs : Reachable ⟨w, .serving image (before ++ task :: after)⟩) : task.Conducted w := by
  suffices horderly : ∀ {s}, Reachable s → s.Orderly from
    (horderly hs _ _ rfl).2 task (Serving.mem_around.2 (.inl rfl))
  rintro s ⟨w, hempty, hsteps⟩
  induction hsteps with
  | refl => exact nofun
  | tail hsteps hstep ih =>
    obtain ⟨event, hstep⟩ := hstep
    exact hstep.orderly (reachable_inv ⟨w, hempty, hsteps⟩) ih

/-- The steps that are no commands of a request on the sandbox or of a recovery. -/
def System.Spares (id : SandboxId) (_ : System) : Event → Prop
  | .advance request .. => request.id ≠ id
  | .recover .. => False
  | _ => True

theorem System.Step.alike (h : Step s event t) (hs : Reachable s) (hspares : s.Spares id event) :
    Store.Alike id s.world.store t.world.store := by
  have hinv := reachable_inv hs
  cases h with
  | recover => exact hspares.elim
  | advance w image before after request c k x =>
    exact (hs.conducted.advance x).1 hinv |>.2 id hspares.symm
  | outside w w' daemon hstore => exact (Serving.undisturbed_of_store hstore id hinv).2
  | _ => exact .refl id _

/-- As long as no request on a sandbox and no recovery takes a step, the row, the operations and the
logs of the sandbox stay as they are, whatever is done to the others. -/
theorem sandbox_untouched (hs : Reachable s) (hrun : RunsWithin (Spares id) s t) :
    Store.Alike id s.world.store t.world.store := by
  suffices h : Steps s t ∧ Store.Alike id s.world.store t.world.store from h.2
  induction hrun with
  | refl => exact ⟨.refl, .refl id _⟩
  | tail _ hstep ih =>
    obtain ⟨event, hspares, hstep⟩ := hstep
    exact ⟨ih.1.tail ⟨event, hstep⟩, ih.2.trans (hstep.alike (hs.steps ih.1) hspares)⟩

/-- An `up` of one sandbox is not seen by another that was brought up before. -/
theorem up_leaves_other : Store.Alike demoId upped.store
    ((upInner demoImage otherSpec).exec perform {} upped).2.store := by
  have hne : otherId ≠ demoId := by decide
  have hrun : RunsWithin (Spares demoId) ⟨upped, .serving demoImage []⟩ _ :=
    .head ⟨.request (.up otherSpec), trivial, .request upped _ [] _ (by simp)⟩
      (runsWithin_exec (x := {}) (.up otherSpec) (fun _ _ _ _ => hne) (fun _ _ => trivial)
        (fun _ _ => trivial) (upInner demoImage otherSpec) (Prog.check_true _ _ upped))
  have halike := sandbox_untouched upped_reachable hrun
  dsimp only at halike
  exact halike

/-- The commands that write to a record or a log, end an operation, or act in the guest. -/
def Cmd.needsOperation : Cmd → Bool
  | .store (.putSandbox _) _ | .store (.putSandboxWithSshTransport ..) _
  | .store (.setSshResolution ..) _ | .store (.appendOperationEvent ..) _
  | .store (.finishOperation ..) _ | .exec .. | .provision .. => true
  | _ => false

theorem held_of_allows {standing : Standing} (h : (trustSetting id).Allows standing c)
    (hc : c.needsOperation = true) : standing.Held := by
  cases c with
  | store op send =>
    cases op with
    | putSandbox | putSandboxWithSshTransport | setSshResolution => exact h.1
    | appendOperationEvent =>
      obtain ⟨⟨kind, stage, rfl, -⟩, -⟩ := h
      trivial
    | finishOperation =>
      obtain ⟨kind, stage, rfl, -⟩ := h
      trivial
    | _ => cases hc
  | exec | provision =>
    obtain ⟨o, kind, rfl⟩ := h
    trivial
  | _ => cases hc

/-- Whenever a request is about to write to a record or a log, to end an operation or to act in the
guest, an operation on its sandbox is recorded as pending. -/
theorem written_ahead
    (hs : Reachable ⟨w, .serving image (before ++ ⟨request, .call c k⟩ :: after)⟩)
    (hc : c.needsOperation = true) :
    ∃ operation ∈ w.store.operations,
      operation.sandboxId = request.id ∧ operation.status = .pending := by
  obtain ⟨standing, hproceeds, hkept⟩ := hs.conducted
  obtain ⟨operation, hmine, -⟩ := hkept.mine (held_of_allows hproceeds.1 hc)
  exact ⟨operation, hmine.mem, hmine.sandbox, hmine.pending⟩

/-- An `up` logs its first event while its operation is recorded. -/
theorem up_written_ahead :
    ∃ operation ∈ (System.after (upInner demoImage demoSpec) (Script.of (replicate 5 {}))
      demoWorld).store.operations,
      operation.sandboxId = demoId ∧ operation.status = .pending := by
  have hs := demoWorld_reachable.steps
    (.head ⟨_, .request demoWorld _ [] (.up demoSpec) (by simp)⟩ (steps_serving _ [] [] _
      (upInner demoImage demoSpec) (quiet_of (replicate 5 {})) demoWorld))
  obtain ⟨c, k, hrest, hc⟩ : ∃ c k, rest (upInner demoImage demoSpec) (Script.of (replicate 5 {}))
      demoWorld = .call c k ∧ c.needsOperation = true := ⟨_, _, rfl, rfl⟩
  rw [hrest] at hs
  exact written_ahead hs hc

end Gascan
