import Gascan.Proofs.EngineArtifacts

/-!
# `Gascan.Proofs.Fetch`: what a fetch leaves at the live paths

`fetch` verifies both artifacts in staging, and only the promotion touches the live paths. It
removes what is there before it moves the new artifacts, so a crash or a failure in between leaves
nothing (`fetch_loses_kernel`). `fetch_atomic` is for runs whose promotion is not disturbed, and
for first installations. A fetch that returns has installed the pin (`fetch_installs`).
-/

namespace Gascan.Artifacts

open Lib Lib.Prog

/-! ### Staging -/

section Staging

variable {env : Env Command World Choice} {w : World}

/-- A program without a step of the promotion. -/
abbrev Stages {α : Type} (p : Art α) : Prop := p.Uses fun c => c.isPromotion = false

variable {α : Type} {Q : α → World → Prop} {content : Content} {parse : Parser}

theorem wp_of_stages {p : Art α} (hp : Stages p) :
    p.wp perform env LiveSame (fun _ _ => True) (fun _ _ => True) w :=
  wp_of_uses (I := fun _ => True) hp (fun _ _ _ _ => trivial)
    (fun _ x w hc _ _ => ⟨liveSame_perform hc x w, trivial⟩) trivial

/-- The rule for a step of staging of which only the end matters. -/
theorem wp_stages {β : Type} {p : Art β} {k : β → Art α} (hp : Stages p)
    (h : ∀ b w', (k b).wp perform env LiveSame Q (fun _ _ => True) w') :
    (p.bind k).wp perform env LiveSame Q (fun _ _ => True) w :=
  wp_seq (wp_of_stages hp) fun b w' _ => h b w'

theorem LiveSame.trans {w0 w1 w2 : World} (h : LiveSame w0 w1) (h' : LiveSame w1 w2) :
    LiveSame w0 w2 :=
  ⟨h'.1.trans h.1, h'.2.trans h.2⟩

/-- What staging does besides: the live paths are as they were before. -/
theorem wp_staging {p : Art α} {before : World} (hrely : Alone env)
    (h : p.wp perform env LiveSame Q (fun _ _ => True) w) (hsame : LiveSame before w) :
    p.wp perform env (fun _ _ => True) (fun a w' => Q a w' ∧ LiveSame before w')
      (fun _ => LiveSame before) w := by
  refine wp_mono _ (fun _ _ _ => trivial) (fun _ _ h => h) (fun _ _ h => h.2)
    (wp_frame _ (fun w w' hw h => ?_) (fun w w' hw h => ?_) h hsame)
  · rw [hrely w w' hw]
    exact h
  · exact h.trans hw

variable {P : Command → Prop}

variable {c : Command} {name : String}

theorem uses_issue (hc : P c) : (issue c).Uses P := (uses_perform c).2 hc

theorem uses_orIo (reply : Except Unit α) : (orIo reply).Uses P := by
  cases reply <;> trivial

theorem uses_orTool (error : String → ArtifactError) (reply : Except String Unit) :
    (orTool error reply).Uses P := by
  cases reply <;> trivial

theorem uses_requireFile {spot : Spot} {path : List String} {what : String}
    (h : P (.measure spot path)) : (requireFile spot path what content).Uses P := by
  refine uses_bind (uses_issue h) fun reply => uses_bind (uses_orIo reply) fun measured => ?_
  obtain ⟨bytes, sha256⟩ := measured
  dsimp only
  split_ifs <;> trivial

theorem uses_requireOciManifest {spot : Spot} {path : List String} {asset : String}
    (hread : ∀ path, P (.read spot path)) (hmeasure : ∀ path, P (.measure spot path)) :
    (requireOciManifest parse spot path asset content).Uses P := by
  refine uses_bind (uses_issue (hread _)) fun reply => ?_
  refine uses_bind (uses_orIo reply) fun bytes => ?_
  exact uses_bind (uses_ofExcept _) fun index =>
    uses_bind (uses_ofExcept _) fun _ => uses_requireFile (hmeasure _)

/-- After `stageKernel` the kernel in staging is as the pin describes it. -/
theorem wp_stageKernel (hrely : Alone env) (pin : Pin) :
    (stageKernel pin).wp perform env LiveSame
      (fun _ w => HasAt w (.staged "vmlinux") [] pin.kernel.content) (fun _ _ => True) w := by
  refine wp_stages (uses_issue rfl) fun downloaded _ => ?_
  refine wp_stages (uses_orTool _ downloaded) fun _ _ => ?_
  refine wp_stages (uses_requireFile rfl) fun _ _ => ?_
  refine wp_stages (uses_issue rfl) fun unpacked _ => ?_
  refine wp_stages (uses_orTool _ unpacked) fun _ _ => ?_
  exact wp_requireFile hrely (fun _ h => h) fun _ _ _ => trivial

/-- A command that leaves an entry of staging alone. -/
def Command.spares (name : String) : Command → Prop
  | .tool _ _ other | .createDirAll other => other ≠ name
  | .measure .. | .read .. => True
  | _ => False

theorem look_setSpot_of_ne {entry : Option Entry} {other : String} (hne : other ≠ name)
    (path : List String) :
    (w.setSpot entry (.staged other)).look (.staged name) path = w.look (.staged name) path := by
  rw [World.look, World.look, World.setSpot, World.spot, World.spot]
  cases w.staging with
  | none => rfl
  | some staged =>
    dsimp only [Option.map_some, Option.bind_some]
    rw [Function.update_of_ne hne.symm]

theorem look_act_of_spares (hc : c.spares name) (x : Choice) (path : List String) :
    (act c x w).2.look (.staged name) path = w.look (.staged name) path := by
  cases c with
  | tool _ _ other => exact look_setSpot_of_ne hc path
  | measure | read => rfl
  | createDirAll other =>
    dsimp only [act]
    cases w.spot (.staged other) with
    | none =>
      dsimp only
      split_ifs
      · exact look_setSpot_of_ne hc path
      · rfl
    | some entry => cases entry <;> rfl
  | preparePrivateRoot | removeStaging | createStaging | removeFile | removeDirAll | rename =>
    exact hc.elim

theorem look_perform_of_spares (hc : c.spares name) (x : Choice) (path : List String) :
    (perform c x w).2.look (.staged name) path = w.look (.staged name) path := by
  rw [perform]
  split_ifs
  · rfl
  · exact look_act_of_spares hc x path

theorem isPromotion_of_spares (hc : c.spares name) : c.isPromotion = false := by
  cases c <;> first | rfl | exact hc.elim

/-- `stageVminit` works on the asset and on `unpacked`. -/
theorem uses_stageVminit {root : String} {pin : Pin} (hasset : pin.vminit.asset ≠ "vmlinux") :
    (stageVminit parse root pin).Uses (Command.spares "vmlinux") := by
  have hunpacked : "unpacked" ≠ "vmlinux" := by decide
  refine uses_bind (uses_issue hasset) fun downloaded => ?_
  refine uses_bind (uses_orTool _ downloaded) fun _ => ?_
  refine uses_bind (uses_requireFile trivial) fun _ => ?_
  refine uses_bind (uses_issue hunpacked) fun created => uses_bind (uses_orIo created) fun _ => ?_
  refine uses_bind (uses_issue hunpacked) fun unpacked => ?_
  refine uses_bind (uses_orTool _ unpacked) fun _ => ?_
  exact uses_requireOciManifest (fun _ => trivial) fun _ => trivial

/-- Both artifacts in staging are as the pin describes them, and the process is alive. -/
structure Staged (parse : Parser) (pin : Pin) (w : World) : Prop where
  alive : w.crashed = false
  kernel : HasAt w (.staged "vmlinux") [] pin.kernel.content
  vminit : HasLayoutAt w (.staged "unpacked") ["vminit"] parse pin.vminit.content

/-- After `stageVminit` the layout is as the pin describes it, and the kernel is still there. -/
theorem wp_stageVminit (hrely : Alone env) {root : String} {pin : Pin}
    (hasset : pin.vminit.asset ≠ "vmlinux")
    (hkernel : HasAt w (.staged "vmlinux") [] pin.kernel.content) :
    (stageVminit parse root pin).wp perform env LiveSame (fun _ => Staged parse pin)
      (fun _ _ => True) w := by
  have hlayout : (stageVminit parse root pin).wp perform env LiveSame
      (fun _ w => w.crashed = false ∧
        HasLayoutAt w (.staged "unpacked") ["vminit"] parse pin.vminit.content)
      (fun _ _ => True) w := by
    refine wp_stages (uses_issue rfl) fun downloaded _ => ?_
    refine wp_stages (uses_orTool _ downloaded) fun _ _ => ?_
    refine wp_stages (uses_requireFile rfl) fun _ _ => ?_
    refine wp_stages (uses_issue rfl) fun created _ => ?_
    refine wp_stages (uses_orIo created) fun _ _ => ?_
    refine wp_stages (uses_issue rfl) fun unpacked _ => ?_
    refine wp_stages (uses_orTool _ unpacked) fun _ _ => ?_
    exact wp_requireOciManifest hrely (fun halive h => ⟨halive, h⟩) fun _ _ _ => trivial
  have hkept : (stageVminit parse root pin).wp perform env LiveSame
      (fun _ w => HasAt w (.staged "vmlinux") [] pin.kernel.content) (fun _ _ => True) w := by
    refine wp_imp_error (fun _ _ _ => trivial)
      (wp_of_uses (uses_stageVminit hasset) (fun w w' hw h => ?_) (fun c x w hc h _ => ?_) hkernel)
    · rw [hrely w w' hw]
      exact h
    · refine ⟨liveSame_perform (isPromotion_of_spares hc) x w, ?_⟩
      rw [HasAt, look_perform_of_spares hc]
      exact h
  refine wp_imp (fun _ w h => ?_) (fun _ _ _ => trivial)
    (wp_and _ hlayout hkept)
  exact ⟨h.1.1, h.2, h.1.2⟩

end Staging

/-! ### Promotion -/

/-- Each live path holds what was there before, or the new artifact. -/
structure Atomic (parse : Parser) (pin : Pin) (before w : World) : Prop where
  kernel : w.kernel = before.kernel ∨ ∃ entry, w.kernel = some entry ∧
    Has pin.kernel.content entry
  vminit : w.vminit = before.vminit ∨ ∃ layout, w.vminit = some layout ∧
    HasLayout parse pin.vminit.content layout

/-- Nothing is installed. -/
def Vacant (w : World) : Prop := w.kernel = none ∧ w.vminit = none

/-- The kernel path is not a directory, and the path of the layout is not a file. -/
structure Ordinary (w : World) : Prop where
  kernel : ∀ entries, w.kernel ≠ some (.directory entries)
  vminit : ∀ data, w.vminit ≠ some (.file data)

/-- The last step of the promotion. -/
def Command.isLast : Command → Bool
  | .rename _ _ .vminit => true
  | _ => false

/-- A step of the promotion is done, or nothing was installed and this is not a failure of the last
step. -/
def Undisturbed (before : World) (c : Command) (x : Choice) (_ : World) : Prop :=
  c.isPromotion = true →
    x.fate = .done ∨ Vacant before ∧ ¬(c.isLast = true ∧ x.fate = .failed)

/-- What an error has to leave: a process that returns it has changed nothing. -/
structure Failed (parse : Parser) (pin : Pin) (before w : World) : Prop where
  atomic : Atomic parse pin before w
  same : w.crashed = false → LiveSame before w

theorem Failed.of_liveSame {parse : Parser} {pin : Pin} {before w : World} (h : LiveSame before w) :
    Failed parse pin before w :=
  ⟨⟨.inl h.1, .inl h.2⟩, fun _ => h⟩

section Promotion

variable {parse : Parser} {pin : Pin} {before w : World} {x : Choice}

/-- A command that neither is done nor meets anything to remove changes nothing. -/
theorem perform_of_act {c : Command} (h : (act c x w).2 = w) :
    (perform c x w).2 = { w with crashed := w.crashed || decide (x.fate = .crashed) } := by
  cases hcrashed : w.crashed with
  | true =>
    rw [perform, if_pos hcrashed, Bool.true_or, ← hcrashed]
  | false =>
    rw [perform, if_neg (by simp [hcrashed]), h, Bool.false_or]

theorem perform_removeFile (hordinary : ∀ entries, w.kernel ≠ some (.directory entries))
    (h : w.crashed = false ∧ x.fate = .done ∨ w.kernel = none) :
    (perform (.removeFile .kernel) x w).2 =
      { w with kernel := none, crashed := w.crashed || decide (x.fate = .crashed) } := by
  cases hkernel : w.kernel with
  | none =>
    rw [perform_of_act (by simp [act, World.spot, hkernel]), ← hkernel]
  | some entry =>
    obtain ⟨halive, hfate⟩ := h.resolve_right (by simp [hkernel])
    cases entry with
    | directory entries => exact absurd hkernel (hordinary entries)
    | file data =>
      rw [perform_done halive hfate]
      simp [act, World.spot, World.setSpot, hkernel, halive, hfate]

theorem perform_removeDirAll (hordinary : ∀ data, w.vminit ≠ some (.file data))
    (h : w.crashed = false ∧ x.fate = .done ∨ w.vminit = none) :
    (perform (.removeDirAll .vminit) x w).2 =
      { w with vminit := none, crashed := w.crashed || decide (x.fate = .crashed) } := by
  cases hvminit : w.vminit with
  | none =>
    rw [perform_of_act (by simp [act, World.spot, hvminit]), ← hvminit]
  | some entry =>
    obtain ⟨halive, hfate⟩ := h.resolve_right (by simp [hvminit])
    cases entry with
    | file data => exact absurd hvminit (hordinary data)
    | directory entries =>
      rw [perform_done halive hfate]
      simp [act, World.spot, World.setSpot, hvminit, halive, hfate]

/-- A rename to a free path: it is done and moves the entry, or it leaves everything where it was.
-/
theorem perform_rename (target : Spot) {source : Spot} {path : List String} {entry : Entry}
    (hlook : w.look source path = some entry) (hfree : w.spot target = none) :
    (w.crashed = false ∧ x.fate = .done ∧ perform (.rename source path target) x w =
      (.ok (), (w.setSpot ((w.spot source).bind (·.remove path)) source).setSpot
        (some entry) target)) ∨
    (¬(w.crashed = false ∧ x.fate = .done) ∧ perform (.rename source path target) x w =
      (.error (), { w with crashed := w.crashed || decide (x.fate = .crashed) })) := by
  by_cases hdone : w.crashed = false ∧ x.fate = .done
  · refine .inl ⟨hdone.1, hdone.2, ?_⟩
    rw [perform_done hdone.1 hdone.2]
    simp [act, hlook, hfree, hdone.2, replaces]
  · refine .inr ⟨hdone, ?_⟩
    cases hcrashed : w.crashed with
    | true =>
      rw [perform, if_pos hcrashed, Bool.true_or, ← hcrashed]
      rfl
    | false =>
      have hfate : x.fate ≠ .done := fun h => hdone ⟨hcrashed, h⟩
      simp [perform, act, hlook, hcrashed, hfate]

/-- The live paths are free and the new artifacts are in staging. A process that is dead here had
nothing to lose. -/
structure Cleared (parse : Parser) (pin : Pin) (before w : World) : Prop where
  free : Vacant w
  kernel : HasAt w (.staged "vmlinux") [] pin.kernel.content
  vminit : HasLayoutAt w (.staged "unpacked") ["vminit"] parse pin.vminit.content
  alive : w.crashed = false ∨ Vacant before

theorem Vacant.liveSame (hbefore : Vacant before) (hw : Vacant w) : LiveSame before w :=
  ⟨hw.1.trans hbefore.1.symm, hw.2.trans hbefore.2.symm⟩

abbrev promoting (before : World) : Env Command World Choice := alone (Undisturbed before)

/-- The last move. A crash before it leaves the new kernel, and nothing else was there before. -/
theorem wp_moveVminit (halive : w.crashed = false)
    (hkernel : ∃ entry, w.kernel = some entry ∧ Has pin.kernel.content entry)
    (hfree : w.vminit = none)
    (hstaged : HasLayoutAt w (.staged "unpacked") ["vminit"] parse pin.vminit.content) :
    ((issue (.rename (.staged "unpacked") ["vminit"] .vminit)).bind fun renamed =>
      orIo renamed).wp perform (promoting before) (fun _ _ => True)
      (fun _ => Atomic parse pin before) (fun _ => Failed parse pin before) w := by
  obtain ⟨layout, hlayout, hlaid⟩ := hstaged
  refine wp_issue (fun _ _ h => h) fun x hx => ⟨trivial, ?_⟩
  rcases perform_rename .vminit hlayout hfree with ⟨-, -, hmoved⟩ | ⟨hno, hkept⟩
  · rw [hmoved]
    exact ⟨.inr hkernel, .inr ⟨layout, rfl, hlaid⟩⟩
  · rw [hkept]
    have hfate : x.fate ≠ .done := fun hfate => hno ⟨halive, hfate⟩
    obtain ⟨hbefore, hlast⟩ := (hx rfl).resolve_left hfate
    have hcrashed : x.fate = .crashed := by
      cases hx : x.fate with
      | done => exact absurd hx hfate
      | failed => exact absurd ⟨rfl, hx⟩ hlast
      | crashed => rfl
    refine ⟨⟨.inr hkernel, .inl (hfree.trans hbefore.2.symm)⟩, fun h => ?_⟩
    simp [hcrashed] at h

theorem wp_moves (h : Cleared parse pin before w) :
    ((issue (.rename (.staged "vmlinux") [] .kernel)).bind fun renamed =>
      (orIo renamed).bind fun _ =>
        (issue (.rename (.staged "unpacked") ["vminit"] .vminit)).bind fun renamed =>
          orIo renamed).wp perform (promoting before) (fun _ _ => True)
      (fun _ => Atomic parse pin before) (fun _ => Failed parse pin before) w := by
  obtain ⟨kernel, hkernel, hhas⟩ := h.kernel
  refine wp_issue (fun _ _ h => h) fun x hx => ⟨trivial, ?_⟩
  rcases perform_rename .kernel hkernel h.free.1 with ⟨halive, hfate, hmoved⟩ | ⟨hno, hkept⟩
  · rw [hmoved]
    refine wp_moveVminit ?_ ⟨kernel, rfl, hhas⟩ h.free.2 ?_
    · rw [crashed_setSpot, crashed_setSpot, halive]
    · obtain ⟨layout, hlayout, hlaid⟩ := h.vminit
      exact ⟨layout, (look_setSpot_of_ne (by decide) _).trans hlayout, hlaid⟩
  · rw [hkept]
    -- The process died or the rename failed: nothing was installed, and nothing is there now.
    have hbefore : Vacant before := by
      by_contra hbefore
      exact hno ⟨h.alive.resolve_right hbefore, (hx rfl).resolve_right fun h => hbefore h.1⟩
    exact Failed.of_liveSame (hbefore.liveSame h.free)

theorem wp_promote (hsame : LiveSame before w) (hordinary : Ordinary before)
    (h : Staged parse pin w) :
    promote.wp perform (promoting before) (fun _ _ => True) (fun _ => Atomic parse pin before)
      (fun _ => Failed parse pin before) w := by
  refine wp_issue (fun _ _ h => h) fun x hx => ⟨trivial, ?_⟩
  -- The removals are done, or there is nothing to remove.
  have hx : x.fate = .done ∨ Vacant before := (hx rfl).imp_right And.left
  rw [perform_removeFile (by rw [hsame.1]; exact hordinary.kernel)
    (hx.imp (fun hfate => ⟨h.alive, hfate⟩) fun hbefore => hsame.1.trans hbefore.1)]
  refine wp_issue (fun _ _ h => h) fun y hy => ⟨trivial, ?_⟩
  have hy : y.fate = .done ∨ Vacant before := (hy rfl).imp_right And.left
  have hboth : x.fate = .done ∧ y.fate = .done ∨ Vacant before := by
    rcases hx with hx | hbefore
    · exact hy.imp_left fun hy => ⟨hx, hy⟩
    · exact .inr hbefore
  generalize hdead : (w.crashed || decide (x.fate = .crashed)) = dead
  have halive : x.fate = .done → dead = false := by
    intro hfate
    rw [← hdead, h.alive, hfate]
    rfl
  rw [perform_removeDirAll (w := { w with kernel := none, crashed := dead })
    (by rw [hsame.2]; exact hordinary.vminit)
    (hboth.imp (fun hdone => ⟨halive hdone.1, hdone.2⟩) fun hbefore => hsame.2.trans hbefore.2)]
  refine wp_moves ⟨⟨rfl, rfl⟩, h.kernel, h.vminit, hboth.imp_left fun hdone => ?_⟩
  rw [halive hdone.1, hdone.2]
  rfl

theorem wp_staged {α : Type} {p : Art α} {env : Env Command World Choice}
    {Q : α → World → Prop} (hrely : Alone env)
    (h : p.wp perform env LiveSame Q (fun _ _ => True) w) (hsame : LiveSame before w) :
    p.wp perform env (fun _ _ => True) (fun a w' => Q a w' ∧ LiveSame before w')
      (fun _ => Failed parse pin before) w :=
  wp_imp_error (fun _ _ h => Failed.of_liveSame h)
    (wp_staging hrely h hsame)

theorem wp_fetchInto {root : String} (hasset : pin.vminit.asset ≠ "vmlinux")
    (hordinary : Ordinary before) (hsame : LiveSame before w) :
    (fetchInto parse root pin).wp perform (promoting before) (fun _ _ => True)
      (fun _ => Atomic parse pin before) (fun _ => Failed parse pin before) w := by
  have hrely : Alone (promoting before) := fun _ _ h => h
  refine wp_seq (wp_staged hrely (wp_stageKernel hrely pin) hsame) fun _ w1 h1 => ?_
  refine wp_seq (wp_staged hrely (wp_stageVminit hrely hasset h1.1) h1.2) fun _ w2 h2 => ?_
  exact wp_promote h2.2 hordinary h2.1

end Promotion

/-! ### The whole fetch -/

section Fetch

variable {parse : Parser} {pin : Pin} {before w : World}

theorem Atomic.of_liveSame {w' : World} (h : Atomic parse pin before w) (hw : LiveSame w w') :
    Atomic parse pin before w' := by
  refine ⟨?_, ?_⟩
  · rw [hw.1]
    exact h.kernel
  · rw [hw.2]
    exact h.vminit

/-- A command that leaves the live paths alone does not undo a failure. -/
theorem Failed.perform {c : Command} (hc : c.isPromotion = false) (x : Choice)
    (h : Failed parse pin before w) : Failed parse pin before (perform c x w).2 := by
  have hw := liveSame_perform hc x w
  refine ⟨h.atomic.of_liveSame hw, fun halive => (h.same ?_).trans hw⟩
  -- The dead stay dead.
  cases hcrashed : w.crashed with
  | false => rfl
  | true =>
    rw [Artifacts.perform, if_pos hcrashed] at halive
    exact hcrashed.symm.trans halive

/-- The rule for a step around `fetchInto` whose error ends the function. -/
theorem wp_around {α β : Type} {p : Art β} {k : β → Art α} {Q : α → World → Prop}
    (hp : Stages p) (hsame : LiveSame before w)
    (h : ∀ b w', LiveSame before w' → (k b).wp perform (promoting before) (fun _ _ => True) Q
      (fun _ => Failed parse pin before) w') :
    (p.bind k).wp perform (promoting before) (fun _ _ => True) Q
      (fun _ => Failed parse pin before) w :=
  wp_seq (wp_staged (fun _ _ h => h) (wp_of_stages hp) hsame) fun b w' hw' => h b w' hw'.2

theorem wp_fetch {root : String} (hasset : pin.vminit.asset ≠ "vmlinux") (hordinary : Ordinary w) :
    (fetch parse root pin).wp perform (promoting w) (fun _ _ => True)
      (fun _ => Atomic parse pin w) (fun _ => Failed parse pin w) w := by
  refine wp_around (uses_issue rfl) ⟨rfl, rfl⟩ fun prepared w1 h1 => ?_
  refine wp_around (uses_orIo prepared) h1 fun _ w2 h2 => ?_
  refine wp_around (uses_issue rfl) h2 fun _ w3 h3 => ?_
  refine wp_around (uses_issue rfl) h3 fun created w4 h4 => ?_
  refine wp_around (uses_orIo created) h4 fun _ w5 h5 => ?_
  refine wp_handle (wp_fetchInto hasset hordinary h5) (fun u w' h => ?_) fun e w' h => ?_
  · exact wp_issue (fun _ _ h => h) fun x _ =>
      ⟨trivial, h.of_liveSame (liveSame_perform rfl x w')⟩
  · exact wp_issue (fun _ _ h => h) fun x _ => ⟨trivial, h.perform rfl x⟩

/-- **A fetch is atomic if its promotion is not disturbed.** The kernel path is no directory, the
path of the layout no file, and the asset of `vminit` has not the name of the staged kernel. Every
step of the promotion is done, or nothing was installed and the last step does not fail without a
crash. Then each live path holds what was there before or the new artifact, wherever the process
dies and whatever else fails, and an error that is returned has changed nothing. -/
theorem fetch_atomic (parse : Parser) (root : String) (pin : Pin) (w : World) (xs : Nat → Choice)
    (hasset : pin.vminit.asset ≠ "vmlinux") (hordinary : Ordinary w)
    (hxs : Steps (Undisturbed w) (fetch parse root pin) xs w) :
    Atomic parse pin w (along (fetch parse root pin) xs w).2 ∧
      ∀ e, (along (fetch parse root pin) xs w).1 = .error e →
        (along (fetch parse root pin) xs w).2.crashed = false →
          LiveSame w (along (fetch parse root pin) xs w).2 := by
  obtain ⟨hok, herror⟩ := along_of_wp (wp_fetch hasset hordinary) hxs
  refine ⟨?_, fun e he => (herror e he).same⟩
  cases hresult : (along (fetch parse root pin) xs w).1 with
  | ok u => exact hok u hresult
  | error e => exact (herror e hresult).atomic

/-! ### A promotion that is disturbed -/

/-- Everything is done, and the tools leave what `smallPin` describes. The promotion starts with the
fourteenth command. -/
def smallChoices : Nat → Choice
  | 3 | 5 | 7 => ⟨.done, some (.file []), ""⟩
  | 10 => ⟨.done, some (.directory [("vminit", smallLayout)]), ""⟩
  | _ => undisturbed

theorem smallChoices_done (n : Nat) : (smallChoices n).fate = .done := by
  unfold smallChoices
  split <;> rfl

/-- The same, with another fate for one command. -/
def smallChoicesBut (command : Nat) (fate : Fate) (n : Nat) : Choice :=
  if n = command then ⟨fate, none, ""⟩ else smallChoices n

/-- The fetch above, where something is installed. -/
def smallFetch (xs : Nat → Choice) : Except ArtifactError Unit × World :=
  along (fetch smallParser "/engine" smallPin) xs smallWorld

end Fetch

/-- A fetch over an installation that is not disturbed. -/
theorem fetch_atomic_small :
    (smallFetch smallChoices).1 = .ok () ∧
      Atomic smallParser smallPin smallWorld (smallFetch smallChoices).2 :=
  ⟨by decide +kernel, (fetch_atomic smallParser "/engine" smallPin smallWorld smallChoices
    (by decide) ⟨nofun, nofun⟩
    (steps_of_forall fun n _ _ _ => .inl (smallChoices_done n))).1⟩

/-- A crash after the removal of the kernel leaves no kernel, although one was installed. A failure
of the first rename is returned, and both live paths are empty. -/
theorem fetch_loses_kernel :
    smallWorld.kernel.isSome = true ∧
    (smallFetch (smallChoicesBut 14 .crashed)).2.kernel.isNone = true ∧
    (smallFetch (smallChoicesBut 15 .failed)).1 = .error .io ∧
    (smallFetch (smallChoicesBut 15 .failed)).2.crashed = false ∧
    (smallFetch (smallChoicesBut 15 .failed)).2.kernel.isNone = true ∧
    (smallFetch (smallChoicesBut 15 .failed)).2.vminit.isNone = true := by
  decide +kernel

/-! ### A fetch that returns -/

section Returned

variable {env : Env Command World Choice} {parse : Parser} {pin : Pin} {w : World}

theorem staging_perform_remove {c : Command}
    (hc : c = .removeFile .kernel ∨ c = .removeDirAll .vminit) (x : Choice) :
    (perform c x w).2.staging = w.staging := by
  rw [perform]
  split_ifs
  · rfl
  · rcases hc with rfl | rfl <;> dsimp only [act] <;> split <;> (try split_ifs) <;> rfl

theorem look_staged_congr {w' : World} (h : w'.staging = w.staging) (name : String)
    (path : List String) : w'.look (.staged name) path = w.look (.staged name) path := by
  rw [World.look, World.look, World.spot, World.spot, h]

/-- A rename moves the entry whatever is at its target, or it is an error. -/
theorem perform_rename_moves (target : Spot) {source : Spot} {path : List String} {entry : Entry}
    (hlook : w.look source path = some entry) (x : Choice) :
    perform (.rename source path target) x w =
      (.ok (), (w.setSpot ((w.spot source).bind (·.remove path)) source).setSpot
        (some entry) target) ∨
    ∃ w', perform (.rename source path target) x w = (.error (), w') := by
  cases hcrashed : w.crashed with
  | true =>
    refine .inr ⟨w, ?_⟩
    rw [perform, if_pos hcrashed]
    rfl
  | false =>
    by_cases hdone : x.fate = .done ∧ replaces entry (w.spot target)
    · refine .inl ?_
      rw [perform_done hcrashed hdone.1]
      simp [act, hlook, hdone]
    · refine .inr ⟨(perform (.rename source path target) x w).2, Prod.ext ?_ rfl⟩
      simp [perform, act, hlook, hcrashed, hdone]

/-- The rule for a rename. -/
theorem wp_rename {α : Type} {f : Except Unit Unit → Art α} {Q : α → World → Prop}
    {E : ArtifactError → World → Prop} (hrely : Alone env) (target : Spot) {source : Spot}
    {path : List String} {entry : Entry} (hlook : w.look source path = some entry)
    (hok : (f (.ok ())).wp perform env (fun _ _ => True) Q E
      ((w.setSpot ((w.spot source).bind (·.remove path)) source).setSpot (some entry) target))
    (herror : ∀ w', (f (.error ())).wp perform env (fun _ _ => True) Q E w') :
    ((issue (.rename source path target)).bind f).wp perform env (fun _ _ => True) Q E w := by
  refine wp_issue hrely fun x _ => ⟨trivial, ?_⟩
  rcases perform_rename_moves target hlook x with hmoved | ⟨w', hfailed⟩
  · rw [hmoved]
    exact hok
  · rw [hfailed]
    exact herror w'

/-- The removals leave staging alone, and each rename moves a verified artifact. -/
theorem wp_promote_installs (hrely : Alone env) (h : Staged parse pin w) :
    promote.wp perform env (fun _ _ => True) (fun _ => Installed parse pin) (fun _ _ => True)
      w := by
  obtain ⟨kernel, hkernel, hhas⟩ := h.kernel
  obtain ⟨layout, hlayout, hlaid⟩ := h.vminit
  refine wp_issue hrely fun x _ => ⟨trivial, ?_⟩
  refine wp_issue hrely fun y _ => ⟨trivial, ?_⟩
  have hstaged (name : String) (path : List String) := look_staged_congr
    ((staging_perform_remove (.inr rfl) y).trans (staging_perform_remove (.inl rfl) x)) name path
      (w := w)
  refine wp_rename hrely .kernel ((hstaged _ _).trans hkernel) ?_ fun _ => trivial
  have hother : "vmlinux" ≠ "unpacked" := by decide
  exact wp_rename hrely .vminit ((look_setSpot_of_ne hother _).trans ((hstaged _ _).trans hlayout))
    ⟨⟨kernel, rfl, hhas⟩, layout, rfl, hlaid⟩ fun _ => trivial

/-- The rule for a step whose error does not matter. -/
theorem wp_past {α β : Type} {p : Art β} {k : β → Art α} {M : β → World → Prop}
    {Q : α → World → Prop} (hp : p.wp perform env LiveSame M (fun _ _ => True) w)
    (h : ∀ b w', M b w' → (k b).wp perform env (fun _ _ => True) Q (fun _ _ => True) w') :
    (p.bind k).wp perform env (fun _ _ => True) Q (fun _ _ => True) w :=
  wp_seq (wp_mono _ (fun _ _ _ => trivial) (fun _ _ h => h) (fun _ _ h => h) hp) h

theorem wp_fetch_installs (hrely : Alone env) {root : String}
    (hasset : pin.vminit.asset ≠ "vmlinux") :
    (fetch parse root pin).wp perform env (fun _ _ => True) (fun _ => Installed parse pin)
      (fun _ _ => True) w := by
  have hinto (w : World) : (fetchInto parse root pin).wp perform env (fun _ _ => True)
      (fun _ => Installed parse pin) (fun _ _ => True) w :=
    wp_past (wp_stageKernel hrely pin) fun _ _ h =>
      wp_past (wp_stageVminit hrely hasset h) fun _ _ h => wp_promote_installs hrely h
  refine wp_past (wp_of_stages (uses_issue rfl)) fun prepared _ _ => ?_
  refine wp_past (wp_of_stages (uses_orIo prepared)) fun _ _ _ => ?_
  refine wp_past (wp_of_stages (uses_issue rfl)) fun _ _ _ => ?_
  refine wp_past (wp_of_stages (uses_issue rfl)) fun created _ _ => ?_
  refine wp_past (wp_of_stages (uses_orIo created)) fun _ w' _ => ?_
  refine wp_handle (hinto w') (fun _ w' h => ?_) fun _ _ _ => ?_
  · refine wp_issue hrely fun x _ => ⟨trivial, ?_⟩
    obtain ⟨hkernel, hvminit⟩ := liveSame_perform (c := .removeStaging) rfl x w'
    exact ⟨hkernel ▸ h.kernel, hvminit ▸ h.vminit⟩
  · exact wp_issue hrely fun _ _ => ⟨trivial, trivial⟩

end Returned

/-- **A fetch that returns has installed the pin.** Whatever was installed, whichever files and
directories the tools leave and whichever steps fail, if `fetch` returns, the kernel and the layout
at the live paths are as the pin describes them. The asset of `vminit` has not the name of the
staged kernel, and no tool leaves a symbolic link. -/
theorem fetch_installs (parse : Parser) (root : String) (pin : Pin) (w : World) (xs : Nat → Choice)
    (hasset : pin.vminit.asset ≠ "vmlinux")
    (hok : (along (fetch parse root pin) xs w).1 = .ok ()) :
    Installed parse pin (along (fetch parse root pin) xs w).2 := by
  have hany : Steps (fun _ _ _ => True) (fetch parse root pin) xs w :=
    steps_of_forall fun _ _ _ => trivial
  exact (along_of_wp (wp_fetch_installs (fun _ _ h => h) hasset) hany).1 () hok

/-- The removal of the old kernel fails, and the new one replaces it. -/
theorem fetch_installs_small :
    Installed smallParser smallPin (smallFetch (smallChoicesBut 13 .failed)).2 :=
  fetch_installs _ _ _ _ _ (by decide) (by decide +kernel)

end Gascan.Artifacts
