import Gascan.Core.EngineArtifacts

/-!
# `Gascan.Proofs.EngineArtifacts`: what the verification of the boot artifacts verifies

`verifyInstalled_spec` says what `verifyInstalled` verifies: the kernel, the one manifest that the
index names, and the blob of this manifest. The blobs that the manifest names are not looked at
(`covers_iff`), and `verifyInstalled_missing_config` is an accepted installation without one.
-/

namespace Gascan.Artifacts

open Lib Lib.Prog

/-- A file with the length and the digest of the pin. -/
def Has (content : Content) (entry : Entry) : Prop :=
  ∃ data, entry = .file data ∧ data.length = content.bytes ∧ sha256Hex data = content.sha256

/-- The index names one manifest, by the digest and the size of the pin. -/
def IndexNames (content : Content) (index : Json) : Prop :=
  ∃ manifest, (index.get "manifests").bind Json.asArray = some [manifest] ∧
    manifest.getStr "digest" = some ("sha256:" ++ content.sha256) ∧
    manifest.getNat "size" = some content.bytes

/-- An image layout as the pin describes it: the index names one manifest, by its digest and size,
and the blob of this manifest has them. -/
structure HasLayout (parse : Parser) (content : Content) (layout : Entry) : Prop where
  index : ∃ data index, layout.find ["index.json"] = some (.file data) ∧ parse data = .ok index ∧
    IndexNames content index
  blob : ∃ entry, layout.find ["blobs", "sha256", content.sha256] = some entry ∧ Has content entry

/-! ### Verification -/

section Verify

variable {env : Env Command World Choice} {G : World → World → Prop} {w : World}

/-- Only this process changes the world. -/
abbrev Alone (env : Env Command World Choice) : Prop := ∀ w w', env.rely w w' → w' = w

variable {c : Command} {E : ArtifactError → World → Prop} {spot : Spot} {path : List String}

/-- The rule for a command, when nobody else changes the world. -/
theorem wp_issue {α : Type} (hrely : Alone env) {k : c.Reply → Art α} {Q : α → World → Prop}
    (h : ∀ x, env.allows c x w → G w (perform c x w).2 ∧
      (k (perform c x w).1).wp perform env G Q E (perform c x w).2) :
    ((issue c).bind k).wp perform env G Q E w := by
  intro w1 hw x hallows
  obtain rfl := hrely w w1 hw
  exact h x hallows

/-- The live paths are as they were. -/
def LiveSame (w w' : World) : Prop := w'.kernel = w.kernel ∧ w'.vminit = w.vminit

/-- A command that is not a step of the promotion. -/
def Command.isPromotion : Command → Bool
  | .removeFile _ | .removeDirAll _ | .rename .. => true
  | _ => false

theorem liveSame_act (hc : c.isPromotion = false) (x : Choice) (w : World) :
    LiveSame w (act c x w).2 := by
  cases c with
  | removeFile | removeDirAll | rename => cases hc
  | preparePrivateRoot => exact ⟨rfl, rfl⟩
  | tool => exact ⟨rfl, rfl⟩
  | removeStaging | createStaging =>
    dsimp only [act]
    split_ifs <;> exact ⟨rfl, rfl⟩
  | measure | read => exact ⟨rfl, rfl⟩
  | createDirAll name =>
    dsimp only [act]
    cases w.spot (.staged name) with
    | none =>
      dsimp only
      split_ifs <;> exact ⟨rfl, rfl⟩
    | some entry => cases entry <;> exact ⟨rfl, rfl⟩

theorem liveSame_perform (hc : c.isPromotion = false) (x : Choice) (w : World) :
    LiveSame w (perform c x w).2 := by
  rw [perform]
  split_ifs
  · exact ⟨rfl, rfl⟩
  · exact liveSame_act hc x w

variable {x : Choice} {data : List UInt8} {Q : Unit → World → Prop} {content : Content}
  {asset : String}

theorem data_eq_some {entry : Option Entry} (h : entry.bind Entry.data = some data) :
    entry = some (.file data) := by
  obtain ⟨entry, rfl, hdata⟩ := Option.bind_eq_some_iff.1 h
  cases entry with
  | file data' => rw [Option.some.inj hdata]
  | directory entries => cases hdata

/-- A file is read when there is one and the command is done. -/
theorem readFile_eq_ok {α : Type} {f : List UInt8 → α} {a : α} :
    readFile f spot path x w = .ok a ↔
      x.fate = .done ∧ ∃ data, w.look spot path = some (.file data) ∧ f data = a := by
  rw [readFile]
  cases hdata : (w.look spot path).bind Entry.data with
  | none =>
    refine ⟨nofun, ?_⟩
    rintro ⟨-, data, hlook, -⟩
    rw [hlook] at hdata
    cases hdata
  | some data =>
    have hlook := data_eq_some hdata
    by_cases hfate : x.fate = .done
    · simp [hfate, hlook]
    · simp [hfate]

theorem crashed_setSpot (w : World) (entry : Option Entry) (spot : Spot) :
    (w.setSpot entry spot).crashed = w.crashed := by
  cases spot <;> rfl

theorem crashed_act (c : Command) (x : Choice) (w : World) :
    (act c x w).2.crashed = w.crashed := by
  cases c with
  | preparePrivateRoot | measure | read => rfl
  | tool => rfl
  | removeStaging | createStaging =>
    dsimp only [act]
    split_ifs <;> rfl
  | createDirAll name =>
    dsimp only [act]
    cases w.spot (.staged name) with
    | none =>
      dsimp only
      split_ifs <;> rfl
    | some entry => cases entry <;> rfl
  | removeFile spot =>
    dsimp only [act]
    cases w.spot spot with
    | none => rfl
    | some entry =>
      cases entry with
      | directory => rfl
      | file =>
        dsimp only
        split_ifs
        · exact crashed_setSpot ..
        · rfl
  | removeDirAll spot =>
    dsimp only [act]
    cases w.spot spot with
    | none => rfl
    | some entry =>
      cases entry with
      | file => rfl
      | directory =>
        dsimp only
        split_ifs <;> exact crashed_setSpot ..
  | rename source path target =>
    dsimp only [act]
    cases w.look source path with
    | none => rfl
    | some entry =>
      dsimp only
      split_ifs
      · rw [crashed_setSpot, crashed_setSpot]
      · rfl

theorem perform_done (hcrashed : w.crashed = false) (hfate : x.fate = .done) :
    perform c x w = act c x w := by
  have hkeep : (act c x w).2.crashed = false := (crashed_act c x w).trans hcrashed
  rw [perform, hcrashed, hfate]
  refine Prod.ext rfl ?_
  show { (act c x w).2 with crashed := false } = (act c x w).2
  rw [← hkeep]

theorem perform_measure_ok {measured : Nat × String}
    (h : (perform (.measure spot path) x w).1 = .ok measured) :
    perform (.measure spot path) x w = (.ok measured, w) ∧ w.crashed = false ∧
      ∃ data, w.look spot path = some (.file data) ∧ measured = (data.length, sha256Hex data) := by
  cases hcrashed : w.crashed with
  | true => simp [perform, hcrashed, noReply] at h
  | false =>
    have hread : (act (.measure spot path) x w).1 = .ok measured := by
      simpa [perform, hcrashed] using h
    obtain ⟨hfate, data, hlook, hmeasured⟩ := readFile_eq_ok.1 hread
    refine ⟨?_, rfl, data, hlook, hmeasured.symm⟩
    rw [perform_done hcrashed hfate]
    exact Prod.ext hread rfl

theorem perform_read_ok (h : (perform (.read spot path) x w).1 = .ok data) :
    perform (.read spot path) x w = (.ok data, w) ∧ w.crashed = false ∧
      w.look spot path = some (.file data) := by
  cases hcrashed : w.crashed with
  | true => simp [perform, hcrashed, noReply] at h
  | false =>
    have hread : (act (.read spot path) x w).1 = .ok data := by
      simpa [perform, hcrashed] using h
    obtain ⟨hfate, data', hlook, rfl⟩ := readFile_eq_ok.1 hread
    refine ⟨?_, rfl, hlook⟩
    rw [perform_done hcrashed hfate]
    exact Prod.ext hread rfl

/-- There is a file as the pin describes it at a path. -/
def HasAt (w : World) (spot : Spot) (path : List String) (content : Content) : Prop :=
  ∃ entry, w.look spot path = some entry ∧ Has content entry

/-- Every command is done. -/
def Quiet (env : Env Command World Choice) : Prop := ∀ c x w, env.allows c x w → x.fate = .done

/-- `requireFile` succeeds for a file as the pin describes it. It fails for another one, and when
the file cannot be read. -/
theorem wp_requireFile (hrely : Alone env) {what : String}
    (hok : w.crashed = false → HasAt w spot path content → Q () w)
    (herror : ∀ e w', ¬(Quiet env ∧ w.crashed = false ∧ HasAt w spot path content) → E e w') :
    (requireFile spot path what content).wp perform env LiveSame Q E w := by
  refine wp_issue hrely fun x hallows => ⟨liveSame_perform rfl x w, ?_⟩
  cases hreply : (perform (.measure spot path) x w).1 with
  | error u =>
    refine herror _ _ ?_
    rintro ⟨hquiet, hcrashed, entry, hlook, data, rfl, -⟩
    have hfate := hquiet _ x w hallows
    rw [perform_done hcrashed hfate] at hreply
    have hread : (act (.measure spot path) x w).1 = .ok (data.length, sha256Hex data) :=
      readFile_eq_ok.2 ⟨hfate, data, hlook, rfl⟩
    exact nomatch hread.symm.trans hreply
  | ok measured =>
    obtain ⟨hperform, hcrashed, data, hlook, rfl⟩ := perform_measure_ok hreply
    have hno : ¬(data.length = content.bytes ∧ sha256Hex data = content.sha256) →
        ¬HasAt w spot path content := by
      rintro hno ⟨entry, hentry, data', rfl, hhas⟩
      obtain rfl := Entry.file.inj (Option.some.inj (hlook.symm.trans hentry))
      exact hno hhas
    show Prog.wp _ _ _ _ _ (if data.length ≠ content.bytes then _ else if _ then _ else _) _
    split_ifs with hlength hsha
    · exact herror _ _ fun h => hno (fun h => hlength h.1) h.2.2
    · exact herror _ _ fun h => hno (fun h => hsha h.2) h.2.2
    · rw [hperform]
      exact hok hcrashed ⟨_, hlook, data, rfl, not_not.1 hlength, not_not.1 hsha⟩

theorem find_append (entry : Entry) (path rest : List String) :
    entry.find (path ++ rest) = (entry.find path).bind (·.find rest) := by
  induction path generalizing entry with
  | nil => rfl
  | cons name path ih =>
    cases entry with
    | file data => rfl
    | directory entries =>
      rw [List.cons_append, Entry.find, Entry.find]
      cases (entries.find? (·.1 = name)).map Prod.snd with
      | none => rfl
      | some entry => exact ih entry

theorem look_append (w : World) (spot : Spot) (path rest : List String) :
    w.look spot (path ++ rest) = (w.look spot path).bind (·.find rest) := by
  rw [World.look, World.look, Option.bind_assoc]
  congr 1
  funext entry
  exact find_append entry path rest

theorem sha256_append_ne_empty (sha256 : String) : "sha256:" ++ sha256 ≠ "" := by
  intro h
  have hlength := congrArg String.length h
  simp at hlength

theorem checkIndex_eq_ok {index : Json} :
    checkIndex asset content index = .ok () ↔ IndexNames content index := by
  rw [checkIndex, IndexNames]
  cases (index.get "manifests").bind Json.asArray with
  | none => simp
  | some manifests =>
    match manifests with
    | [] => simp
    | first :: second :: rest => simp
    | [manifest] =>
      -- The default for a digest that is absent is not a digest.
      have hdigest : (manifest.getStr "digest").getD "" = "sha256:" ++ content.sha256 ↔
          manifest.getStr "digest" = some ("sha256:" ++ content.sha256) := by
        cases manifest.getStr "digest" with
        | none => simp [Ne.symm (sha256_append_ne_empty content.sha256)]
        | some digest => simp
      dsimp only
      split_ifs with hother hsize
      · refine ⟨nofun, ?_⟩
        rintro ⟨_, hsame, hnamed, -⟩
        cases hsame
        exact absurd (hdigest.2 hnamed) hother
      · refine ⟨nofun, ?_⟩
        rintro ⟨_, hsame, -, hnamed⟩
        cases hsame
        exact absurd hnamed hsize
      · exact ⟨fun _ => ⟨manifest, rfl, hdigest.1 (not_not.1 hother), not_not.1 hsize⟩,
          fun _ => rfl⟩

/-- There is a layout as the pin describes it at a path. -/
def HasLayoutAt (w : World) (spot : Spot) (path : List String) (parse : Parser)
    (content : Content) : Prop :=
  ∃ layout, w.look spot path = some layout ∧ HasLayout parse content layout

/-- `requireOciManifest` succeeds for a layout as the pin describes it. -/
theorem wp_requireOciManifest (hrely : Alone env) {parse : Parser}
    (hok : w.crashed = false → HasLayoutAt w spot path parse content → Q () w) (herror : ∀ e w',
      ¬(Quiet env ∧ w.crashed = false ∧ HasLayoutAt w spot path parse content) → E e w') :
    (requireOciManifest parse spot path asset content).wp perform env LiveSame Q E w := by
  refine wp_issue hrely fun x hallows => ⟨liveSame_perform rfl x w, ?_⟩
  cases hreply : (perform (.read spot (path ++ ["index.json"])) x w).1 with
  | error u =>
    refine herror _ _ ?_
    rintro ⟨hquiet, hcrashed, layout, hlayout, ⟨data, index, hdata, -⟩, -⟩
    have hfate := hquiet _ x w hallows
    rw [perform_done hcrashed hfate] at hreply
    have hlook : w.look spot (path ++ ["index.json"]) = some (.file data) := by
      rw [look_append, hlayout]
      exact hdata
    have hread : (act (.read spot (path ++ ["index.json"])) x w).1 = .ok data :=
      readFile_eq_ok.2 ⟨hfate, data, hlook, rfl⟩
    exact nomatch hread.symm.trans hreply
  | ok data =>
    obtain ⟨hperform, hcrashed, hlook⟩ := perform_read_ok hreply
    rw [look_append] at hlook
    obtain ⟨layout, hlayout, hdata⟩ := Option.bind_eq_some_iff.1 hlook
    -- The layout at the path is this one, and its index has this content.
    have hsame : HasLayoutAt w spot path parse content →
        HasLayout parse content layout ∧ ∃ index, parse data = .ok index ∧
          IndexNames content index := by
      rintro ⟨layout', hlayout', h⟩
      obtain rfl := Option.some.inj (hlayout.symm.trans hlayout')
      obtain ⟨data', index, hdata', hindex⟩ := h.index
      obtain rfl := Entry.file.inj (Option.some.inj (hdata.symm.trans hdata'))
      exact ⟨h, index, hindex⟩
    rw [hperform]
    show Prog.wp _ _ _ _ _ (Prog.bind (Prog.ofExcept ((parse data).mapError _)) _) w
    cases hparse : parse data with
    | error detail =>
      refine herror _ _ fun h => ?_
      obtain ⟨-, index, hindex, -⟩ := hsame h.2.2
      exact nomatch hparse.symm.trans hindex
    | ok index =>
      show Prog.wp _ _ _ _ _ (Prog.bind (Prog.ofExcept (checkIndex asset content index)) _) w
      cases hcheck : checkIndex asset content index with
      | error e =>
        refine herror _ _ fun h => ?_
        obtain ⟨-, index', hindex, hnames⟩ := hsame h.2.2
        obtain rfl := Except.ok.inj (hparse.symm.trans hindex)
        exact nomatch hcheck.symm.trans (checkIndex_eq_ok.2 hnames)
      | ok u =>
        have hindex : ∃ data index, layout.find ["index.json"] = some (.file data) ∧
            parse data = .ok index ∧ IndexNames content index :=
          ⟨data, index, hdata, hparse, checkIndex_eq_ok.1 hcheck⟩
        refine wp_requireFile hrely (fun hcrashed hblob => ?_) fun e w' hno => ?_
        · obtain ⟨entry, hentry, hhas⟩ := hblob
          rw [look_append, hlayout] at hentry
          exact hok hcrashed ⟨layout, hlayout, hindex, entry, hentry, hhas⟩
        · refine herror e w' fun h => hno ⟨h.1, h.2.1, ?_⟩
          obtain ⟨entry, hentry, hhas⟩ := (hsame h.2.2).1.blob
          refine ⟨entry, ?_, hhas⟩
          rw [look_append, hlayout]
          exact hentry

end Verify

/-! ### What is verified -/

/-- The artifacts at the live paths are as the pin describes them. -/
structure Installed (parse : Parser) (pin : Pin) (w : World) : Prop where
  kernel : ∃ entry, w.kernel = some entry ∧ Has pin.kernel.content entry
  vminit : ∃ layout, w.vminit = some layout ∧ HasLayout parse pin.vminit.content layout

theorem look_nil (w : World) (spot : Spot) : w.look spot [] = w.spot spot := by
  rw [World.look]
  cases w.spot spot <;> rfl

variable {w : World} {E : ArtifactError → World → Prop} {xs : Nat → Choice}

theorem wp_verifyInstalled {env : Env Command World Choice} (hrely : Alone env) {parse : Parser}
    {root : String} {pin : Pin} {Q : Unit → World → Prop} (hok : Installed parse pin w → Q () w)
    (herror : ∀ e w', ¬(Quiet env ∧ w.crashed = false ∧ Installed parse pin w) → E e w') :
    (verifyInstalled parse root pin).wp perform env LiveSame Q E w := by
  have hkernel : HasAt w .kernel [] pin.kernel.content ↔
      ∃ entry, w.kernel = some entry ∧ Has pin.kernel.content entry := by
    rw [HasAt, look_nil]
    rfl
  have hvminit : HasLayoutAt w .vminit [] parse pin.vminit.content ↔
      ∃ layout, w.vminit = some layout ∧ HasLayout parse pin.vminit.content layout := by
    rw [HasLayoutAt, look_nil]
    rfl
  refine wp_seq (M := fun _ w' => w' = w ∧ HasAt w .kernel [] pin.kernel.content)
    (wp_requireFile hrely (fun _ h => ⟨rfl, h⟩) fun e w' h => ?_) fun _ w' h => ?_
  · exact herror e w' fun hall => h ⟨hall.1, hall.2.1, hkernel.2 hall.2.2.kernel⟩
  · obtain ⟨rfl, hhas⟩ := h
    refine wp_requireOciManifest hrely (fun _ hlayout => ?_) fun e w'' h => ?_
    · exact hok ⟨hkernel.1 hhas, hvminit.1 hlayout⟩
    · exact herror e w'' fun hall => h ⟨hall.1, hall.2.1, hvminit.2 hall.2.2.vminit⟩

/-- A run along a sequence of choices. -/
abbrev along {α : Type} (p : Art α) (xs : Nat → Choice) (w : World) :
    Except ArtifactError α × World :=
  p.follow perform (fun n => { choice := xs n }) w

/-- Nobody else changes the world, and the commands meet choices of this kind. -/
def alone (allows : Command → Choice → World → Prop) : Env Command World Choice where
  rely w w' := w' = w
  allows := allows

/-- Every step of a run meets a choice of this kind. -/
abbrev Steps {α : Type} (allows : Command → Choice → World → Prop) (p : Art α) (xs : Nat → Choice)
    (w : World) : Prop :=
  p.Within perform (alone allows) (fun n => { choice := xs n }) w

variable {allows : Command → Choice → World → Prop} {parse : Parser} {pin : Pin}

theorem steps_of_forall {α : Type} {p : Art α} (h : ∀ n c w, allows c (xs n) w) :
    Steps allows p xs w :=
  within_of_ticks (fun _ _ => rfl) h p w

/-- What the weakest precondition says about a run. -/
theorem along_of_wp {α : Type} {p : Art α} {G : World → World → Prop} {Q : α → World → Prop}
    (h : p.wp perform (alone allows) G Q E w) (hxs : Steps allows p xs w) :
    (∀ a, (along p xs w).1 = .ok a → Q a (along p xs w).2) ∧
      ∀ e, (along p xs w).1 = .error e → E e (along p xs w).2 := by
  have hrun := wp_follow p _ h hxs
  cases hresult : along p xs w with
  | mk result w' =>
    rw [along] at hresult
    rw [hresult] at hrun
    cases result with
    | ok a =>
      refine ⟨?_, nofun⟩
      rintro _ ⟨⟩
      exact hrun
    | error e =>
      refine ⟨nofun, ?_⟩
      rintro _ ⟨⟩
      exact hrun

theorem installed_of_verifyInstalled {root : String}
    (hok : (along (verifyInstalled parse root pin) xs w).1 = .ok ()) : Installed parse pin w := by
  have hwp : (verifyInstalled parse root pin).wp perform (alone fun _ _ _ => True) LiveSame
      (fun _ _ => Installed parse pin w) (fun _ _ => True) w :=
    wp_verifyInstalled (fun _ _ h => h) (fun h => h) fun _ _ _ => trivial
  exact (along_of_wp hwp (steps_of_forall fun _ _ _ => trivial)).1 () hok

theorem verifyInstalled_of_installed (root : String) (xs : Nat → Choice)
    (hcrashed : w.crashed = false) (hdone : ∀ n, (xs n).fate = .done)
    (hinstalled : Installed parse pin w) :
    (along (verifyInstalled parse root pin) xs w).1 = .ok () := by
  have hwp : (verifyInstalled parse root pin).wp perform
      (alone fun _ x _ => x.fate = .done) LiveSame (fun _ _ => True) (fun _ _ => False) w :=
    wp_verifyInstalled (fun _ _ h => h) (fun _ => trivial)
      fun _ _ h => h ⟨fun _ _ _ hfate => hfate, hcrashed, hinstalled⟩
  cases hresult : (along (verifyInstalled parse root pin) xs w).1 with
  | ok u => rfl
  | error e =>
    exact ((along_of_wp hwp (steps_of_forall fun n _ _ => hdone n)).2 e hresult).elim

/-! ### The blobs that the manifest names -/

/-- The digest and the size of a descriptor. -/
def descriptor (value : Json) : Option (String × Nat) :=
  (value.getStr "digest").bind fun digest => (value.getNat "size").map (digest, ·)

/-- The blobs that an image manifest names: its config and its layers. -/
def references (manifest : Json) : List (String × Nat) :=
  ((manifest.get "config").toList ++
    ((manifest.get "layers").bind Json.asArray).getD []).filterMap descriptor

/-- A blob is in a layout, with the size and the digest that name it. -/
def Present (layout : Entry) (reference : String × Nat) : Prop :=
  ∃ data, layout.find ["blobs", "sha256", sha256Hex data] = some (.file data) ∧
    "sha256:" ++ sha256Hex data = reference.1 ∧ data.length = reference.2

/-- A choice without output, of a command that is done. -/
def undisturbed : Choice := ⟨.done, none, ""⟩

/-- A blob is covered if it is in every installation that is accepted. -/
def Covers (parse : Parser) (root : String) (pin : Pin) (reference : String × Nat) : Prop :=
  ∀ w xs, (along (verifyInstalled parse root pin) xs w).1 = .ok () →
    ∀ layout, w.vminit = some layout → Present layout reference

/-- A layout with its index and one blob, and nothing else. -/
def bareLayout (index : List UInt8) (digest : String) (data : List UInt8) : Entry :=
  .directory [("index.json", .file index), ("blobs", .directory [("sha256",
    .directory [(digest, .file data)])])]

variable {index data : List UInt8} {digest : String} {reference : String × Nat}

theorem find_bareLayout :
    (bareLayout index digest data).find ["blobs", "sha256", digest] = some (.file data) := by
  simp [bareLayout, Entry.find]

theorem present_bareLayout (h : Present (bareLayout index digest data) reference) :
    reference = ("sha256:" ++ digest, data.length) := by
  obtain ⟨found, hfind, hdigest, hlength⟩ := h
  by_cases hname : digest = sha256Hex found
  · rw [← hname, find_bareLayout] at hfind
    obtain rfl : data = found := Entry.file.inj (Option.some.inj hfind)
    rw [hname, hdigest, hlength]
  · simp [bareLayout, Entry.find, hname] at hfind

/-- An installation is still accepted when everything but the index and the manifest is removed from
its layout, so only the manifest itself is covered. -/
theorem covers_iff {root : String}
    (hok : (along (verifyInstalled parse root pin) xs w).1 = .ok ()) :
    Covers parse root pin reference ↔
      reference = ("sha256:" ++ pin.vminit.content.sha256, pin.vminit.content.bytes) := by
  constructor
  · intro hcovers
    obtain ⟨hkernel, layout, -, ⟨index, names, -, hparse, hnames⟩, _, -, data, rfl, hlength,
      hdigest⟩ := installed_of_verifyInstalled hok
    let bare : Entry := bareLayout index pin.vminit.content.sha256 data
    have hbare : HasLayout parse pin.vminit.content bare :=
      ⟨⟨index, names, by simp [bare, bareLayout, Entry.find], hparse, hnames⟩,
        _, find_bareLayout, data, rfl, hlength, hdigest⟩
    have haccepted := verifyInstalled_of_installed root (fun _ => undisturbed)
      (w := { w with vminit := some bare, crashed := false }) rfl (fun _ => rfl)
      ⟨hkernel, bare, rfl, hbare⟩
    rw [present_bareLayout (hcovers _ _ haccepted bare rfl), hlength]
  · rintro rfl w' xs' hok' layout hlayout
    obtain ⟨-, layout', hlayout', -, _, hfind, data, rfl, hlength, hdigest⟩ :=
      installed_of_verifyInstalled hok'
    obtain rfl : layout = layout' := Option.some.inj (hlayout.symm.trans hlayout')
    exact ⟨data, by rw [hdigest, hfind], by rw [hdigest], hlength⟩

/-- **What `verifyInstalled` verifies.** If it returns, the installed kernel has the length and the
digest of the pin, and the image layout has an index that names one manifest, by the digest and size
of the pin, and a blob with this digest and size. If this is so and nothing fails, it returns.

Nothing else is verified: if an installation is accepted at all, the blobs that a manifest names are
in every accepted one exactly if they are the blob of the manifest itself. -/
theorem verifyInstalled_spec (parse : Parser) (root : String) (pin : Pin) (w : World)
    (xs : Nat → Choice) :
    ((along (verifyInstalled parse root pin) xs w).1 = .ok () → Installed parse pin w) ∧
      (w.crashed = false → (∀ n, (xs n).fate = .done) → Installed parse pin w →
        (along (verifyInstalled parse root pin) xs w).1 = .ok ()) ∧
      ((along (verifyInstalled parse root pin) xs w).1 = .ok () → ∀ manifest : Json,
        (∀ reference ∈ references manifest, Covers parse root pin reference) ↔
          ∀ reference ∈ references manifest,
            reference = ("sha256:" ++ pin.vminit.content.sha256, pin.vminit.content.bytes)) :=
  ⟨installed_of_verifyInstalled, verifyInstalled_of_installed root xs,
    fun hok _ => forall₂_congr fun _ _ => covers_iff hok⟩

/-- The digest of a config that is nowhere. -/
def missingDigest : String := "sha256:" ++ String.ofList (List.replicate 64 '0')

def smallManifest : List UInt8 :=
  Text.encodeUtf8 ("\x7b\"config\":\x7b\"digest\":\"".toList ++ missingDigest.toList ++
    "\",\"size\":1\x7d,\"layers\":[]\x7d".toList)

def smallManifestJson : Json :=
  .obj [("config", .obj [("digest", .str missingDigest), ("size", .num 1)]), ("layers", .arr [])]

/-- A pin whose kernel is empty, and whose manifest is the one above. -/
def smallContent : Content := ⟨smallManifest.length, sha256Hex smallManifest⟩

def smallPin : Pin where
  kernel := ⟨"vmlinux.gz", "kernel", 0, sha256Hex [], ⟨0, sha256Hex []⟩⟩
  vminit := ⟨"vminit.tar.gz", "vminit", 0, sha256Hex [], smallContent⟩

def smallIndex : List UInt8 :=
  Text.encodeUtf8 ("\x7b\"manifests\":[\x7b\"digest\":\"sha256:".toList ++
    smallContent.sha256.toList ++ "\",\"size\":".toList ++
    (toString smallContent.bytes).toList ++ "\x7d]\x7d".toList)

def smallIndexJson : Json :=
  .obj [("manifests", .arr [.obj [("digest", .str ("sha256:" ++ smallContent.sha256)),
    ("size", .num smallContent.bytes)]])]

/-- A parser that knows these two texts. -/
def smallParser : Parser := fun bytes =>
  if bytes = smallIndex then .ok smallIndexJson
  else if bytes = smallManifest then .ok smallManifestJson
  else .error "unknown"

def smallLayout : Entry := bareLayout smallIndex smallContent.sha256 smallManifest

def smallWorld : World where
  kernel := some (.file [])
  vminit := some smallLayout
  staging := none
  crashed := false

/-- The manifest of an installation that is accepted names a config that is not there. -/
theorem verifyInstalled_missing_config :
    (along (verifyInstalled smallParser "/engine" smallPin) (fun _ => undisturbed) smallWorld).1 =
      .ok () ∧
    smallLayout.find ["blobs", "sha256", smallContent.sha256] = some (.file smallManifest) ∧
    smallParser smallManifest = .ok smallManifestJson ∧
    (missingDigest, 1) ∈ references smallManifestJson ∧
    ¬Present smallLayout (missingDigest, 1) := by
  refine ⟨by decide +kernel, find_bareLayout, ?_, by decide +kernel, fun hpresent => ?_⟩
  · rw [smallParser, if_neg (by decide +kernel), if_pos rfl]
  · -- The only blob is the manifest.
    have hother : missingDigest ≠ "sha256:" ++ smallContent.sha256 := by decide +kernel
    exact hother (congrArg Prod.fst (present_bareLayout hpresent))

end Gascan.Artifacts
