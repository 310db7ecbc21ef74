import Gascan.Proofs.ArchiveStages

/-!
# `Gascan.Proofs.ArchiveRecovery`: which interrupted archives a start of the daemon recovers

`start` is the recovery of a start at which no operation fails. A quarantine that is committed or
restored is accepted, and a prepared one with a complete marker is emptied and marked restored. A
quarantine without a complete marker makes every start fail. `interrupted_archive_recoverable_iff`
puts the two together for every way an archive can be cut.
-/

namespace Gascan.Archive

open Lib Lib.Prog Lib.Text List

/-! ### Recovery -/

/-- The recovery of a start at which no operation fails. -/
def start (w : RuntimeDirectory) : Except ControllerStateError Unit × RuntimeDirectory :=
  recoverLegacyArchiveTransactions.exec perform {} w

/-- One marker and no other. -/
def only (phase : ArchiveTransactionPhase) (text : List Char) :
    ArchiveTransactionPhase → Option (List Char) :=
  fun found => if found = phase then some text else none

/-- A quarantine that recovery leaves as it is. -/
inductive Quarantine.Settled : Quarantine → Prop where
  | committed {text : List Char} {identities : Identities}
      (hread : readArchiveMarker text = .ok identities) :
      Settled ⟨identities, only .committed text, []⟩
  | restored {text : List Char} {identities : Identities}
      (hread : readArchiveMarker text = .ok identities) :
      Settled ⟨fun _ => none, only .restored text, []⟩

/-- A runtime directory that recovery leaves as it is. -/
structure RuntimeDirectory.Settled (w : RuntimeDirectory) : Prop where
  distinct : (w.quarantines.map Prod.fst).Nodup
  exact : ∀ entry ∈ w.quarantines, exactArchiveQuarantineName entry.1 = true
  settled : ∀ entry ∈ w.quarantines, entry.2.Settled

section Recovery

variable {α β : Type} {w w' : RuntimeDirectory} {name : String} {q : Quarantine}

/-- A program that returns `a` and leaves `w'` when no operation fails. -/
abbrev Runs (p : Arc α) (w : RuntimeDirectory) (a : α) (w' : RuntimeDirectory) : Prop :=
  p.exec perform {} w = (.ok a, w')

theorem exec_step {toError : String → ControllerStateError} {c : ArchiveCmd}
    {r : ArchiveResult c} (h : performOk c {} w = (.ok r, w')) :
    (step toError c).exec perform {} w = (.ok r, w') := by
  have hperform : perform c {} w = (.ok r, w') := h
  rw [step, Prog.exec_call, hperform]
  rfl

theorem ask_of_some (hq : w.quarantine? name = some q) (f : Quarantine → α) :
    w.ask name f = (.ok (f q), w) := by
  rw [RuntimeDirectory.ask, hq]

variable {condition : Bool} {f : β → Arc Unit} {t : RecoveredArchiveTransaction}
  {ts : List RecoveredArchiveTransaction} (list : List String)

theorem exec_ensure (h : condition = true) (message : String) :
    Runs (ensure condition message) w () w := by
  rw [h]
  rfl

theorem exec_ensure_eq_ok {message : String} {u : Unit} :
    Runs (ensure condition message) w u w' ↔ condition = true ∧ w' = w := by
  cases condition <;> simp [ensure, eq_comm]

theorem exec_ofExcept_ok {result : Except ControllerStateError α} {a : α}
    (h : Runs (Prog.ofExcept result : Arc α) w a w') : result = .ok a := by
  cases result <;> cases h
  rfl

theorem exec_forM_ok (list : List β) (hf : ∀ b ∈ list, Runs (f b) w () w) :
    Runs (list.forM f) w () w := by
  induction list with
  | nil => rfl
  | cons b list ih =>
    refine (exec_bind_ok (hf b (mem_cons_self ..))).trans ?_
    exact ih fun b' h => hf b' (mem_cons_of_mem b h)

theorem exec_world_of_looks {p : Arc α} (hp : Looks p) (w : RuntimeDirectory) :
    (p.exec perform {} w).2 = w := by
  induction p with
  | pure a => rfl
  | throw error => rfl
  | call c k ih =>
    obtain ⟨hc, hfail, hk⟩ := hp
    show ((k (performOk c {} w).1).exec perform {} (performOk c {} w).2).2 = w
    rw [performOk_of_reads hc]
    cases (performOk c {} w).1 with
    | ok result => exact ih _ (hk result)
    | error error =>
      obtain ⟨error', herror⟩ := hfail error
      rw [herror]
      rfl

theorem exec_bind_looks {p : Arc α} {f : α → Arc β} {b : β}
    (h : Runs (p.bind f) w b w') (hp : Looks p) :
    ∃ a, Runs p w a w ∧ Runs (f a) w b w' := by
  obtain ⟨a, w1, hp1, hf⟩ := exec_bind_eq_ok.1 h
  have hworld := exec_world_of_looks hp w
  rw [hp1] at hworld
  cases hworld
  exact ⟨a, hp1, hf⟩

/-! What the programs of the recovery look at. -/

theorem looks_ofExcept (result : Except ControllerStateError α) :
    Looks (Prog.ofExcept result : Arc α) := by
  cases result <;> trivial

theorem looks_findPhases (name : String) (phases : List ArchiveTransactionPhase) :
    Looks (findPhases name phases) := by
  induction phases with
  | nil => trivial
  | cons phase phases ih =>
    exact looks_bind (looks_step trivial) fun _ => looks_bind ih fun _ => trivial

theorem looks_validatePreparedFile (name : String) (files : List FamilyName)
    (identities : Identities) (file : FamilyName) :
    Looks (validatePreparedFile name files identities file) := by
  refine looks_bind (looks_step trivial) fun active => ?_
  refine looks_bind (looks_ensure ..) fun _ => ?_
  refine looks_bind ?_ fun _ => looks_bind (looks_ensure ..) fun _ => looks_ensure ..
  unfold statIn
  cases Option.isSome active
  · exact looks_step trivial
  · exact looks_step trivial

theorem looks_validateAbsentSidecar (identities : Identities) (file : FamilyName) :
    Looks (validateAbsentSidecar identities file) := by
  unfold validateAbsentSidecar
  cases (identities file).isSome
  · exact looks_bind (looks_step trivial) fun _ => looks_ensure ..
  · trivial

theorem looks_validateRecovered (name : String) (identities : Identities)
    (files : List FamilyName) (phase : ArchiveTransactionPhase) :
    Looks (validateRecovered name identities files phase) := by
  cases phase with
  | committed => exact looks_bind (looks_ensure ..) fun _ => looks_validateArchiveFiles ..
  | restored => exact looks_ensure ..
  | prepared =>
    exact looks_bind (looks_forM _ fun _ => looks_validatePreparedFile ..) fun _ =>
      looks_forM _ fun _ => looks_validateAbsentSidecar ..

theorem looks_openInPhase (name : String) (phase : ArchiveTransactionPhase) :
    Looks (openInPhase name phase) := by
  refine looks_bind (looks_step trivial) fun _ => ?_
  refine looks_bind (looks_ofExcept _) fun _ => ?_
  refine looks_bind (looks_step trivial) fun _ => ?_
  refine looks_bind (looks_ensure ..) fun _ => looks_bind (looks_ensure ..) fun _ => ?_
  exact looks_bind (looks_validateRecovered ..) fun _ => trivial

theorem looks_openRecoveredArchiveTransaction (name : String) :
    Looks (openRecoveredArchiveTransaction name) := by
  refine looks_bind (looks_step trivial) fun _ => ?_
  refine looks_bind (looks_findPhases ..) fun phases => ?_
  match phases with
  | [] => trivial
  | [phase] => exact looks_openInPhase name phase
  | _ :: _ :: _ => trivial

theorem looks_openAll : Looks (openAll list) := by
  induction list with
  | nil => trivial
  | cons name list ih =>
    refine looks_bind (looks_ensure ..) fun _ => ?_
    refine looks_bind (looks_openRecoveredArchiveTransaction name) fun _ => ?_
    exact looks_bind ih fun _ => trivial

/-! Reading one quarantine. -/

theorem exec_ask {c : ArchiveCmd} {f : Quarantine → ArchiveResult c}
    (hq : w.quarantine? name = some q) (hc : performOk c {} w = w.ask name f)
    (toError : String → ControllerStateError) :
    Runs (step toError c) w (f q) w :=
  exec_step (hc.trans (ask_of_some hq f))

variable (toError : String → ControllerStateError)

theorem exec_stat (file : FamilyName) :
    Runs (step toError (.stat file)) w (w.files file) w :=
  exec_step rfl

theorem exec_statIn_active {active : Bool} (h : active = true) (name : String) (file : FamilyName) :
    Runs (statIn name active file) w (w.files file) w := by
  subst h
  exact exec_stat _ file

theorem exec_readDirectory :
    Runs (step toError .readDirectory) w (w.quarantines.map Prod.fst) w :=
  exec_step rfl

theorem exec_findPhases (hq : w.quarantine? name = some q) (phases : List ArchiveTransactionPhase) :
    Runs (findPhases name phases) w (phases.filter fun phase => (q.markers phase).isSome) w := by
  induction phases with
  | nil => rfl
  | cons phase phases ih =>
    refine (exec_bind_ok (exec_ask hq rfl _)).trans ?_
    refine (exec_bind_ok ih).trans ?_
    rw [filter_cons]
    rfl

theorem filter_only (phase : ArchiveTransactionPhase) (text : List Char) :
    (ArchiveTransactionPhase.all.filter fun found => (only phase text found).isSome) = [phase] := by
  cases phase <;> rfl

/-- A quarantine with one readable marker, only listed files and a valid layout is accepted. -/
theorem exec_open (hq : w.quarantine? name = some q) {phase : ArchiveTransactionPhase}
    {text : List Char} {identities : Identities} (hmarkers : q.markers = only phase text)
    (hothers : q.others = []) (hread : readArchiveMarker text = .ok identities)
    (hfiles : ∀ file, (q.files file).isSome → (identities file).isSome)
    (hvalid : Runs (validateRecovered name identities (names q.files) phase) w () w) :
    Runs (openRecoveredArchiveTransaction name) w ⟨name, phase, names q.files⟩ w := by
  have hphases := exec_findPhases hq ArchiveTransactionPhase.all
  simp only [hmarkers, filter_only] at hphases
  have hentries : q.entries = ⟨names q.files, [phase], []⟩ := by
    simp only [Quarantine.entries, hmarkers, hothers, filter_only]
  have hlisted : ((names q.files).all fun file => (identities file).isSome) = true := by
    rw [all_eq_true]
    exact fun file h => hfiles file (mem_names.1 h)
  refine (exec_bind_ok (exec_ask hq rfl _)).trans ?_
  refine (exec_bind_ok hphases).trans ?_
  refine (exec_bind_ok (exec_ask hq rfl _)).trans ?_
  have htext : (q.markers phase).getD [] = text := by
    rw [hmarkers, only, if_pos rfl]
    rfl
  simp only [htext, hread, Prog.ofExcept_ok]
  refine (exec_bind_ok (exec_ask hq rfl _)).trans ?_
  rw [hentries]
  refine (exec_bind_ok (exec_ensure (by simp) _)).trans ?_
  refine (exec_bind_ok (exec_ensure (by simp [hlisted]) _)).trans ?_
  exact exec_bind_ok hvalid

theorem exec_forM_inv {list : List β} {u : Unit} (hlooks : ∀ b, Looks (f b))
    (h : Runs (list.forM f) w u w') :
    ∀ b ∈ list, Runs (f b) w () w := by
  induction list with
  | nil => exact fun b hb => absurd hb not_mem_nil
  | cons b list ih =>
    obtain ⟨_, hfirst, hrest⟩ := exec_bind_looks h (hlooks b)
    intro b' hb'
    rcases mem_cons.1 hb' with rfl | hb'
    · exact hfirst
    · exact ih hrest b' hb'

/-- What is known of a quarantine that was accepted. -/
theorem exec_open_inv (hq : w.quarantine? name = some q)
    (h : Runs (openRecoveredArchiveTransaction name) w t w') :
    ∃ phase identities, (q.markers phase).isSome ∧
      readArchiveMarker ((q.markers phase).getD []) = .ok identities ∧
      (phase = .prepared → ∀ file ∈ FamilyName.sidecars, identities file = none →
        w.files file = none) := by
  obtain ⟨_, -, h⟩ := exec_bind_looks h (looks_step trivial)
  have h := (exec_bind_ok (exec_findPhases hq _)).symm.trans h
  generalize hphases : ArchiveTransactionPhase.all.filter _ = phases at h
  match phases with
  | [] => cases h
  | _ :: _ :: _ => cases h
  | [phase] =>
    have hmem := hphases ▸ mem_singleton_self phase
    have hsome : (q.markers phase).isSome := (mem_filter.1 hmem).2
    have h := (exec_bind_ok (exec_ask hq rfl _)).symm.trans h
    obtain ⟨identities, hread, h⟩ := exec_bind_looks h (looks_ofExcept _)
    have hread := exec_ofExcept_ok hread
    refine ⟨phase, identities, hsome, hread, ?_⟩
    rintro rfl file hfile hnone
    obtain ⟨entries, -, h⟩ := exec_bind_looks h (looks_step trivial)
    obtain ⟨_, -, h⟩ := exec_bind_looks h (looks_ensure ..)
    obtain ⟨_, -, h⟩ := exec_bind_looks h (looks_ensure ..)
    obtain ⟨_, hvalid, -⟩ := exec_bind_looks h (looks_validateRecovered ..)
    obtain ⟨_, -, hsidecars⟩ := exec_bind_looks hvalid
      (looks_forM _ fun file => looks_validatePreparedFile ..)
    have hcheck := exec_forM_inv (fun file => looks_validateAbsentSidecar ..) hsidecars file hfile
    rw [validateAbsentSidecar, hnone] at hcheck
    have hensure := (exec_bind_ok (exec_stat _ file)).symm.trans hcheck
    exact Option.isNone_iff_eq_none.1 (exec_ensure_eq_ok.1 hensure).1

/-! Reading all quarantines. -/

theorem exec_open_settled (hq : w.quarantine? name = some q) (hsettled : q.Settled) :
    ∃ t, Runs (openRecoveredArchiveTransaction name) w t w ∧
      t.phase ≠ .prepared := by
  cases hsettled with
  | committed hread =>
    refine ⟨_, exec_open hq rfl rfl hread (fun _ h => h) ?_, nofun⟩
    refine (exec_bind_ok (exec_ensure (decide_eq_true rfl) _)).trans ?_
    refine exec_forM_ok _ fun file hfile => ?_
    have hsome := mem_names.1 hfile
    refine (exec_bind_ok (exec_ensure hsome _)).trans ?_
    refine (exec_bind_ok (exec_ask hq rfl _)).trans ?_
    refine (exec_bind_ok (exec_ensure hsome _)).trans ?_
    exact exec_ensure (decide_eq_true rfl) _
  | restored hread =>
    exact ⟨_, exec_open hq rfl rfl hread (fun _ h => absurd h Bool.false_ne_true) rfl, nofun⟩

theorem exec_openAll_settled (hlist : ∀ name ∈ list, exactArchiveQuarantineName name = true ∧ ∃ q,
      w.quarantine? name = some q ∧ q.Settled) :
    ∃ ts, Runs (openAll list) w ts w ∧
      ts.filter (·.phase = .prepared) = [] := by
  induction list with
  | nil => exact ⟨[], rfl, rfl⟩
  | cons name list ih =>
    obtain ⟨hexact, q, hq, hsettled⟩ := hlist name (mem_cons_self ..)
    obtain ⟨t, ht, hphase⟩ := exec_open_settled hq hsettled
    obtain ⟨ts, hts, hfilter⟩ := ih fun name' h => hlist name' (mem_cons_of_mem name h)
    refine ⟨t :: ts, ?_, ?_⟩
    · refine (exec_bind_ok (exec_ensure hexact _)).trans ?_
      exact (exec_bind_ok ht).trans (exec_bind_ok hts)
    · rw [filter_cons_of_neg (by simpa using hphase), hfilter]

theorem exec_openAll_one (hexact : exactArchiveQuarantineName name = true)
    (ht : Runs (openRecoveredArchiveTransaction name) w t w) :
    Runs (openAll [name]) w [t] w :=
  (exec_bind_ok (exec_ensure hexact _)).trans ((exec_bind_ok ht).trans rfl)

theorem exec_openAll_append {first second : List String} {ts' : List RecoveredArchiveTransaction}
    (hfirst : Runs (openAll first) w ts w) (hsecond : Runs (openAll second) w ts' w) :
    Runs (openAll (first ++ second)) w (ts ++ ts') w := by
  induction first generalizing ts with
  | nil =>
    cases hfirst
    exact hsecond
  | cons name first ih =>
    obtain ⟨_, hexact, h⟩ := exec_bind_looks hfirst (looks_ensure ..)
    obtain ⟨t, ht, h⟩ := exec_bind_looks h (looks_openRecoveredArchiveTransaction name)
    obtain ⟨rest, hrest, h⟩ := exec_bind_looks h (looks_openAll first)
    cases h
    refine (exec_bind_ok hexact).trans ((exec_bind_ok ht).trans ?_)
    exact exec_bind_ok (ih hrest)

/-- Every quarantine of a list that was accepted was accepted. -/
theorem exec_openAll_inv {list : List String} (h : Runs (openAll list) w ts w') :
    ∀ name ∈ list, ∃ t, Runs (openRecoveredArchiveTransaction name) w t w := by
  induction list generalizing ts w' with
  | nil => exact fun name hname => absurd hname not_mem_nil
  | cons name list ih =>
    obtain ⟨_, -, h⟩ := exec_bind_looks h (looks_ensure ..)
    obtain ⟨t, ht, h⟩ := exec_bind_looks h (looks_openRecoveredArchiveTransaction name)
    obtain ⟨rest, _, hrest, -⟩ := exec_bind_eq_ok.1 h
    intro name' hname'
    rcases mem_cons.1 hname' with rfl | hname'
    · exact ⟨t, ht⟩
    · exact ih hrest name' hname'

/-- A start that succeeds has accepted every quarantine. -/
theorem start_inv (h : start w = (.ok (), w')) (hq : w.quarantine? name = some q) :
    ∃ t, Runs (openRecoveredArchiveTransaction name) w t w := by
  have h := (exec_bind_ok (exec_readDirectory _)).symm.trans h
  obtain ⟨ts, hts, -⟩ := exec_bind_looks h (looks_openAll _)
  refine exec_openAll_inv hts name ?_
  rw [RuntimeDirectory.quarantine?, Option.map_eq_some_iff] at hq
  obtain ⟨entry, hentry, -⟩ := hq
  exact mem_map.2 ⟨entry, Table.mem_of_lookup hentry, Table.key_of_lookup hentry⟩

/-! Restoring a prepared quarantine. -/

section Prepared

variable {w0 : RuntimeDirectory} {moved : Finset FamilyName}

variable {marker : Option (ArchiveTransactionPhase × List Char)}

theorem mem_names_held (hmoved : ∀ file ∈ moved, (w0.files file).isSome) (file : FamilyName) :
    file ∈ names (held w0.files moved marker).files ↔ file ∈ moved := by
  rw [mem_names]
  show (if file ∈ moved then w0.files file else none).isSome ↔ _
  by_cases h : file ∈ moved
  · simp [h, hmoved file h]
  · simp [h]

/-- A prepared quarantine with a complete marker is accepted: each file is in exactly one place. -/
theorem exec_open_prepared (hname : Fresh w0 name) (hdatabase : (w0.files .database).isSome)
    (hmoved : ∀ file ∈ moved, (w0.files file).isSome) :
    Runs (openRecoveredArchiveTransaction name) (prepared w0 name moved)
      ⟨name, .prepared, names (held w0.files moved (some (.prepared, markerText w0.files))).files⟩
      (prepared w0 name moved) := by
  have hq := quarantine?_archived moved (some (.prepared, markerText w0.files))
    hname.unused
  refine exec_open hq rfl rfl (readArchiveMarker_markerText hdatabase) (fun file h => ?_) ?_
  · exact hmoved file ((mem_names_held hmoved file).1 (mem_names.2 h))
  · refine (exec_bind_ok (exec_forM_ok _ fun file hfile => ?_)).trans
      (exec_forM_ok _ fun file _ => ?_)
    · have hsome := mem_names.1 hfile
      refine (exec_bind_ok (exec_stat _ file)).trans ?_
      have hactive : (prepared w0 name moved).files file =
          if file ∈ moved then none else w0.files file := rfl
      by_cases h : file ∈ moved
      · rw [if_pos h] at hactive
        rw [hactive]
        refine (exec_bind_ok (exec_ensure ?_ _)).trans ?_
        · simp [mem_names_held hmoved, h]
        refine (exec_bind_ok (exec_ask hq rfl _)).trans ?_
        have hthere : (held w0.files moved (some (.prepared, markerText w0.files))).files file =
            w0.files file := if_pos h
        rw [hthere]
        refine (exec_bind_ok (exec_ensure hsome _)).trans ?_
        exact exec_ensure (decide_eq_true rfl) _
      · rw [if_neg h] at hactive
        rw [hactive]
        refine (exec_bind_ok (exec_ensure ?_ _)).trans ?_
        · simp [mem_names_held hmoved, h, hsome]
        refine (exec_bind_ok (exec_statIn_active hsome name file)).trans ?_
        rw [hactive]
        refine (exec_bind_ok (exec_ensure hsome _)).trans ?_
        exact exec_ensure (decide_eq_true rfl) _
    · -- A sidecar that the marker does not list was not there to begin with.
      unfold validateAbsentSidecar
      cases hfile : w0.files file with
      | some identity => rfl
      | none =>
        refine (exec_bind_ok (exec_stat _ file)).trans (exec_ensure ?_ _)
        show (if file ∈ moved then none else w0.files file).isNone = true
        simp [hfile]

theorem exec_moveAllOut (hname : Fresh w0 name) (context : String) (files : List FamilyName)
    (hmoved : ∀ file ∈ moved, (w0.files file).isSome) (hfiles : files.Nodup)
    (hsub : ∀ file ∈ files, file ∈ moved) :
    Runs (moveAllOut context name files) (archived w0 name moved marker) ()
      (archived w0 name (moved \ files.toFinset) marker) := by
  induction files generalizing moved with
  | nil =>
    show (Except.ok (), _) = _
    simp
  | cons file files ih =>
    obtain ⟨hnot, hfiles⟩ := nodup_cons.1 hfiles
    have hmem := hsub file (mem_cons_self ..)
    refine (exec_bind_ok (exec_step
      (performOk_moveOut {} hname.unused (hmoved file hmem) hmem))).trans ?_
    refine (ih (fun other h => hmoved other (Finset.mem_of_mem_erase h)) hfiles
      fun other h => ?_).trans ?_
    · exact Finset.mem_erase.2
        ⟨fun hsame => hnot (hsame ▸ h), hsub other (mem_cons_of_mem file h)⟩
    · congr 2
      ext other
      simp only [Finset.mem_sdiff, Finset.mem_erase, mem_toFinset, mem_cons]
      tauto

theorem exec_sync (context : String) : Runs (sync context) w () w :=
  exec_step rfl

theorem exec_restoreRecovered (hname : Fresh w0 name) {files : List FamilyName}
    (hmoved : ∀ file ∈ moved, (w0.files file).isSome) (hfiles : files.Nodup)
    (hmem : ∀ file, file ∈ files ↔ file ∈ moved) :
    Runs (restoreRecoveredArchiveTransaction ⟨name, .prepared, files⟩) (prepared w0 name moved) ()
      (archived w0 name ∅ (some (.restored, markerText w0.files))) := by
  refine (exec_bind_ok (exec_moveAllOut hname _ _ hmoved
    (nodup_reverse.2 (hfiles.filter _)) fun file h => ?_)).trans ?_
  · exact (hmem file).1 (mem_filter.1 (mem_reverse.1 h)).1
  refine (exec_bind_ok (exec_moveAllOut hname _ _
    (fun file h => hmoved file (Finset.mem_sdiff.1 h).1) (hfiles.filter _)
      fun file h => ?_)).trans ?_
  · have hfile := mem_filter.1 h
    simp only [Finset.mem_sdiff, mem_toFinset, mem_reverse, mem_filter, hmem,
      decide_eq_true_eq] at hfile ⊢
    exact ⟨hfile.1, fun hother => hother.2 hfile.2⟩
  have hempty : (moved \ (files.filter (· ≠ .database)).reverse.toFinset) \
      (files.filter (· = .database)).toFinset = ∅ := by
    ext file
    simp only [Finset.mem_sdiff, mem_toFinset, mem_reverse, mem_filter, hmem,
      decide_eq_true_eq, Finset.notMem_empty, iff_false]
    tauto
  rw [hempty]
  refine (exec_bind_ok (exec_sync _)).trans ((exec_bind_ok (exec_sync _)).trans ?_)
  have hq := quarantine?_archived ∅ (some (.prepared, markerText w0.files))
    hname.unused
  have htransition : Runs (transitionArchiveMarker name .prepared .restored)
      (prepared w0 name ∅) () (archived w0 name ∅ (some (.restored, markerText w0.files))) := by
    refine (exec_bind_ok (exec_ask hq rfl _)).trans ?_
    refine (exec_bind_ok (exec_ensure rfl _)).trans ?_
    exact exec_step (performOk_renameMarker {} hname.unused _ .restored)
  refine (exec_bind_ok htransition).trans ?_
  exact (exec_bind_ok (exec_sync _)).trans (exec_sync _)

end Prepared

/-! ### Which stages a start recovers -/

/-- Every legacy file of `w0` is back in the runtime directory after the start that led from `w` to
`w'`, or it still is in a quarantine that was committed before the start. -/
def Accounted (w0 w w' : RuntimeDirectory) : Prop :=
  ∀ file identity, w0.files file = some identity →
    w'.files file = some identity ∨
      ∃ name q, w.quarantine? name = some q ∧ w'.quarantine? name = some q ∧
        (q.markers .committed).isSome ∧ q.files file = some identity

/-- The next start succeeds, accounts for every legacy file of `w0`, and leaves nothing to do. -/
def Recoverable (w0 w : RuntimeDirectory) : Prop :=
  ∃ w', start w = (.ok (), w') ∧ w'.Settled ∧ Accounted w0 w w'

/-- Every quarantine that is not one of `w0` has the complete marker for the files of `w0`. -/
def Marked (w0 w : RuntimeDirectory) : Prop :=
  ∀ name q, w.quarantine? name = some q → w0.quarantine? name = none →
    ∃ phase, q.markers phase = some (markerText w0.files)

section Verdict

variable {w0 : RuntimeDirectory} {moved : Finset FamilyName}
  {marker : Option (ArchiveTransactionPhase × List Char)}

theorem RuntimeDirectory.Settled.quarantine? (hw : w.Settled) {entry : String × Quarantine}
    (hentry : entry ∈ w.quarantines) : w.quarantine? entry.1 = some entry.2 := by
  rw [RuntimeDirectory.quarantine?, (Table.lookup_eq_some hw.distinct).2 ⟨hentry, rfl⟩]
  rfl

/-- The earlier quarantines are accepted, whatever the archive added. -/
theorem exec_openAll_old (hw : w0.Settled)
    (hold : ∀ other q, w0.quarantine? other = some q → w.quarantine? other = some q) :
    ∃ ts, Runs (openAll (w0.quarantines.map Prod.fst)) w ts w ∧
      ts.filter (·.phase = .prepared) = [] := by
  refine exec_openAll_settled _ fun other hother => ?_
  obtain ⟨entry, hentry, rfl⟩ := mem_map.1 hother
  exact ⟨hw.exact entry hentry, entry.2, hold _ _ (hw.quarantine? hentry), hw.settled entry hentry⟩

theorem start_settled (hw : w.Settled) : start w = (.ok (), w) := by
  obtain ⟨ts, hts, hfilter⟩ := exec_openAll_old hw fun _ _ h => h
  refine (exec_bind_ok (exec_readDirectory _)).trans ((exec_bind_ok hts).trans ?_)
  rw [hfilter]
  rfl

theorem settled_archived (hw : w0.Settled) (hname : Fresh w0 name)
    (hq : (held w0.files moved marker).Settled) : (archived w0 name moved marker).Settled := by
  have hunused := hname.unused
  rw [RuntimeDirectory.quarantine?, Option.map_eq_none_iff, Table.lookup_eq_none] at hunused
  refine ⟨?_, forall_mem_append.2 ⟨hw.exact, forall_mem_singleton.2 hname.exact⟩,
    forall_mem_append.2 ⟨hw.settled, forall_mem_singleton.2 hq⟩⟩
  show ((w0.quarantines ++ [_]).map Prod.fst).Nodup
  rw [map_append, nodup_append]
  refine ⟨hw.distinct, by simp, fun other hother name' hname' => ?_⟩
  obtain ⟨entry, hentry, rfl⟩ := mem_map.1 hother
  rw [map_singleton, mem_singleton] at hname'
  rw [hname']
  exact hunused entry hentry

/-- A quarantine that `w0` does not have is the new one. -/
theorem quarantine?_archived_new {other : String}
    (h : (archived w0 name moved marker).quarantine? other = some q)
    (hnew : w0.quarantine? other = none) : q = held w0.files moved marker := by
  rw [RuntimeDirectory.quarantine?, Option.map_eq_none_iff] at hnew
  rw [RuntimeDirectory.quarantine?, archived, Table.lookup_append_one, hnew, Option.none_or] at h
  by_cases hsame : name = other
  · rw [if_pos hsame] at h
    exact (Option.some.inj h).symm
  · rw [if_neg hsame] at h
    cases h

theorem files_archived_empty : (archived w0 name ∅ marker).files = w0.files := by
  simp [archived]

theorem settled_restored (hdatabase : (w0.files .database).isSome) :
    (held w0.files ∅ (some (.restored, markerText w0.files))).Settled := by
  have hfiles : (held w0.files ∅ (some (.restored, markerText w0.files))) =
      ⟨fun _ => none, only .restored (markerText w0.files), []⟩ := by
    simp only [held, Finset.notMem_empty, if_false]
    rfl
  rw [hfiles]
  exact .restored (readArchiveMarker_markerText hdatabase)

theorem held_all : held w0.files (names w0.files).toFinset marker =
    ⟨w0.files, (held w0.files ∅ marker).markers, []⟩ := by
  simp only [held, Quarantine.mk.injEq, and_true]
  funext file
  cases h : w0.files file <;> simp [mem_names, h]

theorem settled_archived_restored (hw : w0.Settled) (hname : Fresh w0 name)
    (hdatabase : (w0.files .database).isSome) :
    (archived w0 name ∅ (some (.restored, markerText w0.files))).Settled :=
  settled_archived hw hname (settled_restored hdatabase)

theorem settled_archived_committed (hw : w0.Settled) (hname : Fresh w0 name)
    (hdatabase : (w0.files .database).isSome) :
    (archived w0 name (names w0.files).toFinset
      (some (.committed, markerText w0.files))).Settled := by
  refine settled_archived hw hname ?_
  rw [held_all]
  exact .committed (readArchiveMarker_markerText hdatabase)

/-- A prepared quarantine with a complete marker is the only prepared one that recovery finds. -/
theorem exec_openAll_prepared (hw : w0.Settled) (hname : Fresh w0 name)
    (hdatabase : (w0.files .database).isSome) (hmoved : ∀ file ∈ moved, (w0.files file).isSome) :
    ∃ ts, Runs (openAll ((prepared w0 name moved).quarantines.map Prod.fst))
      (prepared w0 name moved) ts (prepared w0 name moved) ∧
      ts.filter (·.phase = .prepared) = [⟨name, .prepared,
        names (held w0.files moved (some (.prepared, markerText w0.files))).files⟩] := by
  obtain ⟨ts, hts, hfilter⟩ := exec_openAll_old
    (w := prepared w0 name moved) hw
    fun _ _ h => quarantine?_archived_of_some h
  have hnew := exec_openAll_one hname.exact (exec_open_prepared hname hdatabase hmoved)
  have hall := exec_openAll_append hts hnew
  rw [← map_singleton (f := Prod.fst) (a := (name, held w0.files moved
    (some (.prepared, markerText w0.files)))), ← map_append] at hall
  refine ⟨_, hall, ?_⟩
  rw [filter_append, hfilter]
  rfl

theorem recoverable_prepared (hw : w0.Settled) (hname : Fresh w0 name)
    (hdatabase : (w0.files .database).isSome) (hmoved : ∀ file ∈ moved, (w0.files file).isSome) :
    Recoverable w0 (prepared w0 name moved) := by
  obtain ⟨ts, hts, hfilter⟩ := exec_openAll_prepared hw hname hdatabase hmoved
  refine ⟨archived w0 name ∅ (some (.restored, markerText w0.files)), ?_,
    settled_archived_restored hw hname hdatabase, ?_⟩
  · refine (exec_bind_ok (exec_readDirectory _)).trans ?_
    refine (exec_bind_ok hts).trans ?_
    rw [hfilter]
    exact exec_restoreRecovered hname hmoved
      ((names_sublist _).nodup (by decide)) (mem_names_held hmoved)
  · intro file identity hfile
    left
    rw [files_archived_empty, hfile]

theorem exec_open_opened_ne (hname : Fresh w0 name) (t : RecoveredArchiveTransaction) :
    (openRecoveredArchiveTransaction name).exec perform {} (archived w0 name ∅ none) ≠
      (.ok t, w') := by
  intro ht
  obtain ⟨phase, _, hphase, -⟩ := exec_open_inv (quarantine?_archived ∅ none hname.unused) ht
  exact absurd hphase Bool.false_ne_true

/-- A quarantine whose marker breaks off is refused: the marker is malformed, or it misses a sidecar
that is active. -/
theorem exec_open_marking_ne (hname : Fresh w0 name) {k : Nat}
    (hk : k < (markerPieces w0.files).length) (t : RecoveredArchiveTransaction) :
    (openRecoveredArchiveTransaction name).exec perform {}
      (archived w0 name ∅ (some (.prepared, ((markerPieces w0.files).take k).flatten))) ≠
        (.ok t, w') := by
  intro ht
  have hq := quarantine?_archived ∅ (some (.prepared, ((markerPieces w0.files).take k).flatten))
    hname.unused
  obtain ⟨phase, identities, hphase, hread, hsidecars⟩ := exec_open_inv hq ht
  have hprepared : phase = .prepared := by
    by_contra hother
    simp [held, hother] at hphase
  subst hprepared
  have hread : readArchiveMarker ((markerPieces w0.files).take k).flatten = .ok identities := hread
  rcases readArchiveMarker_take w0.files hk with ⟨error, herror⟩ | ⟨found, file, hfound, hfile,
    hmissing, hactive⟩
  · rw [herror] at hread
    cases hread
  · rw [hfound] at hread
    cases hread
    have habsent := hsidecars rfl file hfile hmissing
    rw [files_archived_empty] at habsent
    rw [habsent] at hactive
    exact absurd hactive Bool.false_ne_true

theorem exec_open_of_openAll {ts : List RecoveredArchiveTransaction}
    (h : Runs (openAll ((archived w0 name moved marker).quarantines.map Prod.fst))
      (archived w0 name moved marker) ts w') :
    ∃ t, Runs (openRecoveredArchiveTransaction name) (archived w0 name moved marker) t
      (archived w0 name moved marker) := by
  refine exec_openAll_inv h name ?_
  simp [archived]

/-- A stage is recovered exactly when its quarantine has the complete marker. -/
theorem recoverable_iff_of_stage (hw : w0.Settled) (hdatabase : (w0.files .database).isSome)
    (hstage : Stage w0 w) : Recoverable w0 w ↔ Marked w0 w := by
  constructor
  · rintro ⟨w', hstart, -, -⟩ other q hq hnew
    cases hstage with
    | untouched =>
      rw [hnew] at hq
      cases hq
    | opened hname =>
      obtain ⟨t, ht⟩ := start_inv hstart (quarantine?_archived _ _ hname.unused)
      exact absurd ht (exec_open_opened_ne hname t)
    | marking hname hk =>
      obtain ⟨t, ht⟩ := start_inv hstart (quarantine?_archived _ _ hname.unused)
      exact absurd ht (exec_open_marking_ne hname hk t)
    | prepared hname hmoved =>
      rw [quarantine?_archived_new hq hnew]
      exact ⟨.prepared, rfl⟩
    | committed hname =>
      rw [quarantine?_archived_new hq hnew]
      exact ⟨.committed, rfl⟩
    | restored hname =>
      rw [quarantine?_archived_new hq hnew]
      exact ⟨.restored, rfl⟩
  · intro hmarked
    cases hstage with
    | untouched => exact ⟨_, start_settled hw, hw, fun _ _ h => .inl h⟩
    | opened hname =>
      obtain ⟨phase, hphase⟩ := hmarked _ _ (quarantine?_archived _ _ hname.unused) hname.unused
      cases hphase
    | @marking name hname k hk =>
      -- The marker is complete, so the archive already was prepared.
      obtain ⟨phase, hphase⟩ := hmarked _ _ (quarantine?_archived _ _ hname.unused) hname.unused
      have htext : ((markerPieces w0.files).take k).flatten = markerText w0.files := by
        by_cases hprepared : phase = .prepared
        · subst hprepared
          exact Option.some.inj hphase
        · simp [held, hprepared] at hphase
      rw [htext]
      exact recoverable_prepared hw hname hdatabase (by simp)
    | prepared hname hmoved => exact recoverable_prepared hw hname hdatabase hmoved.found
    | committed hname =>
      have hfinal := settled_archived_committed hw hname hdatabase
      refine ⟨_, start_settled hfinal, hfinal, fun file identity hfile => ?_⟩
      have hq := quarantine?_archived (names w0.files).toFinset
        (some (.committed, markerText w0.files)) hname.unused
      refine .inr ⟨_, _, hq, hq, rfl, ?_⟩
      rw [held_all]
      exact hfile
    | restored hname =>
      have hfinal := settled_archived_restored hw hname hdatabase
      refine ⟨_, start_settled hfinal, hfinal, fun file identity hfile => .inl ?_⟩
      rw [files_archived_empty, hfile]

end Verdict

end Recovery

/-- An archive of the legacy files that was cut anywhere, and whose operations may fail, is
recovered by the next start exactly when the quarantine it made, if it made one, has its complete
marker. -/
theorem interrupted_archive_recoverable_iff (checks : List Check) (w₀ : RuntimeDirectory)
    (hsettled : w₀.Settled) (hdatabase : (w₀.files .database).isSome)
    (ticks : List (Prog.Tick RuntimeDirectory ArchiveChoice))
    (halone : ∀ tick ∈ ticks, tick.interfere = id) :
    Recoverable w₀ ((archiveAndCommit checks w₀.files).run perform ticks w₀).2 ↔
      Marked w₀ ((archiveAndCommit checks w₀.files).run perform ticks w₀).2 :=
  recoverable_iff_of_stage hsettled hdatabase (stage_archiveAndCommit checks ticks halone)

/-- `Marked`, read off the list of quarantines. -/
theorem marked_of_entries {w0 w : RuntimeDirectory}
    (h : ∀ entry ∈ w.quarantines, ∃ phase ∈ ArchiveTransactionPhase.all,
      entry.2.markers phase = some (markerText w0.files)) : Marked w0 w := by
  intro name q hq _
  rw [RuntimeDirectory.quarantine?, Option.map_eq_some_iff] at hq
  obtain ⟨entry, hentry, rfl⟩ := hq
  obtain ⟨phase, -, hphase⟩ := h entry (Table.mem_of_lookup hentry)
  exact ⟨phase, hphase⟩

/-- A legacy database with a write-ahead log, and nothing else. -/
def legacyDirectory : RuntimeDirectory :=
  { files := fun
      | .database => some ⟨1, 7⟩
      | .wal => some ⟨1, 8⟩
      | _ => none }

theorem legacyDirectory_settled : legacyDirectory.Settled :=
  ⟨nodup_nil, nofun, nofun⟩

/-- A run of the archive in which nothing fails, cut after a number of operations. -/
def archiveTicks (count : Nat) : List (Prog.Tick RuntimeDirectory ArchiveChoice) :=
  List.replicate count { choice := {} }

/-- The directory after such a run of `migrate_legacy_store`. -/
def interruptedAfter (count : Nat) : RuntimeDirectory :=
  ((migrateLegacyStore legacyDirectory.files).run perform (archiveTicks count) legacyDirectory).2

/-- The 24th operation moved the database. -/
theorem interrupted_move_recoverable :
    Recoverable legacyDirectory (interruptedAfter 24) := by
  refine (interrupted_archive_recoverable_iff _ legacyDirectory legacyDirectory_settled rfl
    (archiveTicks 24) fun tick h => ?_).2 ?_
  · rw [(mem_replicate.1 h).2]
  · exact marked_of_entries (by decide +kernel)

/-- The quarantine directory was made, and the marker was not. No start succeeds any more. -/
theorem interrupted_mkdir_unrecoverable :
    ¬ Recoverable legacyDirectory (interruptedAfter 4) ∧
      (start (interruptedAfter 4)).2 = interruptedAfter 4 := by
  constructor
  · rintro ⟨w', hstart, -⟩
    have hfails : (start (interruptedAfter 4)).1.isOk = false := by decide +kernel
    rw [hstart] at hfails
    cases hfails
  · rfl

end Gascan.Archive
