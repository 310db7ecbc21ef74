import Gascan.Proofs.ArchiveRecovery

/-!
# `Gascan.Proofs.ArchiveOrder`: the legacy database is never active without its sidecars

The database is the first file that an archive moves away, and the last one that comes back, whether
the archive itself gives up or a later start recovers. `Lived` follows a legacy runtime directory
through any number of daemons, each of which may be cut anywhere. `database_with_sidecars` says that
on the way, an active database always has the sidecars next to it that the archive recorded.
-/

namespace Gascan.Archive

open Lib Lib.Text List

section Recovery

variable {w0 w : RuntimeDirectory} {name : String} {moved : Finset FamilyName}

/-- Recovery renames the files of a prepared quarantine back, the database last. -/
theorem safe_restoreRecovered (hname : Fresh w0 name) (hmoved : Movable w0 moved)
    {files : List FamilyName} (hfiles : files.Nodup) (hmem : ∀ file, file ∈ files ↔ file ∈ moved) :
    Safe w0 (restoreRecoveredArchiveTransaction ⟨name, .prepared, files⟩)
      (fun _ w => w = archived w0 name ∅ (some (.restored, markerText w0.files)))
      (prepared w0 name moved) := by
  refine .bind ((safe_moveAllOut hname _ _ hmoved (nodup_reverse.2 (hfiles.filter _))
    (fun file h => ?_) (.inl ?_)).mono ?_)
  · exact (hmem file).1 (mem_filter.1 (mem_reverse.1 h)).1
  · simp
  rintro _ _ rfl
  have hleft : ∀ file, file ∈ moved \ (files.filter (· ≠ .database)).reverse.toFinset ↔
      file ∈ moved ∧ file = .database := by
    intro file
    simp only [Finset.mem_sdiff, mem_toFinset, mem_reverse, mem_filter, hmem,
      decide_eq_true_eq]
    tauto
  have hmovable : Movable w0 (moved \ (files.filter (· ≠ .database)).reverse.toFinset) := by
    constructor
    · intro file h
      exact hmoved.found file ((hleft file).1 h).1
    · intro file h _
      obtain ⟨hfile, rfl⟩ := (hleft file).1 h
      exact h
  refine .bind ((safe_moveAllOut hname _ _ hmovable (hfiles.filter _) (fun file h => ?_)
    (.inr fun file h => ((hleft file).1 h).2)).mono ?_)
  · obtain ⟨hfile, hdatabase⟩ := mem_filter.1 h
    exact (hleft file).2 ⟨(hmem file).1 hfile, of_decide_eq_true hdatabase⟩
  rintro _ _ rfl
  have hempty : (moved \ (files.filter (· ≠ .database)).reverse.toFinset) \
      (files.filter (· = .database)).toFinset = ∅ := by
    ext file
    simp only [Finset.mem_sdiff (s := moved \ _), hleft, mem_toFinset, mem_filter, hmem,
      decide_eq_true_eq, Finset.notMem_empty, iff_false]
    tauto
  rw [hempty]
  have hback : Stage w0 (prepared w0 name ∅) :=
    .prepared hname (movable_empty w0)
  refine safe_sync hback (safe_sync hback (.bind ?_))
  refine (safe_transitionArchiveMarker hname (movable_empty w0) (.restored hname)).mono ?_
  rintro _ _ rfl
  have hend : Stage w0 (archived w0 name ∅ (some (.restored, markerText w0.files))) :=
    .restored hname
  exact safe_sync hend (safe_of_looks (looks_sync _) hend fun _ _ => rfl)

/-- Recovery looks at the quarantines of the directory before it does anything. -/
theorem safe_recover (hstage : Stage w0 w) {Q : Unit → RuntimeDirectory → Prop}
    (h : ∀ ts, (openAll (w.quarantines.map Prod.fst)).exec perform {} w = (.ok ts, w) →
      Safe w0 (match ts.filter (·.phase = .prepared) with
        | [] => .pure ()
        | [transaction] => restoreRecoveredArchiveTransaction transaction
        | _ => .throw (.unsafePath
          "multiple prepared legacy archive transactions are ambiguous")) Q w) :
    Safe w0 recoverLegacyArchiveTransactions Q w := by
  refine .bind (safe_of_looks (looks_step trivial) hstage fun found hfound => ?_)
  have hfound := (exec_readDirectory _).symm.trans hfound
  obtain rfl := Except.ok.inj (Prod.mk.inj hfound).1
  exact .bind (safe_of_looks (looks_openAll _) hstage h)

theorem safe_recover_settled (hstage : Stage w0 w) (hsettled : w.Settled) :
    Safe w0 recoverLegacyArchiveTransactions (fun _ => RuntimeDirectory.Settled) w := by
  refine safe_recover hstage fun ts hts => ?_
  obtain ⟨ts', hts', hfilter⟩ := exec_openAll_old hsettled fun _ _ h => h
  cases hts'.symm.trans hts
  rw [hfilter]
  exact hsettled

/-- Recovery stays within the stages of the archive that was cut, and where it returns the directory
is settled. -/
theorem safe_recoverLegacyArchiveTransactions (hw : w0.Settled)
    (hdatabase : (w0.files .database).isSome) (hstage : Stage w0 w) :
    Safe w0 recoverLegacyArchiveTransactions (fun _ => RuntimeDirectory.Settled) w := by
  cases hstage with
  | untouched => exact safe_recover_settled .untouched hw
  | opened hname =>
    refine safe_recover (.opened hname) fun ts hts => ?_
    obtain ⟨t, ht⟩ := exec_open_of_openAll hts
    exact absurd ht (exec_open_opened_ne hname t)
  | marking hname hk =>
    refine safe_recover (.marking hname hk) fun ts hts => ?_
    obtain ⟨t, ht⟩ := exec_open_of_openAll hts
    exact absurd ht (exec_open_marking_ne hname hk t)
  | prepared hname hmoved =>
    refine safe_recover (.prepared hname hmoved) fun ts hts => ?_
    obtain ⟨ts', hts', hfilter⟩ := exec_openAll_prepared hw hname hdatabase hmoved.found
    cases hts'.symm.trans hts
    rw [hfilter]
    refine (safe_restoreRecovered hname hmoved ((names_sublist _).nodup (by decide))
      (mem_names_held hmoved.found)).mono ?_
    rintro _ _ rfl
    exact settled_archived_restored hw hname hdatabase
  | committed hname =>
    exact safe_recover_settled (.committed hname) (settled_archived_committed hw hname hdatabase)
  | restored hname =>
    exact safe_recover_settled (.restored hname) (settled_archived_restored hw hname hdatabase)

end Recovery

/-! ### A legacy directory over many daemons -/

/-- What becomes of a legacy runtime directory. `legacy` are the files that the latest archive
recorded, at first those that are found. Every daemon begins with the recovery, and once that has
returned it may archive the files that it finds. Each run may be cut anywhere, so every directory on
the way is one of these. -/
inductive Lived : Identities → RuntimeDirectory → Prop where
  | found {w : RuntimeDirectory} (hsettled : w.Settled) (hdatabase : (w.files .database).isSome) :
      Lived w.files w
  | recovery {legacy : Identities} {w : RuntimeDirectory} (h : Lived legacy w)
      {ticks : List (Prog.Tick RuntimeDirectory ArchiveChoice)}
      (halone : ∀ tick ∈ ticks, tick.interfere = id) :
      Lived legacy (recoverLegacyArchiveTransactions.run perform ticks w).2
  | archive {legacy : Identities} {w w' : RuntimeDirectory} (h : Lived legacy w)
      {ticks ticks' : List (Prog.Tick RuntimeDirectory ArchiveChoice)}
      (halone : ∀ tick ∈ ticks, tick.interfere = id)
      (hrecovered : recoverLegacyArchiveTransactions.run perform ticks w = (.returned (), w'))
      (hdatabase : (w'.files .database).isSome) (checks : List Check)
      (halone' : ∀ tick ∈ ticks', tick.interfere = id) :
      Lived w'.files ((archiveAndCommit checks w'.files).run perform ticks' w').2

variable {w w0 : RuntimeDirectory}

/-- Every such directory is a stage of the latest archive. -/
theorem Lived.stage {legacy : Identities} (h : Lived legacy w) :
    ∃ w0 : RuntimeDirectory, w0.Settled ∧ (w0.files .database).isSome ∧ w0.files = legacy ∧
      Stage w0 w := by
  induction h with
  | found hsettled hdatabase => exact ⟨_, hsettled, hdatabase, rfl, .untouched⟩
  | recovery _ halone ih =>
    obtain ⟨w0, hsettled, hdatabase, hfiles, hstage⟩ := ih
    exact ⟨w0, hsettled, hdatabase, hfiles,
      (safe_recoverLegacyArchiveTransactions hsettled hdatabase hstage).stage hstage halone⟩
  | archive _ halone hrecovered hdatabase checks halone' ih =>
    -- The archive begins a new transaction in the directory that the recovery left.
    obtain ⟨w0, hsettled, hdatabase0, -, hstage⟩ := ih
    have hnew := Prog.wp_run _ _
      (safe_recoverLegacyArchiveTransactions hsettled hdatabase0 hstage)
      (respects_alone halone _ _)
    rw [hrecovered] at hnew
    exact ⟨_, hnew, hdatabase, rfl, stage_archiveAndCommit checks _ halone'⟩

theorem files_archived_of_active {name : String} {moved : Finset FamilyName}
    {marker : Option (ArchiveTransactionPhase × List Char)} (hmoved : Movable w0 moved)
    (hdatabase : (w0.files .database).isSome)
    (hactive : ((archived w0 name moved marker).files .database).isSome) (file : FamilyName) :
    (archived w0 name moved marker).files file = w0.files file := by
  refine if_neg fun hmem => ?_
  have hgone : (archived w0 name moved marker).files .database = none :=
    if_pos (hmoved.database file hmem hdatabase)
  rw [hgone] at hactive
  cases hactive

/-- In a stage, an active database has its sidecars. -/
theorem Stage.sidecars (hdatabase : (w0.files .database).isSome) (h : Stage w0 w)
    (hactive : (w.files .database).isSome) (file : FamilyName) : w.files file = w0.files file := by
  cases h with
  | untouched => rfl
  | opened | marking | restored => rw [files_archived_empty]
  | prepared _ hmoved => exact files_archived_of_active hmoved hdatabase hactive file
  | committed => exact files_archived_of_active (movable_names w0) hdatabase hactive file

/-- Wherever a daemon is cut, a legacy database in the runtime directory has every sidecar next to
it that the archive recorded. -/
theorem database_with_sidecars {legacy : Identities} {w : RuntimeDirectory} (h : Lived legacy w)
    (hactive : (w.files .database).isSome) (file : FamilyName) (hfile : (legacy file).isSome) :
    (w.files file).isSome := by
  obtain ⟨w₀, -, hdatabase, rfl, hstage⟩ := h.stage
  rw [hstage.sidecars hdatabase hactive file]
  exact hfile

/-- The archive is cut once it has moved both files, and the next daemon recovers. -/
theorem recovered_database_with_log :
    ((recoverLegacyArchiveTransactions.run perform (archiveTicks 60) (interruptedAfter 25)).2.files
      .wal).isSome := by
  have halone : ∀ count, ∀ tick ∈ archiveTicks count, tick.interfere = id := by
    intro count tick h
    rw [(mem_replicate.1 h).2]
  have hrecovered : recoverLegacyArchiveTransactions.run perform (archiveTicks 1) legacyDirectory =
      (.returned (), legacyDirectory) := rfl
  have hcut : Lived legacyDirectory.files (interruptedAfter 25) :=
    .archive (.found legacyDirectory_settled rfl) (halone 1) hrecovered rfl [.temps, .store]
      (halone 25)
  exact database_with_sidecars (.recovery hcut (halone 60)) (by decide +kernel) .wal rfl

end Gascan.Archive
