import Mathlib.Data.Finset.Basic
import Gascan.Proofs.ArchiveMarker

/-!
# `Gascan.Proofs.ArchiveStages`: what an archive leaves behind wherever it stops

`Stage w0 w` lists what an archive of the runtime directory `w0` can leave behind: nothing, a
quarantine without a marker, a marker that breaks off, a prepared quarantine with some of the files,
a committed one with all of them, or a restored one. `stage_archiveAndCommit` shows that there is
nothing else, whatever operation fails and wherever the run is cut.
-/

namespace Gascan.Archive

open Lib Lib.Text List

/-! ### Stages of an archive -/

/-- The quarantine with some of the files and at most one marker. -/
def held (files : Identities) (moved : Finset FamilyName)
    (marker : Option (ArchiveTransactionPhase × List Char)) : Quarantine :=
  { files := fun file => if file ∈ moved then files file else none
    markers := fun phase => marker.bind fun (found, text) =>
      if phase = found then some text else none
    others := [] }

/-- The directory `w0` with a new quarantine that holds some of its files. -/
def archived (w0 : RuntimeDirectory) (name : String) (moved : Finset FamilyName)
    (marker : Option (ArchiveTransactionPhase × List Char)) : RuntimeDirectory :=
  { files := fun file => if file ∈ moved then none else w0.files file
    quarantines := w0.quarantines ++ [(name, held w0.files moved marker)] }

/-- The directory `w0` with a new quarantine that has its marker and some of the files. -/
abbrev prepared (w0 : RuntimeDirectory) (name : String) (moved : Finset FamilyName) :
    RuntimeDirectory :=
  archived w0 name moved (some (.prepared, markerText w0.files))

/-- A name for a new quarantine of the directory. -/
structure Fresh (w0 : RuntimeDirectory) (name : String) : Prop where
  exact : exactArchiveQuarantineName name = true
  unused : w0.quarantine? name = none

/-- The files that a prepared quarantine can hold. The database goes in first and comes out last, so
it is there whenever any file is. -/
structure Movable (w0 : RuntimeDirectory) (moved : Finset FamilyName) : Prop where
  found : ∀ file ∈ moved, (w0.files file).isSome
  database : ∀ file ∈ moved, (w0.files .database).isSome → .database ∈ moved

/-- The directories that an archive of `w0` can leave behind. -/
inductive Stage (w0 : RuntimeDirectory) : RuntimeDirectory → Prop where
  | untouched : Stage w0 w0
  | opened {name : String} (hname : Fresh w0 name) : Stage w0 (archived w0 name ∅ none)
  | marking {name : String} (hname : Fresh w0 name) {k : Nat}
      (hk : k < (markerPieces w0.files).length) :
      Stage w0 (archived w0 name ∅ (some (.prepared, ((markerPieces w0.files).take k).flatten)))
  | prepared {name : String} (hname : Fresh w0 name) {moved : Finset FamilyName}
      (hmoved : Movable w0 moved) :
      Stage w0 (archived w0 name moved (some (.prepared, markerText w0.files)))
  | committed {name : String} (hname : Fresh w0 name) :
      Stage w0 (archived w0 name (names w0.files).toFinset
        (some (.committed, markerText w0.files)))
  | restored {name : String} (hname : Fresh w0 name) :
      Stage w0 (archived w0 name ∅ (some (.restored, markerText w0.files)))

section Operations

variable {w0 : RuntimeDirectory} {name : String} {moved : Finset FamilyName}
  {marker : Option (ArchiveTransactionPhase × List Char)}

theorem quarantine?_archived (moved : Finset FamilyName)
    (marker : Option (ArchiveTransactionPhase × List Char)) (hname : w0.quarantine? name = none) :
    (archived w0 name moved marker).quarantine? name = some (held w0.files moved marker) := by
  rw [RuntimeDirectory.quarantine?, Option.map_eq_none_iff] at hname
  rw [RuntimeDirectory.quarantine?, archived, Table.lookup_append_one, hname]
  simp

theorem quarantine?_archived_of_some {other : String} {q : Quarantine}
    (h : w0.quarantine? other = some q) :
    (archived w0 name moved marker).quarantine? other = some q := by
  rw [RuntimeDirectory.quarantine?, Option.map_eq_some_iff] at h
  obtain ⟨entry, hentry, rfl⟩ := h
  rw [RuntimeDirectory.quarantine?, archived, Table.lookup_append_one, hentry]
  rfl

theorem updateQuarantine_archived (hname : w0.quarantine? name = none)
    (f : Quarantine → Quarantine) :
    (archived w0 name moved marker).updateQuarantine name f =
      ⟨(archived w0 name moved marker).files,
        w0.quarantines ++ [(name, f (held w0.files moved marker))]⟩ := by
  rw [RuntimeDirectory.quarantine?, Option.map_eq_none_iff, Table.lookup_eq_none] at hname
  have hold : Table.update Prod.fst name (fun entry => (entry.1, f entry.2)) w0.quarantines =
      w0.quarantines := by
    refine (map_congr_left fun entry hentry => ?_).trans (map_id _)
    exact if_neg (hname entry hentry)
  have hnew : Table.update Prod.fst name (fun entry => (entry.1, f entry.2))
      (archived w0 name moved marker).quarantines =
        w0.quarantines ++ [(name, f (held w0.files moved marker))] := by
    show List.map _ (w0.quarantines ++ _) = _
    rw [map_append]
    exact congrArg₂ (· ++ ·) hold (by simp)
  rw [RuntimeDirectory.updateQuarantine, hnew]

theorem change_archived (hname : w0.quarantine? name = none)
    {marker' : Option (ArchiveTransactionPhase × List Char)}
    {f : Quarantine → Except String Quarantine}
    (hf : f (held w0.files moved marker) = .ok (held w0.files moved marker')) :
    (archived w0 name moved marker).change name f = (.ok (), archived w0 name moved marker') := by
  rw [RuntimeDirectory.change, quarantine?_archived _ _ hname]
  simp only [hf, updateQuarantine_archived hname]
  rfl

variable (x : ArchiveChoice)

section

variable (hname : w0.quarantine? name = none)

include hname

theorem performOk_createMarker :
    performOk (.createMarker name) x (archived w0 name moved none) =
      (.ok (), archived w0 name moved (some (.prepared, []))) := by
  refine change_archived hname (congrArg Except.ok ?_)
  simp only [held, Quarantine.mk.injEq, true_and, and_true]
  funext phase
  by_cases h : phase = .prepared <;> simp [assign, h]

theorem performOk_writeMarker (text piece : List Char) :
    performOk (.writeMarker name piece) x (archived w0 name moved (some (.prepared, text))) =
      (.ok (), archived w0 name moved (some (.prepared, text ++ piece))) := by
  refine change_archived (f := Quarantine.writeMarker piece) hname (congrArg Except.ok ?_)
  simp only [held, Quarantine.mk.injEq, true_and, and_true]
  funext phase
  by_cases h : phase = .prepared <;> simp [assign, h]

theorem performOk_renameMarker (text : List Char) (target : ArchiveTransactionPhase) :
    performOk (.renameMarker name .prepared target) x
        (archived w0 name moved (some (.prepared, text))) =
      (.ok (), archived w0 name moved (some (target, text))) := by
  refine change_archived hname (congrArg Except.ok ?_)
  simp only [held, Quarantine.mk.injEq, true_and, and_true]
  funext phase
  by_cases h : phase = target
  · simp [assign, h]
  · by_cases hprepared : phase = .prepared <;> simp [assign, h, hprepared]

theorem performOk_moveIn {file : FamilyName}
    (hfile : (w0.files file).isSome) (hnot : file ∉ moved) :
    performOk (.moveIn name file) x (archived w0 name moved marker) =
      (.ok (), archived w0 name (insert file moved) marker) := by
  obtain ⟨identity, hidentity⟩ := Option.isSome_iff_exists.1 hfile
  have hactive : (archived w0 name moved marker).files file = some identity := by
    exact (if_neg hnot).trans hidentity
  show RuntimeDirectory.moveIn _ _ _ = _
  rw [RuntimeDirectory.moveIn, hactive, quarantine?_archived _ _ hname]
  simp only [updateQuarantine_archived hname]
  have hfiles : assign (archived w0 name moved marker).files file none =
      (archived w0 name (insert file moved) marker).files := by
    funext other
    by_cases h : other = file <;> simp [assign, archived, h]
  have hheld : ({ held w0.files moved marker with
      files := assign (held w0.files moved marker).files file (some identity) } : Quarantine) =
        held w0.files (insert file moved) marker := by
    simp only [held, Quarantine.mk.injEq, and_true]
    funext other
    by_cases h : other = file
    · simp [assign, h, hidentity]
    · simp [assign, h]
  rw [hfiles, hheld]
  rfl

theorem performOk_moveOut {file : FamilyName}
    (hfile : (w0.files file).isSome) (hmem : file ∈ moved) :
    performOk (.moveOut name file) x (archived w0 name moved marker) =
      (.ok (), archived w0 name (moved.erase file) marker) := by
  obtain ⟨identity, hidentity⟩ := Option.isSome_iff_exists.1 hfile
  have hthere : ((archived w0 name moved marker).quarantine? name).bind (·.files file) =
      some identity := by
    rw [quarantine?_archived _ _ hname, Option.bind_some]
    exact (if_pos hmem).trans hidentity
  show RuntimeDirectory.moveOut _ _ _ = _
  rw [RuntimeDirectory.moveOut, hthere]
  simp only [updateQuarantine_archived hname]
  have hfiles : assign (archived w0 name moved marker).files file (some identity) =
      (archived w0 name (moved.erase file) marker).files := by
    funext other
    by_cases h : other = file
    · simp [assign, archived, h, hidentity]
    · simp [assign, archived, h]
  have hheld : ({ held w0.files moved marker with
      files := assign (held w0.files moved marker).files file none } : Quarantine) =
        held w0.files (moved.erase file) marker := by
    simp only [held, Quarantine.mk.injEq, and_true]
    funext other
    by_cases h : other = file <;> simp [assign, h]
  rw [hfiles, hheld]
  rfl

end

end Operations

/-! ### The order in which the files move -/

section Order

variable {w0 : RuntimeDirectory} {moved : Finset FamilyName} {files : List FamilyName}

theorem movable_empty (w0 : RuntimeDirectory) : Movable w0 ∅ := by
  constructor <;> simp

theorem names_eq_cons (h : (w0.files .database).isSome) :
    names w0.files = .database :: (names w0.files).drop 1 := by
  simp [names, FamilyName.all, h]

theorem database_notMem_drop (h : files <+: names w0.files) :
    .database ∉ files.drop 1 := by
  obtain ⟨rest, hrest⟩ := h
  intro hmem
  have hlater : FamilyName.database ∈ (names w0.files).drop 1 := by
    rw [← hrest]
    cases files with
    | nil => exact absurd hmem not_mem_nil
    | cons first files => exact mem_append_left rest hmem
  have hnodup : (names w0.files).Nodup := (names_sublist w0.files).nodup (by decide)
  rw [names_eq_cons (mem_names.1 (mem_of_mem_drop hlater))] at hnodup
  exact (nodup_cons.1 hnodup).1 hlater

theorem movable_of_moved (h : files <+: names w0.files) :
    Movable w0 files.toFinset where
  found := fun file hmem => mem_names.1 (h.subset (mem_toFinset.1 hmem))
  database := by
    intro file hmem hdatabase
    rw [names_eq_cons hdatabase] at h
    cases files with
    | nil => exact absurd hmem (by simp)
    | cons first files =>
      rw [(cons_prefix_cons.1 h).1]
      simp

theorem movable_names (w0 : RuntimeDirectory) : Movable w0 (names w0.files).toFinset :=
  movable_of_moved (prefix_refl _)

/-- A file comes out: a sidecar, or the database when nothing else is left. -/
theorem Movable.erase (h : Movable w0 moved) {file : FamilyName}
    (hlast : file = .database → ∀ other ∈ moved, other = .database) :
    Movable w0 (moved.erase file) where
  found := fun other hother => h.found other (Finset.mem_of_mem_erase hother)
  database := by
    intro other hother hdatabase
    obtain ⟨hne, hmem⟩ := Finset.mem_erase.1 hother
    refine Finset.mem_erase.2 ⟨fun heq => ?_, h.database other hmem hdatabase⟩
    exact hne ((hlast heq.symm other hmem).trans heq)

end Order

/-! ### Every run stays within the stages -/

/-- Operations that only look at the directory. -/
def ArchiveCmd.Reads : ArchiveCmd → Prop
  | .random | .mkdir _ | .createMarker _ | .writeMarker .. | .moveIn .. | .moveOut ..
  | .renameMarker .. => False
  | _ => True

theorem ask_world {α : Type} (w : RuntimeDirectory) (name : String) (f : Quarantine → α) :
    (w.ask name f).2 = w := by
  unfold RuntimeDirectory.ask
  cases w.quarantine? name <;> rfl

/-- What such an operation replies depends on the directory alone, which it leaves as it is. -/
theorem performOk_of_reads {c : ArchiveCmd} (hc : c.Reads) (x : ArchiveChoice)
    (w : RuntimeDirectory) : performOk c x w = ((performOk c {} w).1, w) := by
  cases c with
  | check | sync | readDirectory | stat => rfl
  | openQuarantine name => exact Prod.ext rfl (ask_world w name fun _ => ())
  | markerExists name phase =>
    exact Prod.ext rfl (ask_world w name fun q => (q.markers phase).isSome)
  | readMarker name phase =>
    exact Prod.ext rfl (ask_world w name fun q => (q.markers phase).getD [])
  | readQuarantine name => exact Prod.ext rfl (ask_world w name Quarantine.entries)
  | statQuarantined name file => exact Prod.ext rfl (ask_world w name fun q => q.files file)
  | random | mkdir | createMarker | writeMarker | moveIn | moveOut | renameMarker => exact hc.elim

/-- A program that only looks at the directory, and ends as soon as an operation fails. -/
def Looks {α : Type} : Arc α → Prop
  | .pure _ | .throw _ => True
  | .call c k => c.Reads ∧ (∀ error, ∃ error', k (.error error) = .throw error') ∧
    ∀ result, Looks (k (.ok result))

/-- Nobody else writes to the directory. -/
def alone : Prog.Env ArchiveCmd RuntimeDirectory ArchiveChoice :=
  { rely := fun w w' => w' = w, allows := fun _ _ _ => True }

section Runs

variable (w0 : RuntimeDirectory) {α β : Type} {c : ArchiveCmd}

/-- Every operation of the program leaves a stage of the archive of `w0`, and the program returns
only as `Q` says. -/
def Safe (p : Arc α) (Q : α → RuntimeDirectory → Prop) (w : RuntimeDirectory) : Prop :=
  p.wp perform alone (fun _ => Stage w0) Q (fun _ _ => True) w

variable {w0} {Q : α → RuntimeDirectory → Prop} {w w' : RuntimeDirectory}

variable {p : Arc α} {toError : String → ControllerStateError}
  {ticks : List (Prog.Tick RuntimeDirectory ArchiveChoice)}

theorem Safe.bind {f : α → Arc β} {Q : β → RuntimeDirectory → Prop}
    (h : Safe w0 p (fun a w' => Safe w0 (f a) Q w') w) : Safe w0 (p.bind f) Q w :=
  (Prog.wp_bind p f).2 h

theorem Safe.mono {Q' : α → RuntimeDirectory → Prop} (h : Safe w0 p Q w)
    (hQ : ∀ a w', Q a w' → Q' a w') : Safe w0 p Q' w :=
  Prog.wp_mono p (fun _ _ hg => hg) hQ (fun _ _ he => he) h

/-- A program that only looks at the directory returns what it returns when nothing fails. -/
theorem safe_of_looks (hp : Looks p) (hw : Stage w0 w)
    (hQ : ∀ a, p.exec perform {} w = (.ok a, w) → Q a w) : Safe w0 p Q w := by
  induction p with
  | pure a => exact hQ a rfl
  | throw error => trivial
  | call c k ih =>
    obtain ⟨hc, hfail, hk⟩ := hp
    intro w1 hrely x _
    obtain rfl : w1 = w := hrely
    unfold perform
    cases x.fault with
    | some error =>
      obtain ⟨error', herror⟩ := hfail error
      refine ⟨hw, ?_⟩
      show (k (.error error)).wp ..
      rw [herror]
      trivial
    | none =>
      simp only [performOk_of_reads hc x]
      refine ⟨hw, ?_⟩
      have hexec : (Prog.call c k).exec perform {} w1 =
          (k (performOk c {} w1).1).exec perform {} w1 := by
        show (k (performOk c {} w1).1).exec perform {} (performOk c {} w1).2 = _
        rw [performOk_of_reads hc]
      rw [hexec] at hQ
      cases hreply : (performOk c {} w1).1 with
      | ok result =>
        rw [hreply] at hQ
        exact ih _ (hk result) hQ
      | error error =>
        obtain ⟨error', herror⟩ := hfail error
        rw [herror]
        trivial

/-- One operation with a known effect. When it fails, the directory is as it was. -/
theorem safe_call {k : ArchiveReply c → Arc α} {r : ArchiveResult c}
    (hw : Stage w0 w) (hperform : ∀ x, performOk c x w = (.ok r, w')) (hw' : Stage w0 w')
    (hok : Safe w0 (k (.ok r)) Q w') (herror : ∀ error, Safe w0 (k (.error error)) Q w) :
    Safe w0 (.call c k) Q w := by
  rintro _ rfl x -
  unfold perform
  cases x.fault with
  | some error => exact ⟨hw, herror error⟩
  | none =>
    simp only [hperform]
    exact ⟨hw', hok⟩

theorem safe_step {Q : ArchiveResult c → RuntimeDirectory → Prop}
    {r : ArchiveResult c} (hw : Stage w0 w) (hperform : ∀ x, performOk c x w = (.ok r, w'))
    (hw' : Stage w0 w') (hQ : Q r w') : Safe w0 (step toError c) Q w :=
  safe_call hw hperform hw' hQ fun _ => trivial

theorem safe_random {Q : (Fin 16 → UInt8) → RuntimeDirectory → Prop} (hw : Stage w0 w)
    (hQ : ∀ random, Q random w) : Safe w0 (step toError .random) Q w := by
  rintro _ rfl x -
  unfold perform
  cases x.fault with
  | some error => exact ⟨hw, trivial⟩
  | none => exact ⟨hw, hQ x.random⟩

/-! The programs that only look. -/

theorem looks_bind {f : α → Arc β} (hp : Looks p) (hf : ∀ a, Looks (f a)) : Looks (p.bind f) := by
  induction p with
  | pure a => exact hf a
  | throw error => trivial
  | call c k ih =>
    obtain ⟨hc, hfail, hk⟩ := hp
    refine ⟨hc, fun error => ?_, fun result => ih _ (hk result)⟩
    obtain ⟨error', herror⟩ := hfail error
    exact ⟨error', congrArg (Prog.bind · f) herror⟩

theorem looks_step (hc : c.Reads) : Looks (step toError c) :=
  ⟨hc, fun error => ⟨toError error, rfl⟩, fun _ => trivial⟩

theorem looks_ensure (condition : Bool) (message : String) : Looks (ensure condition message) := by
  unfold ensure
  cases condition <;> trivial

theorem looks_forM {f : β → Arc Unit} (list : List β) (hf : ∀ b, Looks (f b)) :
    Looks (list.forM f) := by
  induction list with
  | nil => trivial
  | cons b list ih => exact looks_bind (hf b) fun _ => ih

theorem looks_sync (context : String) : Looks (sync context) := looks_step trivial

theorem looks_validateLive (transaction : LegacyArchiveTransaction) :
    Looks (validateLiveArchiveTransactionLayout transaction) :=
  looks_bind (looks_step trivial) fun _ => looks_ensure ..

theorem looks_validateArchiveFiles (quarantine : String) (identities : Identities)
    (files : List FamilyName) :
    Looks (validateArchiveFiles quarantine identities files) :=
  looks_forM files fun _ => looks_bind (looks_ensure ..) fun _ =>
    looks_bind (looks_step trivial) fun _ =>
      looks_bind (looks_ensure ..) fun _ => looks_ensure ..

theorem safe_sync {context : String} {f : Unit → Arc α} (hw : Stage w0 w) (h : Safe w0 (f ()) Q w) :
    Safe w0 ((sync context).bind f) Q w :=
  Safe.bind (safe_of_looks (looks_sync context) hw fun _ _ => h)

/-! The programs that write. -/

theorem exact_quarantineName (random : Fin 16 → UInt8) :
    exactArchiveQuarantineName (quarantineName random) = true := by
  have hlength : ((List.ofFn random).map UInt8.toNat).length = 16 := by simp
  have hbytes : ∀ b ∈ (List.ofFn random).map UInt8.toNat, b < 256 := by
    intro b hb
    obtain ⟨byte, -, rfl⟩ := mem_map.1 hb
    exact byte.toNat_lt
  unfold exactArchiveQuarantineName quarantineName
  simp only [String.toList_append, drop_left, length_hexLower, hlength,
    isLowerHex_hexLower hbytes, Bool.and_true, decide_true]
  exact isPrefixOf_iff_prefix.2 (prefix_append ..)

theorem archived_empty (w0 : RuntimeDirectory) (name : String) :
    archived w0 name ∅ none = ⟨w0.files, w0.quarantines ++ [(name, ({} : Quarantine))]⟩ := by
  simp [archived, held]

theorem safe_createPrivateQuarantine (attempts : Nat) :
    Safe w0 (createPrivateQuarantine attempts)
      (fun name w => Fresh w0 name ∧ w = archived w0 name ∅ none) w0 := by
  induction attempts with
  | zero => trivial
  | succ attempts ih =>
    refine Safe.bind (safe_random .untouched fun random => ?_)
    refine Safe.bind ?_
    cases hused : w0.quarantine? (quarantineName random) with
    | some q =>
      -- The name is taken, and another one is drawn.
      refine safe_step (r := false) .untouched (fun x => ?_) .untouched ih
      show (if (w0.quarantine? _).isSome then _ else _) = _
      rw [hused]
      rfl
    | none =>
      have hfresh : Fresh w0 (quarantineName random) := ⟨exact_quarantineName random, hused⟩
      refine safe_step (r := true) .untouched (fun x => ?_) (.opened hfresh) ?_
      · show (if (w0.quarantine? _).isSome then _ else _) = _
        rw [hused, archived_empty]
        rfl
      · exact Safe.bind (safe_of_looks (looks_step trivial) (.opened hfresh) fun _ _ =>
          ⟨hfresh, rfl⟩)

section Quarantined

variable {name : String} {moved : Finset FamilyName}

theorem stage_marking (hname : Fresh w0 name) (k : Nat) :
    Stage w0 (archived w0 name ∅ (some (.prepared, ((markerPieces w0.files).take k).flatten))) := by
  by_cases hk : k < (markerPieces w0.files).length
  · exact .marking hname hk
  · rw [take_of_length_le (Nat.not_lt.1 hk), flatten_markerPieces]
    exact .prepared hname (movable_empty w0)

/-- The writes of the marker, from the piece with index `k` on. -/
theorem safe_writePieces (hname : Fresh w0 name) (rest : List (List Char)) (k : Nat)
    (hrest : (markerPieces w0.files).drop k = rest) :
    Safe w0 (rest.forM fun piece => step .migration (.writeMarker name piece))
      (fun _ w => w = prepared w0 name ∅)
      (archived w0 name ∅ (some (.prepared, ((markerPieces w0.files).take k).flatten))) := by
  induction rest generalizing k with
  | nil =>
    show archived _ _ _ _ = _
    rw [take_of_length_le (drop_eq_nil_iff.1 hrest), flatten_markerPieces]
  | cons piece rest ih =>
    have hnext : (markerPieces w0.files).drop (k + 1) = rest := by
      rw [← drop_drop, hrest]
      rfl
    have htake : ((markerPieces w0.files).take (k + 1)).flatten =
        ((markerPieces w0.files).take k).flatten ++ piece := by
      have hpiece : (markerPieces w0.files)[k]? = some piece := by
        rw [← head?_drop, hrest]
        rfl
      rw [take_add_one, hpiece, flatten_append]
      simp
    refine Safe.bind (safe_step (stage_marking hname k)
      (fun x => performOk_writeMarker x hname.unused _ piece) ?_ ?_)
    · rw [← htake]
      exact stage_marking hname (k + 1)
    · rw [← htake]
      exact ih (k + 1) hnext

theorem safe_writeArchivePreparedMarker (hname : Fresh w0 name) :
    Safe w0 (writeArchivePreparedMarker name w0.files)
      (fun _ w => w = prepared w0 name ∅)
      (archived w0 name ∅ none) := by
  have hfull : Stage w0 (prepared w0 name ∅) :=
    .prepared hname (movable_empty w0)
  refine Safe.bind (safe_step (.opened hname)
    (fun x => performOk_createMarker x hname.unused) (stage_marking hname 0) ?_)
  refine Safe.bind ((safe_writePieces hname _ 0 rfl).mono ?_)
  rintro _ _ rfl
  exact Safe.bind (safe_of_looks (looks_step trivial) hfull fun _ _ =>
    safe_of_looks (looks_sync _) hfull fun _ _ => rfl)

/-- Renaming files back: sidecars, or the database when nothing else is left. -/
theorem safe_moveAllOut (hname : Fresh w0 name) (context : String) (files : List FamilyName)
    (hmoved : Movable w0 moved) (hfiles : files.Nodup) (hsub : ∀ file ∈ files, file ∈ moved)
    (horder : .database ∉ files ∨ ∀ other ∈ moved, other = .database) :
    Safe w0 (moveAllOut context name files)
      (fun _ w => w = prepared w0 name (moved \ files.toFinset))
      (prepared w0 name moved) := by
  induction files generalizing moved with
  | nil =>
    show archived _ _ _ _ = _
    simp
  | cons file files ih =>
    obtain ⟨hnot, hfiles⟩ := nodup_cons.1 hfiles
    have hmem := hsub file (mem_cons_self ..)
    have herase : Movable w0 (moved.erase file) := by
      refine hmoved.erase fun heq => ?_
      rcases horder with hsidecars | hlast
      · exact absurd (heq ▸ mem_cons_self ..) hsidecars
      · exact hlast
    refine Safe.bind (safe_step (.prepared hname hmoved)
      (fun x => performOk_moveOut x hname.unused (hmoved.found file hmem) hmem)
      (.prepared hname herase) ?_)
    refine (ih herase hfiles (fun other h => ?_) ?_).mono ?_
    · exact Finset.mem_erase.2
        ⟨fun hsame => hnot (hsame ▸ h), hsub other (mem_cons_of_mem file h)⟩
    · exact horder.imp (fun h hrest => h (mem_cons_of_mem file hrest))
        fun h other hother => h other (Finset.mem_of_mem_erase hother)
    · rintro _ _ rfl
      congr 1
      ext other
      simp only [Finset.mem_sdiff, Finset.mem_erase, mem_toFinset, mem_cons]
      tauto

/-- Renaming the files back that the loop moved so far. -/
theorem safe_restoreLegacyArchiveQuarantine (hname : Fresh w0 name) {files : List FamilyName}
    (hinitial : files <+: names w0.files) :
    Safe w0 (restoreLegacyArchiveQuarantine name files)
      (fun _ w => w = prepared w0 name ∅)
      (prepared w0 name files.toFinset) := by
  have hset : Movable w0 files.toFinset := movable_of_moved hinitial
  have hfiles : files.Nodup :=
    hinitial.sublist.nodup ((names_sublist w0.files).nodup (by decide))
  refine Safe.bind (safe_of_looks (looks_step trivial) (.prepared hname hset) fun _ _ => ?_)
  cases files with
  | nil => exact (rfl : archived w0 name ∅ _ = _)
  | cons first rest =>
    obtain ⟨hnot, hrest⟩ := nodup_cons.1 hfiles
    have hsidecars : FamilyName.database ∉ rest.reverse := fun h =>
      database_notMem_drop hinitial (mem_reverse.1 h)
    have hleft : (first :: rest).toFinset \ rest.reverse.toFinset = {first} := by
      ext file
      simp only [Finset.mem_sdiff, mem_toFinset, mem_cons, mem_reverse,
        Finset.mem_singleton]
      constructor
      · rintro ⟨rfl | h, hnotin⟩
        · rfl
        · exact absurd h hnotin
      · rintro rfl
        exact ⟨.inl rfl, hnot⟩
    refine Safe.bind ((safe_moveAllOut hname _ rest.reverse hset (nodup_reverse.2 hrest)
      (fun file h => ?_) (.inl hsidecars)).mono ?_)
    · exact mem_toFinset.2 (mem_cons_of_mem first (mem_reverse.1 h))
    rintro _ _ rfl
    rw [hleft]
    have hfirst : [first] <+: names w0.files :=
      (cons_prefix_cons.2 ⟨rfl, nil_prefix⟩).trans hinitial
    have hone : Movable w0 {first} := movable_of_moved hfirst
    refine (safe_moveAllOut hname _ [first] hone (nodup_singleton first)
      (fun file h => ?_) ?_).mono ?_
    · exact Finset.mem_singleton.2 (mem_singleton.1 h)
    · by_cases hdatabase : first = .database
      · exact .inr fun other h => (Finset.mem_singleton.1 h).trans hdatabase
      · exact .inl fun h => hdatabase (mem_singleton.1 h).symm
    · rintro _ _ rfl
      simp

/-- The end of a transaction: the marker gets its last name. -/
theorem safe_transitionArchiveMarker (hname : Fresh w0 name)
    (hmoved : Movable w0 moved) {target : ArchiveTransactionPhase}
    (hnext : Stage w0 (archived w0 name moved (some (target, markerText w0.files)))) :
    Safe w0 (transitionArchiveMarker name .prepared target)
      (fun _ w => w = archived w0 name moved (some (target, markerText w0.files)))
      (prepared w0 name moved) := by
  have hstage : Stage w0 (prepared w0 name moved) :=
    .prepared hname hmoved
  refine Safe.bind (safe_of_looks (looks_step trivial) hstage fun _ _ => ?_)
  refine Safe.bind (safe_of_looks (looks_ensure ..) hstage fun _ _ => ?_)
  exact safe_step hstage (fun x => performOk_renameMarker x hname.unused _ target) hnext rfl

/-- The transaction that holds all the files. -/
def fullTransaction (w0 : RuntimeDirectory) (name : String) : LegacyArchiveTransaction :=
  ⟨name, w0.files, names w0.files⟩

theorem safe_restore (hname : Fresh w0 name) :
    Safe w0 (fullTransaction w0 name).restore (fun _ => Stage w0)
      (prepared w0 name (names w0.files).toFinset) := by
  have hstage := Stage.prepared hname (movable_names w0)
  refine Safe.bind (safe_of_looks (looks_validateLive _) hstage fun _ _ => ?_)
  refine Safe.bind (safe_of_looks (looks_validateArchiveFiles ..) hstage fun _ _ => ?_)
  refine Safe.bind ((safe_restoreLegacyArchiveQuarantine hname (prefix_refl _)).mono ?_)
  rintro _ _ rfl
  have hback : Stage w0 (prepared w0 name ∅) :=
    .prepared hname (movable_empty w0)
  refine safe_sync hback (safe_sync hback (Safe.bind ?_))
  refine (safe_transitionArchiveMarker hname (movable_empty w0) (.restored hname)).mono ?_
  rintro _ _ rfl
  have hend : Stage w0 (archived w0 name ∅ (some (.restored, markerText w0.files))) :=
    .restored hname
  exact safe_sync hend (safe_of_looks (looks_sync _) hend fun _ _ => hend)

theorem safe_commit (hname : Fresh w0 name) :
    Safe w0 (fullTransaction w0 name).commit (fun _ => Stage w0)
      (prepared w0 name (names w0.files).toFinset) := by
  have hstage := Stage.prepared hname (movable_names w0)
  refine Safe.bind (safe_of_looks (looks_validateLive _) hstage fun _ _ => ?_)
  refine Safe.bind (safe_of_looks (looks_validateArchiveFiles ..) hstage fun _ _ => ?_)
  refine Safe.bind ((safe_transitionArchiveMarker hname (movable_names w0)
    (.committed hname)).mono ?_)
  rintro _ _ rfl
  have hend : Stage w0 (archived w0 name (names w0.files).toFinset
      (some (.committed, markerText w0.files))) := .committed hname
  exact safe_sync hend (safe_of_looks (looks_sync _) hend fun _ _ => hend)

theorem safe_checkOrRestore (hname : Fresh w0 name) (check : Check) :
    Safe w0 ((fullTransaction w0 name).checkOrRestore check)
      (fun _ w => w = prepared w0 name (names w0.files).toFinset)
      (prepared w0 name (names w0.files).toFinset) := by
  have hstage := Stage.prepared hname (movable_names w0)
  refine safe_call (r := ()) hstage (fun x => rfl) hstage rfl fun error => ?_
  exact Safe.bind ((safe_restore hname).mono fun _ _ _ => trivial)

/-- The loop that moves the files. `files` are those that are left. -/
theorem safe_moveFiles (hname : Fresh w0 name) (done files : List FamilyName)
    (hnames : names w0.files = done ++ files) :
    Safe w0 (moveFiles name done files)
      (fun moved w => moved = names w0.files ∧ w = prepared w0 name (names w0.files).toFinset)
      (prepared w0 name done.toFinset) := by
  have hnodup : (names w0.files).Nodup := (names_sublist w0.files).nodup (by decide)
  induction files generalizing done with
  | nil =>
    rw [append_nil] at hnames
    exact ⟨hnames.symm, by rw [hnames]⟩
  | cons file files ih =>
    have hparts := nodup_append.1 (hnames ▸ hnodup)
    have hdone : done <+: names w0.files := ⟨file :: files, hnames.symm⟩
    have hnext : done ++ [file] <+: names w0.files := ⟨files, by rw [hnames]; simp⟩
    have hfile : (w0.files file).isSome :=
      mem_names.1 (hnames ▸ mem_append_right done (mem_cons_self ..))
    have hnot : file ∉ done.toFinset := fun h =>
      hparts.2.2 file (mem_toFinset.1 h) file (mem_cons_self ..) rfl
    have hinsert : insert file done.toFinset = (done ++ [file]).toFinset := by
      ext other
      simp only [Finset.mem_insert, mem_toFinset, mem_append, mem_singleton]
      tauto
    have hstage : Stage w0 (prepared w0 name done.toFinset) :=
      .prepared hname (movable_of_moved hdone)
    refine safe_call hstage (fun x => performOk_moveIn x hname.unused hfile hnot) ?_ ?_
      fun error => ?_
    · rw [hinsert]
      exact .prepared hname (movable_of_moved hnext)
    · rw [hinsert]
      exact ih (done ++ [file]) (by rw [hnames, append_assoc]; rfl)
    · -- The files that were moved so far go back, and the archive ends with the error.
      exact Safe.bind ((safe_restoreLegacyArchiveQuarantine hname hdone).mono
        fun _ _ _ => trivial)

end Quarantined

theorem safe_archiveLegacyStateWithGuard :
    Safe w0 (archiveLegacyStateWithGuard w0.files)
      (fun transaction w => ∃ name, Fresh w0 name ∧ transaction = fullTransaction w0 name ∧
        w = prepared w0 name (names w0.files).toFinset)
      w0 := by
  refine Safe.bind (safe_of_looks (looks_step trivial) .untouched fun _ _ => ?_)
  refine Safe.bind (safe_of_looks (looks_step trivial) .untouched fun _ _ => ?_)
  refine Safe.bind ((safe_createPrivateQuarantine 128).mono ?_)
  rintro name _ ⟨hname, rfl⟩
  refine Safe.bind ((safe_writeArchivePreparedMarker hname).mono ?_)
  rintro _ _ rfl
  refine safe_sync (.prepared hname (movable_empty w0)) (Safe.bind ?_)
  refine (safe_moveFiles hname [] _ rfl).mono ?_
  rintro _ _ ⟨rfl, rfl⟩
  have hstage := Stage.prepared hname (movable_names w0)
  refine safe_sync hstage (Safe.bind ?_)
  refine safe_of_looks (looks_forM _ fun _ => looks_sync _) hstage fun _ _ => ?_
  refine safe_sync hstage (safe_sync hstage (Safe.bind ?_))
  refine (safe_checkOrRestore hname .durable).mono ?_
  rintro _ _ rfl
  exact safe_sync hstage ⟨name, hname, rfl, rfl⟩

theorem safe_archiveAndCommit (checks : List Check) :
    Safe w0 (archiveAndCommit checks w0.files) (fun _ => Stage w0) w0 := by
  refine Safe.bind (safe_archiveLegacyStateWithGuard.mono ?_)
  rintro _ _ ⟨name, hname, rfl, rfl⟩
  refine Safe.bind ?_
  induction checks with
  | nil => exact safe_commit hname
  | cons check checks ih =>
    refine Safe.bind ((safe_checkOrRestore hname check).mono ?_)
    rintro _ _ rfl
    exact ih

theorem respects_alone (halone : ∀ tick ∈ ticks, tick.interfere = id) (p : Arc α)
    (w : RuntimeDirectory) : p.Respects perform alone ticks w :=
  Prog.respects_of_quiet (fun _ => rfl) (fun _ _ _ => trivial) halone p w

/-- Wherever a run of a safe program ends or is cut, it leaves one of the stages. -/
theorem Safe.stage (h : Safe w0 p Q w) (hw : Stage w0 w)
    (halone : ∀ tick ∈ ticks, tick.interfere = id) : Stage w0 (p.run perform ticks w).2 :=
  Prog.run_invariant p ticks h (respects_alone halone p w) (fun _ _ hrely hi => hrely ▸ hi)
    (fun _ _ hg _ => hg) hw

/-- Wherever a run of the archive ends or is cut, it leaves one of the stages. -/
theorem stage_archiveAndCommit (checks : List Check)
    (ticks : List (Prog.Tick RuntimeDirectory ArchiveChoice))
    (halone : ∀ tick ∈ ticks, tick.interfere = id) :
    Stage w0 ((archiveAndCommit checks w0.files).run perform ticks w0).2 :=
  (safe_archiveAndCommit checks).stage .untouched halone

end Runs

end Gascan.Archive
