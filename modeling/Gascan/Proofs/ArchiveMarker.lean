import Mathlib.Tactic.IntervalCases
import Gascan.Daemon.Archive

/-!
# `Gascan.Proofs.ArchiveMarker`: reading the marker of an archive back

The marker is written in pieces, and a crash can leave any number of them. `markerText` is the
complete marker, and `readArchiveMarker_markerText` reads it back as the identities it was written
for. `readArchiveMarker_take` is about every shorter one: either it is refused, or it ends with a
complete line and is read as a map that misses one of the sidecars.
-/

namespace Gascan.Archive

open Lib Lib.Text Option
open List hiding splitOn splitOn_eq_singleton

/-! ### Lines -/

/-- The text of one line without its end. -/
def lineText (name : FamilyName) (identity : DatabaseIdentity) : List Char :=
  name.asStr.toList ++ '\t' :: (Nat.toDigits 10 identity.device.toNat ++
    '\t' :: Nat.toDigits 10 identity.inode.toNat)

variable (name : FamilyName) (identities : Identities) (identity : DatabaseIdentity)
  (files : List FamilyName)

theorem flatten_markerLine :
    (markerLine name identity).flatten = lineText name identity ++ ['\n'] := by
  simp [markerLine, lineText]

theorem ofName_asStr : FamilyName.ofName name.asStr.toList = some name := by
  cases name <;> decide

theorem not_mem_asStr :
    '\t' ∉ name.asStr.toList ∧ '\n' ∉ name.asStr.toList ∧ '\r' ∉ name.asStr.toList := by
  cases name <;> decide

theorem readMarkerLine_lineText :
    readMarkerLine (lineText name identity) = some (name, identity) := by
  have hsplit : splitOn '\t' (lineText name identity) =
      [name.asStr.toList, Nat.toDigits 10 identity.device.toNat,
        Nat.toDigits 10 identity.inode.toNat] := by
    rw [lineText, splitOn_append (not_mem_asStr name).1, splitOn_append (not_mem_toDigits rfl),
      splitOn_eq_singleton (not_mem_toDigits rfl)]
  unfold readMarkerLine
  rw [hsplit]
  simp [ofName_asStr, parseUnsigned_toDigits (UInt64.toNat_lt _)]

theorem not_mem_lineText : '\n' ∉ lineText name identity ∧ '\r' ∉ lineText name identity := by
  obtain ⟨-, hn, hr⟩ := not_mem_asStr name
  constructor
  · simp [lineText, hn, not_mem_toDigits (c := '\n') rfl]
  · simp [lineText, hr, not_mem_toDigits (c := '\r') rfl]

/-- The lines of the marker for a list of files. -/
def fileLines (identities : Identities) (files : List FamilyName) : List (List Char) :=
  files.filterMap fun name => (identities name).map (lineText name)

theorem lines_markerLines :
    lines (markerLines identities files).flatten = fileLines identities files := by
  induction files with
  | nil => rfl
  | cons name files ih =>
    rw [markerLines, flatMap_cons, fileLines, filterMap_cons]
    cases identities name with
    | none => exact ih
    | some identity =>
      obtain ⟨hn, hr⟩ := not_mem_lineText name identity
      simp only [elim_some, map_some, flatten_append, flatten_markerLine,
        append_assoc, cons_append, nil_append]
      rw [lines_append hn hr]
      exact congrArg (lineText name identity :: ·) ih

/-- The identities of some of the files. -/
def restrict (identities : Identities) (files : List FamilyName) : Identities :=
  fun name => if name ∈ files then identities name else none

/-- Reading the lines of a list of files yields the identities of these files. -/
theorem readMarkerLines_fileLines (found : Identities) (files : List FamilyName)
    (hfiles : files.Nodup) (hfound : ∀ name ∈ files, found name = none) :
    readMarkerLines found (fileLines identities files) =
      .ok fun name => (restrict identities files name).or (found name) := by
  induction files generalizing found with
  | nil =>
    show Except.ok found = _
    congr 1
  | cons name files ih =>
    obtain ⟨hname, hfiles⟩ := List.nodup_cons.1 hfiles
    have hrest : ∀ other ∈ files, found other = none := fun other h =>
      hfound other (mem_cons_of_mem name h)
    rw [fileLines, filterMap_cons]
    cases hid : identities name with
    | none =>
      refine (ih found hfiles hrest).trans (congrArg Except.ok (funext fun other => ?_))
      by_cases h : other = name
      · subst h
        simp [restrict, hname, hid]
      · simp [restrict, h]
    | some identity =>
      have hassign : ∀ other ∈ files, assign found name (some identity) other = none := by
        intro other h
        have hne : other ≠ name := fun hsame => hname (hsame ▸ h)
        rw [assign, if_neg hne]
        exact hrest other h
      simp only [map_some, readMarkerLines, readMarkerLine_lineText,
        hfound name mem_cons_self, isSome_none, Bool.false_eq_true, if_false]
      refine (ih _ hfiles hassign).trans (congrArg Except.ok (funext fun other => ?_))
      by_cases h : other = name
      · subst h
        simp [restrict, hname, hid, assign]
      · simp [restrict, assign, h]

/-! ### Complete markers -/

/-- A marker with the lines of the given files. -/
def markerFor (identities : Identities) (files : List FamilyName) : List Char :=
  archiveMarkerHeader.toList ++ '\n' :: (markerLines identities files).flatten

/-- The complete marker. -/
def markerText (identities : Identities) : List Char := markerFor identities (names identities)

theorem flatten_markerPieces : (markerPieces identities).flatten = markerText identities := by
  simp [markerPieces, markerText, markerFor]

theorem length_lineText_le : (lineText name identity).length ≤ 63 := by
  have hname : name.asStr.toList.length ≤ 21 := by cases name <;> decide
  have hdevice := length_toDigits_le (UInt64.toNat_lt identity.device)
  have hinode := length_toDigits_le (UInt64.toNat_lt identity.inode)
  simp only [lineText, length_append, length_cons]
  omega

theorem length_markerLines_le :
    (markerLines identities files).flatten.length ≤ 64 * files.length := by
  induction files with
  | nil => exact Nat.le_refl 0
  | cons name files ih =>
    have hline : (((identities name).elim [] (markerLine name)).flatten).length ≤ 64 := by
      cases identities name with
      | none => exact Nat.zero_le 64
      | some identity =>
        have hlength := length_lineText_le name identity
        simp only [elim_some, flatten_markerLine, length_append, length_cons,
          length_nil]
        omega
    have hsplit : (markerLines identities (name :: files)).flatten.length =
        (((identities name).elim [] (markerLine name)).flatten).length +
          (markerLines identities files).flatten.length := by
      rw [markerLines, flatMap_cons, flatten_append, length_append]
      rfl
    rw [hsplit, length_cons]
    omega

theorem byteLength_le (text : List Char) : byteLength text ≤ 4 * text.length := by
  induction text with
  | nil => exact Nat.le_refl 0
  | cons c text ih =>
    have hchar := Char.utf8Size_le_four c
    simp only [byteLength, map_cons, sum_cons, length_cons] at ih ⊢
    omega

theorem byteLength_markerFor_le {files : List FamilyName} (hfiles : files.Sublist FamilyName.all) :
    byteLength (markerFor identities files) ≤ 4096 := by
  have hfour : files.length ≤ 4 := hfiles.length_le
  have hlines := length_markerLines_le identities files
  have hheader : archiveMarkerHeader.toList.length = 24 := by decide
  have hbytes := byteLength_le (markerFor identities files)
  have hlength : (markerFor identities files).length =
      25 + (markerLines identities files).flatten.length := by
    rw [markerFor, length_append, hheader, length_cons]
    omega
  omega

theorem getLast?_markerFor : (markerFor identities files).getLast? = some '\n' := by
  have hlines : (markerLines identities files).flatten = [] ∨
      (markerLines identities files).flatten.getLast? = some '\n' := by
    induction files with
    | nil => exact .inl rfl
    | cons name files ih =>
      rw [markerLines, flatMap_cons, flatten_append]
      cases identities name with
      | none => exact ih
      | some identity =>
        right
        rw [elim_some, flatten_markerLine, List.getLast?_append]
        rcases ih with h | h
        · rw [markerLines] at h
          simp [h]
        · rw [markerLines] at h
          simp [h]
  rw [markerFor, List.getLast?_append, List.getLast?_cons]
  rcases hlines with h | h <;> simp [h]

theorem lines_markerFor :
    lines (markerFor identities files) =
      archiveMarkerHeader.toList :: fileLines identities files := by
  rw [markerFor, lines_append (by decide) (by decide), lines_markerLines]

theorem readArchiveMarker_markerFor {files : List FamilyName}
    (hfiles : files.Sublist FamilyName.all) :
    readArchiveMarker (markerFor identities files) =
      if (restrict identities files .database).isSome then .ok (restrict identities files)
      else .error (.unsafePath "legacy archive transaction marker omits the database") := by
  have hsmall : ¬ byteLength (markerFor identities files) > 4096 :=
    Nat.not_lt.2 (byteLength_markerFor_le identities hfiles)
  have hnodup : files.Nodup := hfiles.nodup (by decide)
  unfold readArchiveMarker
  rw [if_neg hsmall, getLast?_markerFor, if_neg (fun h => h rfl), lines_markerFor]
  simp only [ne_eq, not_true_eq_false, if_false]
  rw [readMarkerLines_fileLines identities _ files hnodup fun _ _ => rfl]
  simp only [or_none]

theorem mem_all : name ∈ FamilyName.all := by
  cases name <;> decide

theorem mem_names {identities : Identities} {name : FamilyName} :
    name ∈ names identities ↔ (identities name).isSome := by
  simp [names, mem_all]

theorem names_sublist : (names identities).Sublist FamilyName.all :=
  filter_sublist

theorem restrict_names : restrict identities (names identities) = identities := by
  funext name
  cases h : identities name <;> simp [restrict, mem_names, h]

theorem readArchiveMarker_markerText {identities : Identities}
    (hdatabase : (identities .database).isSome) :
    readArchiveMarker (markerText identities) = .ok identities := by
  rw [markerText, readArchiveMarker_markerFor identities (names_sublist identities),
    restrict_names, if_pos hdatabase]

/-! ### Markers that break off -/

/-- Where the writing of the lines can stop: some lines are complete, and the next one is short of
at least one piece. -/
theorem take_markerLines (k : Nat) (hk : k < (markerLines identities files).length) :
    ∃ done name rest identity r, files = done ++ name :: rest ∧ identities name = some identity ∧
      r < 6 ∧ (markerLines identities files).take k =
        markerLines identities done ++ (markerLine name identity).take r := by
  induction files generalizing k with
  | nil => exact absurd hk (Nat.not_lt_zero k)
  | cons name files ih =>
    have hcons : markerLines identities (name :: files) =
        (identities name).elim [] (markerLine name) ++ markerLines identities files := by
      rw [markerLines, flatMap_cons]
      rfl
    rw [hcons] at hk ⊢
    cases hid : identities name with
    | none =>
      rw [hid, elim_none, nil_append] at hk
      obtain ⟨done, next, rest, identity, r, rfl, hnext, hr, htake⟩ := ih k hk
      refine ⟨name :: done, next, rest, identity, r, rfl, hnext, hr, ?_⟩
      rw [elim_none, nil_append, htake, markerLines, markerLines,
        flatMap_cons, hid, elim_none, nil_append]
    | some identity =>
      have hlength : (markerLine name identity).length = 6 := rfl
      rw [hid, elim_some, length_append, hlength] at hk
      rw [elim_some]
      by_cases hline : k < 6
      · refine ⟨[], name, files, identity, k, rfl, hid, hline, ?_⟩
        rw [take_append_of_le_length (by omega)]
        rfl
      · obtain ⟨done, next, rest, identity', r, rfl, hnext, hr, htake⟩ := ih (k - 6) (by omega)
        refine ⟨name :: done, next, rest, identity', r, rfl, hnext, hr, ?_⟩
        rw [take_append, hlength, take_of_length_le (by omega), htake, markerLines,
          markerLines, flatMap_cons, hid, elim_some, append_assoc]

theorem getLast?_toDigits_ne (n : Nat) (text : List Char) :
    (text ++ Nat.toDigits 10 n).getLast? ≠ some '\n' := by
  rw [List.getLast?_append, List.getLast?_eq_some_getLast Nat.toDigits_ne_nil, some_or]
  intro h
  have hmem := getLast_mem (Nat.toDigits_ne_nil (b := 10) (n := n))
  rw [Option.some.inj h] at hmem
  exact not_mem_toDigits rfl hmem

/-- A text that breaks off inside a line does not end with a line end. -/
theorem getLast?_take_markerLine {r : Nat} (hpos : 0 < r) (hr : r < 6) (text : List Char) :
    (text ++ ((markerLine name identity).take r).flatten).getLast? ≠ some '\n' := by
  have hname : ∀ text : List Char, (text ++ name.asStr.toList).getLast? ≠ some '\n' := by
    intro text
    rw [List.getLast?_append]
    cases name <;> simp [FamilyName.asStr]
  interval_cases r
  · simpa [markerLine] using hname text
  · simp [markerLine]
  · have h := getLast?_toDigits_ne identity.device.toNat (text ++ name.asStr.toList ++ ['\t'])
    simpa [markerLine] using h
  · simp [markerLine, List.getLast?_cons]
  · have h := getLast?_toDigits_ne identity.inode.toNat (text ++ name.asStr.toList ++ ['\t'] ++
      Nat.toDigits 10 identity.device.toNat ++ ['\t'])
    simpa [markerLine] using h

/-- A marker that is short of at least one piece is refused, or read as a map that misses a
sidecar. -/
theorem readArchiveMarker_take {k : Nat} (hk : k < (markerPieces identities).length) :
    (∃ error, readArchiveMarker ((markerPieces identities).take k).flatten = .error error) ∨
      ∃ found name, readArchiveMarker ((markerPieces identities).take k).flatten = .ok found ∧
        name ∈ FamilyName.sidecars ∧ found name = none ∧ (identities name).isSome := by
  have htruncated : ∀ text : List Char, text.getLast? ≠ some '\n' →
      ∃ error, readArchiveMarker text = .error error := by
    intro text htext
    unfold readArchiveMarker
    by_cases hlarge : byteLength text > 4096
    · exact ⟨_, if_pos hlarge⟩
    · rw [if_neg hlarge, if_pos htext]
      exact ⟨_, rfl⟩
  by_cases hheader : k < 2
  · -- Nothing was written, or the header without its line end.
    refine .inl (htruncated _ ?_)
    interval_cases k
    · simp
    · simp only [markerPieces, cons_append, take_succ_cons, take_zero,
        flatten_cons, flatten_nil, append_nil]
      decide
  · obtain ⟨j, rfl⟩ : ∃ j, k = j + 2 := ⟨k - 2, by omega⟩
    have hj : j < (markerLines identities (names identities)).length := by
      rw [markerPieces, length_append] at hk
      simp only [length_cons, length_nil] at hk
      omega
    obtain ⟨done, name, rest, identity, r, hfiles, hname, hr, htake⟩ :=
      take_markerLines identities (names identities) j hj
    have htext : ((markerPieces identities).take (j + 2)).flatten =
        markerFor identities done ++ ((markerLine name identity).take r).flatten := by
      rw [markerPieces, cons_append, cons_append, nil_append, take_succ_cons,
        take_succ_cons, htake]
      simp [markerFor]
    rw [htext]
    by_cases hzero : r = 0
    · -- The lines of `done` are complete, and the line of `name` is missing.
      subst hzero
      have hsub : (done ++ name :: rest).Sublist FamilyName.all := hfiles ▸ names_sublist identities
      have hnodup : (done ++ name :: rest).Nodup := hsub.nodup (by decide)
      have hnot : name ∉ done := fun hmem =>
        (List.nodup_append.1 hnodup).2.2 name hmem name mem_cons_self rfl
      rw [take_zero, flatten_nil, append_nil,
        readArchiveMarker_markerFor identities ((sublist_append_left ..).trans hsub)]
      by_cases hdatabase : (restrict identities done .database).isSome
      · right
        rw [if_pos hdatabase]
        refine ⟨_, name, rfl, ?_, if_neg hnot, by rw [hname]; rfl⟩
        have hdone : FamilyName.database ∈ done := by
          by_contra hmissing
          rw [restrict, if_neg hmissing] at hdatabase
          exact Bool.noConfusion hdatabase
        have hne : name ≠ .database := fun h => hnot (h ▸ hdone)
        cases name with
        | database => exact absurd rfl hne
        | journal | shm | wal => decide
      · rw [if_neg hdatabase]
        exact .inl ⟨_, rfl⟩
    · exact .inl (htruncated _
        (getLast?_take_markerLine name identity (Nat.pos_of_ne_zero hzero) hr _))

end Gascan.Archive
