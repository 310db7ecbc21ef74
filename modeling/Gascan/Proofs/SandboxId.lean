import Gascan.Backend.Listing

/-!
# `Gascan.Proofs.SandboxId`: which texts are read as a sandbox identity

`IsIdentityText` is the grammar of identities: runs of lowercase letters and digits joined by single
hyphens, a hyphen, and twelve lowercase hexadecimal digits. The check accepts exactly its texts
(`checkSandboxId_ok_iff`), and an identity that is made from a name and a root is one of them.

The check first cuts its text at a number of bytes from the end. The cut fails inside of a
character, and `readSandboxId_exact_iff` says that only then is a text neither accepted nor refused.
-/

namespace Gascan

open Lib Lib.Text List

/-! ### The grammar -/

/-- A run of lowercase letters and digits. -/
structure IsRun (run : List Char) : Prop where
  nonempty : run ≠ []
  plain : ∀ c ∈ run, isLower c = true ∨ isDigit c = true

/-- One or more runs joined by single hyphens, a hyphen, and twelve lowercase hexadecimal digits. -/
def IsIdentityText (text : List Char) : Prop :=
  ∃ (runs : List (List Char)) (digest : List Char), runs ≠ [] ∧ (∀ run ∈ runs, IsRun run) ∧
    digest.length = 12 ∧ (∀ c ∈ digest, isLowerHex c = true) ∧
    text = List.intercalate ['-'] runs ++ '-' :: digest

/-! ### Slugs are joined runs -/

variable {run left right slug : List Char}

theorem IsRun.not_mem (h : IsRun run) : '-' ∉ run :=
  fun hmem => ne_hyphen (h.plain '-' hmem) rfl

theorem containsPair_of_not_mem {a b : Char} {text : List Char} (h : a ∉ text) :
    containsPair a b text = false := by
  induction text with
  | nil => rfl
  | cons c rest ih =>
    rw [mem_cons, not_or] at h
    cases rest with
    | nil => rfl
    | cons d rest => simp [containsPair, Ne.symm h.1, ih h.2]

theorem IsRun.isSlug {run : List Char} (h : IsRun run) : IsSlug run where
  plain c hc := (h.plain c hc).imp_right Or.inl
  head hhead := h.not_mem (mem_of_head? hhead)
  last hlast := h.not_mem (mem_of_getLast? hlast)
  single := containsPair_of_not_mem h.not_mem

/-- A pair is in a text that is put together only if it is in one of the parts or across them. -/
theorem containsPair_append_cons {a b c : Char} :
    containsPair a b (left ++ c :: right) =
      (containsPair a b (left ++ [c]) || containsPair a b (c :: right)) := by
  induction left with
  | nil => simp [containsPair]
  | cons d left ih =>
    cases left with
    | nil => simp [containsPair]
    | cons e left =>
      simp only [cons_append, containsPair] at ih ⊢
      rw [ih, Bool.or_assoc]

theorem IsRun.isSlug_append (h : IsRun run) (hslug : IsSlug slug) (hne : slug ≠ []) :
    IsSlug (run ++ '-' :: slug) := by
  obtain ⟨first, rest, rfl⟩ := exists_cons_of_ne_nil hne
  have hfirst : first ≠ '-' := fun heq => hslug.head (by rw [heq]; rfl)
  constructor
  case plain =>
    intro c hc
    rw [mem_append, mem_cons] at hc
    rcases hc with hc | rfl | hc
    · exact (h.plain c hc).imp_right Or.inl
    · exact .inr (.inr rfl)
    · exact hslug.plain c hc
  case head =>
    obtain ⟨c, cs, rfl⟩ := exists_cons_of_ne_nil h.nonempty
    exact h.isSlug.head
  case last =>
    rw [getLast?_append_of_ne_nil _ (cons_ne_nil _ _), getLast?_cons_cons]
    exact hslug.last
  case single =>
    have hleft : containsPair '-' '-' (run ++ ['-']) = false :=
      containsPair_concat h.isSlug.single (.inl h.isSlug.last)
    rw [containsPair_append_cons, hleft, containsPair, hslug.single]
    simp [hfirst]

theorem IsSlug.of_append (h : IsSlug (left ++ '-' :: right)) : right ≠ [] ∧ IsSlug right := by
  have hne : right ≠ [] := by
    rintro rfl
    exact h.last (by simp)
  obtain ⟨first, rest, rfl⟩ := exists_cons_of_ne_nil hne
  have hpairs := h.single
  rw [containsPair_append_cons, Bool.or_eq_false_iff, containsPair, Bool.or_eq_false_iff] at hpairs
  constructor
  · exact hne
  constructor
  case plain => exact fun c hc => h.plain c (mem_append_right _ (mem_cons_of_mem _ hc))
  case head => simpa using hpairs.2.1
  case last =>
    have hlast := h.last
    rwa [getLast?_append_of_ne_nil _ (cons_ne_nil _ _), getLast?_cons_cons] at hlast
  case single => exact hpairs.2.2

theorem IsSlug.isRun {slug : List Char} (h : IsSlug slug) (hne : slug ≠ []) (hmem : '-' ∉ slug) :
    IsRun slug where
  nonempty := hne
  plain c hc := by
    rcases h.plain c hc with hlower | hdigit | rfl
    · exact .inl hlower
    · exact .inr hdigit
    · exact absurd hc hmem

theorem isSlug_intercalate {runs : List (List Char)} (hne : runs ≠ [])
    (h : ∀ run ∈ runs, IsRun run) :
    List.intercalate ['-'] runs ≠ [] ∧ IsSlug (List.intercalate ['-'] runs) := by
  induction runs with
  | nil => exact absurd rfl hne
  | cons run runs ih =>
    have hrun := h run mem_cons_self
    cases runs with
    | nil =>
      rw [intercalate_singleton]
      exact ⟨hrun.nonempty, hrun.isSlug⟩
    | cons next runs =>
      obtain ⟨hrest, hslug⟩ := ih (cons_ne_nil _ _)
        fun other hother => h other (mem_cons_of_mem _ hother)
      rw [intercalate_cons_cons, append_assoc, singleton_append]
      exact ⟨by simp, hrun.isSlug_append hslug hrest⟩

theorem validSlug_iff_runs :
    validSlug slug = true ↔
    ∃ runs : List (List Char), runs ≠ [] ∧ (∀ run ∈ runs, IsRun run) ∧
      slug = List.intercalate ['-'] runs := by
  rw [validSlug_iff]
  constructor
  · -- The induction is on the length: a slug is cut at its first hyphen, and the rest is shorter.
    induction hlength : slug.length using Nat.strong_induction_on generalizing slug with
    | _ n ih =>
      rintro ⟨hne, h⟩
      by_cases hmem : '-' ∈ slug
      · obtain ⟨run, rest, rfl, hrun⟩ := eq_append_cons_of_mem hmem
        obtain ⟨hrest, hslug⟩ := h.of_append
        have hshort : rest.length < n := by
          rw [← hlength, length_append, length_cons]
          omega
        obtain ⟨runs, hruns, hall, rfl⟩ := ih _ hshort rfl ⟨hrest, hslug⟩
        have hfirst : IsRun run := by
          constructor
          · rintro rfl
            exact h.head rfl
          · intro c hc
            rcases h.plain c (mem_append_left _ hc) with hlower | hdigit | rfl
            · exact .inl hlower
            · exact .inr hdigit
            · exact absurd hc hrun
        refine ⟨run :: runs, cons_ne_nil _ _, forall_mem_cons.2 ⟨hfirst, hall⟩, ?_⟩
        obtain ⟨next, others, rfl⟩ := exists_cons_of_ne_nil hruns
        rw [intercalate_cons_cons, append_assoc, singleton_append]
      · exact ⟨[slug], cons_ne_nil _ _, by simpa using h.isRun hne hmem,
          (intercalate_singleton ..).symm⟩
  · rintro ⟨runs, hne, h, rfl⟩
    exact isSlug_intercalate hne h

namespace Backend

/-! ### The check -/

theorem checkSandboxId_append {slug digest : List Char} (hslug : validSlug slug = true)
    (hlength : digest.length = digestLength) (hhex : digest.all isLowerHex = true) :
    checkSandboxId (slug ++ '-' :: digest) = .ok () := by
  have hbytes : byteLength digest = digestLength := (length_of_isLowerHex hhex).symm.trans hlength
  have hlong : ¬byteLength (slug ++ '-' :: digest) < digestLength + 1 := by
    rw [← singleton_append, byteLength_append, byteLength_append, hbytes,
      show byteLength ['-'] = 1 from rfl]
    omega
  have hsplit : splitBytesAtEnd digestLength (slug ++ '-' :: digest) =
      some (slug ++ ['-'], digest) := by
    have happend := splitBytesAtEnd_append (slug ++ ['-']) digest
    rwa [hbytes, append_assoc, singleton_append] at happend
  unfold checkSandboxId
  rw [if_neg hlong, hsplit]
  simp [hslug, hhex]

variable {text : List Char} {value : String}

theorem checkSandboxId_ok_iff : checkSandboxId text = .ok () ↔ IsIdentityText text := by
  constructor
  · intro h
    obtain ⟨slug, digest, rfl, hslug, hlength, hhex⟩ := append_of_checkSandboxId h
    obtain ⟨runs, hne, hruns, rfl⟩ := validSlug_iff_runs.1 hslug
    exact ⟨runs, digest, hne, hruns, hlength, all_eq_true.1 hhex, rfl⟩
  · rintro ⟨runs, digest, hne, hruns, hlength, hhex, rfl⟩
    exact checkSandboxId_append (validSlug_iff_runs.2 ⟨runs, hne, hruns, rfl⟩) hlength
      (all_eq_true.2 hhex)

/-- The text is too short to be cut, or a character begins twelve bytes before its end. -/
def Sliceable (text : List Char) : Prop :=
  byteLength text < 13 ∨ ∃ left right, text = left ++ right ∧ byteLength right = 12

theorem checkSandboxId_ne_panicked_iff :
    checkSandboxId text ≠ .error .panicked ↔ Sliceable text := by
  unfold checkSandboxId
  split
  next hshort => exact ⟨fun _ => .inl hshort, fun _ => nofun⟩
  next hlong =>
  split
  next hnone =>
    refine ⟨fun h => absurd rfl h, ?_⟩
    rintro (hshort | ⟨left, right, rfl, hbytes⟩)
    · exact absurd hshort hlong
    · rw [show digestLength = byteLength right from hbytes.symm, splitBytesAtEnd_append] at hnone
      cases hnone
  next head digest hsplit =>
    obtain ⟨happend, hbytes⟩ := splitBytesAtEnd_eq_some hsplit
    refine ⟨fun _ => .inr ⟨head, digest, happend.symm, hbytes⟩, fun _ => ?_⟩
    split
    · nofun
    split
    · nofun
    split
    · nofun
    · nofun

theorem readSandboxId_eq_error_iff {failure : SandboxIdFailure} :
    readSandboxId value = .error failure ↔ checkSandboxId value.toList = .error failure := by
  unfold readSandboxId
  split
  next other h => rw [h, Except.error.injEq, Except.error.injEq]
  next h =>
    refine ⟨nofun, fun herror => ?_⟩
    rw [h] at herror
    cases herror

theorem readSandboxId_eq_ok_iff {id : SandboxId} :
    readSandboxId value = .ok id ↔ checkSandboxId value.toList = .ok () ∧ id.value = value := by
  unfold readSandboxId
  split
  next failure h =>
    refine ⟨nofun, fun hok => ?_⟩
    rw [h] at hok
    cases hok.1
  next h =>
    constructor
    · rintro ⟨⟩
      exact ⟨h, rfl⟩
    · rintro ⟨-, rfl⟩
      rfl

/-- Reading is exact and total on the texts that can be cut, and on no other. What is made from a
name and a root is always read back. -/
theorem readSandboxId_exact_iff (value : String) (name : List Char) (root : Path) :
    ((readSandboxId value ≠ .error .panicked ∧
      ((∃ id, readSandboxId value = .ok id ∧ id.value = value) ↔ IsIdentityText value.toList)) ↔
        Sliceable value.toList) ∧
      readSandboxId (SandboxId.fromRoot name root).value = .ok (SandboxId.fromRoot name root) := by
  constructor
  · have hexact : (∃ id, readSandboxId value = .ok id ∧ id.value = value) ↔
        IsIdentityText value.toList := by
      rw [← checkSandboxId_ok_iff]
      constructor
      · rintro ⟨id, hread, -⟩
        exact (readSandboxId_eq_ok_iff.1 hread).1
      · intro hcheck
        exact ⟨⟨value, validateSandboxId_of_checkSandboxId hcheck⟩,
          readSandboxId_eq_ok_iff.2 ⟨hcheck, rfl⟩, rfl⟩
    rw [and_iff_left hexact, ne_eq, readSandboxId_eq_error_iff]
    exact checkSandboxId_ne_panicked_iff
  · rw [readSandboxId_eq_ok_iff]
    refine ⟨?_, rfl⟩
    rw [SandboxId.fromRoot, String.toList_ofList]
    exact checkSandboxId_append (validSlug_slugify name) (length_rootDigest root)
      (isLowerHex_rootDigest root)

/-- Thirteen bytes whose second one is inside of a character. -/
theorem readSandboxId_panicked :
    readSandboxId "é0123456789a" = .error .panicked := by
  rw [readSandboxId_eq_error_iff]
  decide

end Backend

end Gascan
