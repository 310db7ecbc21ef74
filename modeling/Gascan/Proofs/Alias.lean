import Gascan.Core.Identity
import Gascan.Daemon.SshHosts

/-!
# `Gascan.Proofs.Alias`: which names can be published over SSH

An identity may have any length, but the alias of a sandbox may not. A slug keeps the letters and
digits of the name, with one hyphen between two words, so the length of the alias can be read off
the name. `validateAlias_fromRoot_iff` says that only the length can fail the check of the alias.
-/

namespace Gascan.Ssh

open Lib Lib.Text List

/-! ### The length of a slug -/

/-- The characters of a name that a slug keeps. -/
def isKept (c : Char) : Bool := isAlpha c || isDigit c

/-- The number of words that begin in a text. `inside` says that a word goes on from before. -/
def wordsFrom : (inside : Bool) → List Char → Nat
  | _, [] => 0
  | inside, c :: rest =>
    if isKept c then (if inside then 0 else 1) + wordsFrom true rest else wordsFrom false rest

variable {c : Char} {output : List Char} {pending : Bool}

theorem slugStep_kept (h : isKept c = true) : slugStep (output, pending) c =
    ((if pending && !output.isEmpty then output ++ ['-'] else output) ++ [c.toLower], false) :=
  if_pos h

theorem slugStep_left_out (h : ¬isKept c = true) :
    slugStep (output, pending) c = (output, !output.isEmpty) :=
  if_neg h

theorem length_slug_begun (rest : List Char) (hne : output ≠ []) :
    (rest.foldl slugStep (output, pending)).1.length =
      output.length + rest.countP isKept + wordsFrom (!pending) rest := by
  induction rest generalizing output pending with
  | nil => rfl
  | cons c rest ih =>
    have hempty : output.isEmpty = false := by simpa using hne
    rw [foldl_cons, wordsFrom, countP_cons]
    by_cases hkept : isKept c = true
    · rw [slugStep_kept hkept, if_pos hkept, if_pos hkept, ih (by simp)]
      -- A hyphen is written where a word has ended before.
      cases pending <;> simp [hempty] <;> omega
    · rw [slugStep_left_out hkept, if_neg hkept, if_neg hkept, ih hne, hempty]
      rfl

variable (name : List Char)

/-- A slug is empty, or as long as its characters and the hyphens between its words. -/
theorem length_slug :
    ((name.foldl slugStep ([], false)).1 = [] ∧ name.countP isKept = 0 ∧ wordsFrom false name = 0) ∨
      (name.foldl slugStep ([], false)).1.length + 1 =
        name.countP isKept + wordsFrom false name := by
  induction name with
  | nil => exact .inl ⟨rfl, rfl, rfl⟩
  | cons c rest ih =>
    rw [foldl_cons, wordsFrom, countP_cons]
    by_cases hkept : isKept c = true
    · right
      rw [slugStep_kept hkept, if_pos hkept, if_pos hkept, length_slug_begun rest (by simp)]
      simp only [isEmpty_nil, Bool.not_true, Bool.and_false, Bool.false_eq_true, if_false,
        nil_append, length_singleton, Bool.not_false]
      omega
    · rw [slugStep_left_out hkept, if_neg hkept, if_neg hkept]
      exact ih

theorem length_slugify_le_iff :
    (slugify name).length ≤ 108 ↔ name.countP isKept + wordsFrom false name ≤ 109 := by
  rw [slugify]
  rcases length_slug name with ⟨hempty, hkept, hwords⟩ | hlength
  · rw [hempty, hkept, hwords]
    decide
  · split
    next hempty =>
      -- A name without words is called `sandbox`.
      rw [List.isEmpty_iff.1 hempty] at hlength
      rw [← hlength]
      decide
    next => omega

/-! ### The check of the alias -/

theorem isSlug_append {slug digits : List Char} (h : IsSlug slug)
    (hdigits : ∀ c ∈ digits, isLower c = true ∨ isDigit c = true) : IsSlug (slug ++ digits) := by
  induction digits generalizing slug with
  | nil => rwa [append_nil]
  | cons c digits ih =>
    have hhead := h.concat (hdigits c mem_cons_self)
    rw [append_cons]
    exact ih hhead fun d hd => hdigits d (mem_cons_of_mem c hd)

theorem lower_of_isLowerHex (h : isLowerHex c = true) :
    isLower c = true ∨ isDigit c = true := by
  simp only [isLowerHex, Bool.or_eq_true, Bool.and_eq_true, decide_eq_true_eq] at h
  rcases h with h | ⟨hlow, hhigh⟩
  · exact .inr h
  · left
    simp only [isLower, Bool.and_eq_true, decide_eq_true_eq]
    exact ⟨hlow, Char.le_trans hhigh (by decide)⟩

/-- The text of an identity passes the checks of an alias that do not concern its length. -/
theorem isSlug_fromRoot (root : Path) : IsSlug (SandboxId.fromRoot name root).value.toList := by
  obtain ⟨hne, hslug⟩ := validSlug_iff.1 (validSlug_slugify name)
  have hhex := all_eq_true.1 (isLowerHex_rootDigest root)
  obtain ⟨d, digits, hdigest⟩ := exists_cons_of_length_pos
    (show 0 < (rootDigest root).length by rw [length_rootDigest]; decide)
  rw [hdigest] at hhex
  have hfirst := hslug.hyphen hne (lower_of_isLowerHex (hhex d mem_cons_self))
  have hjoined := isSlug_append hfirst
    fun c hc => lower_of_isLowerHex (hhex c (mem_cons_of_mem d hc))
  rw [SandboxId.fromRoot, String.toList_ofList, hdigest]
  simpa using hjoined

theorem byteLength_of_plain {text : List Char}
    (h : ∀ c ∈ text, isLower c = true ∨ isDigit c = true ∨ c = '-') :
    byteLength text = text.length := by
  induction text with
  | nil => rfl
  | cons c text ih =>
    have hsize : c.utf8Size = 1 := by
      have hlow : c.toNat ≤ 127 := by
        rcases h c mem_cons_self with hc | hc | rfl
        · simp only [isLower, Bool.and_eq_true, decide_eq_true_eq] at hc
          exact Nat.le_trans (show c.toNat ≤ 122 from hc.2) (by decide)
        · simp only [isDigit, Bool.and_eq_true, decide_eq_true_eq] at hc
          exact Nat.le_trans (show c.toNat ≤ 57 from hc.2) (by decide)
        · decide
      exact Char.utf8Size_eq_one_iff.2 hlow
    have hrest := ih fun d hd => h d (mem_cons_of_mem c hd)
    rw [byteLength] at hrest
    rw [byteLength, map_cons, sum_cons, hsize, hrest, length_cons, Nat.add_comm]

/-- An alias made from a name and a root passes its check exactly when the letters and digits of the
name and the words they form are at most 109 together. -/
theorem validateAlias_fromRoot_iff (name : List Char) (root : Path) :
    validateAlias (aliasOf (SandboxId.fromRoot name root)) = .ok () ↔
      name.countP isKept + wordsFrom false name ≤ 109 := by
  have hslug := isSlug_fromRoot name root
  have hlength : (SandboxId.fromRoot name root).value.toList.length =
      (slugify name).length + 13 := by
    rw [SandboxId.fromRoot, String.toList_ofList, length_append, length_cons,
      length_rootDigest]
    rfl
  have hplain := byteLength_of_plain hslug.plain
  have hbytes : byteLength (aliasOf (SandboxId.fromRoot name root)) =
      (slugify name).length + 20 := by
    rw [aliasOf, byteLength_append, hplain, hlength]
    have hstart : byteLength aliasStart = 7 := by decide
    omega
  rw [← length_slugify_le_iff]
  simp only [validateAlias, bind_eq_ok, okOr_eq_ok, ensureThat_eq_ok, dropPrefix?_eq_some]
  constructor
  · rintro ⟨suffix, hsuffix, hne, hshort, hrest⟩
    omega
  · intro hshort
    have hne : (SandboxId.fromRoot name root).value.toList ≠ [] :=
      ne_nil_of_length_pos (by omega)
    have hall : (SandboxId.fromRoot name root).value.toList.all
        (fun c => isLower c || isDigit c || c = '-') = true :=
      all_eq_true.2 fun c hc => by simpa [or_assoc] using hslug.plain c hc
    exact ⟨_, rfl, hne, by omega, hall, hslug.head, hslug.last, by simp [hslug.single]⟩

/-- A name of 109 letters. -/
theorem long_name_unpublished :
    validateAlias (aliasOf (SandboxId.fromRoot (List.replicate 109 'a') "/work")) =
      .error (.invalidState "managed SSH alias is invalid") := by
  decide +kernel

end Gascan.Ssh
