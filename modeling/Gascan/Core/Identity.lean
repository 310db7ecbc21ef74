import Gascan.Core.Provision

/-!
# `Gascan.Core.Identity`: the identity that a sandbox gets from its name and root

`SandboxId.fromRoot` makes an identity of a slug and a digest without checking it. What is stored is
checked when it is loaded again. `validSlug_slugify` says that a slug always passes the check, so
the identity is one of the checked type.
-/

namespace Gascan

open Lib Lib.Text List

/-- One character of the fold of `slugify`. The flag says that something was left out since the
last character that was kept. -/
def slugStep : List Char × Bool → Char → List Char × Bool
  | (output, pending), character =>
    if isAlpha character || isDigit character then
      ((if pending && !output.isEmpty then output ++ ['-'] else output) ++ [character.toLower],
        false)
    else (output, !output.isEmpty)

/-- `slugify`. -/
def slugify (name : List Char) : List Char :=
  let slug := (name.foldl slugStep ([], false)).1
  if slug.isEmpty then "sandbox".toList else slug

/-! ### Slugs pass their check -/

variable {c : Char} {slug : List Char}

theorem containsPair_concat {a b : Char} {text : List Char} (h : containsPair a b text = false)
    (hlast : text.getLast? ≠ some a ∨ c ≠ b) : containsPair a b (text ++ [c]) = false := by
  induction text with
  | nil => simp [containsPair]
  | cons x rest ih =>
    cases rest with
    | nil =>
      simp only [getLast?_singleton, ne_eq, Option.some.injEq] at hlast
      simp only [cons_append, nil_append, containsPair, Bool.or_false,
        Bool.and_eq_false_iff, decide_eq_false_iff_not]
      exact hlast
    | cons y rest =>
      simp only [cons_append, containsPair, Bool.or_eq_false_iff] at h ⊢
      exact ⟨h.1, ih h.2 (by simpa [getLast?_cons_cons] using hlast)⟩

/-- The check of a slug without the part that it is not empty. -/
structure IsSlug (slug : List Char) : Prop where
  plain : ∀ c ∈ slug, isLower c = true ∨ isDigit c = true ∨ c = '-'
  head : slug.head? ≠ some '-'
  last : slug.getLast? ≠ some '-'
  single : containsPair '-' '-' slug = false

theorem validSlug_iff : validSlug slug = true ↔ slug ≠ [] ∧ IsSlug slug := by
  simp only [validSlug, Bool.and_eq_true, Bool.not_eq_true', isEmpty_eq_false_iff,
    all_eq_true, Bool.or_eq_true, decide_eq_true_eq, or_assoc]
  constructor
  · rintro ⟨⟨⟨⟨hne, hplain⟩, hhead⟩, hlast⟩, hsingle⟩
    exact ⟨hne, hplain, hhead, hlast, hsingle⟩
  · rintro ⟨hne, hplain, hhead, hlast, hsingle⟩
    exact ⟨⟨⟨⟨hne, hplain⟩, hhead⟩, hlast⟩, hsingle⟩

theorem isSlug_nil : IsSlug [] := ⟨nofun, nofun, nofun, rfl⟩

theorem ne_hyphen (h : isLower c = true ∨ isDigit c = true) : c ≠ '-' := by
  rintro rfl
  revert h
  decide

/-- A letter or a digit may follow a slug. -/
theorem IsSlug.concat (h : IsSlug slug) (hc : isLower c = true ∨ isDigit c = true) :
    IsSlug (slug ++ [c]) := by
  have hne := ne_hyphen hc
  refine ⟨?_, ?_, ?_, containsPair_concat h.single (Or.inr hne)⟩
  · refine forall_mem_append.2 ⟨h.plain, forall_mem_singleton.2 ?_⟩
    exact hc.elim Or.inl fun hdigit => Or.inr (Or.inl hdigit)
  · cases slug with
    | nil => simpa using hne
    | cons first rest => simpa using h.head
  · simpa using hne

/-- So may a hyphen and a letter or a digit, if the slug has begun. -/
theorem IsSlug.hyphen (h : IsSlug slug) (hslug : slug ≠ [])
    (hc : isLower c = true ∨ isDigit c = true) : IsSlug (slug ++ ['-'] ++ [c]) := by
  have hne := ne_hyphen hc
  have hpair := containsPair_concat (c := '-') h.single (Or.inl h.last)
  refine ⟨?_, ?_, ?_, containsPair_concat hpair (Or.inr hne)⟩
  · intro d hd
    simp only [mem_append, mem_singleton] at hd
    rcases hd with (hd | rfl) | rfl
    · exact h.plain d hd
    · exact Or.inr (Or.inr rfl)
    · exact hc.elim Or.inl fun hdigit => Or.inr (Or.inl hdigit)
  · obtain ⟨first, rest, rfl⟩ := exists_cons_of_ne_nil hslug
    simpa using h.head
  · simpa using hne

theorem lower_of_alphanumeric (h : (isAlpha c || isDigit c) = true) :
    isLower c.toLower = true ∨ isDigit c.toLower = true := by
  have hascii : ∀ n < 128, (isAlpha (Char.ofNat n) || isDigit (Char.ofNat n)) = true →
      isLower (Char.ofNat n).toLower = true ∨ isDigit (Char.ofNat n).toLower = true := by decide
  have hlow : c.toNat < 128 := by
    simp only [isAlpha, isLower, isDigit, Bool.or_eq_true, Bool.and_eq_true, decide_eq_true_eq] at h
    rcases h with (⟨-, h⟩ | ⟨-, h⟩) | ⟨-, h⟩ <;>
      exact Nat.lt_of_le_of_lt (show c.toNat ≤ _ from h) (by decide)
  have hc := hascii c.toNat hlow
  rw [Char.ofNat_toNat] at hc
  exact hc h

theorem isSlug_slugStep {state : List Char × Bool} (h : IsSlug state.1) (c : Char) :
    IsSlug (slugStep state c).1 := by
  obtain ⟨output, pending⟩ := state
  rw [slugStep]
  split
  next hkept =>
    have hc := lower_of_alphanumeric hkept
    dsimp only
    split
    next hhyphen =>
      have hne : output ≠ [] := by
        simp only [Bool.and_eq_true, Bool.not_eq_true', isEmpty_eq_false_iff] at hhyphen
        exact hhyphen.2
      exact h.hyphen hne hc
    next => exact h.concat hc
  next => exact h

theorem validSlug_slugify (name : List Char) : validSlug (slugify name) = true := by
  have hfold : ∀ (rest : List Char) (state : List Char × Bool), IsSlug state.1 →
      IsSlug (rest.foldl slugStep state).1 := by
    intro rest
    induction rest with
    | nil => exact fun _ h => h
    | cons c rest ih => exact fun state h => ih _ (isSlug_slugStep h c)
  rw [slugify]
  split
  · decide
  next hne =>
    exact validSlug_iff.2 ⟨by simpa using hne, hfold name _ isSlug_nil⟩

theorem validateSandboxId_append {digest : List Char} (hslug : validSlug slug = true)
    (hlength : digest.length = digestLength) (hhex : digest.all isLowerHex = true) :
    validateSandboxId (String.ofList (slug ++ '-' :: digest)) = true := by
  have htake : (slug ++ '-' :: digest).length - (digestLength + 1) = slug.length := by
    rw [length_append, length_cons, hlength]
    omega
  have hlong : digestLength + 1 ≤ (slug ++ '-' :: digest).length := by
    rw [length_append, length_cons, hlength]
    omega
  have hdrop : (slug ++ '-' :: digest).drop (slug.length + 1) = digest := by
    rw [← drop_drop, drop_left]
    rfl
  simp only [validateSandboxId, String.toList_ofList, htake, hdrop, drop_left,
    take_left, head?_cons, hslug, hlength, hhex, hlong, decide_true, Bool.and_self]

/-- The digest that ends the identity of a root. -/
def rootDigest (canonicalRoot : Path) : List Char :=
  (hexLower ((Sha256.digest (utf8Bytes canonicalRoot)).take 6)).toList

variable (canonicalRoot : Path)

theorem length_rootDigest : (rootDigest canonicalRoot).length = digestLength := by
  rw [rootDigest, length_hexLower, length_take, Sha256.length_digest]
  rfl

theorem isLowerHex_rootDigest : (rootDigest canonicalRoot).all isLowerHex = true :=
  isLowerHex_hexLower fun _ hb => Sha256.lt_of_mem_digest (mem_of_mem_take hb)

/-- `SandboxId::from_root`. -/
def SandboxId.fromRoot (name : List Char) (canonicalRoot : Path) : SandboxId where
  value := String.ofList (slugify name ++ '-' :: rootDigest canonicalRoot)
  valid := validateSandboxId_append (validSlug_slugify name) (length_rootDigest canonicalRoot)
    (isLowerHex_rootDigest canonicalRoot)

end Gascan
