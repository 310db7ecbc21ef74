import Gascan.Lib.Text

/-!
# `Gascan.Core.Sandbox`: sandbox identities

A sandbox is named by a `SandboxId`: a slug of lowercase letters, digits and single hyphens, a
hyphen, and twelve lowercase hexadecimal digits. The type carries the check, so every resource
name derived from an identity is well formed without checking it again.
-/

namespace Gascan

open Lib.Text

/-- The length of the digest that ends a sandbox identity. -/
def digestLength : Nat := 12

/-- The slug of a sandbox identity: lowercase letters, digits and single inner hyphens. -/
def validSlug (slug : List Char) : Bool :=
  !slug.isEmpty && slug.all (fun c => isLower c || isDigit c || c = '-') &&
    slug.head? ≠ some '-' && slug.getLast? ≠ some '-' && !containsPair '-' '-' slug

/-- `validate_sandbox_id`: a slug, a hyphen, and a digest. -/
def validateSandboxId (value : String) : Bool :=
  let text := value.toList
  let slugLength := text.length - (digestLength + 1)
  let digest := text.drop (slugLength + 1)
  digestLength + 1 ≤ text.length && (text.drop slugLength).head? = some '-' &&
    validSlug (text.take slugLength) && digest.length = digestLength && digest.all isLowerHex

/-- A checked sandbox identity. -/
structure SandboxId where
  value : String
  valid : validateSandboxId value = true
  deriving DecidableEq

namespace SandboxId

/-- `TryFrom<String>`. -/
def tryFrom (value : String) : Option SandboxId :=
  if h : validateSandboxId value = true then some ⟨value, h⟩ else none

instance : ToString SandboxId := ⟨value⟩

variable (id : SandboxId)

theorem char_of_mem {c : Char} (hc : c ∈ id.value.toList) :
    isLower c = true ∨ isDigit c = true ∨ c = '-' := by
  have hvalid := id.valid
  simp only [validateSandboxId, validSlug, Bool.and_eq_true, List.all_eq_true, decide_eq_true_eq]
    at hvalid
  obtain ⟨⟨⟨⟨hlength, hsep⟩, ⟨⟨⟨⟨-, hslug⟩, -⟩, -⟩, -⟩⟩, -⟩, hdigest⟩ := hvalid
  rw [← List.take_append_drop (id.value.toList.length - (digestLength + 1)) id.value.toList,
    List.mem_append] at hc
  rcases hc with hc | hc
  · simpa [or_assoc] using hslug c hc
  · -- The rest is the separator followed by the digest.
    rw [List.head?_eq_some_iff] at hsep
    obtain ⟨rest, hrest⟩ := hsep
    rw [hrest, List.mem_cons] at hc
    rcases hc with rfl | hc
    · exact .inr (.inr rfl)
    · have hmem : c ∈ id.value.toList.drop
          (id.value.toList.length - (digestLength + 1) + 1) := by
        rw [← List.drop_drop, hrest]
        simpa using hc
      have hhex := hdigest c hmem
      simp only [isLowerHex, isDigit, isLower, Bool.or_eq_true, Bool.and_eq_true,
        decide_eq_true_eq] at hhex ⊢
      rcases hhex with hhex | ⟨hle, hge⟩
      · exact .inr (.inl hhex)
      · exact .inl ⟨hle, Char.le_trans hge (by decide)⟩

theorem value_ne_empty : id.value.toList ≠ [] := by
  intro hempty
  have hvalid := id.valid
  simp [validateSandboxId, hempty, digestLength] at hvalid

end SandboxId

end Gascan
