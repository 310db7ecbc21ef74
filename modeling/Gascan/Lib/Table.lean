import Mathlib.Data.List.Nodup
import Mathlib.Data.List.Perm.Subperm

/-!
# `Gascan.Lib.Table`: lists of rows with a key

A table is a list of rows, and `key` is the column that identifies a row. `lookup` finds a row,
`update` changes the row with a given key. The lemmas say what the two operations do to each other,
to membership and to the list of keys, for a change that keeps the key of a row. `perm_iff_of_nodup`
compares two lists of keys.
-/

namespace Gascan.Lib.Table

open List

variable {α κ : Type} [DecidableEq κ] (key : α → κ)

/-- The first row with the given key. -/
def lookup (k : κ) (rows : List α) : Option α := rows.find? (key · = k)

/-- Changes every row with the given key. -/
def update (k : κ) (f : α → α) (rows : List α) : List α :=
  rows.map fun row => if key row = k then f row else row

variable {key} {k : κ} {rows : List α} {row : α} {f : α → α}

theorem mem_of_lookup (h : lookup key k rows = some row) : row ∈ rows :=
  mem_of_find?_eq_some h

theorem key_of_lookup (h : lookup key k rows = some row) : key row = k := by
  have hfound := find?_some h
  exact of_decide_eq_true hfound

theorem lookup_eq_none : lookup key k rows = none ↔ ∀ row ∈ rows, key row ≠ k := by
  simp [lookup]

theorem lookup_isSome : (lookup key k rows).isSome ↔ ∃ row ∈ rows, key row = k := by
  simp [lookup]

/-- With unique keys a lookup finds exactly the row with the key. -/
theorem lookup_eq_some (hkeys : (rows.map key).Nodup) :
    lookup key k rows = some row ↔ row ∈ rows ∧ key row = k := by
  refine ⟨fun h => ⟨mem_of_lookup h, key_of_lookup h⟩, fun ⟨hmem, hkey⟩ => ?_⟩
  obtain ⟨found, hfound⟩ := Option.isSome_iff_exists.1 (lookup_isSome.2 ⟨row, hmem, hkey⟩)
  have hsame : key found = key row := (key_of_lookup hfound).trans hkey.symm
  rw [hfound, inj_on_of_nodup_map hkeys (mem_of_lookup hfound) hmem hsame]

theorem lookup_append_one (new : α) :
    lookup key k (rows ++ [new]) =
      (lookup key k rows).or (if key new = k then some new else none) := by
  unfold lookup
  rw [find?_append]
  by_cases h : key new = k <;> simp [h]

/-- A change that keeps the key is seen by a lookup of that key only. -/
theorem lookup_update (hf : ∀ row, key (f row) = key row) (k' : κ) :
    lookup key k' (update key k f rows) =
      (lookup key k' rows).map fun row => if k' = k then f row else row := by
  unfold lookup update
  rw [find?_map]
  have hpred : ((fun row => decide (key row = k')) ∘
      fun row => if key row = k then f row else row) =
      fun row => decide (key row = k') := by
    funext row
    by_cases h : key row = k <;> simp [h, hf]
  rw [hpred]
  cases hfound : rows.find? fun row => decide (key row = k') with
  | none => rfl
  | some row =>
    have hkey : key row = k' := by simpa using find?_some hfound
    simp only [Option.map_some, hkey]

/-- A column that a change keeps is the same in the changed table. -/
theorem map_update {β : Type} (g : α → β) (hg : ∀ row, g (f row) = g row) :
    (update key k f rows).map g = rows.map g := by
  unfold update
  rw [map_map]
  refine map_congr_left fun row _ => ?_
  by_cases h : key row = k <;> simp [h, hg]

theorem map_key_update (hf : ∀ row, key (f row) = key row) :
    (update key k f rows).map key = rows.map key := map_update key hf

theorem mem_update {new : α} :
    new ∈ update key k f rows ↔
      (new ∈ rows ∧ key new ≠ k) ∨ ∃ row ∈ rows, key row = k ∧ f row = new := by
  unfold update
  rw [mem_map]
  constructor
  · rintro ⟨row, hmem, hrow⟩
    by_cases h : key row = k
    · exact .inr ⟨row, hmem, h, by simpa [h] using hrow⟩
    · rw [if_neg h] at hrow
      exact .inl ⟨hrow ▸ hmem, hrow ▸ h⟩
  · rintro (⟨hmem, hkey⟩ | ⟨row, hmem, hkey, hrow⟩)
    · exact ⟨new, hmem, if_neg hkey⟩
    · exact ⟨row, hmem, by rw [if_pos hkey, hrow]⟩

theorem forall_mem_update {p : α → Prop} (hrows : ∀ row ∈ rows, p row)
    (hf : ∀ row ∈ rows, key row = k → p (f row)) : ∀ row ∈ update key k f rows, p row := by
  intro new hnew
  rcases mem_update.1 hnew with ⟨hmem, _⟩ | ⟨row, hmem, hkey, rfl⟩
  · exact hrows new hmem
  · exact hf row hmem hkey

/-! ### Lists of keys -/

/-- Two lists of keys of one length are the same up to order, when the keys of the first are all
different and are found in the second. -/
theorem perm_iff_of_nodup {ι : Type*} {expected present : List ι} (h : expected.Nodup) :
    present.Perm expected ↔ present.length = expected.length ∧ ∀ k ∈ expected, k ∈ present := by
  constructor
  · intro hperm
    exact ⟨hperm.length_eq, fun k hk => hperm.mem_iff.2 hk⟩
  · rintro ⟨hlength, hmem⟩
    exact ((subperm_of_subset h hmem).perm_of_length_le (Nat.le_of_eq hlength)).symm

end Gascan.Lib.Table
