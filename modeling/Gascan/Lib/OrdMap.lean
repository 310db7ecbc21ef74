import Mathlib.Data.String.Basic

/-!
# `Gascan.Lib.OrdMap`: maps kept as strictly sorted lists

An `OrdMap K V` is the list of a map's entries in strictly increasing key order, with the order as
a field. Two maps with the same entries are therefore equal, and iteration has one order, on which a
hash over the entries depends.
-/

namespace Gascan.Lib

open List

/-- A finite map as the list of its entries, sorted strictly by key. -/
structure OrdMap (K V : Type) [LinearOrder K] where
  entries : List (K × V)
  sorted : entries.Pairwise fun a b => a.1 < b.1

namespace OrdMap

variable {K V : Type} [LinearOrder K]

instance [DecidableEq V] : DecidableEq (OrdMap K V) := fun a b =>
  decidable_of_iff (a.entries = b.entries) (by cases a; cases b; simp)

/-- The map with no entry. -/
def empty : OrdMap K V := ⟨[], List.Pairwise.nil⟩

instance : Inhabited (OrdMap K V) := ⟨empty⟩

/-- Whether the map has no entry. -/
def isEmpty (m : OrdMap K V) : Bool := m.entries.isEmpty

/-- The values in key order. -/
def values (m : OrdMap K V) : List V := m.entries.map Prod.snd

/-- The value at a key. -/
def get? (m : OrdMap K V) (k : K) : Option V := m.entries.lookup k

/-- Insertion into a sorted list of entries; an entry with the same key is replaced. -/
def insertEntries (k : K) (v : V) : List (K × V) → List (K × V)
  | [] => [(k, v)]
  | (a, b) :: rest =>
    if k < a then (k, v) :: (a, b) :: rest
    else if a < k then (a, b) :: insertEntries k v rest
    else (k, v) :: rest

variable {l : List (K × V)}

theorem mem_insertEntries {k : K} {v : V} {e : K × V} (h : e ∈ insertEntries k v l) :
    e = (k, v) ∨ e ∈ l := by
  induction l with
  | nil => simpa [insertEntries] using h
  | cons head rest ih =>
    obtain ⟨a, b⟩ := head
    simp only [insertEntries] at h
    split at h
    · simpa using h
    · split at h
      · rcases mem_cons.mp h with rfl | h
        · exact .inr (by simp)
        · exact (ih h).imp_right (mem_cons_of_mem _)
      · rcases mem_cons.mp h with rfl | h
        · exact .inl rfl
        · exact .inr (mem_cons_of_mem _ h)

theorem pairwise_insertEntries {k : K} {v : V} (h : l.Pairwise fun a b => a.1 < b.1) :
    (insertEntries k v l).Pairwise fun a b => a.1 < b.1 := by
  induction l with
  | nil => simp [insertEntries]
  | cons head rest ih =>
    obtain ⟨a, b⟩ := head
    obtain ⟨hhead, hrest⟩ := pairwise_cons.mp h
    simp only [insertEntries]
    split
    next hka =>
      refine pairwise_cons.mpr ⟨fun e he => ?_, h⟩
      rcases mem_cons.mp he with rfl | he
      · exact hka
      · exact lt_trans hka (hhead e he)
    next hka =>
      split
      next hak =>
        refine pairwise_cons.mpr ⟨fun e he => ?_, ih hrest⟩
        rcases mem_insertEntries he with rfl | he
        · exact hak
        · exact hhead e he
      next hak =>
        -- Neither key is smaller, so the entry is replaced under the same key.
        have heq : a = k := le_antisymm (not_lt.mp hka) (not_lt.mp hak)
        exact pairwise_cons.mpr ⟨fun e he => heq ▸ hhead e he, hrest⟩

/-- The map with `v` at `k`. -/
def insert (m : OrdMap K V) (k : K) (v : V) : OrdMap K V :=
  ⟨insertEntries k v m.entries, pairwise_insertEntries m.sorted⟩

/-- The map without an entry at `k`. -/
def erase (m : OrdMap K V) (k : K) : OrdMap K V :=
  ⟨m.entries.filter (·.1 ≠ k), m.sorted.filter _⟩

/-- The map of a list of entries; later entries win. -/
def ofList (l : List (K × V)) : OrdMap K V := l.foldl (fun m e => m.insert e.1 e.2) empty

/-! ### Lookups -/

theorem lookup_cons_self (k : K) (v : V) (l : List (K × V)) : ((k, v) :: l).lookup k = some v := by
  rw [lookup_cons, beq_self_eq_true]

theorem lookup_cons_of_ne {k key : K} (h : key ≠ k) (v : V) (l : List (K × V)) :
    ((k, v) :: l).lookup key = l.lookup key := by
  rw [lookup_cons, beq_false_of_ne h]

theorem lookup_insertEntries (k : K) (v : V) (l : List (K × V)) (key : K) :
    (insertEntries k v l).lookup key = if key = k then some v else l.lookup key := by
  have hnew (rest : List (K × V)) :
      ((k, v) :: rest).lookup key = if key = k then some v else rest.lookup key := by
    split
    next h => rw [h, lookup_cons_self]
    next h => exact lookup_cons_of_ne h v rest
  induction l with
  | nil => exact hnew []
  | cons head rest ih =>
    obtain ⟨a, b⟩ := head
    simp only [insertEntries]
    split
    · exact hnew _
    · split
      next hak =>
        by_cases h : key = a
        · -- The entry at `a` stays, and `a` is smaller than the new key.
          rw [h, lookup_cons_self, lookup_cons_self, if_neg (ne_of_lt hak)]
        · rw [lookup_cons_of_ne h, lookup_cons_of_ne h, ih]
      next hka hak =>
        have heq : a = k := le_antisymm (not_lt.mp hka) (not_lt.mp hak)
        rw [hnew, heq]
        split
        next h => rfl
        next h => rw [lookup_cons_of_ne h]

theorem get?_insert (m : OrdMap K V) (k : K) (v : V) (key : K) :
    (m.insert k v).get? key = if key = k then some v else m.get? key :=
  lookup_insertEntries k v m.entries key

theorem get?_ofList_eq_none {key : K} (h : ∀ e ∈ l, key ≠ e.1) : (ofList l).get? key = none := by
  have hfold : ∀ (l : List (K × V)) (m : OrdMap K V), m.get? key = none →
      (∀ e ∈ l, key ≠ e.1) → (l.foldl (fun m e => m.insert e.1 e.2) m).get? key = none := by
    intro l
    induction l with
    | nil => exact fun m hm _ => hm
    | cons e rest ih =>
      intro m hm hne
      refine ih _ ?_ fun e' he' => hne e' (mem_cons_of_mem _ he')
      rw [get?_insert, if_neg (hne e mem_cons_self)]
      exact hm
  exact hfold l empty rfl h

end OrdMap

end Gascan.Lib
