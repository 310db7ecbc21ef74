import Gascan.Lib.Pool
import Gascan.Lib.Table

/-!
# `Gascan.Lib.WeakMap`: a map of weak references behind a mutex

A `WeakMap` is a map from keys to locks that does not keep its locks alive. A lock is alive as long
as a process has a strong reference to it. A process reads and changes the map while it owns the
mutex of the map, one access at a time. References are dropped at any time.

`Inv` is the invariant of such a map: for a key there is one lock at most that is alive. `contract`
says what a process may assume of the others while it owns the mutex: the map is as it left it, and
references only become fewer. The lemmas `guarantee_…` say when a command keeps the invariant.
-/

namespace Gascan.Lib

/-- A strong reference to a lock, and the key for which a process got it. -/
structure Ref (κ : Type) where
  pid : Nat
  key : κ
  lock : Nat
  deriving DecidableEq

/-- A map of weak references, the references to its locks, and the locks that are taken. `seen` is
history: the locks that were alive at some point since the mutex was taken last. -/
structure WeakMap (κ : Type) where
  entries : List (κ × Nat)
  refs : List (Ref κ)
  guards : List (Ref κ)
  created : Nat
  owner : Option Nat
  seen : List Nat

namespace WeakMap

variable {κ : Type}

/-- The commands of a process. -/
inductive Command (κ : Type) where
  | lockMap
  | keys
  | retain (key : κ)
  | upgrade (key : κ)
  | newLock (key : κ)
  | insert (key : κ) (lock : Nat)
  | unlockMap
  | acquire (key : κ) (lock : Nat)
  | release (key : κ) (lock : Nat)
  | drop (key : κ) (lock : Nat)

@[reducible] def Command.Reply : Command κ → Type
  | .keys => List κ
  | .upgrade _ => Option Nat
  | .newLock _ => Nat
  | _ => Unit

/-- The number of references to a lock. -/
def strongCount (w : WeakMap κ) (lock : Nat) : Nat := w.refs.countP (·.lock = lock)

/-- The lock that the map has for a key. -/
def find [DecidableEq κ] (w : WeakMap κ) (key : κ) : Option Nat :=
  (Table.lookup Prod.fst key w.entries).map Prod.snd

/-- What a command does. The map is visited in any order: `keys` replies in the order that is
chosen. -/
def act [DecidableEq κ] (pid : Nat) : (c : Command κ) → List κ → WeakMap κ → c.Reply × WeakMap κ
  | .lockMap, _, w => ((), { w with owner := some pid, seen := [] })
  | .keys, order, w =>
    (if order.isPerm (w.entries.map Prod.fst) then order else w.entries.map Prod.fst, w)
  | .retain key, _, w =>
    ((), { w with entries := w.entries.filter fun e => e.1 ≠ key ∨ 0 < w.strongCount e.2 })
  | .upgrade key, _, w =>
    match w.find key with
    | some lock =>
      if 0 < w.strongCount lock then
        (some lock, { w with refs := ⟨pid, key, lock⟩ :: w.refs })
      else (none, w)
    | none => (none, w)
  | .newLock key, _, w =>
    (w.created, { w with refs := ⟨pid, key, w.created⟩ :: w.refs, created := w.created + 1 })
  | .insert key lock, _, w =>
    ((), { w with entries := (key, lock) :: w.entries.filter (·.1 ≠ key) })
  | .unlockMap, _, w => ((), { w with owner := none })
  | .acquire key lock, _, w => ((), { w with guards := ⟨pid, key, lock⟩ :: w.guards })
  | .release key lock, _, w => ((), { w with guards := w.guards.erase ⟨pid, key, lock⟩ })
  | .drop key lock, _, w => ((), { w with refs := w.refs.erase ⟨pid, key, lock⟩ })

/-- Notes the locks that are alive. -/
def note (w : WeakMap κ) : WeakMap κ := { w with seen := w.seen ++ w.refs.map Ref.lock }

/-- A process that ends takes its references with it. -/
def leave (pid : Nat) (w : WeakMap κ) : WeakMap κ :=
  { w with
      refs := w.refs.filter (·.pid ≠ pid)
      guards := w.guards.filter (·.pid ≠ pid) }

def parties [DecidableEq κ] : Parties (Command κ) Command.Reply (WeakMap κ) (List κ) where
  perform pid c order w := ((act pid c order w).1, (act pid c order w).2.note)
  leave := leave

/-- Whether a command can go on: it waits for the mutex, or for a lock. -/
def Enabled (w : WeakMap κ) : Command κ → Prop
  | .lockMap => w.owner = none
  | .acquire _ lock => ∀ g ∈ w.guards, g.lock ≠ lock
  | _ => True

/-! ### The invariant -/

/-- Every lock that is alive is in the map for its key. -/
def Listed (w : WeakMap κ) : Prop := ∀ r ∈ w.refs, (r.key, r.lock) ∈ w.entries

/-- Every lock of the map was alive since the mutex was taken last. -/
def Recent (w : WeakMap κ) : Prop := ∀ e ∈ w.entries, e.2 ∈ w.seen

/-- The invariant of a map. What the owner of the mutex changes in several steps is right while the
mutex is free. -/
structure Inv (w : WeakMap κ) : Prop where
  keys : (w.entries.map Prod.fst).Nodup
  unique : ∀ r ∈ w.refs, ∀ r' ∈ w.refs, r.key = r'.key → r.lock = r'.lock
  noted : ∀ r ∈ w.refs, r.lock ∈ w.seen
  guarded : w.guards ⊆ w.refs
  exclusive : w.guards.Pairwise (·.lock ≠ ·.lock)
  listed : w.owner = none → w.Listed
  recent : w.owner = none → w.Recent

/-- A map without entries. -/
def empty : WeakMap κ where
  entries := []
  refs := []
  guards := []
  created := 0
  owner := none
  seen := []

theorem inv_empty : (empty : WeakMap κ).Inv where
  keys := List.nodup_nil
  unique := nofun
  noted := nofun
  guarded := List.nil_subset _
  exclusive := List.Pairwise.nil
  listed _ := nofun
  recent _ := nofun

variable {w : WeakMap κ}

/-- Two locks that are taken are locks of two keys. -/
theorem Inv.guards_keys (h : w.Inv) : w.guards.Pairwise (·.key ≠ ·.key) := by
  refine h.exclusive.imp_of_mem fun {g g'} hg hg' hlock hkey => ?_
  exact hlock (h.unique g (h.guarded hg) g' (h.guarded hg') hkey)

theorem Inv.of_refs {w w' : WeakMap κ} (h : w.Inv) (hentries : w'.entries = w.entries)
    (howner : w'.owner = w.owner) (hseen : w.seen ⊆ w'.seen) (hrefs : w'.refs ⊆ w.refs)
    (hguarded : w'.guards ⊆ w'.refs) (hexclusive : w'.guards.Pairwise (·.lock ≠ ·.lock)) :
    w'.Inv where
  keys := hentries ▸ h.keys
  unique r hr r' hr' := h.unique r (hrefs hr) r' (hrefs hr')
  noted r hr := hseen (h.noted r (hrefs hr))
  guarded := hguarded
  exclusive := hexclusive
  listed hfree r hr := hentries ▸ h.listed (howner ▸ hfree) r (hrefs hr)
  recent hfree e he := hseen (h.recent (howner ▸ hfree) e (hentries ▸ he))

/-! ### Lookups -/

section Lookup

variable {w : WeakMap κ} {key : κ} {lock : Nat}

theorem strongCount_pos_iff : 0 < w.strongCount lock ↔ ∃ r ∈ w.refs, r.lock = lock := by
  simp [strongCount, List.countP_pos_iff]

theorem find_eq_some_iff [DecidableEq κ] (h : (w.entries.map Prod.fst).Nodup) :
    w.find key = some lock ↔ (key, lock) ∈ w.entries := by
  rw [find, Option.map_eq_some_iff]
  constructor
  · rintro ⟨⟨key', _⟩, hfound, rfl⟩
    obtain rfl : key' = key := Table.key_of_lookup hfound
    exact Table.mem_of_lookup hfound
  · intro hmem
    exact ⟨(key, lock), (Table.lookup_eq_some h).2 ⟨hmem, rfl⟩, rfl⟩

end Lookup

/-! ### What processes rely on -/

/-- What others do to a map while a process is running. A process that owns the mutex finds the map
as it left it, and a process keeps its own references and gets no guard from others. -/
structure Rely (pid : Nat) (w w' : WeakMap κ) : Prop where
  inv : w.Inv → w'.Inv
  held : w.owner = some pid → w'.owner = some pid ∧ w'.entries = w.entries ∧
    w'.refs ⊆ w.refs ∧ w.seen ⊆ w'.seen
  own : ∀ r ∈ w.refs, r.pid = pid → r ∈ w'.refs
  guards : ∀ g ∈ w'.guards, g.pid = pid → g ∈ w.guards

theorem Rely.refl (pid : Nat) (w : WeakMap κ) : Rely pid w w where
  inv h := h
  held h := ⟨h, rfl, List.Subset.refl _, List.Subset.refl _⟩
  own _ h _ := h
  guards _ h _ := h

theorem Rely.trans {pid : Nat} {w1 w2 w3 : WeakMap κ} (h : Rely pid w1 w2) (h' : Rely pid w2 w3) :
    Rely pid w1 w3 where
  inv hinv := h'.inv (h.inv hinv)
  held howner := by
    obtain ⟨howner2, hentries, hrefs, hseen⟩ := h.held howner
    obtain ⟨howner3, hentries', hrefs', hseen'⟩ := h'.held howner2
    exact ⟨howner3, hentries'.trans hentries, List.Subset.trans hrefs' hrefs,
      List.Subset.trans hseen hseen'⟩
  own r hr hpid := h'.own r (h.own r hr hpid) hpid
  guards g hg hpid := h.guards g (h'.guards g hg hpid) hpid

/-- The contract of the processes: each keeps the invariant, and what the others rely on. -/
def contract : Pool.Contract (Command κ) (WeakMap κ) (List κ) where
  rely := Rely
  guarantee pid w w' := w.Inv → w'.Inv ∧ ∀ other, other ≠ pid → Rely other w w'
  allows _ c _ w := w.Enabled c

theorem inv_leave (pid : Nat) (h : w.Inv) : (w.leave pid).Inv := by
  refine h.of_refs rfl rfl (List.Subset.refl _) (List.filter_subset_self _) ?_
    (h.exclusive.filter _)
  intro g hg
  obtain ⟨hmem, hpid⟩ := List.mem_filter.1 hg
  exact List.mem_filter.2 ⟨h.guarded hmem, hpid⟩

theorem sound_contract [DecidableEq κ] :
    contract.Sound (parties : Parties (Command κ) _ _ _) Inv where
  trans _ _ _ _ := Rely.trans
  refl := Rely.refl
  others _ _ _ _ hne hinv h := (h hinv).2 _ hne
  kept _ _ _ hinv h := (h hinv).1
  left pid _ := inv_leave pid
  leaves pid other w hne _ :=
    { inv := inv_leave other
      held := fun howner =>
        ⟨howner, rfl, List.filter_subset_self _, List.Subset.refl _⟩
      own := fun r hr hpid => List.mem_filter.2 ⟨hr, by simpa [hpid] using hne⟩
      guards := fun g hg _ => (List.mem_filter.1 hg).1 }

section Guarantee

variable {pid : Nat} {w w' : WeakMap κ}

/-- While no other process owns the mutex, a process may change the map, as long as no reference is
lost. -/
theorem guarantee_of_owner (howner : ∀ other, other ≠ pid → w.owner ≠ some other)
    (hinv : w.Inv → w'.Inv) (hrefs : w.refs ⊆ w'.refs) (hguards : w'.guards = w.guards) :
    contract.guarantee pid w w' := by
  intro h
  refine ⟨hinv h, fun other hother => ?_⟩
  exact
    { inv := fun _ => hinv h
      held := fun howner' => absurd howner' (howner other hother)
      own := fun r hr _ => hrefs hr
      guards := fun g hg _ => hguards ▸ hg }

/-- At any time a process may drop its references and take or release its locks. -/
theorem guarantee_of_own (hinv : w.Inv → w'.Inv) (hentries : w'.entries = w.entries)
    (howner : w'.owner = w.owner) (hseen : w.seen ⊆ w'.seen) (hrefs : w'.refs ⊆ w.refs)
    (hothers : ∀ r ∈ w.refs, r.pid ≠ pid → r ∈ w'.refs)
    (hguards : ∀ g ∈ w'.guards, g.pid ≠ pid → g ∈ w.guards) :
    contract.guarantee pid w w' := by
  intro h
  refine ⟨hinv h, fun other hother => ?_⟩
  exact
    { inv := fun _ => hinv h
      held := fun h => ⟨howner.trans h, hentries, hrefs, hseen⟩
      own := fun r hr hpid => hothers r hr (hpid ▸ hother)
      guards := fun g hg hpid => hguards g hg (hpid ▸ hother) }

end Guarantee

end WeakMap

end Gascan.Lib
