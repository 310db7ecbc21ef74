import Gascan.Daemon.Locks

/-!
# `Gascan.Proofs.Locks`: one lock for a key

For any number of tasks and any interleaving of their steps, `lockFor` gives two tasks the same lock
as long as the lock is alive. So two tasks never have the lock of one key together, and the map has
no entries that are older than the last call (`locks_exclusive`).

`Inside` is what a task knows while it owns the mutex of the map: everything that is alive is in the
map, and each entry that is not checked yet or was alive since the call started. `Pending` is the
state between the creation of a lock and its insertion.
-/

namespace Gascan.Locks

open Lib Lib.WeakMap Lib.Prog List

variable {κ : Type}

/-- What a task knows while it owns the mutex, with the keys that `retain` has still to visit. -/
structure Inside (pid : Nat) (unchecked : List κ) (w : WeakMap κ) : Prop where
  inv : w.Inv
  owner : w.owner = some pid
  listed : w.Listed
  checked : ∀ e ∈ w.entries, e.1 ∈ unchecked ∨ e.2 ∈ w.seen

/-- A task has created the lock of a key, and has still to insert it. -/
structure Pending (pid : Nat) (key : κ) (lock : Nat) (w : WeakMap κ) : Prop where
  inv : w.Inv
  owner : w.owner = some pid
  recent : w.Recent
  ref : ⟨pid, key, lock⟩ ∈ w.refs
  listed : ∀ r ∈ w.refs, r.key ≠ key → (r.key, r.lock) ∈ w.entries

/-- A task has a reference to the lock of a key. -/
structure Holds (pid : Nat) (key : κ) (lock : Nat) (w : WeakMap κ) : Prop where
  inv : w.Inv
  ref : ⟨pid, key, lock⟩ ∈ w.refs

section Stable

variable {pid lock : Nat} {key : κ} {keys : List κ} {w w' : WeakMap κ}

theorem Inside.rely (h : Inside pid keys w) (hrely : Rely pid w w') : Inside pid keys w' := by
  obtain ⟨howner, hentries, hrefs, hseen⟩ := hrely.held h.owner
  refine { inv := hrely.inv h.inv, owner := howner, listed := ?_, checked := ?_ }
  · intro r hr
    rw [hentries]
    exact h.listed r (hrefs hr)
  · intro e he
    rw [hentries] at he
    exact (h.checked e he).imp_right fun hmem => hseen hmem

theorem Pending.rely (h : Pending pid key lock w) (hrely : Rely pid w w') :
    Pending pid key lock w' := by
  obtain ⟨howner, hentries, hrefs, hseen⟩ := hrely.held h.owner
  refine
    { inv := hrely.inv h.inv, owner := howner, ref := hrely.own _ h.ref rfl
      recent := ?_, listed := ?_ }
  · intro e he
    rw [hentries] at he
    exact hseen (h.recent e he)
  · intro r hr hkey
    rw [hentries]
    exact h.listed r (hrefs hr) hkey

theorem Holds.rely (h : Holds pid key lock w) (hrely : Rely pid w w') : Holds pid key lock w' where
  inv := hrely.inv h.inv
  ref := hrely.own _ h.ref rfl

theorem Inside.others (h : Inside pid keys w) : ∀ other, other ≠ pid → w.owner ≠ some other := by
  intro other hne howner
  exact hne (Option.some.inj (howner.symm.trans h.owner))

/-- The guarantee of a step of the owner that keeps all references. -/
theorem Inside.guarantee {w' : WeakMap κ} (h : Inside pid keys w) (hinv : w'.Inv)
    (hrefs : w.refs ⊆ w'.refs) (hguards : w'.guards = w.guards) :
    contract.guarantee pid w w' :=
  guarantee_of_owner h.others (fun _ => hinv) hrefs hguards

end Stable

/-! ### The steps of a call -/

section Steps

variable [DecidableEq κ] {pid lock : Nat} {key : κ} {keys order : List κ} {w : WeakMap κ}

/-- The map after a command, with what is alive noted. -/
abbrev after (pid : Nat) (c : Command κ) (order : List κ) (w : WeakMap κ) : WeakMap κ :=
  (parties.perform pid c order w).2

theorem mem_seen_after (c : Command κ) {r : Ref κ} (h : r ∈ (after pid c order w).refs) :
    r.lock ∈ (after pid c order w).seen :=
  mem_append_right _ (mem_map_of_mem h)

theorem inside_lockMap (h : w.Inv) (hfree : w.owner = none) :
    Inside pid (w.entries.map Prod.fst) (after pid .lockMap order w) where
  inv :=
    { keys := h.keys
      unique := h.unique
      noted := fun _ => mem_seen_after .lockMap
      guarded := h.guarded
      exclusive := h.exclusive
      listed := nofun
      recent := nofun }
  owner := rfl
  listed := h.listed hfree
  checked _ he := .inl (mem_map_of_mem he)

/-- While a task owns the mutex, it has to keep the part of the invariant that does not wait for the
mutex. -/
theorem inv_after (c : Command κ) (order : List κ) (howner : (after pid c order w).owner = some pid)
    (hkeys : ((after pid c order w).entries.map Prod.fst).Nodup)
    (hunique : ∀ r ∈ (after pid c order w).refs, ∀ r' ∈ (after pid c order w).refs,
      r.key = r'.key → r.lock = r'.lock)
    (hguarded : (after pid c order w).guards ⊆ (after pid c order w).refs)
    (hexclusive : (after pid c order w).guards.Pairwise (·.lock ≠ ·.lock)) :
    (after pid c order w).Inv where
  keys := hkeys
  unique := hunique
  noted _ := mem_seen_after c
  guarded := hguarded
  exclusive := hexclusive
  listed hfree := absurd hfree (by simp [howner])
  recent hfree := absurd hfree (by simp [howner])

/-- `keys` gives the keys of the map in some order. -/
theorem inside_keys (h : Inside pid keys w) :
    Inside pid (parties.perform pid .keys order w).1 (after pid .keys order w) where
  inv := inv_after .keys order h.owner h.inv.keys h.inv.unique h.inv.guarded h.inv.exclusive
  owner := h.owner
  listed := h.listed
  checked e he := by
    refine .inl ?_
    have hkey : e.1 ∈ w.entries.map Prod.fst := mem_map_of_mem he
    change e.1 ∈ if order.isPerm (w.entries.map Prod.fst) then order else w.entries.map Prod.fst
    split_ifs with hperm
    · exact (isPerm_iff.1 hperm).mem_iff.2 hkey
    · exact hkey

/-- An entry that `retain` keeps has a lock that is alive at this moment. -/
theorem inside_retain (h : Inside pid (key :: keys) w) :
    Inside pid keys (after pid (.retain key) order w) where
  inv := inv_after (.retain key) order h.owner (h.inv.keys.sublist (filter_sublist.map _))
    h.inv.unique h.inv.guarded h.inv.exclusive
  owner := h.owner
  listed r hr := by
    have halive : 0 < w.strongCount r.lock := strongCount_pos_iff.2 ⟨r, hr, rfl⟩
    exact mem_filter.2 ⟨h.listed r hr, by simp [halive]⟩
  checked e he := by
    obtain ⟨hmem, hkept⟩ := mem_filter.1 he
    by_cases hkey : e.1 = key
    · have halive : 0 < w.strongCount e.2 := by simpa [hkey] using hkept
      obtain ⟨r, hr, hlock⟩ := strongCount_pos_iff.1 halive
      exact .inr (hlock ▸ mem_seen_after (.retain key) hr)
    · rcases h.checked e hmem with hlater | hseen
      · exact .inl ((mem_cons.1 hlater).resolve_left hkey)
      · exact .inr (mem_append_left _ hseen)

/-- `upgrade` finds the one lock of the key that can be alive. -/
theorem inside_upgrade_some (h : Inside pid [] w) (hfind : w.find key = some lock) :
    Inside pid [] ({ w with refs := ⟨pid, key, lock⟩ :: w.refs } : WeakMap κ).note := by
  have hentry : (key, lock) ∈ w.entries := (find_eq_some_iff h.inv.keys).1 hfind
  -- A reference for the key is to the lock of its entry.
  have hkey : ∀ r ∈ w.refs, r.key = key → r.lock = lock := by
    intro r hr hkey
    have hlisted : (key, r.lock) ∈ w.entries := hkey ▸ h.listed r hr
    exact Option.some.inj (((find_eq_some_iff h.inv.keys).2 hlisted).symm.trans hfind)
  refine
    { inv := ?_, owner := h.owner, listed := forall_mem_cons.2 ⟨hentry, h.listed⟩
      checked := fun e he => (h.checked e he).imp_right (mem_append_left _) }
  exact
    { keys := h.inv.keys
      unique := by
        intro r hr r' hr' hsame
        rcases mem_cons.1 hr with rfl | hr
        · rcases mem_cons.1 hr' with rfl | hr'
          · rfl
          · exact (hkey r' hr' hsame.symm).symm
        · rcases mem_cons.1 hr' with rfl | hr'
          · exact hkey r hr hsame
          · exact h.inv.unique r hr r' hr' hsame
      noted := fun r hr => mem_append_right _ (mem_map_of_mem hr)
      guarded := subset_cons_of_subset _ h.inv.guarded
      exclusive := h.inv.exclusive
      listed := fun hfree => absurd hfree (by simp [note, h.owner])
      recent := fun hfree => absurd hfree (by simp [note, h.owner]) }

/-- If the lock of the entry is not alive, no task has a reference to a lock of the key. -/
theorem key_ne_of_dead (h : Inside pid [] w)
    (hdead : ∀ lock, w.find key = some lock → ¬0 < w.strongCount lock) :
    ∀ r ∈ w.refs, r.key ≠ key := by
  intro r hr hkey
  have hlisted : (key, r.lock) ∈ w.entries := hkey ▸ h.listed r hr
  exact hdead r.lock ((find_eq_some_iff h.inv.keys).2 hlisted) (strongCount_pos_iff.2 ⟨r, hr, rfl⟩)

theorem Inside.note (h : Inside pid keys w) : Inside pid keys w.note where
  inv := inv_after .keys [] h.owner h.inv.keys h.inv.unique h.inv.guarded h.inv.exclusive
  owner := h.owner
  listed := h.listed
  checked e he := (h.checked e he).imp_right (mem_append_left _)

/-- `upgrade` gives a reference to the lock of the key, or finds that none is alive. -/
theorem inside_upgrade (key : κ) (order : List κ) (h : Inside pid [] w) :
    Inside pid [] (after pid (.upgrade key) order w) ∧
      w.refs ⊆ (after pid (.upgrade key) order w).refs ∧
      (after pid (.upgrade key) order w).guards = w.guards ∧
      (∀ lock, (act pid (.upgrade key) order w).1 = some lock →
        ⟨pid, key, lock⟩ ∈ (after pid (.upgrade key) order w).refs) ∧
      ((act pid (.upgrade key) order w).1 = none →
        ∀ r ∈ (after pid (.upgrade key) order w).refs, r.key ≠ key) := by
  by_cases halive : ∃ lock, w.find key = some lock ∧ 0 < w.strongCount lock
  · obtain ⟨lock, hfind, halive⟩ := halive
    have hact : act pid (.upgrade key) order w =
        (some lock, { w with refs := ⟨pid, key, lock⟩ :: w.refs }) := by
      simp only [act, hfind, halive, if_true]
    simp only [after, parties, hact]
    refine ⟨inside_upgrade_some h hfind, subset_cons_self _ _, rfl, ?_, nofun⟩
    intro lock' hlock
    cases hlock
    exact mem_cons_self
  · have hdead : ∀ lock, w.find key = some lock → ¬0 < w.strongCount lock :=
      fun lock hfind hpos => halive ⟨lock, hfind, hpos⟩
    have hact : act pid (.upgrade key) order w = (none, w) := by
      cases hfind : w.find key with
      | none => simp only [act, hfind]
      | some lock => simp only [act, hfind, hdead lock hfind, if_false]
    simp only [after, parties, hact]
    exact ⟨h.note, List.Subset.refl _, rfl, nofun, fun _ r hr => key_ne_of_dead h hdead r hr⟩

theorem pending_newLock (h : Inside pid [] w) (hnone : ∀ r ∈ w.refs, r.key ≠ key) :
    Pending pid key w.created (after pid (.newLock key) order w) where
  inv := by
    refine inv_after (.newLock key) order h.owner h.inv.keys ?_
      (subset_cons_of_subset _ h.inv.guarded) h.inv.exclusive
    intro r hr r' hr' hkey
    rcases mem_cons.1 hr with rfl | hr
    · rcases mem_cons.1 hr' with rfl | hr'
      · rfl
      · exact absurd hkey.symm (hnone r' hr')
    · rcases mem_cons.1 hr' with rfl | hr'
      · exact absurd hkey (hnone r hr)
      · exact h.inv.unique r hr r' hr' hkey
  owner := h.owner
  recent e he := mem_append_left _ ((h.checked e he).resolve_left not_mem_nil)
  ref := mem_cons_self
  listed r hr hkey := by
    rcases mem_cons.1 hr with rfl | hr
    · exact absurd rfl hkey
    · exact h.listed r hr

theorem inside_insert (order : List κ) (h : Pending pid key lock w) :
    Inside pid [] (after pid (.insert key lock) order w) ∧
      ⟨pid, key, lock⟩ ∈ (after pid (.insert key lock) order w).refs := by
  refine ⟨{ inv := inv_after _ order h.owner ?_ h.inv.unique h.inv.guarded h.inv.exclusive
            owner := h.owner, listed := ?_, checked := ?_ }, h.ref⟩
  · have hkeys : ((w.entries.filter (·.1 ≠ key)).map Prod.fst).Nodup :=
      h.inv.keys.sublist (filter_sublist.map _)
    refine nodup_cons.2 ⟨?_, hkeys⟩
    intro hmem
    obtain ⟨e, he, hkey⟩ := mem_map.1 hmem
    exact (of_decide_eq_true (mem_filter.1 he).2) hkey
  · intro r hr
    by_cases hkey : r.key = key
    · have hlock : r.lock = lock := h.inv.unique r hr _ h.ref hkey
      rw [hkey, hlock]
      exact mem_cons_self
    · refine mem_cons_of_mem _ (mem_filter.2 ⟨h.listed r hr hkey, ?_⟩)
      simp [hkey]
  · intro e he
    refine .inr ?_
    rcases mem_cons.1 he with rfl | he
    · exact mem_seen_after (.insert key lock) h.ref
    · exact mem_append_left _ (h.recent e (mem_filter.1 he).1)

theorem holds_unlockMap (h : Inside pid [] w) (href : ⟨pid, key, lock⟩ ∈ w.refs) :
    Holds pid key lock (after pid .unlockMap order w) where
  inv :=
    { keys := h.inv.keys
      unique := h.inv.unique
      noted := fun _ => mem_seen_after .unlockMap
      guarded := h.inv.guarded
      exclusive := h.inv.exclusive
      listed := fun _ => h.listed
      recent := fun _ e he =>
        mem_append_left _ ((h.checked e he).resolve_left not_mem_nil) }
  ref := href

end Steps

/-! ### The call -/

section Call

variable [DecidableEq κ] {α : Type} {pid lock : Nat} {key : κ} {keys : List κ} {w : WeakMap κ}

/-- The weakest precondition of a task that keeps the contract. -/
abbrev Does (pid : Nat) (task : Task κ α) (Q : α → WeakMap κ → Prop) (w : WeakMap κ) : Prop :=
  task.wp (parties.perform pid) (contract.env pid) (contract.guarantee pid) Q (fun _ _ => True) w

variable {Q : α → WeakMap κ → Prop}

/-- A command in a state that the steps of others do not change. -/
theorem does_command {c : Command κ} {k : c.Reply → Task κ α} {P : WeakMap κ → Prop}
    (hP : ∀ w w', P w → Rely pid w w' → P w') (hstep : ∀ w order, P w → w.Enabled c →
      contract.guarantee pid w (after pid c order w) ∧ Does pid (k (parties.perform pid c order
      w).1) Q (after pid c order w)) (h : P w) : Does pid ((command c).bind k) Q w := by
  intro w1 hrely order henabled
  exact hstep w1 order (hP w w1 h hrely) henabled

theorem does_retainAll (h : Inside pid keys w) :
    Does pid (retainAll keys) (fun _ => Inside pid []) w := by
  induction keys generalizing w with
  | nil => exact h
  | cons key keys ih =>
    refine does_command (fun _ _ => Inside.rely) (fun w order h _ => ?_) h
    have hnext : Inside pid keys (after pid (.retain key) order w) := inside_retain h
    exact ⟨h.guarantee hnext.inv (List.Subset.refl _) rfl, ih hnext⟩

theorem does_unlockMap {Q : Nat → WeakMap κ → Prop} (hQ : ∀ w, Holds pid key lock w → Q lock w)
    (h : Inside pid [] w) (href : ⟨pid, key, lock⟩ ∈ w.refs) :
    Does pid ((command .unlockMap).bind fun _ => Prog.pure lock) Q w := by
  refine does_command (P := fun w => Inside pid [] w ∧ ⟨pid, key, lock⟩ ∈ w.refs)
    (fun w w' h hrely => ⟨h.1.rely hrely, hrely.own _ h.2 rfl⟩) (fun w order h _ => ?_) ⟨h, href⟩
  have hholds : Holds pid key lock (after pid .unlockMap order w) := holds_unlockMap h.1 h.2
  exact ⟨h.1.guarantee hholds.inv (List.Subset.refl _) rfl, hQ _ hholds⟩

/-- A new lock is inserted while the map has no lock for the key that is alive. -/
theorem does_insert (h : Inside pid [] w) (hnone : ∀ r ∈ w.refs, r.key ≠ key) :
    Does pid (lockFound key none) (fun lock => Holds pid key lock) w := by
  have hstable : ∀ w w' : WeakMap κ, (Inside pid [] w ∧ ∀ r ∈ w.refs, r.key ≠ key) →
      Rely pid w w' → Inside pid [] w' ∧ ∀ r ∈ w'.refs, r.key ≠ key := by
    intro w w' h hrely
    obtain ⟨_, _, hrefs, _⟩ := hrely.held h.1.owner
    exact ⟨h.1.rely hrely, fun r hr => h.2 r (hrefs hr)⟩
  refine does_command hstable (fun w order h _ => ?_) ⟨h, hnone⟩
  have hpending : Pending pid key w.created (after pid (.newLock key) order w) :=
    pending_newLock h.1 h.2
  refine ⟨h.1.guarantee hpending.inv (subset_cons_self _ _) rfl, ?_⟩
  refine does_command (fun _ _ => Pending.rely) (fun w order h _ => ?_) hpending
  obtain ⟨hinside, href⟩ := inside_insert order h
  refine ⟨?_, does_unlockMap (fun _ h => h) hinside href⟩
  refine guarantee_of_owner ?_ (fun _ => hinside.inv) (List.Subset.refl _) rfl
  intro other hne howner
  exact hne (Option.some.inj (howner.symm.trans h.owner))

/-- **The call.** Whatever others do, a task that calls `lockFor` gets a reference to a lock, and
the invariant is kept. -/
theorem does_lockFor (h : w.Inv) :
    Does pid (lockFor key) (fun lock => Holds pid key lock) w := by
  refine does_command (fun w w' h hrely => hrely.inv h) (fun w order h hfree => ?_) h
  have hlocked : Inside pid (w.entries.map Prod.fst) (after pid .lockMap order w) :=
    inside_lockMap h hfree
  refine ⟨guarantee_of_owner ?_ (fun _ => hlocked.inv) (List.Subset.refl _) rfl, ?_⟩
  · exact fun other _ howner => nomatch howner.symm.trans hfree
  refine does_command (fun _ _ => Inside.rely) (fun w order h _ => ?_) hlocked
  refine ⟨h.guarantee (inside_keys h).inv (List.Subset.refl _) rfl, ?_⟩
  refine wp_seq (does_retainAll (inside_keys h)) fun _ w h => ?_
  refine does_command (fun _ _ => Inside.rely) (fun w order h _ => ?_) h
  obtain ⟨hinside, hrefs, hguards, hsome, hnone⟩ := inside_upgrade key order h
  refine ⟨h.guarantee hinside.inv hrefs hguards, ?_⟩
  change Does pid (lockFound key (act pid (.upgrade key) order w).1) _ _
  cases hfound : (act pid (.upgrade key) order w).1 with
  | some lock => exact does_unlockMap (fun _ h => h) hinside (hsome lock hfound)
  | none => exact does_insert hinside (hnone hfound)

/-! ### What a task does with its lock -/

/-- Waiting for the lock. While another task has it, the command is not enabled. -/
theorem does_acquire {k : Unit → Task κ α} (hk : ∀ w, Holds pid key lock w → Does pid (k ()) Q w)
    (h : Holds pid key lock w) : Does pid ((command (.acquire key lock)).bind k) Q w := by
  refine does_command (fun _ _ => Holds.rely) (fun w order h hfree => ?_) h
  have hinv : (after pid (.acquire key lock) order w).Inv := by
    refine h.inv.of_refs rfl rfl (subset_append_left _ _) (List.Subset.refl _) ?_ ?_
    · exact cons_subset.2 ⟨h.ref, h.inv.guarded⟩
    · exact pairwise_cons.2 ⟨fun g hg hlock => hfree g hg hlock.symm, h.inv.exclusive⟩
  refine ⟨?_, hk _ { inv := hinv, ref := h.ref }⟩
  refine guarantee_of_own (fun _ => hinv) rfl rfl (subset_append_left _ _)
    (List.Subset.refl _) (fun _ hr _ => hr) ?_
  intro g hg hpid
  rcases mem_cons.1 hg with rfl | hg
  · exact absurd rfl hpid
  · exact hg

theorem does_release {Q : Unit → WeakMap κ → Prop} (hQ : ∀ w, Q () w) (h : Holds pid key lock w) :
    Does pid ((command (.release key lock)).bind fun _ => command (.drop key lock)) Q w := by
  refine does_command (fun _ _ => Holds.rely) (fun w order h _ => ?_) h
  have hinv : (after pid (.release key lock) order w).Inv := by
    refine h.inv.of_refs rfl rfl (subset_append_left _ _) (List.Subset.refl _) ?_ ?_
    · exact fun g hg => h.inv.guarded (mem_of_mem_erase hg)
    · exact h.inv.exclusive.sublist erase_sublist
  refine ⟨?_, ?_⟩
  · exact guarantee_of_own (fun _ => hinv) rfl rfl (subset_append_left _ _)
      (List.Subset.refl _) (fun _ hr _ => hr) fun g hg _ => mem_of_mem_erase hg
  -- The locks that are taken are all different, so the task has no other guard of this one.
  have hnodup : w.guards.Nodup := by
    refine h.inv.exclusive.imp fun {g g'} hlock hsame => ?_
    exact hlock (congrArg Ref.lock hsame)
  have hgone : ⟨pid, key, lock⟩ ∉ (after pid (.release key lock) order w).guards :=
    hnodup.not_mem_erase
  refine does_command (k := Prog.pure) (P := fun w => w.Inv ∧ ⟨pid, key, lock⟩ ∉ w.guards)
    (fun w w' h hrely => ⟨hrely.inv h.1, fun hg => h.2 (hrely.guards _ hg rfl)⟩)
    (fun w order h _ => ?_) ⟨hinv, hgone⟩
  refine ⟨guarantee_of_own (fun _ => ?_) rfl rfl (subset_append_left _ _)
    erase_subset ?_ (fun _ hg _ => hg), hQ _⟩
  · refine h.1.of_refs rfl rfl (subset_append_left _ _) erase_subset ?_ h.1.exclusive
    intro g hg
    have hother : g ≠ ⟨pid, key, lock⟩ := ne_of_mem_of_not_mem hg h.2
    exact (mem_erase_of_ne hother).2 (h.1.guarded hg)
  · intro r hr hpid
    have hother : r ≠ ⟨pid, key, lock⟩ := fun hsame => hpid (congrArg Ref.pid hsame)
    exact (mem_erase_of_ne hother).2 hr

theorem keeps_keyedTask (pid : Nat) (id : SandboxId) {w : WeakMap SandboxId} (h : w.Inv) :
    contract.Keeps parties pid (keyedTask id) w := by
  refine wp_seq (does_lockFor h) fun lock w h => ?_
  exact does_acquire (fun w h => does_release (fun _ => trivial) h) h

theorem keeps_publicationTask (pid : Nat) (directory : κ) (h : w.Inv) :
    contract.Keeps parties pid (publicationTask directory) w := by
  have hguard : Does pid (publicationGuard directory)
      (fun publication => Holds pid directory publication) w :=
    wp_seq (does_lockFor h) fun publication w h => does_acquire (fun _ h => h) h
  exact wp_seq hguard fun publication w h => does_release (fun _ => trivial) h

end Call

/-! ### Every run -/

/-- What holds for a map of locks: two locks for one key that are alive are the same lock, no two
tasks have the lock of one key, and while no call is going on, the map has only locks that were
alive during the last call. -/
structure Exclusive (w : WeakMap κ) : Prop where
  one : ∀ r ∈ w.refs, ∀ r' ∈ w.refs, r.key = r'.key → r.lock = r'.lock
  guards : w.guards.Pairwise (·.key ≠ ·.key)
  entries : w.owner = none → ∀ e ∈ w.entries, e.2 ∈ w.seen

theorem exclusive_of_inv {w : WeakMap κ} (h : w.Inv) : Exclusive w where
  one := h.unique
  guards := h.guards_keys
  entries := h.recent

/-- In every run of tasks that keep the contract, the map keeps its invariant. -/
theorem inv_of_reaches [DecidableEq κ] {task : κ → Task κ Unit} {s : Tasks κ}
    (htask : ∀ pid key w, w.Inv → contract.Keeps parties pid (task key) w)
    (h : Pool.Reaches parties (Possible task) (start κ) s) : s.world.Inv := by
  have hstart : Pool.Working contract parties Inv (start κ) := ⟨inv_empty, nofun⟩
  refine (h.invariant sound_contract (fun t event hevent => ?_) hstart).1
  cases event with
  | start pid program =>
    obtain ⟨key, rfl⟩ := hevent
    exact fun w hw => htask pid key w hw
  | act pid order => exact hevent
  | stop pid => trivial

/-- **The locks by key are exclusive.** For any number of tasks and any interleaving of their steps,
with references dropped at any point, and for both maps of locks. -/
theorem locks_exclusive :
    (∀ s, Pool.Reaches parties (Possible keyedTask) (start SandboxId) s → Exclusive s.world) ∧
    ∀ (Directory : Type) [DecidableEq Directory] (s : Tasks Directory),
      Pool.Reaches parties (Possible publicationTask) (start Directory) s → Exclusive s.world := by
  refine ⟨fun s h => ?_, fun Directory _ s h => ?_⟩
  · exact exclusive_of_inv (inv_of_reaches (fun pid id _ hw => keeps_keyedTask pid id hw) h)
  · exact exclusive_of_inv
      (inv_of_reaches (fun pid directory _ hw => keeps_publicationTask pid directory hw) h)

end Gascan.Locks
