import Gascan.Daemon.Socket

/-!
# `Gascan.Proofs.Quarantine`: what removal by identity does to other nodes

`removeNamedIdentity` moves whatever is at a name aside before it knows what it is. If it is not the
expected node, it is put back, with a rename that replaces what is at the name by then.

`Spares` says that a command of the call leaves every other node at the name or at a quarantine
name, and `Clear` that the rename back replaces no node. `removal_spares_iff` shows that a run of
the call spares all other nodes exactly if its commands are clear. `publication_destroyed` is a run
in which they are not.
-/

namespace Gascan.RuntimeDir

open Lib Lib.NodeDir

abbrev World : Type := NodeDir RuntimeName

/-- The arguments of a call of `remove_named_identity`, and the volume it works on. -/
structure Removal where
  volume : Lib.Volume
  process : Process
  source : RuntimeName
  expected : Identity
  kind : NodeKind
  purpose : Purpose

namespace Removal

variable (r : Removal) {inode sequence : Nat}

def program : Sys Unit := removeNamedIdentity r.process r.source r.expected r.kind r.purpose

/-- The names the call moves nodes to. -/
def aside (sequence : Nat) : RuntimeName :=
  .quarantine r.purpose r.process.pid r.expected.inode sequence

/-- The node is the one that the call is to remove. -/
def MayRemove (w : World) (inode : Nat) : Prop :=
  Identity.ofStat (w.statOf r.volume inode) = r.expected ∧ (w.node inode).kind = r.kind

/-- The node is at the name or was moved aside. -/
def At (w : World) (inode : Nat) : Prop :=
  w.find r.source = some inode ∨ ∃ sequence, w.find (r.aside sequence) = some inode

/-- A step that takes the last link of no other node, and leaves every other node that was at the
name or aside at one of the two. -/
def Spares (w w' : World) : Prop :=
  ∀ inode, ¬ r.MayRemove w inode →
    (r.At w inode → r.At w' inode) ∧
      (w.Linked inode → w'.Linked inode)

/-- Other processes may do anything at the name. They do not touch what was moved aside, because the
names for that carry the id of the calling process. -/
def Others (w w' : World) : Prop :=
  ∀ sequence, r.aside sequence ≠ r.source →
    w'.find (r.aside sequence) = w.find (r.aside sequence) ∧
      ∀ inode, w.find (r.aside sequence) = some inode →
        (w'.node inode).uid = (w.node inode).uid ∧ (w'.node inode).kind = (w.node inode).kind

/-- A node that another process has at the name, and that a rename of the moved node to the name
replaces. -/
def Stranger (w : World) (moved inode : Nat) : Prop :=
  w.find r.source = some inode ∧ ¬ r.MayRemove w inode ∧
    renameError (w.node moved) (w.node inode) = none ∧
    ∀ sequence, r.aside sequence ≠ r.source → w.find (r.aside sequence) ≠ some inode

/-- A command is clear unless it is a rename that puts a node back and succeeds where a stranger is.
-/
def Clear (c : NodeCmd RuntimeName) (x : NodeChoice RuntimeName) (w : World) : Prop :=
  ∀ sequence, c = .rename (r.aside sequence) r.source → x.fault = none →
    ∀ moved, w.find (r.aside sequence) = some moved → ∀ inode, ¬ r.Stranger w moved inode

/-- A command of the calling process. -/
abbrev issue (c : NodeCmd RuntimeName) (x : NodeChoice RuntimeName) (w : World) :
    NodeReply c × World :=
  NodeDir.perform r.volume r.process.pid c x w

/-- A run of a part of the call in which others stay within what they may do. -/
abbrev Disturbed (p : Sys Unit) (ts : List (Prog.Tick World (NodeChoice RuntimeName))) (w : World) :
    Prop :=
  p.Respects (NodeDir.perform r.volume r.process.pid)
    { rely := r.Others, allows := fun _ _ _ => True } ts w

/-- Every command of the run spares the other nodes. -/
abbrev SparesAll (p : Sys Unit) (ts : List (Prog.Tick World (NodeChoice RuntimeName))) (w : World) :
    Prop :=
  p.Respects (NodeDir.perform r.volume r.process.pid)
    { rely := fun _ _ => True
      allows := fun c x w => r.Spares w (r.issue c x w).2 } ts w

/-- Every command of the run is clear. -/
abbrev ClearAll (p : Sys Unit) (ts : List (Prog.Tick World (NodeChoice RuntimeName))) (w : World) :
    Prop :=
  p.Respects (NodeDir.perform r.volume r.process.pid)
    { rely := fun _ _ => True, allows := r.Clear } ts w

variable {r}

/-! ### Steps -/

variable {w : World} {c : NodeCmd RuntimeName} {J : World → Prop}

variable {w' : World} {x : NodeChoice RuntimeName} {L : World → Prop} {k : NodeReply c → Sys Unit}
  {K : NodeReply c → World → Prop}

theorem spares_of_dir (h : ∀ name, w'.find name = w.find name) : r.Spares w w' := by
  intro inode _
  constructor
  · intro hat
    simpa only [At, h] using hat
  · rintro ⟨name, hname⟩
    exact ⟨name, by rw [h, hname]⟩

/-- A node that stays at its name, or whose names were the source and the target of a move, is still
linked after it, unless it is replaced. -/
theorem linked_move {source target : RuntimeName} {inode moved : Nat}
    (hsource : w.find source = some moved) (hne : w.find target ≠ some inode) (h : w.Linked inode) :
    (w.move source target moved).Linked inode := by
  obtain ⟨name, hname⟩ := h
  by_cases hmoved : name = source
  · subst hmoved
    obtain rfl : moved = inode := Option.some.inj (hsource.symm.trans hname)
    exact ⟨target, by rw [find_move, if_pos rfl]⟩
  · have htarget : name ≠ target := by
      rintro rfl
      exact hne hname
    exact ⟨name, by rw [find_move, if_neg htarget, if_neg hmoved, hname]⟩

theorem spares_aside (hsource : w.find r.source = some inode)
    (hfree : w.find (r.aside sequence) = none) :
    r.Spares w (w.move r.source (r.aside sequence) inode) := by
  intro other _
  refine ⟨fun hat => ?_, linked_move hsource (by rw [hfree]; exact nofun)⟩
  rcases hat with hat | ⟨n, hat⟩
  · obtain rfl : inode = other := Option.some.inj (hsource.symm.trans hat)
    exact .inr ⟨sequence, by rw [find_move, if_pos rfl]⟩
  · have hn : r.aside n ≠ r.aside sequence := by
      intro h
      rw [h, hfree] at hat
      cases hat
    by_cases hs : r.aside n = r.source
    · -- The node is at the name itself, so it is the one that was moved.
      rw [hs] at hat
      obtain rfl : inode = other := Option.some.inj (hsource.symm.trans hat)
      exact .inr ⟨sequence, by rw [find_move, if_pos rfl]⟩
    · exact .inr ⟨n, by rw [find_move, if_neg hn, if_neg hs, hat]⟩

theorem spares_unlink (hmoved : w.find (r.aside sequence) = some inode)
    (hremove : r.MayRemove w inode) : r.Spares w (w.unlink (r.aside sequence)) := by
  intro other hother
  have hname : ∀ name, w.find name = some other →
      (w.unlink (r.aside sequence)).find name = some other := by
    intro name hfind
    have hne : name ≠ r.aside sequence := by
      rintro rfl
      obtain rfl : inode = other := Option.some.inj (hmoved.symm.trans hfind)
      exact hother hremove
    rw [find_unlink, if_neg hne, hfind]
  refine ⟨fun hat => ?_, fun ⟨name, hfind⟩ => ⟨name, hname name hfind⟩⟩
  rcases hat with hat | ⟨n, hat⟩
  · exact .inl (hname _ hat)
  · exact .inr ⟨n, hname _ hat⟩

/-- Putting a node back spares everything exactly if no stranger is replaced. -/
theorem spares_putBack_iff
    (hmoved : w.find (r.aside sequence) = some inode) (hsource : w.find r.source ≠ some inode)
    (hkind : ∀ old, w.find r.source = some old → renameError (w.node inode) (w.node old) = none) :
    r.Spares w (w.move (r.aside sequence) r.source inode) ↔ ∀ old, ¬ r.Stranger w inode old := by
  have haside : ∀ n other, other ≠ inode → w.find (r.aside n) = some other →
      r.aside n ≠ r.source →
      (w.move (r.aside sequence) r.source inode).find (r.aside n) = some other := by
    intro n other hother hfind hn
    have hn' : r.aside n ≠ r.aside sequence := by
      intro h
      rw [h, hmoved] at hfind
      exact hother (Option.some.inj hfind).symm
    rw [find_move, if_neg hn, if_neg hn', hfind]
  constructor
  · rintro h old ⟨hold, hremove, -, hnowhere⟩
    -- The stranger lost the name, and it is nowhere aside.
    rcases (h old hremove).1 (.inl hold) with hat | ⟨n, hat⟩
    · rw [find_move, if_pos rfl] at hat
      exact hsource (hold.trans hat.symm)
    · rw [find_move] at hat
      split_ifs at hat with h1 h2
      · exact hsource (hold.trans hat.symm)
      · exact hnowhere n h1 hat
  · intro h other hremove
    by_cases hother : other = inode
    · subst hother
      have hat : (w.move (r.aside sequence) r.source other).find r.source = some other := by
        rw [find_move, if_pos rfl]
      exact ⟨fun _ => .inl hat, fun _ => ⟨_, hat⟩⟩
    · by_cases hold : w.find r.source = some other
      · -- What is at the name is no stranger, so it was aside as well.
        have hstranger := h other
        simp only [Stranger, hold, hremove, hkind other hold, not_false_eq_true, true_and,
          ne_eq, not_forall, not_not] at hstranger
        obtain ⟨n, hs, hn⟩ := hstranger
        have hat := haside n other hother hn hs
        exact ⟨fun _ => .inr ⟨n, hat⟩, fun _ => ⟨_, hat⟩⟩
      · refine ⟨fun hat => ?_, linked_move hmoved hold⟩
        rcases hat with hat | ⟨n, hat⟩
        · exact absurd hat hold
        · by_cases hs : r.aside n = r.source
          · rw [hs] at hat
            exact absurd hat hold
          · exact .inr ⟨n, haside n other hother hat hs⟩

/-- Only a rename can fail to be clear. -/
theorem clear_of_ne (h : ∀ source target, c ≠ .rename source target) : r.Clear c x w :=
  fun _ heq => absurd heq (h _ _)

/-! ### Runs -/

variable (r) in
/-- Every run of the program that starts where `J` holds spares the other nodes exactly if it is
clear. -/
def Agrees (J : World → Prop) (p : Sys Unit) : Prop :=
  ∀ ts w, J w → r.Disturbed p ts w → (r.SparesAll p ts w ↔ r.ClearAll p ts w)

theorem agrees_throw (J : World → Prop) (e : IoError) : r.Agrees J (.throw e) :=
  fun _ _ _ _ => Iff.rfl

theorem agrees_pure (J : World → Prop) : r.Agrees J (.pure ()) := fun _ _ _ _ => Iff.rfl

theorem agrees_ite {c : Prop} [Decidable c] {p q : Sys Unit} (hp : c → r.Agrees J p)
    (hq : ¬ c → r.Agrees J q) : r.Agrees J (if c then p else q) := by
  split
  · exact hp ‹_›
  · exact hq ‹_›

/-- The rule for a command: it spares the others exactly if it is clear, and the rest of the program
goes on from what it leaves. -/
theorem agrees_call (hJ : ∀ w w', J w → r.Others w w' → L w')
    (hc : ∀ w x, L w → (r.Spares w (r.issue c x w).2 ↔ r.Clear c x w))
    (hnext : ∀ w x, L w → K (r.issue c x w).1 (r.issue c x w).2)
    (hk : ∀ reply, r.Agrees (K reply) (k reply)) : r.Agrees J (.call c k) := by
  intro ts w hw hts
  cases ts with
  | nil => exact Iff.rfl
  | cons t ts =>
    obtain ⟨hothers, -, hrest⟩ := hts
    have hw' := hJ w _ hw hothers
    have hiff := hk _ ts _ (hnext _ t.choice hw') hrest
    exact and_congr_right fun _ => and_congr (hc _ _ hw') hiff

theorem agrees_ask (hasks : c.asks = true) (hJ : ∀ w w', J w → r.Others w w' → L w')
    (hnext : ∀ w x, L w → K (r.issue c x w).1 w)
    (hk : ∀ reply, r.Agrees (K reply) (k reply)) : r.Agrees J (.call c k) := by
  refine agrees_call hJ (fun w x _ => ?_) (fun w x hw => ?_) hk
  · have hspares : r.Spares w (r.issue c x w).2 := by
      rw [perform_of_asks hasks]
      exact spares_of_dir fun _ => rfl
    refine iff_of_true hspares fun sequence heq => ?_
    subst heq
    cases hasks
  · rw [perform_of_asks hasks]
    exact hnext w x hw

/-- A node was moved aside. -/
def Aside (r : Removal) (sequence inode : Nat) (w : World) : Prop :=
  r.aside sequence ≠ r.source ∧ w.find (r.aside sequence) = some inode

variable {sequence inode : Nat}

theorem Aside.others (h : r.Aside sequence inode w) (hothers : r.Others w w') :
    r.Aside sequence inode w' :=
  ⟨h.1, (hothers sequence h.1).1.trans h.2⟩

/-- What was moved aside stays what it is. -/
theorem ofStat_of_others (h : r.Aside sequence inode w) (hothers : r.Others w w') :
    Identity.ofStat (w'.statOf r.volume inode) = Identity.ofStat (w.statOf r.volume inode) ∧
      (w'.node inode).kind = (w.node inode).kind := by
  obtain ⟨huid, hkind⟩ := (hothers sequence h.1).2 inode h.2
  refine ⟨?_, hkind⟩
  simp only [Identity.ofStat, statOf, huid]

theorem agrees_unlink :
    r.Agrees (fun w => r.Aside sequence inode w ∧ r.MayRemove w inode)
      (sys (.unlink (r.aside sequence))) := by
  refine agrees_call (L := fun w => r.Aside sequence inode w ∧ r.MayRemove w inode)
    (K := fun _ _ => True) (fun w w' hw hothers => ?_) (fun w x hw => ?_) (fun _ _ _ => trivial)
    fun reply => ?_
  · have hsame := ofStat_of_others hw.1 hothers
    exact ⟨hw.1.others hothers, hsame.1.trans hw.2.1, hsame.2.trans hw.2.2⟩
  · refine iff_of_true ?_ (clear_of_ne nofun)
    rcases perform_unlink (v := r.volume) (q := r.process.pid) (x := x) (d := w)
      (r.aside sequence) with ⟨error, h⟩ | h
    · rw [issue, h]
      exact spares_of_dir fun _ => rfl
    · rw [issue, h]
      exact spares_unlink hw.1.2 hw.2
  · cases reply with
    | ok _ => exact agrees_pure _
    | error e => exact agrees_throw _ _

/-- The rename that puts a node back spares the others exactly if no stranger is at the name. -/
theorem spares_rename_iff (h : r.Aside sequence inode w) :
    r.Spares w
        (NodeDir.perform r.volume r.process.pid (.rename (r.aside sequence) r.source) x w).2 ↔
      r.Clear (.rename (r.aside sequence) r.source) x w := by
  have hclear : r.Clear (.rename (r.aside sequence) r.source) x w ↔
      (x.fault = none → ∀ old, ¬ r.Stranger w inode old) := by
    refine ⟨fun hclear hfault => hclear sequence rfl hfault inode h.2, ?_⟩
    intro hclear n heq hfault moved hmoved
    rw [← (NodeCmd.rename.inj heq).1, h.2] at hmoved
    exact Option.some.inj hmoved ▸ hclear hfault
  rw [hclear]
  cases hfault : x.fault with
  | some error =>
    refine iff_of_true ?_ fun hnone => absurd hnone (Option.some_ne_none error)
    simp only [NodeDir.perform, hfault, performFault]
    exact spares_of_dir fun _ => rfl
  | none =>
    simp only [NodeDir.perform, hfault, performOk, h.2, true_implies]
    cases hsource : w.find r.source with
    | none =>
      have hfree : w.find r.source ≠ some inode := by simp [hsource]
      refine spares_putBack_iff h.2 hfree fun old hold => ?_
      rw [hsource] at hold
      cases hold
    | some old =>
      dsimp only
      split_ifs with hsame
      · -- Both names lead to the node, and nothing happens.
        refine iff_of_true (spares_of_dir fun _ => rfl) ?_
        rintro other ⟨hother, -, -, hnowhere⟩
        rw [hsource, hsame] at hother
        exact hnowhere sequence h.1 (h.2.trans hother)
      cases hrefused : renameError (w.node inode) (w.node old) with
      | some error =>
        refine iff_of_true (spares_of_dir fun _ => rfl) ?_
        rintro other ⟨hother, -, hkind, -⟩
        rw [hsource] at hother
        rw [← Option.some.inj hother, hrefused] at hkind
        cases hkind
      | none =>
        refine spares_putBack_iff h.2 ?_ fun other hother => ?_
        · rw [hsource]
          exact fun heq => hsame (Option.some.inj heq)
        · rw [hsource] at hother
          rw [← Option.some.inj hother, hrefused]

theorem agrees_putBack :
    r.Agrees (r.Aside sequence inode)
      (.call (.rename (r.aside sequence) r.source) fun _ => .throw changedDuringCleanup) :=
  agrees_call (L := r.Aside sequence inode) (K := fun _ _ => True)
    (fun _ _ hw hothers => hw.others hothers) (fun _ _ hw => spares_rename_iff hw)
    (fun _ _ _ => trivial) fun _ => agrees_throw _ _

theorem agrees_settle (sequence inode : Nat) :
    r.Agrees (r.Aside sequence inode)
      (settleQuarantine r.source r.expected r.kind (r.aside sequence)) := by
  -- The first look tells the identity of what was moved.
  refine agrees_ask (L := r.Aside sequence inode)
    (K := fun reply w => r.Aside sequence inode w ∧
      ∀ stat, reply = .ok stat → stat = w.statOf r.volume inode) rfl
    (fun _ _ hw hothers => hw.others hothers) (fun w x hw => ⟨hw, fun stat hstat => ?_⟩)
    fun reply => ?_
  · obtain ⟨found, hfound, rfl⟩ := perform_stat_ok hstat
    rw [hw.2] at hfound
    rw [Option.some.inj hfound]
  cases reply with
  | error e => exact agrees_throw _ _
  | ok moved =>
    -- The second look tells its kind.
    refine agrees_ask
      (L := fun w => r.Aside sequence inode w ∧
        Identity.ofStat moved = .ofStat (w.statOf r.volume inode))
      (K := fun reply w => (r.Aside sequence inode w ∧
        Identity.ofStat moved = .ofStat (w.statOf r.volume inode)) ∧
          ∀ stat, reply = .ok stat → stat = w.statOf r.volume inode) rfl
      (fun w w' hw hothers => ?_) (fun w x hw => ⟨hw, fun stat hstat => ?_⟩) fun reply => ?_
    · refine ⟨hw.1.others hothers, ?_⟩
      rw [(ofStat_of_others hw.1 hothers).1, hw.2 moved rfl]
    · obtain ⟨found, hfound, rfl⟩ := perform_stat_ok hstat
      rw [hw.1.2] at hfound
      rw [Option.some.inj hfound]
    cases reply with
    | error e => exact agrees_throw _ _
    | ok stat =>
      refine agrees_ite (fun hexpected => ?_) fun _ => ?_
      · intro ts w hw
        refine agrees_unlink ts w ⟨hw.1.1, hw.1.2.symm.trans hexpected.1, ?_⟩
        have hkind := hexpected.2
        rw [hw.2 stat rfl] at hkind
        exact hkind
      · refine agrees_ask (L := r.Aside sequence inode)
          (K := fun _ => r.Aside sequence inode) rfl
          (fun _ _ hw hothers => hw.1.1.others hothers) (fun _ _ hw => hw) fun reply => ?_
        cases reply with
        | ok _ => exact agrees_throw _ _
        | error _ => exact agrees_putBack

/-- The loop that moves the node aside, and what follows it. -/
theorem agrees_quarantine (tries : Nat) :
    r.Agrees (fun _ => True)
      ((quarantineNode r.process.pid r.source r.expected r.purpose tries).bind
        (settleQuarantine r.source r.expected r.kind)) := by
  induction tries with
  | zero => exact agrees_throw _ _
  | succ tries ih =>
    refine agrees_call (L := fun _ => True) (K := fun _ _ => True) (fun _ _ _ _ => trivial)
      (fun w x _ => ?_) (fun _ _ _ => trivial) fun reply => ?_
    · refine iff_of_true ?_ (clear_of_ne nofun)
      rw [issue, perform_count]
      exact spares_of_dir fun _ => rfl
    cases reply with
    | error e => exact agrees_throw _ _
    | ok sequence =>
      refine agrees_call (L := fun _ => True)
        (K := fun reply w => reply = .ok () → ∃ inode, r.Aside sequence inode w)
        (fun _ _ _ _ => trivial) (fun w x _ => ?_) (fun w x _ hok => ?_) fun reply => ?_
      · refine iff_of_true ?_ (clear_of_ne nofun)
        rcases perform_renameNew (v := r.volume) (q := r.process.pid) (x := x)
          (d := w) r.source (r.aside sequence) with ⟨error, h⟩ | ⟨inode, hsource, hfree, h⟩
        · exact (congrArg Prod.snd h).symm ▸ spares_of_dir fun _ => rfl
        · exact (congrArg Prod.snd h).symm ▸ spares_aside hsource hfree
      · rcases perform_renameNew (v := r.volume) (q := r.process.pid) (x := x)
          (d := w) r.source (r.aside sequence) with ⟨error, h⟩ | ⟨inode, hsource, hfree, h⟩
        · cases (congrArg Prod.fst h).symm.trans hok
        · refine ⟨inode, ?_, ?_⟩
          · intro heq
            rw [heq, hsource] at hfree
            cases hfree
          · exact (congrArg Prod.snd h).symm ▸ (find_move ..).trans (if_pos rfl)
      · cases reply with
        | ok _ =>
          intro ts w hw
          obtain ⟨inode, haside⟩ := hw rfl
          exact agrees_settle sequence inode ts w haside
        | error e =>
          cases e with
          | «exists» => exact fun ts w _ => ih ts w trivial
          | _ => exact agrees_throw _ _

/-- A call spares all other nodes in a run exactly if no node is put back where another process has
put one in the meantime. -/
theorem removal_spares_iff (r : Removal) (ts : List (Prog.Tick World (NodeChoice RuntimeName)))
    (w : World) (h : r.Disturbed r.program ts w) :
    r.SparesAll r.program ts w ↔ r.ClearAll r.program ts w :=
  agrees_quarantine r.process.tries ts w trivial h

/-! ### Two runs -/

def staleSocket : Removal where
  volume := { device := 1, user := 501 }
  process := { pid := 7, user := 501, tries := 1 }
  source := .socket
  expected := { device := 1, inode := 10, uid := 501 }
  kind := .socket
  purpose := .stale

/-- A socket of the same user. -/
def otherSocket (token : Nat) : Node RuntimeName where
  kind := .socket
  uid := 501
  mode := privateFileMode
  contents := []
  born := .bindStaging token

/-- The socket at the name is not the one that the daemon has seen. -/
def replacedSocket : World :=
  { dir := { entries := ∅, files := fun _ => otherSocket 0 } : World }.put .socket 20
    (otherSocket 2)

/-- Nobody does anything between the commands of the call. -/
def quietTicks (count : Nat) : List (Prog.Tick World (NodeChoice RuntimeName)) :=
  List.replicate count { choice := {} }

theorem others_refl (w : World) : r.Others w w := fun _ _ => ⟨rfl, fun _ _ => ⟨rfl, rfl⟩⟩

theorem staleSocket_disturbed :
    staleSocket.Disturbed staleSocket.program (quietTicks 6) replacedSocket :=
  Prog.respects_of_quiet others_refl (fun _ _ _ => trivial)
    (fun t ht => by rw [List.eq_of_mem_replicate ht]) _ _

/-- Without a competitor, the other socket is moved aside, looked at, and put back. -/
theorem staleSocket_spares :
    staleSocket.Disturbed staleSocket.program (quietTicks 6) replacedSocket ∧
      staleSocket.SparesAll staleSocket.program (quietTicks 6) replacedSocket := by
  refine ⟨staleSocket_disturbed, (removal_spares_iff _ _ _ staleSocket_disturbed).2 ?_⟩
  refine ⟨trivial, clear_of_ne nofun, trivial, clear_of_ne nofun, trivial, clear_of_ne nofun,
    trivial, clear_of_ne nofun, trivial, clear_of_ne nofun, trivial, ?_, trivial⟩
  rintro sequence - - moved - inode ⟨hfind, -⟩
  cases hfind

/-- Another daemon publishes socket 30 at the name, which is free. -/
def competitorTicks : List (Prog.Tick World (NodeChoice RuntimeName)) :=
  quietTicks 5 ++ [{ interfere := fun w => w.put .socket 30 (otherSocket 3), choice := {} }]

def movedAside : World :=
  { replacedSocket with counter := Function.update (fun _ => 1) 7 2 : World }.move .socket
    (staleSocket.aside 1) 20

theorem competitor_others :
    staleSocket.Others movedAside (movedAside.put .socket 30 (otherSocket 3)) := by
  intro sequence _
  refine ⟨rfl, fun inode hfind => ?_⟩
  rw [movedAside, find_move] at hfind
  split_ifs at hfind with h1 h2
  · cases hfind
    exact ⟨rfl, rfl⟩
  · cases hfind

/-- A socket that is published after the look at the name and before the node is put back is
destroyed, although it is not the one to be removed. -/
theorem publication_destroyed :
    staleSocket.Disturbed staleSocket.program competitorTicks replacedSocket ∧
      ¬ staleSocket.SparesAll staleSocket.program competitorTicks replacedSocket := by
  constructor
  · exact ⟨others_refl _, trivial, others_refl _, trivial, others_refl _, trivial, others_refl _,
      trivial, others_refl _, trivial, competitor_others, trivial, trivial⟩
  · rintro ⟨-, -, -, -, -, -, -, -, -, -, -, hlast, -⟩
    have hother := hlast 30 fun h => absurd (congrArg Identity.inode h.1) (by decide)
    rcases hother.1 (.inl rfl) with h | ⟨sequence, h⟩
    · exact absurd h (by decide)
    · cases h

end Removal

end Gascan.RuntimeDir
