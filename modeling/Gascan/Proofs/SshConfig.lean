import Mathlib.Logic.Relation
import Gascan.Cli.SshConfig

/-!
# `Gascan.Proofs.SshConfig`: no edit of the user's SSH configuration is lost

Other programs edit the configuration by renaming a new file over it, at any time while
`atomicReplaceWithHooks` runs. `Scene` is the directory with the list of what is owed to them: each
file they put at the target that no later edit of theirs has replaced there. `Kept` says that every
owed file is still in the directory, at the target or under a name that the call made, unless it
has the very contents that the new text was computed from.

`Kept` can only break where a name is removed or a file is written to. `Disposable` is what the call
knows when it removes a name, and `Spare` what it knows about the file it writes.
-/

namespace Gascan.SshConfig

open Lib Lib.Prog Lib.Directory List

/-! ### Edits of other programs -/

abbrev Disk := Directory String FileData

/-- The directory of the configuration, with the files owed to other programs. -/
structure Scene where
  disk : Disk
  owed : List (Nat × FileData)

/-- A system call of the client. -/
def Scene.perform (v : Lib.Volume) (c : DirCmd String) (x : DirChoice String) (s : Scene) :
    DirReply c × Scene :=
  ((Directory.perform v c x s.disk).1, { s with disk := (Directory.perform v c x s.disk).2 })

/-- The scene when the call starts. What is at the target then was put there by others. -/
def Scene.start (target : String) (disk : Disk) : Scene :=
  { disk, owed := ((disk.find target).map fun inode => (inode, disk.files inode)).toList }

/-- Another program renames a file onto the target. What it replaces there is owed no longer. -/
def Scene.arrive (target : String) (inode : Nat) (file : FileData) (s : Scene) : Scene where
  disk := s.disk.put target inode file
  owed := (inode, file) :: s.owed.filter fun e => s.disk.find target ≠ some e.1

/-- One edit. The file it brings is a new one. -/
def Arrives (target : String) (s s' : Scene) : Prop :=
  ∃ inode file, s.disk.Free inode ∧ s' = s.arrive target inode file

/-- Any number of edits between two system calls. Every system call may fail. -/
def externals (target : String) : Env (DirCmd String) Scene (DirChoice String) where
  rely := Relation.ReflTransGen (Arrives target)
  allows _ _ _ := True

/-- The names that the call uses: the target, a staging name or a recovery name. -/
def Ours (target name : String) : Prop :=
  name = target ∨ (∃ random, name = stagingNameOf random) ∨
    ∃ identity, name = recoveryName target identity

variable {v : Lib.Volume} {directory : SecureDirectory} {r : Replacement} {H : List Nat}
  {I : Scene → Prop} {s s' : Scene} {name staging : String} {fd : Nat} {ε α : Type}

/-- The file has the contents that the replacement was computed from. -/
def Replacement.Replaces (r : Replacement) (file : FileData) : Prop :=
  ∃ previous, r.previous = some previous ∧ file.contents = previous.contents

/-- Every owed file is in the directory, or is the one that is to be replaced. -/
def Kept (r : Replacement) (s : Scene) : Prop :=
  ∀ e ∈ s.owed, r.Replaces e.2 ∨
    ∃ name, Ours r.target name ∧ s.disk.find name = some e.1 ∧ s.disk.files e.1 = e.2

/-- Nothing that has to be kept is lost with the name. -/
def Disposable (r : Replacement) (name : String) (s : Scene) : Prop :=
  ∀ e ∈ s.owed, s.disk.find name = some e.1 → r.Replaces e.2

/-- The file is not one that has to be kept. -/
def Spare (r : Replacement) (inode : Nat) (s : Scene) : Prop :=
  ∀ e ∈ s.owed, e.1 = inode → r.Replaces e.2

theorem kept_start (r : Replacement) (disk : Disk) : Kept r (Scene.start r.target disk) := by
  intro e he
  obtain ⟨inode, hfind, rfl⟩ := Option.map_eq_some_iff.1 (Option.mem_toList.1 he)
  exact .inr ⟨r.target, .inl rfl, hfind, rfl⟩

/-! ### What edits preserve -/

/-- A condition that is not about descriptors, and that edits preserve as long as the files in `H`
are open. -/
structure Steady (r : Replacement) (H : List Nat) (I : Scene → Prop) : Prop where
  descriptors : ∀ s held, I s → I { s with disk := { s.disk with held } }
  arrive : ∀ s inode file, s.disk.Free inode → (∀ k ∈ H, k ≠ inode) → I s →
    I (s.arrive r.target inode file)

variable {inode : Nat} {file : FileData} {toError : Errno → SshConfigError}

theorem mem_owed_arrive {e : Nat × FileData} (he : e ∈ (s.arrive r.target inode file).owed) :
    e = (inode, file) ∨ e ∈ s.owed ∧ s.disk.find r.target ≠ some e.1 := by
  rcases mem_cons.1 he with rfl | he
  · exact .inl rfl
  · obtain ⟨he, hfind⟩ := mem_filter.1 he
    exact .inr ⟨he, of_decide_eq_true hfind⟩

theorem find_arrive (hname : name ≠ r.target) :
    (s.arrive r.target inode file).disk.find name = s.disk.find name := by
  rw [Scene.arrive, find_put, if_neg hname]

/-- An edit keeps what is owed: the new file is at the target, and all others have other names. -/
theorem kept_arrive (hfree : s.disk.Free inode) (h : Kept r s) :
    Kept r (s.arrive r.target inode file) := by
  intro e he
  rcases mem_owed_arrive he with rfl | ⟨he, hfind⟩
  · refine .inr ⟨r.target, .inl rfl, ?_, files_put_self ..⟩
    rw [Scene.arrive, find_put, if_pos rfl]
  · rcases h e he with h | ⟨name, hours, hname, hfile⟩
    · exact .inl h
    · have hne : name ≠ r.target := by
        rintro rfl
        exact hfind hname
      refine .inr ⟨name, hours, by rw [find_arrive hne, hname], ?_⟩
      rw [← hfile]
      exact files_put_of_ne (hfree.ne_of_find hname)

theorem steady_spare (h : fd ∈ H) : Steady r H (Spare r fd) where
  descriptors := fun _ _ h => h
  arrive := by
    intro s inode file _ hheld hspare e he hfd
    rcases mem_owed_arrive he with rfl | ⟨he, _⟩
    · exact absurd hfd.symm (hheld fd h)
    · exact hspare e he hfd

theorem steady_disposable (hname : name ≠ r.target) : Steady r H (Disposable r name) where
  descriptors := fun _ _ h => h
  arrive := by
    intro s inode file hfree _ hdisposable e he hfind
    rw [find_arrive hname] at hfind
    rcases mem_owed_arrive he with rfl | ⟨he, _⟩
    · exact absurd rfl (hfree.ne_of_find hfind)
    · exact hdisposable e he hfind

/-- The name leads to the file it led to before, with the same contents. -/
def Same (s0 : Scene) (name : String) (s : Scene) : Prop :=
  s.disk.find name = s0.disk.find name ∧ ∀ inode, s0.disk.find name = some inode →
    (s.disk.files inode).contents = (s0.disk.files inode).contents

theorem steady_same (s0 : Scene) (hname : name ≠ r.target) : Steady r H (Same s0 name) where
  descriptors := fun _ _ h => h
  arrive := by
    rintro s new file hfree _ ⟨hfind, hcontents⟩
    refine ⟨by rw [find_arrive hname, hfind], fun inode hinode => ?_⟩
    rw [← hcontents inode hinode]
    exact congrArg _ (files_put_of_ne (hfree.ne_of_find (hfind.trans hinode)))

theorem steady_named (hname : name ≠ r.target) (inode : Nat) :
    Steady r H (·.disk.find name = some inode) where
  descriptors := fun _ _ h => h
  arrive := by
    intro s new file _ _ hfind
    rw [find_arrive hname, hfind]

theorem steady_const (p : Prop) : Steady r H fun _ => p := ⟨fun _ _ h => h, fun _ _ _ _ _ h => h⟩

theorem Steady.imp (hI : Steady r H I) (p : Prop) : Steady r H fun s => p → I s where
  descriptors := fun s held h hp => hI.descriptors s held (h hp)
  arrive := fun s inode file hfree hheld h hp => hI.arrive s inode file hfree hheld (h hp)

theorem Steady.and {J : Scene → Prop} (hI : Steady r H I) (hJ : Steady r H J) :
    Steady r H fun s => I s ∧ J s where
  descriptors := fun s held h => ⟨hI.descriptors s held h.1, hJ.descriptors s held h.2⟩
  arrive := fun s inode file hfree hheld h =>
    ⟨hI.arrive s inode file hfree hheld h.1, hJ.arrive s inode file hfree hheld h.2⟩

theorem Steady.mono {H' : List Nat} (hI : Steady r H I) (h : ∀ k ∈ H, k ∈ H') : Steady r H' I where
  descriptors := hI.descriptors
  arrive := fun s inode file hfree hheld =>
    hI.arrive s inode file hfree fun k hk => hheld k (h k hk)

/-! ### Rules for the programs -/

/-- What holds between two system calls: the descriptors that are open, that nothing was lost, and
a further condition. -/
structure Holds (r : Replacement) (H : List Nat) (I : Scene → Prop) (s : Scene) : Prop where
  held : s.disk.held = H
  kept : Kept r s
  also : I s

/-- A program of the client loses nothing in any run. -/
abbrev Safely (v : Lib.Volume) (r : Replacement) (p : Prog (DirCmd String) DirReply ε α)
    (Q : α → Scene → Prop) (E : ε → Scene → Prop) (s : Scene) : Prop :=
  p.wp (Scene.perform v) (externals r.target) (fun _ s' => Kept r s') Q E s

/-- It also ends in a state with `P`, with a result or with an error. -/
abbrev SafelyTo (v : Lib.Volume) (r : Replacement) (p : Prog (DirCmd String) DirReply ε α)
    (P : Scene → Prop) (s : Scene) : Prop := Safely v r p (fun _ => P) (fun _ => P) s

theorem Holds.rely (hI : Steady r H I) (h : Holds r H I s)
    (hrely : (externals r.target).rely s s') : Holds r H I s' := by
  induction hrely with
  | refl => exact h
  | tail _ hstep ih =>
    obtain ⟨inode, file, hfree, rfl⟩ := hstep
    refine ⟨ih.held, kept_arrive hfree ih.kept, hI.arrive _ inode file hfree ?_ ih.also⟩
    intro k hk
    exact hfree.ne_of_held (ih.held ▸ hk)

variable {Q : α → Scene → Prop} {E : ε → Scene → Prop}

variable {c : DirCmd String} {k : DirReply c → Prog (DirCmd String) DirReply ε α}
  {expected : FileIdentity} {previous : PreviousFile} {J : Scene → Prop} {staged : FileIdentity}
  {observed : Option FileIdentity}

/-- One system call: the condition holds when it is made, whatever others did before. -/
theorem safely_call (hI : Steady r H I) (h : Holds r H I s) (step : ∀ s1, Holds r H I s1 → ∀ x,
      Kept r (s1.perform v c x).2 ∧ Safely v r (k (s1.perform v c x).1) Q E (s1.perform v c x).2) :
    Safely v r (.call c k) Q E s :=
  fun s1 hrely x _ => step s1 (h.rely hI hrely) x

theorem safely_asks (hc : c.asks = true) (hI : Steady r H I) (h : Holds r H I s)
    (step : ∀ s1, Holds r H I s1 → ∀ x, Safely v r (k (Directory.perform v c x s1.disk).1) Q E s1) :
    Safely v r (.call c k) Q E s := by
  refine safely_call hI h fun s1 h1 x => ?_
  have hsame : (s1.perform v c x).2 = s1 := by
    rw [Scene.perform, perform_of_asks hc]
  rw [hsame]
  exact ⟨h1.kept, step s1 h1 x⟩

theorem safely_ask (hc : c.asks = true) (hI : Steady r H I) (h : Holds r H I s) :
    SafelyTo v r (call toError c) (Holds r H I) s := by
  refine safely_asks hc hI h fun s1 h1 x => ?_
  cases (Directory.perform v c x s1.disk).1 with
  | ok result => exact h1
  | error error => exact h1

theorem safely_ensure {condition : Bool} {message : String} {E : SshConfigError → Scene → Prop}
    {f : Unit → Prog (DirCmd String) DirReply SshConfigError α} (hE : E (.unsafePath message) s)
    (h : condition = true → Safely v r (f ()) Q E s) :
    Safely v r ((ensure condition message).bind f) Q E s := by
  unfold ensure
  cases condition with
  | true => exact h rfl
  | false => exact hE

theorem safely_fstat (hI : Steady r H I) (h : Holds r H I s) :
    Safely v r (call toError (.fstat fd)) (fun stat s' => Holds r H I s' ∧ stat.inode = fd)
      (fun _ => Holds r H I) s := by
  refine safely_asks rfl hI h fun s1 h1 x => ?_
  cases hstat : (Directory.perform v (.fstat fd) x s1.disk).1 with
  | ok stat =>
    obtain rfl := perform_fstat hstat
    exact ⟨h1, rfl⟩
  | error error => exact h1

theorem safely_fileIdentity (hI : Steady r H I) (h : Holds r H I s) :
    Safely v r (fileIdentity directory name)
      (fun found s' => Holds r H I s' ∧ ∀ identity, found = some identity →
        s'.disk.find name = some identity.inode)
      (fun _ => Holds r H I) s := by
  refine safely_asks rfl hI h fun s1 h1 x => ?_
  cases hstat : (Directory.perform v (.stat name) x s1.disk).1 with
  | ok stat =>
    obtain ⟨inode, hfind, rfl⟩ := perform_stat hstat
    refine safely_ensure h1 fun _ => ?_
    refine ⟨h1, ?_⟩
    rintro identity ⟨rfl⟩
    exact hfind
  | error error =>
    cases error with
    | noEntry => exact ⟨h1, nofun⟩
    | _ => exact h1

/-- A program that owns a descriptor: it is closed again at the end, whatever the result. -/
theorem safely_closing {p : Prog (DirCmd String) DirReply ε α} {J : α → Scene → Prop}
    {K : ε → Scene → Prop} (hJ : ∀ a, Steady r H (J a)) (hK : ∀ e, Steady r H (K e))
    (hp : Safely v r p (fun a => Holds r (fd :: H) (J a)) (fun e => Holds r (fd :: H) (K e)) s) :
    Safely v r (closing fd p) (fun a => Holds r H (J a)) (fun e => Holds r H (K e)) s := by
  have hclose : ∀ {I : Scene → Prop} (result : Except ε α) s1, Steady r H I →
      Holds r (fd :: H) I s1 → (∀ a s', result = .ok a → Holds r H I s' → Holds r H (J a) s') →
      (∀ e s', result = .error e → Holds r H I s' → Holds r H (K e) s') →
      Safely v r (.call (.close fd) fun _ => .ofExcept result)
        (fun a => Holds r H (J a)) (fun e => Holds r H (K e)) s1 := by
    intro I result s1 hI h1 hok herror
    refine safely_call (hI.mono fun _ => mem_cons_of_mem fd) h1 fun s2 h2 x => ?_
    have hback : Holds r H I (s2.perform v (.close fd) x).2 := by
      rw [Scene.perform, perform_close]
      refine ⟨?_, h2.kept, hI.descriptors s2 _ h2.also⟩
      show s2.disk.held.erase fd = H
      rw [h2.held, erase_cons_head]
    exact ⟨hback.kept, (wp_ofExcept result).2
      ⟨fun a ha => hok a _ ha hback, fun e he => herror e _ he hback⟩⟩
  refine wp_handle hp (fun a s1 h1 => hclose _ s1 (hJ a) h1 ?_ nofun)
    (fun e s1 h1 => hclose _ s1 (hK e) h1 nofun ?_)
  · rintro _ _ ⟨rfl⟩ h
    exact h
  · rintro _ _ ⟨rfl⟩ h
    exact h

/-- What a condition says about the file at a name. -/
def Pins (I : Scene → Prop) (name : String) (inode : Nat) (contents : List UInt8) : Prop :=
  ∀ s, I s → s.disk.find name = some inode ∧ (s.disk.files inode).contents = contents

theorem safely_readOpened (name : String) (hI : Steady r H I) (h : Holds r (fd :: H) I s) :
    Safely v r (readOpened directory expected fd)
      (fun bytes => Holds r (fd :: H) fun s' => I s' ∧
        ∀ contents, Pins I name fd contents → bytes = contents.take (maxConfigBytes + 1))
      (fun _ => Holds r (fd :: H) I) s := by
  have hI' : Steady r (fd :: H) I := hI.mono fun _ => mem_cons_of_mem fd
  refine wp_seq (safely_ask rfl hI' h) fun stat s1 h1 => ?_
  refine safely_ensure h1 fun _ => ?_
  refine safely_ensure h1 fun _ => ?_
  refine safely_asks rfl hI' h1 fun s2 h2 x => ?_
  cases hread : (Directory.perform v (.read fd (maxConfigBytes + 1)) x s2.disk).1 with
  | error error => exact h2
  | ok bytes =>
    refine ⟨h2.held, h2.kept, h2.also, fun contents hpins => ?_⟩
    rw [perform_read hread, (hpins s2 h2.also).2]

/-- What was read is the file at the name, as far as the condition says which one that is. -/
def ReadAs (I : Scene → Prop) (name : String) (found : Option (List UInt8 × FileIdentity))
    (s : Scene) : Prop :=
  ∀ bytes identity, found = some (bytes, identity) → s.disk.find name = some identity.inode ∧
    ∀ inode contents, Pins I name inode contents → bytes = contents

theorem safely_readFile (hI : Steady r H I) (h : Holds r H I s) :
    Safely v r (readFile directory name)
      (fun found s' => Holds r H I s' ∧ ReadAs I name found s')
      (fun _ => Holds r H I) s := by
  refine wp_seq (safely_fileIdentity hI h) fun found s1 h1 => ?_
  cases found with
  | none => exact ⟨h1.1, nofun⟩
  | some expected =>
    have hopen : Safely v r (call (.openPath "open SSH configuration") (.openRead name))
        (fun fd s' => Holds r (fd :: H) I s' ∧
          ∀ inode contents, Pins I name inode contents → fd = inode)
        (fun _ => Holds r H I) s1 := by
      refine safely_call hI h1.1 fun s2 h2 x => ?_
      rw [Scene.perform]
      rcases perform_openRead (v := v) (x := x) (d := s2.disk) name with
        ⟨error, hperform⟩ | ⟨fd, hfind, hperform⟩
      · rw [hperform]
        exact ⟨h2.kept, h2⟩
      · rw [hperform]
        refine ⟨h2.kept, ⟨congrArg _ h2.held, h2.kept, hI.descriptors s2 _ h2.also⟩, ?_⟩
        intro inode contents hpins
        rw [(hpins s2 h2.also).1] at hfind
        exact (Option.some.inj hfind).symm
    refine wp_seq hopen fun fd s2 h2 => ?_
    refine wp_seq (safely_closing (fun _ => hI.and (steady_const _)) (fun _ => hI)
      (safely_readOpened name hI h2.1)) fun bytes s3 ⟨hheld, hkept, hI3, hbytes⟩ => ?_
    have h3 : Holds r H I s3 := ⟨hheld, hkept, hI3⟩
    refine safely_ensure h3 fun hlength => ?_
    refine wp_seq (safely_fileIdentity hI h3) fun current s4 h4 => ?_
    refine safely_ensure h4.1 fun hcurrent => ?_
    refine ⟨h4.1, ?_⟩
    rintro _ _ ⟨rfl⟩
    refine ⟨h4.2 expected (of_decide_eq_true hcurrent), fun inode contents hpins => ?_⟩
    obtain rfl := h2.2 inode contents hpins
    -- The limit of the read is one byte above the limit of the length check.
    have hbytes := hbytes contents hpins
    have hlength : bytes.length ≤ maxConfigBytes := of_decide_eq_true hlength
    rw [hbytes, length_take] at hlength
    rw [hbytes, take_of_length_le (by omega)]

theorem safely_entryHasContents {contents : List UInt8} (hI : Steady r H I) (h : Holds r H I s) :
    Safely v r (entryHasContents directory name expected contents : Prog _ _ ε Bool)
      (fun found s' => Holds r H I s' ∧ (found = true → s'.disk.find name = some expected.inode))
      (fun _ _ => False) s := by
  refine wp_handle (safely_readFile hI h) (fun found s1 h1 => ⟨h1.1, fun hfound => ?_⟩)
    (fun e s1 h1 => ⟨h1, fun hfound => nomatch of_decide_eq_true hfound⟩)
  cases found with
  | none => exact nomatch of_decide_eq_true hfound
  | some file =>
    obtain rfl : file = (contents, expected) := Option.some.inj (of_decide_eq_true hfound)
    exact (h1.2 _ _ rfl).1

theorem safely_entryIdentity (hI : Steady r H I) (h : Holds r H I s) :
    SafelyTo v r (entryIdentity name) (Holds r H I) s := by
  refine safely_asks rfl hI h fun s1 h1 x => ?_
  cases (Directory.perform v (.stat name) x s1.disk).1 with
  | ok stat => exact h1
  | error error => cases error <;> exact h1

/-! ### Moving, writing and removing files -/

/-- Two of the call's names trade their files. -/
theorem kept_swap {left right : String} {i j : Nat} (hleft : Ours r.target left)
    (hright : Ours r.target right) (hi : s.disk.find left = some i)
    (hj : s.disk.find right = some j) (h : Kept r s) :
    Kept r { s with disk := s.disk.swap left right i j } := by
  intro e he
  refine (h e he).imp_right ?_
  rintro ⟨name, hours, hname, hfile⟩
  by_cases hnl : name = left
  · subst hnl
    obtain rfl : i = e.1 := Option.some.inj (hi.symm.trans hname)
    refine ⟨right, hright, ?_, hfile⟩
    rw [find_swap, if_pos rfl]
  · by_cases hnr : name = right
    · subst hnr
      obtain rfl : j = e.1 := Option.some.inj (hj.symm.trans hname)
      refine ⟨left, hleft, ?_, hfile⟩
      rw [find_swap, if_neg (Ne.symm hnl), if_pos rfl]
    · refine ⟨name, hours, ?_, hfile⟩
      rw [find_swap, if_neg hnr, if_neg hnl, hname]

/-- A file takes another of the call's names, which nothing had. -/
theorem kept_move {source target : String} {i : Nat} (htarget : Ours r.target target)
    (hi : s.disk.find source = some i) (hnone : s.disk.find target = none) (h : Kept r s) :
    Kept r { s with disk := s.disk.move source target i } := by
  intro e he
  refine (h e he).imp_right ?_
  rintro ⟨name, hours, hname, hfile⟩
  by_cases hns : name = source
  · subst hns
    obtain rfl : i = e.1 := Option.some.inj (hi.symm.trans hname)
    refine ⟨target, htarget, ?_, hfile⟩
    rw [find_move, if_pos rfl]
  · have hnt : name ≠ target := by
      rintro rfl
      exact nomatch hnone.symm.trans hname
    refine ⟨name, hours, ?_, hfile⟩
    rw [find_move, if_neg hnt, if_neg hns, hname]

theorem kept_store (hspare : Spare r fd s) (h : Kept r s) :
    Kept r { s with disk := s.disk.store fd file } := by
  intro e he
  by_cases hfd : e.1 = fd
  · exact .inl (hspare e he hfd)
  · refine (h e he).imp_right ?_
    rintro ⟨name, hours, hname, hfile⟩
    exact ⟨name, hours, hname, (files_store_of_ne hfd).trans hfile⟩

theorem kept_unlink (hname : Disposable r name s) (h : Kept r s) :
    Kept r { s with disk := s.disk.unlink name } := by
  intro e he
  rcases h e he with h | ⟨other, hours, hother, hfile⟩
  · exact .inl h
  · by_cases heq : other = name
    · subst heq
      exact .inl (hname e he hother)
    · refine .inr ⟨other, hours, ?_, hfile⟩
      rw [find_unlink, if_neg heq, hother]

/-- A file that is at one of the call's names and has the previous contents may be removed. -/
theorem disposable_of_contents (hprevious : r.previous = some previous)
    (hfind : s.disk.find name = some inode)
    (hcontents : (s.disk.files inode).contents = previous.contents) (h : Kept r s) :
    Disposable r name s := by
  intro e he hname
  rcases h e he with h | ⟨other, _, hother, hfile⟩
  · exact h
  · obtain rfl : inode = e.1 := Option.some.inj (hfind.symm.trans hname)
    rw [← hfile]
    exact ⟨previous, hprevious, hcontents⟩

theorem Spare.disposable (hspare : Spare r fd s) (hfind : s.disk.find name = some fd) :
    Disposable r name s :=
  fun e he hname => hspare e he (Option.some.inj (hname.symm.trans hfind))

theorem disposable_of_absent (hfind : s.disk.find name = none) : Disposable r name s :=
  fun _ _ hname => nomatch hfind.symm.trans hname

/-! ### The parts of a replacement -/

/-- The exchange of the staging file and the target, for a condition that is about neither name. -/
theorem safely_exchange (hstaging : Ours r.target staging) (hI : Steady r H I)
    (hJ : ∀ (s : Scene) disk, I s → J { s with disk }) (h : Holds r H I s) :
    Safely v r (call toError (.exchange staging r.target)) (fun _ => Holds r H J)
      (fun _ => Holds r H I) s := by
  refine safely_call hI h fun s1 h1 x => ?_
  rw [Scene.perform]
  rcases perform_exchange (v := v) (x := x) (d := s1.disk) staging r.target with
    ⟨error, hperform⟩ | ⟨i, j, hi, hj, hperform⟩
  · rw [hperform]
    exact ⟨h1.kept, h1⟩
  · rw [hperform]
    have hkept := kept_swap hstaging (.inl rfl) hi hj h1.kept
    exact ⟨hkept, h1.held, hkept, hJ s1 _ h1.also⟩

theorem safely_renameNew {toError : Errno → SshConfigError} {target : String} {J : Scene → Prop}
    (htarget : Ours r.target target) (hI : Steady r H I)
    (hJ : ∀ (s : Scene) i, I s → s.disk.find staging = some i → s.disk.find target = none →
      J { s with disk := s.disk.move staging target i }) (h : Holds r H I s) :
    Safely v r (call toError (.renameNew staging target)) (fun _ => Holds r H J)
      (fun _ => Holds r H I) s := by
  refine safely_call hI h fun s1 h1 x => ?_
  rw [Scene.perform]
  rcases perform_renameNew (v := v) (x := x) (d := s1.disk) staging target with
    ⟨error, hperform⟩ | ⟨i, hi, hnone, hperform⟩
  · rw [hperform]
    exact ⟨h1.kept, h1⟩
  · rw [hperform]
    have hkept := kept_move htarget hi hnone h1.kept
    exact ⟨hkept, h1.held, hkept, hJ s1 i h1.also hi hnone⟩

theorem safely_preserve {identity : FileIdentity} (h : Holds r H (fun _ => True) s) :
    SafelyTo v r (preserveStagingForRecovery r.target staging identity)
      (Holds r H fun _ => True) s := by
  have hI : Steady r H fun _ => True := steady_const True
  refine wp_seq (safely_entryIdentity hI h) fun source s1 h1 => ?_
  refine safely_ensure h1 fun _ => ?_
  have hours : Ours r.target (recoveryName r.target identity) := Or.inr (.inr ⟨identity, rfl⟩)
  refine wp_seq (safely_renameNew (J := fun _ => True) hours hI (fun _ _ _ _ _ => trivial) h1)
    fun _ s2 h2 => ?_
  refine wp_seq (safely_entryIdentity hI h2) fun kept s3 h3 => ?_
  refine safely_ensure h3 fun _ => ?_
  exact safely_ask rfl hI h3

/-- The staging name leads to the call's own file. -/
def Staged (r : Replacement) (staging : String) (fd : Nat) (s : Scene) : Prop :=
  s.disk.find staging = some fd ∧ Spare r fd s

theorem steady_staged (hstaging : staging ≠ r.target) (hfd : fd ∈ H) :
    Steady r H (Staged r staging fd) :=
  (steady_named hstaging fd).and (steady_spare hfd)

theorem Staged.disposable (h : Staged r staging fd s) : Disposable r staging s :=
  h.2.disposable h.1

theorem Holds.store (h : Holds r H (Staged r staging fd) s) :
    Holds r H (Staged r staging fd) { s with disk := s.disk.store fd file } :=
  ⟨h.held, kept_store h.also.2 h.kept, h.also⟩

theorem safely_writeStaging (hstaging : staging ≠ r.target) (hfd : fd ∈ H)
    (h : Holds r H (Staged r staging fd) s) :
    Safely v r (writeStaging directory r fd)
      (fun staged s' => Holds r H (Staged r staging fd) s' ∧ staged.inode = fd)
      (fun _ => Holds r H (Staged r staging fd)) s := by
  have hI : Steady r H (Staged r staging fd) := steady_staged hstaging hfd
  have hchmod : SafelyTo v r (call (.io "secure SSH configuration staging file") (.chmod fd r.mode))
    (Holds r H (Staged r staging fd)) s := by
    refine safely_call hI h fun s1 h1 x => ?_
    rw [Scene.perform]
    rcases perform_chmod (v := v) (x := x) (d := s1.disk) fd r.mode with
      ⟨error, hperform⟩ | hperform
    · rw [hperform]
      exact ⟨h1.kept, h1⟩
    · rw [hperform]
      exact ⟨h1.store.kept, h1.store⟩
  have hwrite : ∀ s1, Holds r H (Staged r staging fd) s1 →
      SafelyTo v r (call (.io "write SSH configuration") (.write fd r.contents))
        (Holds r H (Staged r staging fd)) s1 := by
    intro s1 h1
    refine safely_call hI h1 fun s2 h2 x => ?_
    rw [Scene.perform]
    rcases perform_write (v := v) (x := x) (d := s2.disk) fd r.contents with
      ⟨error, part, hperform⟩ | hperform
    · rw [hperform]
      exact ⟨h2.store.kept, h2.store⟩
    · rw [hperform]
      exact ⟨h2.store.kept, h2.store⟩
  refine wp_seq hchmod fun _ s1 h1 => ?_
  refine wp_seq (safely_fstat hI h1) fun stat s2 h2 => ?_
  refine safely_ensure h2.1 fun _ => ?_
  refine safely_ensure h2.1 fun _ => ?_
  refine wp_seq (hwrite _ h2.1) fun _ s3 h3 => ?_
  refine wp_seq (safely_ask rfl hI h3) fun _ s4 h4 => ?_
  refine wp_seq (safely_ask rfl hI h4) fun _ s5 h5 => ?_
  refine wp_seq (safely_fileIdentity hI h5) fun current s6 h6 => ?_
  refine safely_ensure h6.1 fun _ => ?_
  refine (wp_bind _ _).2 ((wp_ofExcept _).2 ⟨fun _ _ => ⟨h6.1, h2.2⟩, fun _ _ => h6.1⟩)

/-- If the file at the staging name is found to be the previous one, it may be removed. -/
theorem safely_observeStaging (hprevious : r.previous = some previous)
    (hstaging : staging ≠ r.target) (hI : Steady r H I) (h : Holds r H I s) :
    Safely v r (observeStaging directory staging previous)
      (fun result => Holds r H fun s' => I s' ∧ (result.1 = true → Disposable r staging s'))
      (fun _ => Holds r H I) s := by
  have hsame : Steady r H fun s' => I s' ∧ Same s staging s' := hI.and (steady_same s hstaging)
  have hstart : Holds r H (fun s' => I s' ∧ Same s staging s') s :=
    ⟨h.held, h.kept, h.also, rfl, fun _ _ => rfl⟩
  -- A file that could not be read is none, and is not taken for the previous one.
  have hrest : ∀ found s1, Holds r H (fun s' => I s' ∧ Same s staging s') s1 →
      ReadAs (fun s' => I s' ∧ Same s staging s') staging found s1 →
      Safely v r
        ((entryIdentity staging).bind fun entry =>
          .pure (decide (found = some (previous.contents, previous.identity)),
            (found.map Prod.snd).or entry))
        (fun result => Holds r H fun s' => I s' ∧ (result.1 = true → Disposable r staging s'))
        (fun _ => Holds r H I) s1 := by
    intro found s1 h1 hfound
    have hentry : Safely v r (entryIdentity staging) _ _ s1 := safely_entryIdentity hsame h1
    refine wp_seq (wp_imp_error ?_ hentry) fun entry s2 h2 => ?_
    · exact fun _ s2 h2 => ⟨h2.held, h2.kept, h2.also.1⟩
    · refine ⟨h2.held, h2.kept, h2.also.1, fun htrue => ?_⟩
      obtain ⟨hfind, hpins⟩ := hfound _ _ (of_decide_eq_true htrue)
      rw [h1.also.2.1] at hfind
      have hbytes := hpins _ _ fun s' hs' => ⟨hs'.2.1.trans hfind, hs'.2.2 _ hfind⟩
      exact disposable_of_contents hprevious (h2.also.2.1.trans hfind)
        ((h2.also.2.2 _ hfind).trans hbytes.symm) h2.kept
  exact wp_handle (safely_readFile hsame hstart) (fun found s1 h1 => hrest found s1 h1.1 h1.2)
    (fun e s1 h1 => hrest none s1 h1 nofun)

theorem Holds.weaken (h : Holds r H I s) (hJ : I s → J s) : Holds r H J s :=
  ⟨h.held, h.kept, hJ h.also⟩

/-- A part of the closure whose errors all come with one value of the flag. -/
theorem safely_flagged {p : ConfigIo α} {flag : Bool} {K : Scene → Prop} {Q : α → Scene → Prop}
    (hK : ∀ s', K s' → flag = true → Disposable r staging s')
    (hp : Safely v r p Q (fun _ => Holds r H K) s) :
    Safely v r (p.mapError (·, flag)) Q
      (fun e => Holds r H fun s' => e.2 = true → Disposable r staging s') s :=
  (wp_mapError _ p).2
    (wp_imp_error (fun _ s' h => h.weaken (hK s')) hp)

theorem safely_confirm (hI : Steady r H I) (h : Holds r H I s) :
    SafelyTo v r (confirm directory r) (Holds r H I) s := by
  refine wp_seq (safely_ask rfl hI h) fun _ s1 h1 => ?_
  refine wp_seq (safely_fileIdentity hI h1) fun current s2 h2 => ?_
  unfold ensure
  split <;> exact h2.1

theorem safely_removePrevious (hstaging : staging ≠ r.target)
    (h : Holds r H (Disposable r staging) s) :
    SafelyTo v r (removePrevious directory r staging staged) (Holds r H fun _ => True) s := by
  have hI : Steady r H (Disposable r staging) := steady_disposable hstaging
  have hforget : ∀ s', Holds r H (Disposable r staging) s' → Holds r H (fun _ => True) s' :=
    fun s' h => h.weaken fun _ => trivial
  refine wp_seq (wp_imp_error (fun _ => hforget)
    (safely_fileIdentity hI h)) fun current s1 h1 => ?_
  refine safely_ensure (hforget s1 h1.1) fun _ => ?_
  refine safely_call hI h1.1 fun s2 h2 x => ?_
  rw [Scene.perform]
  rcases perform_unlink (v := v) (x := x) (d := s2.disk) staging with
    ⟨error, hperform⟩ | hperform
  · rw [hperform]
    exact ⟨h2.kept, hforget s2 h2⟩
  · rw [hperform]
    have hkept := kept_unlink h2.also h2.kept
    exact ⟨hkept, h2.held, hkept, trivial⟩

/-- The file at the staging name is kept for recovery, if there is one, and the call gives up. -/
theorem safely_preserve_throw {error : SshConfigError} (h : Holds r H (fun _ => True) s) :
    Safely v r
      ((observed.elim (Pure.pure ()) fun identity =>
        (preserveStagingForRecovery r.target staging identity).mapError (·, false)).bind fun _ =>
          (.throw (error, false) : Publishing Unit))
      (fun _ => Holds r H fun _ => True)
      (fun e => Holds r H fun s' => e.2 = true → Disposable r staging s') s := by
  cases observed with
  | none => exact h.weaken fun _ => nofun
  | some identity =>
    refine wp_seq (safely_flagged nofun (safely_preserve h)) fun _ s1 h1 => ?_
    exact h1.weaken fun _ => nofun

/-- The new file may be removed in the end if it came back to the staging name. -/
theorem safely_rollBack (hours : Ours r.target staging) (hfd : staged.inode ∈ H)
    (h : Holds r H (Spare r staged.inode) s) :
    Safely v r (rollBack directory r staging staged observed) (fun _ => Holds r H fun _ => True)
      (fun e => Holds r H fun s' => e.2 = true → Disposable r staging s') s := by
  have hI : Steady r H (Spare r staged.inode) := steady_spare hfd
  have hforget : ∀ s', Holds r H (Spare r staged.inode) s' → Holds r H (fun _ => True) s' :=
    fun s' h => h.weaken fun _ => trivial
  have hhook : SafelyTo v r (.ofExcept r.beforeRollback : ConfigIo Unit)
    (Holds r H (Spare r staged.inode)) s :=
    (wp_ofExcept _).2 ⟨fun _ _ => h, fun _ _ => h⟩
  refine wp_seq (safely_flagged nofun hhook) fun _ s1 h1 => ?_
  refine wp_seq (wp_imp_error (fun _ _ => False.elim)
    (safely_entryHasContents hI h1)) fun untouched s2 h2 => ?_
  cases untouched with
  | false => exact safely_preserve_throw (hforget s2 h2.1)
  | true =>
    refine wp_seq (safely_flagged nofun
      (safely_exchange hours hI (J := Spare r staged.inode) (fun _ _ h => h) h2.1))
      fun _ s3 h3 => ?_
    refine wp_seq (safely_flagged nofun (safely_ask rfl hI h3)) fun _ s4 h4 => ?_
    refine wp_seq (wp_imp_error (fun _ _ => False.elim)
      (safely_entryHasContents hI h4)) fun back s5 h5 => ?_
    cases back with
    | true => exact h5.1.weaken fun hspare _ => hspare.disposable (h5.2 rfl)
    | false =>
      refine wp_seq (safely_flagged nofun (safely_entryIdentity hI h5.1))
        fun restored s6 h6 => ?_
      exact safely_preserve_throw (hforget s6 h6)

theorem safely_publish (hours : Ours r.target staging) (hstaging : staging ≠ r.target)
    (hfd : fd ∈ H) (h : Holds r H (Staged r staging fd) s) :
    Safely v r (publish directory r staging fd) (fun _ => Holds r H fun _ => True)
      (fun e => Holds r H fun s' => e.2 = true → Disposable r staging s') s := by
  have hI : Steady r H (Staged r staging fd) := steady_staged hstaging hfd
  refine wp_seq (safely_flagged (fun _ h _ => h.disposable) (safely_writeStaging hstaging hfd h))
    fun staged s1 ⟨h1, hinode⟩ => ?_
  subst hinode
  cases hprevious : r.previous with
  | some previous =>
    refine wp_seq (safely_flagged (fun _ h _ => h.disposable)
      (safely_exchange hours hI (J := Spare r staged.inode) (fun _ _ h => h.2) h1))
      fun _ s2 h2 => ?_
    refine wp_seq (safely_flagged nofun
      (safely_observeStaging hprevious hstaging (steady_spare hfd) h2)) fun result s3 h3 => ?_
    obtain ⟨preserved, observed⟩ := result
    cases preserved with
    | false => exact safely_rollBack hours hfd (h3.weaken And.left)
    | true =>
      refine wp_seq (safely_flagged nofun
        (safely_removePrevious hstaging (h3.weaken fun h => h.2 rfl))) fun _ s4 h4 => ?_
      exact safely_flagged nofun (safely_confirm (steady_const True) h4)
  | none =>
    refine wp_seq (safely_flagged (fun _ h _ => h.disposable)
      (safely_renameNew (.inl rfl) hI (J := Disposable r staging) ?_ h1)) fun _ s2 h2 => ?_
    · intro s' i _ _ _
      refine disposable_of_absent ?_
      rw [find_move, if_neg hstaging, if_pos rfl]
    · refine wp_imp (fun _ s' h => h.weaken fun _ => trivial) (fun _ _ h => h)
        (safely_flagged (fun _ h _ => h) (safely_confirm (steady_disposable hstaging) h2))

/-- A new file of the call under a new name. -/
theorem Holds.create (hnone : s.disk.find staging = none) (hfree : s.disk.Free fd)
    (h : Holds r H (fun _ => True) s) :
    Holds r (fd :: H) (Staged r staging fd)
      { s with disk := (s.disk.put staging fd file).hold fd } := by
  refine ⟨congrArg _ h.held, fun e he => (h.kept e he).imp_right ?_, ?_, fun e he hfd => ?_⟩
  · rintro ⟨name, hours, hname, hfile⟩
    have hne : name ≠ staging := by
      rintro rfl
      exact nomatch hnone.symm.trans hname
    refine ⟨name, hours, ?_, ?_⟩
    · rw [find_hold, find_put, if_neg hne, hname]
    · rw [← hfile]
      exact files_store_of_ne (hfree.ne_of_find hname)
  · rw [find_hold, find_put, if_pos rfl]
  · rcases h.kept e he with h | ⟨name, _, hname, _⟩
    · exact h
    · exact absurd hfd (hfree.ne_of_find hname)

theorem safely_atomicReplaceWithHooks (htarget : ∀ random, r.target ≠ stagingNameOf random)
    (h : Holds r H (fun _ => True) s) :
    SafelyTo v r (atomicReplaceWithHooks directory r) (Kept r) s := by
  have hI : Steady r H fun _ => True := steady_const True
  have hkept : ∀ s', Holds r H (fun _ => True) s' → Kept r s' := fun _ h => h.kept
  refine safely_ensure h.kept fun _ => ?_
  refine (wp_bind _ _).2 (wp_seq (wp_imp_error (fun _ => hkept)
    (safely_ask rfl hI h)) fun random s1 h1 => ?_)
  have hours : Ours r.target (stagingNameOf random) := Or.inr (.inl ⟨random, rfl⟩)
  have hstaging : stagingNameOf random ≠ r.target := (htarget random).symm
  have hcreate : Safely v r
      (call (.io "create SSH configuration staging file") (.create (stagingNameOf random) r.mode))
      (fun fd => Holds r (fd :: H) (Staged r (stagingNameOf random) fd)) (fun _ => Kept r) s1 := by
    refine safely_call hI h1 fun s2 h2 x => ?_
    rw [Scene.perform]
    rcases perform_create (v := v) (x := x) (d := s2.disk) (stagingNameOf random) r.mode
      with ⟨error, hperform⟩ | ⟨hnone, hfree, file, hperform⟩
    · rw [hperform]
      exact ⟨h2.kept, h2.kept⟩
    · rw [hperform]
      exact ⟨(h2.create hnone hfree).kept, h2.create hnone hfree⟩
  refine wp_seq hcreate fun fd s2 h2 => ?_
  refine wp_handle (safely_closing (fun _ => hI)
    (fun e => (steady_disposable hstaging).imp (e.2 = true))
    (safely_publish hours hstaging mem_cons_self h2)) (fun _ s3 h3 => h3.kept) ?_
  rintro ⟨error, cleanup⟩ s3 h3
  cases cleanup with
  | false => exact h3.kept
  | true =>
    refine safely_call ((steady_disposable hstaging).imp _) h3 fun s4 h4 x => ?_
    rw [Scene.perform]
    rcases perform_unlink (v := v) (x := x) (d := s4.disk) (stagingNameOf random) with
      ⟨_, hperform⟩ | hperform
    · rw [hperform]
      exact ⟨h4.kept, h4.kept⟩
    · rw [hperform]
      exact ⟨kept_unlink (h4.also rfl) h4.kept, kept_unlink (h4.also rfl) h4.kept⟩

/-! ### Runs -/

/-- One edit, by a program that has a new file. -/
def edit (target : String) (inode : Nat) (file : FileData) (s : Scene) : Scene :=
  if s.disk.Free inode then s.arrive target inode file else s

theorem rely_edit (target : String) (inode : Nat) (file : FileData) (s : Scene) :
    (externals target).rely s (edit target inode file s) := by
  unfold edit
  by_cases hfree : s.disk.Free inode
  · rw [if_pos hfree]
    exact .single ⟨inode, file, hfree, rfl⟩
  · rw [if_neg hfree]
    exact .refl

/-- For any edits of other programs between any two system calls, and whichever calls fail, a
replacement of the configuration loses no edit: every file that another program put at the target,
and that no later edit replaced there, is at the target or under a name that the call made, unless
it has the contents the replacement was computed from. -/
theorem edits_kept (v : Lib.Volume) (directory : SecureDirectory) (r : Replacement)
    (htarget : r.target.toList.head? ≠ some '.') (disk : Disk)
    (ts : List (Tick Scene (DirChoice String)))
    (hts : (atomicReplaceWithHooks directory r).Respects (Scene.perform v) (externals r.target) ts
      (Scene.start r.target disk)) :
    Kept r ((atomicReplaceWithHooks directory r).run (Scene.perform v) ts
      (Scene.start r.target disk)).2 := by
  have hhidden : ∀ random, r.target ≠ stagingNameOf random := by
    intro random heq
    refine htarget ?_
    rw [heq, stagingNameOf, String.toList_append]
    rfl
  have hstart := kept_start r disk
  refine run_invariant _ ts (safely_atomicReplaceWithHooks hhidden ⟨rfl, hstart, trivial⟩) hts ?_
    (fun _ _ h _ => h) hstart
  intro s s' hrely h
  exact (Holds.rely (steady_const True) ⟨rfl, h, trivial⟩ hrely).kept

section Example

/-- A configuration with the given contents. -/
def configFile (contents : List UInt8) : FileData :=
  { kind := .regular, uid := 501, nlink := 1, mode := 0o600, contents }

def addInclude : Replacement where
  target := "config"
  previous := some { identity := { device := 1, inode := 1, mode := 0o600 }, contents := [1] }
  contents := [2, 1]

/-- The directory the replacement was computed in. -/
def sshDirectory : Disk :=
  { entries := AList.singleton "config" 1, files := fun _ => configFile [1] }

/-- Another program edits the configuration right before the exchange. -/
def editBeforeExchange : List (Tick Scene (DirChoice String)) :=
  List.replicate 8 { choice := { inode := 7 } } ++
    { interfere := edit "config" 5 (configFile [3]), choice := {} } ::
      List.replicate 24 { choice := {} }

theorem editBeforeExchange_kept :
    (((atomicReplaceWithHooks ⟨501⟩ addInclude).run (Scene.perform ⟨1, 501⟩) editBeforeExchange
        (Scene.start "config" sshDirectory)).2.owed = [(5, configFile [3])]) ∧
      Kept addInclude ((atomicReplaceWithHooks ⟨501⟩ addInclude).run (Scene.perform ⟨1, 501⟩)
        editBeforeExchange (Scene.start "config" sshDirectory)).2 := by
  refine ⟨by decide +kernel, ?_⟩
  refine edits_kept ⟨1, 501⟩ ⟨501⟩ addInclude (by decide) sshDirectory editBeforeExchange ?_
  refine respects_of_ticks (fun _ _ _ => trivial) (fun t ht s => ?_) _ _
  simp only [editBeforeExchange, mem_append, mem_cons, mem_replicate] at ht
  rcases ht with ⟨_, rfl⟩ | rfl | ⟨_, rfl⟩
  · exact .refl
  · exact rely_edit "config" 5 (configFile [3]) s
  · exact .refl

end Example

end Gascan.SshConfig
