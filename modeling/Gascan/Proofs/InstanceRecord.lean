import Mathlib.Logic.Relation
import Gascan.Cli.InstanceRecord

/-!
# `Gascan.Proofs.InstanceRecord`: whether a read returns the current record

`readInstanceRecord` closes the record before its last look at the instance name, and compares file
numbers only. `read_returns_current` says that it returns the record at the name of that look, as
long as no other process writes to the file that was opened or gives its number to a new one before.
`read_returns_retired` is a run in which the number is reused.
-/

namespace Gascan.RuntimeDir.Reading

open Lib Lib.Prog Lib.NodeDir

/-- The runtime directory, with the file that the reader opened last. -/
structure View where
  dir : NodeDir RuntimeName
  file : Option Nat := none

/-- The file that a call opens. -/
def opens : (c : NodeCmd RuntimeName) → NodeReply c → Option Nat
  | .openFile .., .ok inode => some inode
  | _, _ => none

/-- A system call of the reader. -/
def look (v : Lib.Volume) (pid : Nat) (c : NodeCmd RuntimeName) (x : NodeChoice RuntimeName)
    (w : View) : NodeReply c × View :=
  let done := NodeDir.perform v pid c x w.dir
  (done.1, ⟨done.2, opens c done.1 <|> w.file⟩)

/-- The call neither writes to the file nor gives its number to a new one. -/
def Leaves (inode : Nat) : NodeCmd RuntimeName → NodeChoice RuntimeName → Prop
  | .write fd _, _ | .truncate fd, _ => fd ≠ inode
  | .create .., x | .listen _, x | .mkdir .., x => x.inode ≠ inode
  | _, _ => True

/-- What another process does: a system call that leaves the file of the reader, or its end. -/
inductive Step (v : Lib.Volume) (pid : Nat) : View → View → Prop where
  | call {w : View} (q : Nat) (c : NodeCmd RuntimeName) (x : NodeChoice RuntimeName) (hq : q ≠ pid)
      (hleaves : ∀ inode ∈ w.file, Leaves inode c x) :
      Step v pid w { w with dir := (NodeDir.perform v q c x w.dir).2 }
  | leave {w : View} (q : Nat) (hq : q ≠ pid) : Step v pid w { w with dir := w.dir.leave q }

/-- Between two calls of the reader, others take any number of steps. -/
def readEnv (v : Lib.Volume) (pid : Nat) :
    Prog.Env (NodeCmd RuntimeName) View (NodeChoice RuntimeName) where
  rely := Relation.ReflTransGen (Step v pid)
  allows _ _ _ := True

/-- The record is the one at the instance name, and all of it. -/
def Current (codec : RecordCodec) (record : DaemonInstanceRecord) (w : View) : Prop :=
  ∃ inode, w.dir.find .instanceRecord = some inode ∧
    parseRecord codec (w.dir.node inode).contents = .ok record

/-! ### What others keep -/

variable {v : Lib.Volume} {pid q inode : Nat} {bytes contents : List UInt8} {w w' : View}
  {α : Type}

theorem contents_store_mode (d : NodeDir RuntimeName) (fd mode inode : Nat) :
    ((d.store fd { d.node fd with mode }).node inode).contents = (d.node inode).contents := by
  by_cases hfd : inode = fd
  · rw [hfd, node_store_self]
  · rw [node_store_of_ne hfd]

theorem contents_put_self (d : NodeDir RuntimeName) (name : RuntimeName) (linked inode : Nat) :
    ((d.put name linked (d.node linked)).node inode).contents = (d.node inode).contents := by
  by_cases hlinked : inode = linked
  · rw [hlinked, node_put_self]
  · rw [node_put_of_ne hlinked]

variable {c : NodeCmd RuntimeName} {x : NodeChoice RuntimeName}

theorem contents_perform (h : Leaves inode c x) (d : NodeDir RuntimeName) :
    ((NodeDir.perform v q c x d).2.node inode).contents = (d.node inode).contents := by
  unfold NodeDir.perform
  cases x.fault with
  | some error => cases c <;> rfl
  | none =>
    cases c with
    | write fd data | truncate fd => exact congrArg _ (node_store_of_ne (Ne.symm h))
    | chmod fd mode => exact contents_store_mode d fd mode inode
    | chmodAt name mode =>
      simp only [performOk]
      split
      · rfl
      · exact contents_store_mode ..
    | create name mode | listen name | mkdir name mode =>
      simp only [performOk]
      split_ifs
      · rfl
      · exact congrArg _ (node_put_of_ne (Ne.symm h))
      · rfl
    | link source target =>
      simp only [performOk]
      repeat' split
      all_goals first | rfl | exact contents_put_self ..
    | openFile | stat | rename | renameNew | unlink | connect =>
      simp only [performOk]
      repeat' split
      all_goals rfl
    | _ => rfl

/-- The reader has opened a file, which has the given contents. -/
structure Holds (inode : Nat) (contents : List UInt8) (w : View) : Prop where
  file : w.file = some inode
  contents : (w.dir.node inode).contents = contents

theorem Holds.step (h : Holds inode contents w) (hstep : Step v pid w w') :
    Holds inode contents w' := by
  cases hstep with
  | call q c x hq hleaves =>
    exact ⟨h.file, (contents_perform (hleaves inode h.file) w.dir).trans h.contents⟩
  | leave q hq => exact ⟨h.file, h.contents⟩

theorem Holds.rely (h : Holds inode contents w) (hrely : (readEnv v pid).rely w w') :
    Holds inode contents w' := by
  induction hrely with
  | refl => exact h
  | tail _ hstep ih => exact ih.step hstep

theorem Holds.look (h : Holds inode contents w) (hc : c.asks = true ∨ ∃ fd, c = .close fd) :
    Holds inode contents (look v pid c x w).2 := by
  rcases hc with hasks | ⟨fd, rfl⟩
  · have hopens : opens c (NodeDir.perform v pid c x w.dir).1 = none := by
      cases c <;> first | rfl | cases hasks
    refine ⟨?_, ?_⟩
    · show (opens c _ <|> w.file) = _
      rw [hopens]
      exact h.file
    · show ((NodeDir.perform v pid c x w.dir).2.node inode).contents = _
      rw [perform_of_asks hasks, h.contents]
  · refine ⟨h.file, ?_⟩
    show ((NodeDir.perform v pid (.close fd) x w.dir).2.node inode).contents = _
    rw [perform_close]
    exact h.contents

/-! ### Parts of the read -/

/-- What holds where a part of the read returns. -/
abbrev Reads (v : Lib.Volume) (pid : Nat) (p : Sys α) (Q : α → View → Prop) (w : View) : Prop :=
  p.wp (look v pid) (readEnv v pid) (fun _ _ => True) Q (fun _ _ => True) w

/-- A call of the reader while it holds a file, and what holds where it succeeds. -/
theorem reads_sys {Q : NodeResult c → View → Prop} (h : Holds inode contents w) (hQ : ∀ x w' a,
      Holds inode contents w' → (NodeDir.perform v pid c x w'.dir).1 = .ok a → Q a (look v pid c x
      w').2) : Reads v pid (sys c) Q w := by
  intro w1 hrely x _
  refine ⟨trivial, ?_⟩
  cases hreply : (look v pid c x w1).1 with
  | error e => trivial
  | ok a => exact hQ x w1 a (h.rely hrely) hreply

theorem reads_closing {p : Sys α} {φ : α → Prop} (fd : Nat)
    (hp : Reads v pid p (fun a w' => φ a ∧ Holds inode contents w') w) :
    Reads v pid (closing fd p) (fun a w' => φ a ∧ Holds inode contents w') w := by
  refine wp_handle hp (fun a w1 h1 w2 hrely x _ => ?_) fun _ _ _ _ _ _ _ => ?_
  · exact ⟨trivial, h1.1, (h1.2.rely hrely).look (.inr ⟨fd, rfl⟩)⟩
  · exact ⟨trivial, trivial⟩

theorem reads_fileIdentityAt (h : Holds inode contents w) (name : RuntimeName) (expectedUid : Nat)
    (guarded : GuardedFile) :
    Reads v pid (fileIdentityAt name expectedUid guarded)
      (fun identity w' => w'.dir.find name = some identity.inode ∧ Holds inode contents w') w := by
  intro w1 hrely x _
  refine ⟨trivial, ?_⟩
  have hheld : Holds inode contents (look v pid (.stat name) x w1).2 :=
    (h.rely hrely).look (.inl rfl)
  have hdir : (look v pid (.stat name) x w1).2.dir = w1.dir := perform_of_asks rfl
  cases hreply : (look v pid (.stat name) x w1).1 with
  | error e => trivial
  | ok stat =>
    obtain ⟨found, hfound, rfl⟩ := perform_stat_ok hreply
    refine (wp_bind _ _).2 ((wp_ofExcept _).2 ⟨fun _ _ => ?_, fun _ _ => trivial⟩)
    exact ⟨hdir ▸ hfound, hheld⟩

theorem reads_validateOpenFile (h : Holds inode contents w) (name : RuntimeName)
    (fd expectedUid : Nat) (guarded : GuardedFile) :
    Reads v pid (validateOpenFile name fd expectedUid guarded)
      (fun identity w' => identity.inode = fd ∧ Holds inode contents w') w := by
  refine wp_seq (M := fun stat w' => stat.inode = fd ∧ Holds inode contents w')
    (reads_sys h fun x w1 stat h1 hreply => ?_) fun stat w1 h1 => ?_
  · rw [perform_fstat_ok hreply]
    exact ⟨rfl, h1.look (.inl rfl)⟩
  refine (wp_bind _ _).2 ((wp_ofExcept _).2 ⟨fun _ _ => ?_, fun _ _ => trivial⟩)
  refine wp_seq (reads_fileIdentityAt h1.2 name expectedUid guarded) fun named w2 h2 => ?_
  split_ifs
  · trivial
  · exact ⟨h1.1, h2.2⟩

/-- A read to the end has all of the file, unless it came to its limit. -/
theorem reads_readToEnd (limit rounds : Nat) (h : Holds inode contents w)
    (hstarts : bytes <+: contents) (hrounds : limit ≤ bytes.length + rounds) :
    Reads v pid (readToEnd inode limit rounds bytes)
      (fun result w' => (result.length < limit → result = contents) ∧ Holds inode contents w')
      w := by
  induction rounds generalizing bytes w with
  | zero => exact ⟨fun hshort => absurd hshort (Nat.not_lt.2 hrounds), h⟩
  | succ rounds ih =>
    unfold readToEnd
    split_ifs with hfull
    · exact ⟨fun hshort => absurd hshort (Nat.not_lt.2 hfull), h⟩
    obtain ⟨rest, rfl⟩ := hstarts
    refine wp_seq (M := fun chunk w' => (∃ count ≠ 0, chunk = rest.take count) ∧
      Holds inode (bytes ++ rest) w') (reads_sys h fun x w1 chunk h1 hreply => ?_)
      fun (chunk : List UInt8) w1 h1 => ?_
    · refine ⟨⟨min (limit - bytes.length) (x.amount + 1), by omega, ?_⟩, h1.look (.inl rfl)⟩
      rw [perform_readAt_ok hreply, h1.contents, List.drop_left]
    obtain ⟨⟨count, hcount, rfl⟩, h1⟩ := h1
    split_ifs with hend
    · -- A read returns nothing only where the file ends.
      refine ⟨fun _ => ?_, h1⟩
      rw [(List.take_eq_nil_iff.1 hend).resolve_left hcount, List.append_nil]
    · refine ih h1 ((List.prefix_append_right_inj _).2 ( List.take_prefix _ _)) ?_
      have hpos := List.length_pos_iff.2 hend
      rw [List.length_append]
      omega

theorem reads_any (p : Sys α) (w : View) : Reads v pid p (fun _ _ => True) w := by
  induction p generalizing w with
  | pure | throw => trivial
  | call c k ih => exact fun w1 _ x _ => ⟨trivial, ih _ _⟩

/-- The reader opens a file, and holds it with the contents that it has by then. -/
theorem holds_of_openFile {name : RuntimeName} {access : Access} {fd : Nat}
    (h : (NodeDir.perform v pid (.openFile name access) x w.dir).1 = .ok fd) :
    ∃ contents, Holds fd contents (look v pid (.openFile name access) x w).2 := by
  refine ⟨_, ?_, rfl⟩
  show (opens _ (NodeDir.perform v pid (.openFile name access) x w.dir).1 <|> w.file) = _
  rw [h]
  rfl

/-- The read of the record that was opened, which has the number that was expected. -/
theorem reads_openAndRead (expectedUid : Nat) (expected : FileIdentity) (w : View) :
    Reads v pid (openAndRead expectedUid expected)
      (fun bytes w' => ∃ contents, (bytes.length < maxInstanceBytes + 1 → bytes = contents) ∧
        Holds expected.inode contents w') w := by
  intro w1 _ x _
  refine ⟨trivial, ?_⟩
  cases hopened : (look v pid (.openFile .instanceRecord .read) x w1).1 with
  | error e => exact wp_seq (reads_any _ _) fun _ _ _ => trivial
  | ok fd =>
    obtain ⟨contents, hheld⟩ := holds_of_openFile hopened
    have hread : Reads v pid (closing fd
        ((validateOpenFile .instanceRecord fd expectedUid .instanceRecord).bind fun actual =>
          if actual ≠ expected then
            .throw (.raced "daemon instance record changed while opening it")
          else readToEnd fd (maxInstanceBytes + 1) (maxInstanceBytes + 1) []))
        (fun bytes w' => (expected.inode = fd ∧
          (bytes.length < maxInstanceBytes + 1 → bytes = contents)) ∧ Holds fd contents w')
        (look v pid (.openFile .instanceRecord .read) x w1).2 := by
      refine reads_closing fd (wp_seq (reads_validateOpenFile hheld _ fd expectedUid _)
        fun actual w2 h2 => ?_)
      split_ifs with hsame
      · trivial
      · rw [not_not] at hsame
        subst hsame
        exact wp_imp (fun bytes w3 h3 => ⟨⟨h2.1, h3.1⟩, h3.2⟩)
          (fun _ _ h => h) (reads_readToEnd _ _ h2.2 List.nil_prefix (by simp))
    refine wp_imp (fun bytes w2 h2 => ?_) (fun _ _ h => h) hread
    exact ⟨contents, h2.1.2, h2.1.1 ▸ h2.2⟩

/-- The whole read. Where it returns a record, the last look was at the file that was read. -/
theorem reads_readInstanceRecord (codec : RecordCodec) (expectedUid : Nat) (w : View) :
    Reads v pid (readInstanceRecord codec expectedUid)
      (fun result w' => ∀ record ∈ result, Current codec record w') w := by
  intro w1 _ x _
  refine ⟨trivial, ?_⟩
  beta_reduce
  split
  · exact nofun
  · trivial
  split_ifs
  · exact wp_seq (reads_any _ _) fun _ _ _ => nofun
  refine wp_seq (reads_any _ _) fun expected w2 _ => ?_
  refine wp_seq (reads_openAndRead expectedUid expected w2) fun bytes w3 h3 => ?_
  obtain ⟨contents, hbytes, h3⟩ := h3
  split_ifs with hlarge
  · trivial
  refine wp_seq (reads_fileIdentityAt h3 .instanceRecord expectedUid _)
    fun current w4 h4 => ?_
  split_ifs with hsame
  · trivial
  refine (wp_bind _ _).2
    ((wp_ofExcept _).2 ⟨fun record hparsed => ?_, fun _ _ => trivial⟩)
  -- Nothing happens after the last look, so that the file at the name is still the one that was
  -- read.
  rintro _ ⟨⟩
  rw [not_not] at hsame
  refine ⟨expected.inode, hsame ▸ h4.1, ?_⟩
  rw [h4.2.contents, ← hbytes (by omega), hparsed]

/-- **A read returns the current record** in every run in which no other process writes to the file
that the reader opened, or gives its number to a new file, before the last look. -/
theorem read_returns_current (codec : RecordCodec) (expectedUid : Nat) (d : NodeDir RuntimeName)
    {ticks : List (Prog.Tick View (NodeChoice RuntimeName))} {record : DaemonInstanceRecord}
    (hticks : (readInstanceRecord codec expectedUid).Respects (look v pid) (readEnv v pid) ticks
      { dir := d })
    (hread : ((readInstanceRecord codec expectedUid).run (look v pid) ticks { dir := d }).1 =
      .returned (some record)) :
    Current codec record
      ((readInstanceRecord codec expectedUid).run (look v pid) ticks { dir := d }).2 := by
  have hwp := wp_run _ ticks (reads_readInstanceRecord codec expectedUid { dir := d }) hticks
  generalize (readInstanceRecord codec expectedUid).run (look v pid) ticks { dir := d } = result
    at hwp hread
  obtain ⟨outcome, w'⟩ := result
  obtain rfl : outcome = _ := hread
  exact hwp record rfl

/-! ### A number that is reused -/

def sampleRecord (pid : Nat) : DaemonInstanceRecord where
  pid
  ownerToken := "owner"
  executable := "/usr/bin/gascand"
  startIdentity := "1"
  instanceToken := String.ofList (List.replicate 64 'a')
  releaseVersion := "1.0.0"
  backend := "apple"
  startedAt := ⟨1, 0⟩

def sampleCodec : RecordCodec where
  decode
    | [pid] => .ok (sampleRecord pid.toNat)
    | _ => .error "malformed record"
  version _ := .ok ()

def sampleVolume : Lib.Volume := { device := 1, user := 501 }

/-- What a process does to the directory, with one choice for all of its calls. -/
def after {β : Type} (pid : Nat) (x : NodeChoice RuntimeName) (p : Sys β)
    (d : NodeDir RuntimeName) : NodeDir RuntimeName :=
  (p.exec (NodeDir.perform sampleVolume pid) x d).2

def published : NodeDir RuntimeName :=
  after 7 { inode := 5, token := 1 } (writeInstanceRecord ⟨7, 501, 1⟩ [7])
    { dir := { entries := ∅, files := fun _ => ⟨.regular, 501, 0, [], .instanceRecord⟩ } }

/-- The daemon 7 retires its record and is gone. Then the daemon 8 publishes its own, and gets the
number that has become free. -/
def succeeded (d : NodeDir RuntimeName) : NodeDir RuntimeName :=
  after 8 { inode := 5, token := 3 } (writeInstanceRecord ⟨8, 501, 1⟩ [8])
    (after 7 { inode := 6, token := 2 }
      (closing 5 (retireInstanceRecord ⟨7, 501, 1⟩ .instanceRecord ⟨⟨1, 5, 501⟩, 5⟩)) d)

/-- The ticks of a read of one byte, with what others do before the last look. -/
def readTicks (before : View → View) : List (Prog.Tick View (NodeChoice RuntimeName)) :=
  List.replicate 8 { choice := {} } ++ [{ interfere := before, choice := {} }]

theorem read_returns_published :
    Current sampleCodec (sampleRecord 7)
      ((readInstanceRecord sampleCodec 501).run (look sampleVolume 9) (readTicks id)
        { dir := published }).2 :=
  read_returns_current sampleCodec 501 published
    (respects_of_quiet (fun _ => Relation.ReflTransGen.refl) (fun _ _ _ => trivial)
      (by simp [readTicks]) _ _)
    (by decide +kernel)

/-- Between the read and the last look one daemon retires and another one publishes. The read
returns the record of the first, while that of the second is at the name. -/
theorem read_returns_retired :
    ∃ w', (readInstanceRecord sampleCodec 501).run (look sampleVolume 9)
        (readTicks fun w => { w with dir := succeeded w.dir }) { dir := published } =
          (.returned (some (sampleRecord 7)), w') ∧
      Current sampleCodec (sampleRecord 8) w' ∧ ¬ Current sampleCodec (sampleRecord 7) w' := by
  refine ⟨_, Prod.ext (by decide +kernel) rfl, ⟨5, by decide +kernel, rfl⟩, ?_⟩
  rintro ⟨inode, hfind, hparsed⟩
  obtain rfl : inode = 5 := by
    refine Option.some.inj (hfind.symm.trans ?_)
    decide +kernel
  have hpid := congrArg (Except.map DaemonInstanceRecord.pid) hparsed
  cases hpid

end Gascan.RuntimeDir.Reading
