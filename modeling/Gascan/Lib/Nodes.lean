import Gascan.Lib.Directory

/-!
# `Gascan.Lib.Nodes`: a directory that processes share

A `NodeDir` is a directory of files and sockets together with what its processes have open. Only a
`Free` number, to which no name leads and which no process has open, can be given to a new node, so
an open descriptor pins the number of its node. A node has as many links as names.

`NodeCmd` lists the system calls on such a directory, and `NodeDir.perform` says what each of them
does when a process issues it, in one atomic step. The environment chooses numbers, random tokens,
the order of a listing and how much a read or a `write` takes, and it can make any call fail, in
which case nothing changes. `NodeDir.leave` is the end of a process: the kernel closes its files.
-/

namespace Gascan.Lib

inductive NodeKind where
  | regular
  | socket
  | directory
  | symlink
  | other
  deriving DecidableEq, Repr

/-- A file or another node of a directory. `born` is the name it was made under, which no call
reads. The contents of a directory are what is in it. -/
structure Node (ν : Type) where
  kind : NodeKind
  uid : Nat
  mode : Nat
  contents : List UInt8
  born : ν
  deriving DecidableEq

/-- What `stat` tells about a node. -/
structure NodeStat where
  device : Nat
  inode : Nat
  kind : NodeKind
  uid : Nat
  nlink : Nat
  mode : Nat
  size : Nat
  deriving DecidableEq, Repr

inductive Access where
  | read
  | write
  | readWrite
  deriving DecidableEq, Repr

/-- A directory and what processes have open in it. A descriptor or a listener is a pair of a
process and the number of a node. `counter` is a number that each process keeps in its memory, and
`drawn` are the random tokens that were given out so far, with the processes that got them. -/
structure NodeDir (ν : Type) where
  dir : Directory ν (Node ν)
  opened : List (Nat × Nat) := []
  listening : List (Nat × Nat) := []
  counter : Nat → Nat := fun _ => 1
  drawn : List (Nat × Nat) := []

/-- The system calls of a process. A descriptor is named by the number of its node. -/
inductive NodeCmd (ν : Type) where
  | token
  | count
  | create (name : ν) (mode : Nat)
  | listen (name : ν)
  | mkdir (name : ν) (mode : Nat)
  | link (source target : ν)
  | openFile (name : ν) (access : Access)
  | close (fd : Nat)
  | chmod (fd : Nat) (mode : Nat)
  | chmodAt (name : ν) (mode : Nat)
  | fstat (fd : Nat)
  | write (fd : Nat) (bytes : List UInt8)
  | truncate (fd : Nat)
  | sync (fd : Nat)
  | readAt (fd : Nat) (offset : Nat) (limit : Nat)
  | stat (name : ν)
  | rename (source target : ν)
  | renameNew (source target : ν)
  | unlink (name : ν)
  | list
  | connect (name : ν)

/-- What a system call returns when it succeeds. -/
def NodeResult {ν : Type} : NodeCmd ν → Type
  | .token => Nat
  | .count => Nat
  | .create .. => Nat
  | .listen _ => Nat
  | .openFile .. => Nat
  | .fstat _ => NodeStat
  | .write .. => Nat
  | .readAt .. => List UInt8
  | .stat _ => NodeStat
  | .list => List ν
  | _ => Unit

abbrev NodeReply {ν : Type} (c : NodeCmd ν) : Type := Except Errno (NodeResult c)

/-- What the environment chooses for a system call. -/
structure NodeChoice (ν : Type) where
  fault : Option Errno := none
  inode : Nat := 0
  token : Nat := 0
  umask : Nat := 0
  /-- How much of its data a `write` takes, or a read returns, less one. -/
  amount : Nat := 0
  /-- The names that a listing gives first. -/
  order : List ν := []

namespace NodeDir

variable {ν : Type}

/-- The node that a number stands for. -/
def node (d : NodeDir ν) (inode : Nat) : Node ν := d.dir.files inode

/-- Replaces a node. -/
def store (d : NodeDir ν) (inode : Nat) (node : Node ν) : NodeDir ν :=
  { d with dir := d.dir.store inode node }

/-- A process opens a node. -/
def hold (d : NodeDir ν) (pid inode : Nat) : NodeDir ν :=
  { d with opened := (pid, inode) :: d.opened }

/-- A process closes a descriptor. -/
def release (d : NodeDir ν) (pid inode : Nat) : NodeDir ν :=
  { d with opened := d.opened.erase (pid, inode) }

/-- A number that a new node can get. -/
def Free (d : NodeDir ν) (inode : Nat) : Prop :=
  inode ∉ d.dir.inodes ∧ inode ∉ d.opened.map Prod.snd

instance (d : NodeDir ν) (inode : Nat) : Decidable (d.Free inode) :=
  inferInstanceAs (Decidable (_ ∧ _))

/-- The end of a process: what it has open is closed, and its memory is gone. -/
def leave (pid : Nat) (d : NodeDir ν) : NodeDir ν :=
  { d with
    opened := d.opened.filter (·.1 ≠ pid)
    listening := d.listening.filter (·.1 ≠ pid)
    counter := Function.update d.counter pid 1 }

variable [DecidableEq ν]

/-- The number a name leads to. -/
def find (d : NodeDir ν) (name : ν) : Option Nat := d.dir.find name

/-- Removes a name. -/
def unlink (d : NodeDir ν) (name : ν) : NodeDir ν := { d with dir := d.dir.unlink name }

/-- Moves a node from one name to another. -/
def move (d : NodeDir ν) (source target : ν) (inode : Nat) : NodeDir ν :=
  { d with dir := d.dir.move source target inode }

/-- A new node under a name. -/
def put (d : NodeDir ν) (name : ν) (inode : Nat) (node : Node ν) : NodeDir ν :=
  { d with dir := d.dir.put name inode node }

/-- The names that lead to a node, counted. -/
def nlink (d : NodeDir ν) (inode : Nat) : Nat := d.dir.inodes.count inode

/-- What `stat` tells about a node. -/
def statOf (v : Volume) (d : NodeDir ν) (inode : Nat) : NodeStat where
  device := v.device
  inode
  kind := (d.node inode).kind
  uid := (d.node inode).uid
  nlink := d.nlink inode
  mode := (d.node inode).mode
  size := (d.node inode).contents.length

/-- Whether the mode of a node lets the user open it. -/
def permits (v : Volume) (node : Node ν) (access : Access) : Bool :=
  let readable := if node.uid = v.user then node.mode &&& 0o400 != 0 else node.mode &&& 0o004 != 0
  let writable := if node.uid = v.user then node.mode &&& 0o200 != 0 else node.mode &&& 0o002 != 0
  match access with
  | .read => readable
  | .write => writable
  | .readWrite => readable && writable

/-- The names of a directory, in the order the environment gives them in. -/
def names (d : NodeDir ν) (order : List ν) : List ν :=
  order.dedup.filter (· ∈ d.dir.entries.keys) ++ d.dir.entries.keys.filter (· ∉ order)

/-- Appends to a file. -/
def append (d : NodeDir ν) (fd : Nat) (bytes : List UInt8) : NodeDir ν :=
  d.store fd { d.node fd with contents := (d.node fd).contents ++ bytes }

/-- A new node of the user. -/
def fresh (v : Volume) (name : ν) (kind : NodeKind) (mode : Nat) : Node ν :=
  { kind, uid := v.user, mode, contents := [], born := name }

/-- A new file or socket of the process, which has it open. -/
def make (v : Volume) (pid : Nat) (d : NodeDir ν) (name : ν) (inode : Nat) (kind : NodeKind)
    (mode : Nat) : NodeDir ν :=
  (d.put name inode (fresh v name kind mode)).hold pid inode

/-- Why a rename does not replace what is at its target. A directory replaces an empty directory
only, and anything else whatever is no directory. -/
def renameError (source target : Node ν) : Option Errno :=
  match decide (source.kind = .directory), decide (target.kind = .directory) with
  | true, true => if target.contents.isEmpty then none else some (.other 39)
  | true, false => some .notDirectory
  | false, true => some .isDirectory
  | false, false => none

/-- What a system call of a process does when the environment lets it. -/
def performOk (v : Volume) (pid : Nat) : (c : NodeCmd ν) → NodeChoice ν → NodeDir ν →
    NodeReply c × NodeDir ν
  | .token, x, d => (.ok x.token, { d with drawn := (pid, x.token) :: d.drawn })
  | .count, _, d =>
    (.ok (d.counter pid),
      { d with counter := Function.update d.counter pid (d.counter pid + 1) })
  | .create name mode, x, d =>
    if (d.find name).isSome then (.error .exists, d)
    else if d.Free x.inode then
      (.ok x.inode, d.make v pid name x.inode .regular (mode - (mode &&& x.umask)))
    else (.error .noSpace, d)
  | .listen name, x, d =>
    if (d.find name).isSome then (.error .exists, d)
    else if d.Free x.inode then
      let made := d.make v pid name x.inode .socket (0o777 - (0o777 &&& x.umask))
      (.ok x.inode, { made with listening := (pid, x.inode) :: made.listening })
    else (.error .noSpace, d)
  | .mkdir name mode, x, d =>
    if (d.find name).isSome then (.error .exists, d)
    else if d.Free x.inode then
      (.ok (), d.put name x.inode (fresh v name .directory (mode - (mode &&& x.umask))))
    else (.error .noSpace, d)
  | .link source target, _, d =>
    match d.find source, d.find target with
    | none, _ => (.error .noEntry, d)
    | some _, some _ => (.error .exists, d)
    | some inode, none =>
      -- A directory has one name.
      if (d.node inode).kind = .directory then (.error .access, d)
      else (.ok (), d.put target inode (d.node inode))
  | .openFile name access, _, d =>
    match d.find name with
    | none => (.error .noEntry, d)
    | some inode =>
      -- Symbolic links are not followed, and a socket cannot be opened.
      if (d.node inode).kind = .symlink then (.error .loop, d)
      else if (d.node inode).kind = .socket then (.error (.other 6), d)
      else if (d.node inode).kind = .directory ∧ access ≠ .read then (.error .isDirectory, d)
      else if permits v (d.node inode) access then (.ok inode, d.hold pid inode)
      else (.error .access, d)
  | .close fd, _, d => (.ok (), d.release pid fd)
  | .chmod fd mode, _, d => (.ok (), d.store fd { d.node fd with mode })
  | .chmodAt name mode, _, d =>
    match d.find name with
    | none => (.error .noEntry, d)
    | some inode => (.ok (), d.store inode { d.node inode with mode })
  | .fstat fd, _, d => (.ok (d.statOf v fd), d)
  | .write fd bytes, x, d =>
    (.ok (bytes.take (x.amount + 1)).length, d.append fd (bytes.take (x.amount + 1)))
  | .truncate fd, _, d => (.ok (), d.store fd { d.node fd with contents := [] })
  | .sync _, _, d => (.ok (), d)
  | .readAt fd offset limit, x, d =>
    (.ok (((d.node fd).contents.drop offset).take (min limit (x.amount + 1))), d)
  | .stat name, _, d =>
    match d.find name with
    | none => (.error .noEntry, d)
    | some inode => (.ok (d.statOf v inode), d)
  | .rename source target, _, d =>
    match d.find source, d.find target with
    | none, _ => (.error .noEntry, d)
    | some inode, none => (.ok (), d.move source target inode)
    | some inode, some old =>
      -- Two names of one node are left as they are.
      if old = inode then (.ok (), d)
      else
        match renameError (d.node inode) (d.node old) with
        | some error => (.error error, d)
        | none => (.ok (), d.move source target inode)
  | .renameNew source target, _, d =>
    match d.find source, d.find target with
    | none, _ => (.error .noEntry, d)
    | some _, some _ => (.error .exists, d)
    | some inode, none => (.ok (), d.move source target inode)
  | .unlink name, _, d =>
    match d.find name with
    | none => (.error .noEntry, d)
    | some inode =>
      if (d.node inode).kind = .directory then (.error .isDirectory, d)
      else (.ok (), d.unlink name)
  | .list, x, d => (.ok (d.names x.order), d)
  | .connect name, _, d =>
    match d.find name with
    | none => (.error .noEntry, d)
    | some inode =>
      -- Only a socket that a process listens on takes a connection.
      if inode ∈ d.listening.map Prod.snd then (.ok (), d) else (.error (.other 111), d)

/-- What a system call does when it fails. Closing a descriptor and counting always succeed. -/
def performFault (pid : Nat) (error : Errno) : (c : NodeCmd ν) → NodeChoice ν → NodeDir ν →
    NodeReply c × NodeDir ν
  | .close fd, _, d => (.ok (), d.release pid fd)
  | .count, _, d =>
    (.ok (d.counter pid),
      { d with counter := Function.update d.counter pid (d.counter pid + 1) })
  | _, _, d => (.error error, d)

/-- What a system call of a process does, and its reply. -/
def perform (v : Volume) (pid : Nat) (c : NodeCmd ν) (x : NodeChoice ν) (d : NodeDir ν) :
    NodeReply c × NodeDir ν :=
  match x.fault with
  | none => performOk v pid c x d
  | some error => performFault pid error c x d

/-! ### Names and nodes -/

/-- Some name leads to the node. -/
def Linked (d : NodeDir ν) (inode : Nat) : Prop := ∃ name, d.find name = some inode

section

variable {d : NodeDir ν} {name other source target : ν} {inode number : Nat} {node : Node ν}

theorem find_unlink (d : NodeDir ν) (name other : ν) :
    (d.unlink name).find other = if other = name then none else d.find other :=
  Directory.find_unlink d.dir name other

theorem find_move (d : NodeDir ν) (source target other : ν) (inode : Nat) :
    (d.move source target inode).find other =
      if other = target then some inode else if other = source then none else d.find other :=
  Directory.find_move d.dir source target other inode

omit [DecidableEq ν] in
@[simp] theorem node_store_self (d : NodeDir ν) (inode : Nat) (node : Node ν) :
    (d.store inode node).node inode = node := Directory.files_store_self ..

omit [DecidableEq ν] in
theorem node_store_of_ne (h : number ≠ inode) : (d.store inode node).node number = d.node number :=
  Directory.files_store_of_ne h

theorem node_put_self (d : NodeDir ν) (name : ν) (inode : Nat) (node : Node ν) :
    (d.put name inode node).node inode = node := Directory.files_store_self ..

theorem node_put_of_ne (h : number ≠ inode) :
    (d.put name inode node).node number = d.node number :=
  Directory.files_put_of_ne h

end

/-! ### What each system call can do

One lemma for each call. Either it failed and changed nothing, or it succeeded, and the lemma gives
the reply and the directory that is left. -/

end NodeDir

/-- The calls that leave the directory alone. -/
def NodeCmd.asks {ν : Type} : NodeCmd ν → Bool
  | .fstat _ | .sync _ | .readAt .. | .stat _ | .list | .connect _ => true
  | _ => false

namespace NodeDir

variable {ν : Type} [DecidableEq ν] {v : Volume} {q : Nat} {x : NodeChoice ν} {d : NodeDir ν}

theorem perform_of_asks {c : NodeCmd ν} (hc : c.asks = true) : (perform v q c x d).2 = d := by
  unfold perform
  cases x.fault with
  | some error => cases c <;> first | rfl | cases hc
  | none =>
    cases c
    case stat name => simp only [performOk]; split <;> rfl
    case connect name =>
      simp only [performOk]
      split
      · rfl
      · split <;> rfl
    all_goals first | rfl | cases hc

variable {stat : NodeStat}

theorem perform_stat_ok {name : ν} (h : (perform v q (.stat name) x d).1 = .ok stat) :
    ∃ inode, d.find name = some inode ∧ stat = d.statOf v inode := by
  unfold perform at h
  cases hfault : x.fault with
  | some error =>
    rw [hfault] at h
    cases h
  | none =>
    simp only [hfault, performOk] at h
    split at h
    · cases h
    · next inode hfind =>
      cases h
      exact ⟨inode, hfind, rfl⟩

theorem perform_fstat_ok {fd : Nat} (h : (perform v q (.fstat fd) x d).1 = .ok stat) :
    stat = d.statOf v fd := by
  unfold perform at h
  cases hfault : x.fault with
  | some error =>
    rw [hfault] at h
    cases h
  | none =>
    rw [hfault] at h
    cases h
    rfl

theorem perform_readAt_ok {fd offset limit : Nat} {chunk : List UInt8}
    (h : (perform v q (.readAt fd offset limit) x d).1 = .ok chunk) :
    chunk = ((d.node fd).contents.drop offset).take (min limit (x.amount + 1)) := by
  unfold perform at h
  cases hfault : x.fault with
  | some error =>
    rw [hfault] at h
    cases h
  | none =>
    rw [hfault] at h
    cases h
    rfl

theorem perform_count :
    perform v q .count x d =
      (.ok (d.counter q),
        { d with counter := Function.update d.counter q (d.counter q + 1) }) := by
  unfold perform
  cases x.fault <;> rfl

theorem perform_close (fd : Nat) :
    perform v q (.close fd) x d = (.ok (), d.release q fd) := by
  unfold perform
  cases x.fault <;> rfl

theorem perform_renameNew (source target : ν) :
    (∃ error, perform v q (.renameNew source target) x d = (.error error, d)) ∨
      ∃ inode, d.find source = some inode ∧ d.find target = none ∧
        perform v q (.renameNew source target) x d = (.ok (), d.move source target inode) := by
  unfold perform
  cases x.fault with
  | some error => exact .inl ⟨error, rfl⟩
  | none =>
    simp only [performOk]
    split
    · exact .inl ⟨_, rfl⟩
    · exact .inl ⟨_, rfl⟩
    · next inode hsource htarget => exact .inr ⟨inode, hsource, htarget, rfl⟩

theorem perform_unlink (name : ν) :
    (∃ error, perform v q (.unlink name) x d = (.error error, d)) ∨
      perform v q (.unlink name) x d = (.ok (), d.unlink name) := by
  unfold perform
  cases x.fault with
  | some error => exact .inl ⟨error, rfl⟩
  | none =>
    simp only [performOk]
    split
    · exact .inl ⟨_, rfl⟩
    · split
      · exact .inl ⟨_, rfl⟩
      · exact .inr rfl

end NodeDir

end Gascan.Lib
