import Mathlib.Data.List.AList
import Gascan.Lib.Program

/-!
# `Gascan.Lib.Directory`: one directory of files, and the system calls on it

A `Directory` maps names to file numbers and file numbers to files, and it knows which numbers are
kept by an open descriptor. Only a `Free` number, to which no name leads and which no descriptor
keeps, can be given to a new file. Renames move numbers between names and never touch a file.

`DirCmd` lists the system calls on such a directory, as the commands of a `Lib.Prog`, and
`Directory.perform` says what each of them does. The environment chooses the number of a new file,
random bytes and the order of a listing, and it can make any call fail. A call that fails changes
nothing, except that a part of the data of a failed `write` may be in the file.
-/

namespace Gascan.Lib

/-- A directory whose files carry data of type `φ` under names of type `ν`. -/
structure Directory (ν φ : Type) where
  entries : AList fun _ : ν => Nat
  files : Nat → φ
  held : List Nat := []

namespace Directory

variable {ν φ : Type}

/-- The numbers of the files that have a name. -/
def inodes (d : Directory ν φ) : List Nat := d.entries.entries.map Sigma.snd

/-- A number that a new file can get. -/
def Free (d : Directory ν φ) (inode : Nat) : Prop := inode ∉ d.inodes ∧ inode ∉ d.held

instance (d : Directory ν φ) (inode : Nat) : Decidable (d.Free inode) :=
  inferInstanceAs (Decidable (_ ∧ _))

/-- Replaces the data of a file. -/
def store (d : Directory ν φ) (inode : Nat) (file : φ) : Directory ν φ :=
  { d with files := Function.update d.files inode file }

/-- Opens a descriptor on a file. -/
def hold (d : Directory ν φ) (inode : Nat) : Directory ν φ := { d with held := inode :: d.held }

/-- Closes a descriptor on a file. -/
def release (d : Directory ν φ) (inode : Nat) : Directory ν φ :=
  { d with held := d.held.erase inode }

@[simp] theorem files_store_self (d : Directory ν φ) (inode : Nat) (file : φ) :
    (d.store inode file).files inode = file := Function.update_self ..

theorem files_store_of_ne {d : Directory ν φ} {inode number : Nat} {file : φ} (h : number ≠ inode) :
    (d.store inode file).files number = d.files number :=
  Function.update_of_ne h ..

/-- An open file keeps its number. -/
theorem Free.ne_of_held {d : Directory ν φ} {inode number : Nat} (h : d.Free inode)
    (hheld : number ∈ d.held) : number ≠ inode := by
  rintro rfl
  exact h.2 hheld

variable [DecidableEq ν]

/-- The number a name leads to. -/
def find (d : Directory ν φ) (name : ν) : Option Nat := d.entries.lookup name

/-- Lets a name lead to a number. -/
def link (d : Directory ν φ) (name : ν) (inode : Nat) : Directory ν φ :=
  { d with entries := d.entries.insert name inode }

/-- Removes a name. -/
def unlink (d : Directory ν φ) (name : ν) : Directory ν φ :=
  { d with entries := d.entries.erase name }

/-- Moves a file from one name to another. Whatever the second name led to loses it. -/
def move (d : Directory ν φ) (source target : ν) (inode : Nat) : Directory ν φ :=
  (d.unlink source).link target inode

/-- Lets two names trade their files. -/
def swap (d : Directory ν φ) (left right : ν) (leftInode rightInode : Nat) : Directory ν φ :=
  (d.link left rightInode).link right leftInode

/-- A new file under a name. -/
def put (d : Directory ν φ) (name : ν) (inode : Nat) (file : φ) : Directory ν φ :=
  (d.store inode file).link name inode

variable (d : Directory ν φ)

theorem find_link (name other : ν) (inode : Nat) :
    (d.link name inode).find other = if other = name then some inode else d.find other := by
  by_cases h : other = name
  · subst h
    simp [find, link]
  · simp [find, link, h]

theorem find_unlink (name other : ν) :
    (d.unlink name).find other = if other = name then none else d.find other := by
  by_cases h : other = name
  · subst h
    simp [find, unlink]
  · simp [find, unlink, h]

@[simp] theorem find_store (inode : Nat) (file : φ) (name : ν) :
    (d.store inode file).find name = d.find name := rfl

@[simp] theorem find_hold (inode : Nat) (name : ν) :
    (d.hold inode).find name = d.find name := rfl

theorem find_move (source target other : ν) (inode : Nat) :
    (d.move source target inode).find other =
      if other = target then some inode else if other = source then none else d.find other := by
  rw [move, find_link, find_unlink]

theorem find_swap (left right other : ν) (leftInode rightInode : Nat) :
    (d.swap left right leftInode rightInode).find other =
      if other = right then some leftInode
      else if other = left then some rightInode
      else d.find other := by
  rw [swap, find_link, find_link]

theorem find_put (name other : ν) (inode : Nat) (file : φ) :
    (d.put name inode file).find other = if other = name then some inode else d.find other := by
  rw [put, find_link, find_store]

@[simp] theorem files_put_self (name : ν) (inode : Nat) (file : φ) :
    (d.put name inode file).files inode = file := Function.update_self ..

variable {d} {name : ν} {inode number : Nat} {file : φ}

theorem files_put_of_ne (h : number ≠ inode) :
    (d.put name inode file).files number = d.files number :=
  Function.update_of_ne h ..

theorem mem_inodes : inode ∈ d.inodes ↔ ∃ name, d.find name = some inode := by
  simp only [inodes, List.mem_map, find, ← Option.mem_def, AList.mem_lookup_iff]
  constructor
  · rintro ⟨⟨name, _⟩, hentry, rfl⟩
    exact ⟨name, hentry⟩
  · rintro ⟨name, hentry⟩
    exact ⟨⟨name, inode⟩, hentry, rfl⟩

/-- A file that has a name keeps its number. -/
theorem Free.ne_of_find (h : d.Free inode) (hname : d.find name = some number) :
    number ≠ inode := by
  rintro rfl
  exact h.1 (mem_inodes.2 ⟨name, hname⟩)

end Directory

/-! ### Files and system calls -/

/-- The errors of system calls that programs tell apart, and all others. -/
inductive Errno where
  | noEntry
  | exists
  | loop
  | access
  | notDirectory
  | isDirectory
  | noSpace
  | other (code : Nat)
  deriving DecidableEq, Repr

inductive FileKind where
  | regular
  | directory
  | symlink
  | other
  deriving DecidableEq, Repr

/-- A file. `nlink` counts all its names, also those outside the directory. -/
structure FileData where
  kind : FileKind
  uid : Nat
  nlink : Nat
  mode : Nat
  contents : List UInt8
  deriving DecidableEq, Repr

/-- The device a directory lies on, and the user the program runs as. -/
structure Volume where
  device : Nat
  user : Nat
  deriving DecidableEq, Repr

/-- What `stat` tells about a file. -/
structure Stat where
  device : Nat
  inode : Nat
  kind : FileKind
  uid : Nat
  nlink : Nat
  mode : Nat
  deriving DecidableEq, Repr

def Volume.stat (v : Volume) (inode : Nat) (file : FileData) : Stat where
  device := v.device
  inode
  kind := file.kind
  uid := file.uid
  nlink := file.nlink
  mode := file.mode

/-- The system calls on a directory and on the descriptors of its files. A descriptor is named by
the number of its file. -/
inductive DirCmd (ν : Type) where
  | random (count : Nat)
  | create (name : ν) (mode : Nat)
  | openRead (name : ν)
  | close (fd : Nat)
  | chmod (fd : Nat) (mode : Nat)
  | fstat (fd : Nat)
  | write (fd : Nat) (bytes : List UInt8)
  | flush (fd : Nat)
  | sync (fd : Nat)
  | read (fd : Nat) (limit : Nat)
  | stat (name : ν)
  | rename (source target : ν)
  | renameNew (source target : ν)
  | exchange (left right : ν)
  | unlink (name : ν)
  | syncDirectory
  | list

/-- What a system call returns when it succeeds. -/
def DirResult {ν : Type} : DirCmd ν → Type
  | .random _ => List UInt8
  | .create .. => Nat
  | .openRead _ => Nat
  | .fstat _ => Stat
  | .read .. => List UInt8
  | .stat _ => Stat
  | .list => List ν
  | _ => Unit

abbrev DirReply {ν : Type} (c : DirCmd ν) : Type := Except Errno (DirResult c)

/-- What the environment chooses for a system call. -/
structure DirChoice (ν : Type) where
  fault : Option Errno := none
  inode : Nat := 0
  random : Nat → UInt8 := fun _ => 0
  umask : Nat := 0
  /-- How much of its data a failing `write` leaves in the file. -/
  written : Nat := 0
  /-- The names that a listing gives first. -/
  order : List ν := []

namespace Directory

variable {ν : Type} [DecidableEq ν]

/-- Appends to a file. -/
def append (d : Directory ν FileData) (fd : Nat) (bytes : List UInt8) : Directory ν FileData :=
  d.store fd { d.files fd with contents := (d.files fd).contents ++ bytes }

/-- The names of a directory, in the order the environment gives them in. -/
def names (d : Directory ν FileData) (order : List ν) : List ν :=
  order.dedup.filter (· ∈ d.entries.keys) ++ d.entries.keys.filter (· ∉ order)

/-- What a system call does when the environment lets it. -/
def performOk (v : Volume) : (c : DirCmd ν) → DirChoice ν → Directory ν FileData →
    DirReply c × Directory ν FileData
  | .random count, x, d => (.ok ((List.range count).map x.random), d)
  | .create name mode, x, d =>
    if (d.find name).isSome then (.error .exists, d)
    else if d.Free x.inode then
      let file : FileData :=
        { kind := .regular, uid := v.user, nlink := 1, mode := mode - (mode &&& x.umask),
          contents := [] }
      (.ok x.inode, (d.put name x.inode file).hold x.inode)
    else (.error .noSpace, d)
  | .openRead name, _, d =>
    match d.find name with
    | none => (.error .noEntry, d)
    | some inode =>
      -- Symbolic links are not followed.
      if (d.files inode).kind = .symlink then (.error .loop, d)
      else (.ok inode, d.hold inode)
  | .close fd, _, d => (.ok (), d.release fd)
  | .chmod fd mode, _, d => (.ok (), d.store fd { d.files fd with mode })
  | .fstat fd, _, d => (.ok (v.stat fd (d.files fd)), d)
  | .write fd bytes, _, d => (.ok (), d.append fd bytes)
  | .flush _, _, d => (.ok (), d)
  | .sync _, _, d => (.ok (), d)
  | .read fd limit, _, d => (.ok ((d.files fd).contents.take limit), d)
  | .stat name, _, d =>
    match d.find name with
    | none => (.error .noEntry, d)
    | some inode => (.ok (v.stat inode (d.files inode)), d)
  | .rename source target, _, d =>
    match d.find source, d.find target with
    | none, _ => (.error .noEntry, d)
    | some inode, none => (.ok (), d.move source target inode)
    | some inode, some old =>
      -- Two names of one file are left as they are.
      if old = inode then (.ok (), d)
      else if (d.files old).kind = .directory then (.error .isDirectory, d)
      else (.ok (), d.move source target inode)
  | .renameNew source target, _, d =>
    match d.find source, d.find target with
    | none, _ => (.error .noEntry, d)
    | some _, some _ => (.error .exists, d)
    | some inode, none => (.ok (), d.move source target inode)
  | .exchange left right, _, d =>
    match d.find left, d.find right with
    | some leftInode, some rightInode => (.ok (), d.swap left right leftInode rightInode)
    | _, _ => (.error .noEntry, d)
  | .unlink name, _, d =>
    match d.find name with
    | none => (.error .noEntry, d)
    | some inode =>
      if (d.files inode).kind = .directory then (.error .isDirectory, d)
      else (.ok (), d.unlink name)
  | .syncDirectory, _, d => (.ok (), d)
  | .list, x, d => (.ok (d.names x.order), d)

/-- What a system call does when it fails. Closing a descriptor always succeeds. -/
def performFault (error : Errno) : (c : DirCmd ν) → DirChoice ν → Directory ν FileData →
    DirReply c × Directory ν FileData
  | .write fd bytes, x, d => (.error error, d.append fd (bytes.take x.written))
  | .close fd, _, d => (.ok (), d.release fd)
  | _, _, d => (.error error, d)

/-- What a system call does, and its reply. -/
def perform (v : Volume) (c : DirCmd ν) (x : DirChoice ν) (d : Directory ν FileData) :
    DirReply c × Directory ν FileData :=
  match x.fault with
  | none => performOk v c x d
  | some error => performFault error c x d

end Directory

/-- The calls that leave the directory alone. -/
def DirCmd.asks {ν : Type} : DirCmd ν → Bool
  | .random _ | .fstat _ | .flush _ | .sync _ | .read .. | .stat _ | .syncDirectory | .list => true
  | _ => false

/-- Runs a program that owns a descriptor, which is closed when the program ends. -/
def closing {ν ε α : Type} (fd : Nat) (p : Prog (DirCmd ν) DirReply ε α) :
    Prog (DirCmd ν) DirReply ε α :=
  p.attempt.bind fun result => .call (.close fd) fun _ => .ofExcept result

/-! ### What each system call can do

One lemma for each call. Either it failed and changed nothing, or it succeeded, and the lemma gives
the reply and the directory that is left. -/

namespace Directory

variable {ν : Type} [DecidableEq ν] {v : Volume} {x : DirChoice ν} {d : Directory ν FileData}

theorem perform_of_asks {c : DirCmd ν} (hc : c.asks = true) : (perform v c x d).2 = d := by
  unfold perform
  cases x.fault with
  | some error => cases c <;> first | rfl | cases hc
  | none =>
    cases c
    case stat name => simp only [performOk]; split <;> rfl
    all_goals first | rfl | cases hc

theorem perform_stat {name : ν} {stat : Stat} (h : (perform v (.stat name) x d).1 = .ok stat) :
    ∃ inode, d.find name = some inode ∧ stat = v.stat inode (d.files inode) := by
  unfold perform at h
  cases hfault : x.fault with
  | some error =>
    rw [hfault] at h
    cases h
  | none =>
    simp only [hfault, performOk] at h
    split at h
    · cases h
    · next inode hfind =>
      cases h
      exact ⟨inode, hfind, rfl⟩

theorem perform_fstat {fd : Nat} {stat : Stat} (h : (perform v (.fstat fd) x d).1 = .ok stat) :
    stat = v.stat fd (d.files fd) := by
  unfold perform at h
  cases hfault : x.fault with
  | some error =>
    rw [hfault] at h
    cases h
  | none =>
    rw [hfault] at h
    cases h
    rfl

theorem perform_read {fd limit : Nat} {bytes : List UInt8}
    (h : (perform v (.read fd limit) x d).1 = .ok bytes) :
    bytes = (d.files fd).contents.take limit := by
  unfold perform at h
  cases hfault : x.fault with
  | some error =>
    rw [hfault] at h
    cases h
  | none =>
    rw [hfault] at h
    cases h
    rfl

variable (name : ν)

theorem perform_openRead :
    (∃ error, perform v (.openRead name) x d = (.error error, d)) ∨
      ∃ inode, d.find name = some inode ∧
        perform v (.openRead name) x d = (.ok inode, d.hold inode) := by
  unfold perform
  cases x.fault with
  | some error => exact .inl ⟨error, rfl⟩
  | none =>
    simp only [performOk]
    split
    · exact .inl ⟨_, rfl⟩
    · next inode hfind =>
      split
      · exact .inl ⟨_, rfl⟩
      · exact .inr ⟨inode, hfind, rfl⟩

@[simp] theorem perform_close (fd : Nat) : perform v (.close fd) x d = (.ok (), d.release fd) := by
  unfold perform
  cases x.fault <;> rfl

theorem perform_create (mode : Nat) :
    (∃ error, perform v (.create name mode) x d = (.error error, d)) ∨
      d.find name = none ∧ d.Free x.inode ∧ ∃ file,
        perform v (.create name mode) x d =
          (.ok x.inode, (d.put name x.inode file).hold x.inode) := by
  unfold perform
  cases x.fault with
  | some error => exact .inl ⟨error, rfl⟩
  | none =>
    simp only [performOk]
    split
    · exact .inl ⟨_, rfl⟩
    · next hname =>
      split
      · next hfree => exact .inr ⟨Option.not_isSome_iff_eq_none.1 hname, hfree, _, rfl⟩
      · exact .inl ⟨_, rfl⟩

theorem perform_chmod (fd mode : Nat) :
    (∃ error, perform v (.chmod fd mode) x d = (.error error, d)) ∨
      perform v (.chmod fd mode) x d = (.ok (), d.store fd { d.files fd with mode }) := by
  unfold perform
  cases x.fault with
  | some error => exact .inl ⟨error, rfl⟩
  | none => exact .inr rfl

theorem perform_write (fd : Nat) (bytes : List UInt8) :
    (∃ error part, perform v (.write fd bytes) x d = (.error error, d.append fd part)) ∨
      perform v (.write fd bytes) x d = (.ok (), d.append fd bytes) := by
  unfold perform
  cases x.fault with
  | some error => exact .inl ⟨error, _, rfl⟩
  | none => exact .inr rfl

theorem perform_renameNew (source target : ν) :
    (∃ error, perform v (.renameNew source target) x d = (.error error, d)) ∨
      ∃ inode, d.find source = some inode ∧ d.find target = none ∧
        perform v (.renameNew source target) x d = (.ok (), d.move source target inode) := by
  unfold perform
  cases x.fault with
  | some error => exact .inl ⟨error, rfl⟩
  | none =>
    simp only [performOk]
    split
    · exact .inl ⟨_, rfl⟩
    · exact .inl ⟨_, rfl⟩
    · next inode hsource htarget => exact .inr ⟨inode, hsource, htarget, rfl⟩

theorem perform_exchange (left right : ν) :
    (∃ error, perform v (.exchange left right) x d = (.error error, d)) ∨
      ∃ leftInode rightInode, d.find left = some leftInode ∧ d.find right = some rightInode ∧
        perform v (.exchange left right) x d =
          (.ok (), d.swap left right leftInode rightInode) := by
  unfold perform
  cases x.fault with
  | some error => exact .inl ⟨error, rfl⟩
  | none =>
    simp only [performOk]
    split
    · next i j hleft hright => exact .inr ⟨i, j, hleft, hright, rfl⟩
    · exact .inl ⟨_, rfl⟩

theorem perform_unlink :
    (∃ error, perform v (.unlink name) x d = (.error error, d)) ∨
      perform v (.unlink name) x d = (.ok (), d.unlink name) := by
  unfold perform
  cases x.fault with
  | some error => exact .inl ⟨error, rfl⟩
  | none =>
    simp only [performOk]
    split
    · exact .inl ⟨_, rfl⟩
    · split
      · exact .inl ⟨_, rfl⟩
      · exact .inr rfl

end Directory

end Gascan.Lib
