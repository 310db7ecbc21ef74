import Gascan.Lib.Program
import Gascan.Lib.Table
import Gascan.Lib.Text

/-!
# `Gascan.Daemon.Archive`: moving a legacy database out of the runtime directory

The legacy database of the runtime directory and its SQLite sidecars are archived in three stages.
A marker file that lists every file with its identity is written, piece by piece, into a new
quarantine directory. Then the files are renamed into the quarantine. At last the marker is renamed:
to `committed`, or to `restored` after the files were renamed back. Every start of the daemon first
reads the quarantines it finds (`recoverLegacyArchiveTransactions`) and renames the files of a
prepared one back.

A directory operation is one command, so that a run can be cut between any two of them. An operation
can also fail, and then changes nothing. The backup copy that precedes the archive lies in another
directory, and the files here are private throughout.
-/

namespace Gascan.Archive

open Lib Lib.Text

/-! ### The directories -/

structure DatabaseIdentity where
  device : UInt64
  inode : UInt64
  deriving DecidableEq, Repr

/-- The files of a SQLite database, in the order of their names. -/
inductive FamilyName where
  | database
  | journal
  | shm
  | wal
  deriving DecidableEq, Repr

def FamilyName.asStr : FamilyName → String
  | .database => "state.sqlite3"
  | .journal => "state.sqlite3-journal"
  | .shm => "state.sqlite3-shm"
  | .wal => "state.sqlite3-wal"

/-- Every file of the family, in the order of a `BTreeMap`. -/
def FamilyName.all : List FamilyName := [.database, .journal, .shm, .wal]

/-- The files `SQLITE_SIDECAR_SUFFIXES` names, in its order. -/
def FamilyName.sidecars : List FamilyName := [.wal, .shm, .journal]

/-- `exact_database_family_name`, with the file it finds. -/
def FamilyName.ofName (name : List Char) : Option FamilyName :=
  FamilyName.all.find? (·.asStr.toList = name)

/-- A map from the files of the family to their identities. -/
abbrev Identities := FamilyName → Option DatabaseIdentity

/-- The files that a map holds. -/
def names (identities : Identities) : List FamilyName :=
  FamilyName.all.filter fun name => (identities name).isSome

inductive ArchiveTransactionPhase where
  | prepared
  | committed
  | restored
  deriving DecidableEq, Repr

/-- Every phase marker. -/
def ArchiveTransactionPhase.all : List ArchiveTransactionPhase := [.prepared, .committed, .restored]

/-- A quarantine directory: the files of the family, the phase markers with their content, and
entries with any other name. -/
structure Quarantine where
  files : Identities := fun _ => none
  markers : ArchiveTransactionPhase → Option (List Char) := fun _ => none
  others : List String := []

/-- The runtime directory: the files of the family, and the directories whose name begins as that
of a quarantine. -/
structure RuntimeDirectory where
  files : Identities
  quarantines : List (String × Quarantine) := []

def archiveQuarantinePrefix : String := ".state.sqlite3.archive-quarantine-"

def archiveMarkerHeader : String := "GASCAN_LEGACY_ARCHIVE_V1"

/-- The name of a new quarantine. -/
def quarantineName (random : Fin 16 → UInt8) : String :=
  archiveQuarantinePrefix ++ hexLower ((List.ofFn random).map UInt8.toNat)

def exactArchiveQuarantineName (name : String) : Bool :=
  let head := archiveQuarantinePrefix.toList
  let token := name.toList.drop head.length
  head.isPrefixOf name.toList && token.length = 32 && token.all isLowerHex

/-- The quarantine with the given name. -/
def RuntimeDirectory.quarantine? (w : RuntimeDirectory) (name : String) : Option Quarantine :=
  (Table.lookup Prod.fst name w.quarantines).map Prod.snd

/-- The directory with a quarantine changed. -/
def RuntimeDirectory.updateQuarantine (w : RuntimeDirectory) (name : String)
    (f : Quarantine → Quarantine) : RuntimeDirectory :=
  let changed := Table.update Prod.fst name (fun entry => (entry.1, f entry.2)) w.quarantines
  { w with quarantines := changed }

/-- A map with a new entry for one key. -/
def assign {κ α : Type} [DecidableEq κ] (f : κ → α) (k : κ) (a : α) : κ → α :=
  fun k' => if k' = k then a else f k'

/-! ### Directory operations -/

/-- The checks of an archive that look at other directories: the backup copies, the durable
database, the leftovers of a migration, and the store itself. -/
inductive Check where
  | backup
  | durable
  | temps
  | store

/-- The operations on the runtime directory. -/
inductive ArchiveCmd where
  | random
  | check (check : Check)
  | sync
  | mkdir (name : String)
  | openQuarantine (name : String)
  | createMarker (quarantine : String)
  | writeMarker (quarantine : String) (text : List Char)
  | moveIn (quarantine : String) (name : FamilyName)
  | moveOut (quarantine : String) (name : FamilyName)
  | renameMarker (quarantine : String) (source target : ArchiveTransactionPhase)
  | readDirectory
  | markerExists (quarantine : String) (phase : ArchiveTransactionPhase)
  | readMarker (quarantine : String) (phase : ArchiveTransactionPhase)
  | readQuarantine (quarantine : String)
  | stat (name : FamilyName)
  | statQuarantined (quarantine : String) (name : FamilyName)

/-- The entries of a quarantine. -/
structure Entries where
  files : List FamilyName
  markers : List ArchiveTransactionPhase
  others : List String
  deriving DecidableEq

/-- What an operation returns. The result of `mkdir` says whether the name was free. -/
def ArchiveResult : ArchiveCmd → Type
  | .random => Fin 16 → UInt8
  | .mkdir _ => Bool
  | .readDirectory => List String
  | .markerExists .. => Bool
  | .readMarker .. => List Char
  | .readQuarantine _ => Entries
  | .stat _ => Option DatabaseIdentity
  | .statQuarantined .. => Option DatabaseIdentity
  | _ => Unit

/-- The reply to an operation. -/
abbrev ArchiveReply (c : ArchiveCmd) : Type := Except String (ArchiveResult c)

/-- The environment's decision about an operation. The default is success. -/
structure ArchiveChoice where
  fault : Option String := none
  random : Fin 16 → UInt8 := fun _ => 0

/-- The error of an operation on a name that does not exist. -/
def noEntry : String := "No such file or directory"

/-- A change of a quarantine, where the change can fail. -/
def RuntimeDirectory.change (w : RuntimeDirectory) (name : String)
    (f : Quarantine → Except String Quarantine) : Except String Unit × RuntimeDirectory :=
  match w.quarantine? name with
  | none => (.error noEntry, w)
  | some quarantine =>
    match f quarantine with
    | .error error => (.error error, w)
    | .ok changed => (.ok (), w.updateQuarantine name fun _ => changed)

/-- A question about a quarantine. -/
def RuntimeDirectory.ask {α : Type} (w : RuntimeDirectory) (name : String) (f : Quarantine → α) :
    Except String α × RuntimeDirectory :=
  match w.quarantine? name with
  | none => (.error noEntry, w)
  | some quarantine => (.ok (f quarantine), w)

/-- The quarantine with the new, empty marker file. -/
def Quarantine.createMarker (q : Quarantine) : Except String Quarantine :=
  if (q.markers .prepared).isSome then .error "File exists"
  else .ok { q with markers := assign q.markers .prepared (some []) }

/-- The quarantine with text appended to the marker file. -/
def Quarantine.writeMarker (text : List Char) (q : Quarantine) : Except String Quarantine :=
  .ok { q with markers := assign q.markers .prepared ((q.markers .prepared).map (· ++ text)) }

/-- The quarantine with a marker renamed. -/
def Quarantine.renameMarker (source target : ArchiveTransactionPhase) (q : Quarantine) :
    Except String Quarantine :=
  match q.markers source with
  | none => .error noEntry
  | some content =>
    .ok { q with markers := assign (assign q.markers source none) target (some content) }

/-- The entries of a quarantine. -/
def Quarantine.entries (q : Quarantine) : Entries :=
  { files := names q.files
    markers := ArchiveTransactionPhase.all.filter fun phase => (q.markers phase).isSome
    others := q.others }

/-- `renameat` from the runtime directory into a quarantine. -/
def RuntimeDirectory.moveIn (w : RuntimeDirectory) (quarantine : String) (name : FamilyName) :
    Except String Unit × RuntimeDirectory :=
  match w.files name, w.quarantine? quarantine with
  | some identity, some _ =>
    let moved := w.updateQuarantine quarantine fun q =>
      { q with files := assign q.files name (some identity) }
    (.ok (), { moved with files := assign w.files name none })
  | _, _ => (.error noEntry, w)

/-- `renameat` from a quarantine into the runtime directory. -/
def RuntimeDirectory.moveOut (w : RuntimeDirectory) (quarantine : String) (name : FamilyName) :
    Except String Unit × RuntimeDirectory :=
  match (w.quarantine? quarantine).bind (·.files name) with
  | some identity =>
    let moved := w.updateQuarantine quarantine fun q =>
      { q with files := assign q.files name none }
    (.ok (), { moved with files := assign w.files name (some identity) })
  | none => (.error noEntry, w)

/-- What an operation does when the environment lets it. -/
def performOk : (c : ArchiveCmd) → ArchiveChoice → RuntimeDirectory →
    ArchiveReply c × RuntimeDirectory
  | .random, x, w => (.ok x.random, w)
  | .check _, _, w => (.ok (), w)
  | .sync, _, w => (.ok (), w)
  | .mkdir name, _, w =>
    if (w.quarantine? name).isSome then (.ok false, w)
    else (.ok true, { w with quarantines := w.quarantines ++ [(name, {})] })
  | .openQuarantine name, _, w => w.ask name fun _ => ()
  | .createMarker quarantine, _, w => w.change quarantine Quarantine.createMarker
  | .writeMarker quarantine text, _, w => w.change quarantine (Quarantine.writeMarker text)
  | .moveIn quarantine name, _, w => w.moveIn quarantine name
  | .moveOut quarantine name, _, w => w.moveOut quarantine name
  | .renameMarker quarantine source target, _, w =>
    w.change quarantine (Quarantine.renameMarker source target)
  | .readDirectory, _, w => (.ok (w.quarantines.map Prod.fst), w)
  | .markerExists quarantine phase, _, w => w.ask quarantine fun q => (q.markers phase).isSome
  | .readMarker quarantine phase, _, w => w.ask quarantine fun q => (q.markers phase).getD []
  | .readQuarantine quarantine, _, w => w.ask quarantine Quarantine.entries
  | .stat name, _, w => (.ok (w.files name), w)
  | .statQuarantined quarantine name, _, w => w.ask quarantine fun q => q.files name

/-- What an operation does, and its reply. -/
def perform (c : ArchiveCmd) (x : ArchiveChoice) (w : RuntimeDirectory) :
    ArchiveReply c × RuntimeDirectory :=
  match x.fault with
  | some error => (.error error, w)
  | none => performOk c x w

/-! ### Errors -/

/-- The errors of the controller state that an archive can end with. -/
inductive ControllerStateError where
  | unsafePath (message : String)
  | migration (message : String)
  | store (message : String)
  deriving DecidableEq, Repr

/-- `unsafe_error`. -/
def unsafeError (context error : String) : ControllerStateError :=
  .unsafePath s!"{context}: {error}"

/-- `migration_fs_error`. -/
def migrationFsError (context error : String) : ControllerStateError :=
  .migration s!"{context}: {error}"

/-- The error a failed check ends with. -/
def Check.error : Check → String → ControllerStateError
  | .backup, error => .migration error
  | .durable, error => .unsafePath error
  | .temps, error => .unsafePath error
  | .store, error => .store error

/-- Programs of the archive. -/
abbrev Arc (α : Type) : Type := Prog ArchiveCmd ArchiveReply ControllerStateError α

/-- One operation, where a failure ends the program. -/
def step (toError : String → ControllerStateError) (c : ArchiveCmd) : Arc (ArchiveResult c) :=
  .call c fun
    | .ok result => .pure result
    | .error error => .throw (toError error)

/-- A check of the program itself. -/
def ensure (condition : Bool) (message : String) : Arc Unit :=
  if condition then .pure () else .throw (.unsafePath message)

/-- `fsync`. -/
def sync (context : String) : Arc Unit := step (migrationFsError context) .sync

/-! ### The marker -/

/-- One line of the marker, in the pieces in which it is written. -/
def markerLine (name : FamilyName) (identity : DatabaseIdentity) : List (List Char) :=
  [name.asStr.toList, ['\t'], Nat.toDigits 10 identity.device.toNat, ['\t'],
    Nat.toDigits 10 identity.inode.toNat, ['\n']]

/-- The lines of the marker for a list of files, in pieces. -/
def markerLines (identities : Identities) (files : List FamilyName) : List (List Char) :=
  files.flatMap fun name => (identities name).elim [] (markerLine name)

/-- The writes that make the marker. -/
def markerPieces (identities : Identities) : List (List Char) :=
  [archiveMarkerHeader.toList, ['\n']] ++ markerLines identities (names identities)

def writeArchivePreparedMarker (quarantine : String) (identities : Identities) : Arc Unit := do
  let _ ← step (unsafeError "legacy archive transaction marker") (.createMarker quarantine)
  (markerPieces identities).forM fun piece => step .migration (.writeMarker quarantine piece)
  let _ ← step .migration .sync
  sync "syncing the archive transaction marker"

def malformedMarker : ControllerStateError :=
  .unsafePath "legacy archive transaction marker is malformed"

/-- The fields of a line of the marker. -/
def readMarkerLine (line : List Char) : Option (FamilyName × DatabaseIdentity) :=
  match splitOn '\t' line with
  | [name, device, inode] => do
    let name ← FamilyName.ofName name
    let device ← parseUnsigned (2 ^ 64) device
    let inode ← parseUnsigned (2 ^ 64) inode
    some (name, ⟨UInt64.ofNat device, UInt64.ofNat inode⟩)
  | _ => none

/-- Reads the lines of the marker after its header. -/
def readMarkerLines (identities : Identities) :
    List (List Char) → Except ControllerStateError Identities
  | [] => .ok identities
  | line :: lines =>
    match readMarkerLine line with
    | none => .error malformedMarker
    | some (name, identity) =>
      if (identities name).isSome then
        .error (.unsafePath "legacy archive transaction marker contains duplicate files")
      else readMarkerLines (assign identities name (some identity)) lines

/-- `read_archive_marker`, on the content of the marker. -/
def readArchiveMarker (contents : List Char) : Except ControllerStateError Identities :=
  if byteLength contents > 4096 then
    .error (.unsafePath "legacy archive transaction marker is too large")
  else if contents.getLast? ≠ some '\n' then
    .error (.unsafePath "legacy archive transaction marker is truncated")
  else
    match lines contents with
    | [] => .error (.unsafePath "legacy archive transaction marker has an unknown version")
    | header :: lines =>
      if header ≠ archiveMarkerHeader.toList then
        .error (.unsafePath "legacy archive transaction marker has an unknown version")
      else
        match readMarkerLines (fun _ => none) lines with
        | .error error => .error error
        | .ok identities =>
          if (identities .database).isSome then .ok identities
          else .error (.unsafePath "legacy archive transaction marker omits the database")

/-! ### Archiving -/

/-- The loop of `create_private_quarantine`. -/
def createPrivateQuarantine : Nat → Arc String
  | 0 => .throw (.unsafePath "no collision-free legacy archive quarantine name is available")
  | attempts + 1 => do
    let random : Fin 16 → UInt8 ←
      step (unsafeError "generating a legacy archive quarantine name") .random
    let name := quarantineName random
    let created : Bool ← step (unsafeError "creating a legacy archive quarantine") (.mkdir name)
    if created then do
      let _ ← step (unsafeError "legacy archive quarantine") (.openQuarantine name)
      pure name
    else createPrivateQuarantine attempts

def createLegacyArchiveQuarantine : Arc String := createPrivateQuarantine 128

/-- Renames files out of a quarantine. -/
def moveAllOut (context quarantine : String) (files : List FamilyName) : Arc Unit :=
  files.forM fun name => step (unsafeError context) (.moveOut quarantine name)

def restoreLegacyArchiveQuarantine (quarantine : String) (moved : List FamilyName) : Arc Unit := do
  let _ ← step (unsafeError "unlocking legacy archive quarantine") .sync
  moveAllOut "restoring a legacy SQLite sidecar" quarantine (moved.drop 1).reverse
  moveAllOut "restoring the legacy database" quarantine (moved.take 1)

structure LegacyArchiveTransaction where
  quarantine : String
  identities : Identities
  moved : List FamilyName

/-- The loop that renames the files into the quarantine. When a rename fails, the files that were
moved go back. -/
def moveFiles (quarantine : String) (moved : List FamilyName) :
    List FamilyName → Arc (List FamilyName)
  | [] => .pure moved
  | name :: files =>
    .call (.moveIn quarantine name) fun
      | .ok _ => moveFiles quarantine (moved ++ [name]) files
      | .error error => do
        restoreLegacyArchiveQuarantine quarantine moved
        .throw (migrationFsError "quarantining archived legacy state" error)

def validateLiveArchiveTransactionLayout (transaction : LegacyArchiveTransaction) : Arc Unit := do
  let entries : Entries ← step (unsafeError "legacy archive quarantine")
    (.readQuarantine transaction.quarantine)
  let expected : Entries :=
    { files := FamilyName.all.filter (· ∈ transaction.moved), markers := [.prepared], others := [] }
  ensure (entries = expected) "legacy archive transaction layout changed"

def transitionArchiveMarker (quarantine : String) (source target : ArchiveTransactionPhase) :
    Arc Unit := do
  let found : Bool ← step (unsafeError "phase marker") (.markerExists quarantine target)
  ensure (!found) "legacy archive transaction has ambiguous phase markers"
  step (unsafeError "transitioning legacy archive transaction")
    (.renameMarker quarantine source target)

/-- The file of a quarantine has the identity that the marker lists. -/
def validateArchiveFile (quarantine : String) (identities : Identities) (name : FamilyName) :
    Arc Unit := do
  ensure (identities name).isSome "legacy archive transaction contains an unexpected file"
  let found : Option DatabaseIdentity ← step (unsafeError "legacy archive transaction file")
    (.statQuarantined quarantine name)
  ensure found.isSome ("legacy archive transaction file: " ++ noEntry)
  ensure (found = identities name) "legacy archive transaction file identity changed"

def validateArchiveFiles (quarantine : String) (identities : Identities)
    (files : List FamilyName) : Arc Unit :=
  files.forM (validateArchiveFile quarantine identities)

def LegacyArchiveTransaction.restore (transaction : LegacyArchiveTransaction) : Arc Unit := do
  validateLiveArchiveTransactionLayout transaction
  validateArchiveFiles transaction.quarantine transaction.identities transaction.moved
  restoreLegacyArchiveQuarantine transaction.quarantine transaction.moved
  sync "syncing restored archive quarantine"
  sync "syncing restored legacy state"
  transitionArchiveMarker transaction.quarantine .prepared .restored
  sync "syncing restored archive marker"
  sync "syncing restored archive transaction"

def LegacyArchiveTransaction.commit (transaction : LegacyArchiveTransaction) : Arc Unit := do
  validateLiveArchiveTransactionLayout transaction
  validateArchiveFiles transaction.quarantine transaction.identities transaction.moved
  transitionArchiveMarker transaction.quarantine .prepared .committed
  sync "syncing committed archive marker"
  sync "syncing committed archive transaction"

/-- A check after the files were moved. When it fails, they go back. -/
def LegacyArchiveTransaction.checkOrRestore (transaction : LegacyArchiveTransaction)
    (check : Check) : Arc Unit :=
  .call (.check check) fun
    | .ok _ => .pure ()
    | .error error => do
      transaction.restore
      .throw (check.error error)

/-- `archive_legacy_state_with_guard`. `archive_legacy_state` is the case where the checks of the
durable database pass. -/
def archiveLegacyStateWithGuard (legacy : Identities) : Arc LegacyArchiveTransaction := do
  let _ ← step (Check.error .backup) (.check .backup)
  let _ ← step (Check.error .durable) (.check .durable)
  let quarantine ← createLegacyArchiveQuarantine
  writeArchivePreparedMarker quarantine legacy
  sync "syncing prepared archive transaction"
  let moved ← moveFiles quarantine [] (names legacy)
  sync "syncing quarantined legacy database"
  (moved.drop 1).forM fun _ => sync "syncing quarantined legacy sidecar"
  sync "syncing legacy archive quarantine"
  sync "syncing the legacy runtime directory"
  let transaction : LegacyArchiveTransaction := ⟨quarantine, legacy, moved⟩
  transaction.checkOrRestore .durable
  sync "syncing the durable archive directory"
  pure transaction

/-- Archives the legacy files, makes further checks and commits. -/
def archiveAndCommit (checks : List Check) (legacy : Identities) : Arc Unit := do
  let transaction ← archiveLegacyStateWithGuard legacy
  checks.forM transaction.checkOrRestore
  transaction.commit

/-- The part of `migrate_legacy_store` that follows the publication of the durable database. -/
def migrateLegacyStore (legacy : Identities) : Arc Unit :=
  archiveAndCommit [.temps, .store] legacy

/-! ### Recovery -/

structure RecoveredArchiveTransaction where
  quarantine : String
  phase : ArchiveTransactionPhase
  quarantinedNames : List FamilyName

/-- The phase markers that a quarantine has. -/
def findPhases (quarantine : String) :
    List ArchiveTransactionPhase → Arc (List ArchiveTransactionPhase)
  | [] => .pure []
  | phase :: phases => do
    let found : Bool ← step (unsafeError "phase marker") (.markerExists quarantine phase)
    let rest ← findPhases quarantine phases
    pure (if found then phase :: rest else rest)

/-- The identity of a file of a prepared transaction, in the place where the file is. -/
def statIn (quarantine : String) (active : Bool) (name : FamilyName) :
    Arc (Option DatabaseIdentity) :=
  let context := unsafeError "prepared legacy archive transaction file"
  if active then step context (.stat name) else step context (.statQuarantined quarantine name)

/-- A file that the marker of a prepared transaction lists is in exactly one of the two places, and
has the identity that is listed. -/
def validatePreparedFile (quarantine : String) (quarantinedNames : List FamilyName)
    (identities : Identities) (name : FamilyName) : Arc Unit := do
  let active : Option DatabaseIdentity ← step (unsafeError name.asStr) (.stat name)
  let quarantined := name ∈ quarantinedNames
  ensure (active.isSome ≠ quarantined)
    "prepared legacy archive transaction has an ambiguous file layout"
  let found ← statIn quarantine active.isSome name
  ensure found.isSome ("prepared legacy archive transaction file: " ++ noEntry)
  ensure (found = identities name) "prepared legacy archive transaction file identity changed"

/-- A sidecar that the marker of a prepared transaction does not list is not active. -/
def validateAbsentSidecar (identities : Identities) (name : FamilyName) : Arc Unit :=
  if (identities name).isSome then .pure ()
  else do
    let active : Option DatabaseIdentity ← step (unsafeError name.asStr) (.stat name)
    ensure active.isNone "prepared legacy archive transaction has an unexpected active sidecar"

def validatePreparedArchiveLayout (quarantine : String) (identities : Identities)
    (quarantinedNames : List FamilyName) : Arc Unit := do
  (names identities).forM (validatePreparedFile quarantine quarantinedNames identities)
  FamilyName.sidecars.forM (validateAbsentSidecar identities)

/-- The checks of a recovered transaction that depend on its phase. -/
def validateRecovered (quarantine : String) (identities : Identities) (files : List FamilyName) :
    ArchiveTransactionPhase → Arc Unit
  | .committed => do
    ensure (files.length = (names identities).length)
      "committed legacy archive transaction is incomplete"
    validateArchiveFiles quarantine identities files
  | .restored => ensure files.isEmpty "restored legacy archive transaction is not empty"
  | .prepared => validatePreparedArchiveLayout quarantine identities files

/-- Reads the quarantine of a transaction whose phase is known. -/
def openInPhase (quarantine : String) (phase : ArchiveTransactionPhase) :
    Arc RecoveredArchiveTransaction := do
  let contents : List Char ← step (unsafeError "legacy archive transaction marker")
    (.readMarker quarantine phase)
  let identities ← Prog.ofExcept (readArchiveMarker contents)
  let entries : Entries ← step (unsafeError "legacy archive quarantine")
    (.readQuarantine quarantine)
  ensure (phase ∈ entries.markers) "legacy archive transaction marker disappeared"
  ensure (entries.markers.all (· = phase) && entries.others.isEmpty &&
      entries.files.all fun name => (identities name).isSome)
    "legacy archive quarantine contains unexpected entries"
  validateRecovered quarantine identities entries.files phase
  pure ⟨quarantine, phase, entries.files⟩

def openRecoveredArchiveTransaction (quarantine : String) : Arc RecoveredArchiveTransaction := do
  let _ ← step (unsafeError "legacy archive quarantine") (.openQuarantine quarantine)
  let phases ← findPhases quarantine ArchiveTransactionPhase.all
  match phases with
  | [phase] => openInPhase quarantine phase
  | _ => .throw (.unsafePath "legacy archive transaction must have exactly one phase marker")

def restoreRecoveredArchiveTransaction (transaction : RecoveredArchiveTransaction) : Arc Unit := do
  let files := transaction.quarantinedNames
  moveAllOut "recovering a legacy SQLite sidecar" transaction.quarantine
    (files.filter (· ≠ .database)).reverse
  moveAllOut "recovering the legacy database" transaction.quarantine
    (files.filter (· = .database))
  sync "syncing recovered archive quarantine"
  sync "syncing recovered legacy state"
  transitionArchiveMarker transaction.quarantine .prepared .restored
  sync "syncing recovered archive marker"
  sync "syncing recovered archive transaction"

/-- Reads the quarantines with the given names. -/
def openAll : List String → Arc (List RecoveredArchiveTransaction)
  | [] => .pure []
  | name :: names => do
    ensure (exactArchiveQuarantineName name) "legacy archive quarantine has a malformed name"
    let transaction ← openRecoveredArchiveTransaction name
    let rest ← openAll names
    pure (transaction :: rest)

def recoverLegacyArchiveTransactions : Arc Unit := do
  let found : List String ← step (unsafeError "legacy runtime directory") .readDirectory
  let transactions ← openAll found
  match transactions.filter (·.phase = .prepared) with
  | [] => .pure ()
  | [transaction] => restoreRecoveredArchiveTransaction transaction
  | _ => .throw (.unsafePath "multiple prepared legacy archive transactions are ambiguous")

end Gascan.Archive
