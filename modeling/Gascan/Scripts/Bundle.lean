import Gascan.Lib.Resolve
import Gascan.Lib.Result
import Gascan.Lib.Table
import Gascan.Lib.Text

/-!
# `Gascan.Scripts.Bundle`: manifests of bundles, and their extraction

A bundle is an archive whose manifest lists its files, directories and symbolic links.
`validateManifest` checks the manifest, and `extractValidated` builds the tree in two passes over
the archive: directories and files first, and then the links. A tree is a list of paths with what is
there. Names that a file system refuses, and its failures, are left out.
-/

namespace Gascan.Bundle

open Lib Lib.Text Lib.Resolve

abbrev Name : Type := List Char

/-- The errors of these functions. The text of an error of the file system is left out. -/
inductive BundleError where
  | manifest (message : List Char)
  | nonCanonicalManifest
  | unsafePath (path : List Char)
  | unsafeLink (path : List Char)
  | symlinkAncestor (path : List Char)
  | unexpectedArchiveEntry (path : List Char)
  | fileSizeMismatch (path : List Char)
  | io
  deriving DecidableEq

inductive ManifestEntry where
  | file (path : List Char) (size : Nat) (sha256 : List Char)
  | directory (path : List Char)
  | symlink (path : List Char) (target : List Char)
  deriving DecidableEq

def ManifestEntry.path : ManifestEntry → List Char
  | .file path .. => path
  | .directory path => path
  | .symlink path _ => path

structure BundleManifest where
  version : Nat
  platform : List Char
  files : List ManifestEntry

/-- `BUNDLE_PLATFORM`. -/
def bundlePlatform : List Char := "linux/arm64".toList

/-- `MAX_ENTRIES`. -/
def maxEntries : Nat := 1000000

/-- `MAX_EXPANDED_BYTES`. -/
def maxExpandedBytes : Nat := 64 * 1024 * 1024 * 1024

/-! ### Paths -/

/-- `Path::is_absolute`. -/
def isAbsolute (text : List Char) : Bool := text.head? = some '/'

/-- Names with slashes between them. -/
def joinNames : List Name → List Char
  | [] => []
  | [name] => name
  | name :: rest => name ++ '/' :: joinNames rest

/-- `normalized`. -/
def normalized (text : List Char) : List Char := joinNames (names text)

/-- `validate_relative_path`. -/
def validateRelativePath (value : List Char) : Except BundleError Unit :=
  ensureThat (value ≠ [] ∧ value.getLast? ≠ some '/' ∧ isAbsolute value = false ∧
    (components value).all (fun part => (normalName part).isSome) ∧ normalized value = value)
    (.unsafePath value)

/-! ### Manifests -/

/-- `validate_link`. The loop over the target is `depth`: it starts in the directory of the link,
and must not go above the root. -/
def validateLink (path target : List Char) : Except BundleError Unit :=
  ensureThat (target ≠ [] ∧ isAbsolute target = false ∧
    (depth (components path).dropLast.length (components target)).isSome) (.unsafeLink path)

/-- `is_descendant`. -/
def isDescendant (candidate ancestor : List Char) : Bool :=
  (candidate.dropPrefix? ancestor).any fun suffix => suffix.head? = some '/'

/-- `is_lower_sha256`. -/
def isLowerSha256 (value : List Char) : Bool := value.length = 64 && value.all isLowerHex

/-- The order of texts. The order of UTF-8 is that of the code points. -/
def textBefore : List Char → List Char → Bool
  | _, [] => false
  | [], _ :: _ => true
  | c :: cs, d :: ds => c.toNat < d.toNat || (c = d && textBefore cs ds)

/-- What `validate_manifest` checks for one entry, with the entries after it. It returns the
expanded size so far. -/
def validateFile (expanded : Nat) (later : List ManifestEntry) :
    ManifestEntry → Except BundleError Nat
  | .file path size sha256 => do
    ensureThat (isLowerSha256 sha256 = true)
      (.manifest ("invalid SHA-256 for ".toList ++ path))
    ensureThat (expanded + size < 2 ^ 64) (.manifest "expanded size overflow".toList)
    Pure.pure (expanded + size)
  | .directory _ => Pure.pure expanded
  | .symlink path target => do
    validateLink path target
    ensureThat (later.all (fun other => !isDescendant other.path path)) (.symlinkAncestor path)
    Pure.pure expanded

/-- The loop of `validate_manifest`. -/
def validateFiles (previous : Option (List Char)) (expanded : Nat) :
    List ManifestEntry → Except BundleError Nat
  | [] => .ok expanded
  | entry :: later => do
    validateRelativePath entry.path
    ensureThat (previous.all (textBefore · entry.path) = true) .nonCanonicalManifest
    let expanded ← validateFile expanded later entry
    validateFiles (some entry.path) expanded later

/-- `validate_manifest`. -/
def validateManifest (manifest : BundleManifest) : Except BundleError Unit := do
  ensureThat (manifest.version = 1 ∧ manifest.platform = bundlePlatform)
    (.manifest "unsupported version or platform".toList)
  ensureThat (manifest.files.length ≤ maxEntries)
    (.manifest "manifest entry limit exceeded".toList)
  let expanded ← validateFiles none 0 manifest.files
  ensureThat (expanded ≤ maxExpandedBytes) (.manifest "expanded file size limit exceeded".toList)

/-! ### Trees -/

inductive Node where
  | directory
  | file (data : List UInt8)
  | symlink (target : List Char)
  deriving DecidableEq

abbrev Tree : Type := List (List Name × Node)

/-- What is at a path of a tree. -/
def Tree.node (tree : Tree) (path : List Name) : Option Node :=
  if path = [] then some .directory else (Table.lookup Prod.fst path tree).map Prod.snd

/-- An entry of an archive after the manifest: its path, and its content. -/
structure ArchiveEntry where
  path : List Char
  data : List UInt8

/-- The loop of `ensure_directory_path`, from the directory that is reached. A directory that exists
is opened without following a link. -/
def ensureDirectories (reached : List Name) : List Name → Tree → Except BundleError Tree
  | [], tree => .ok tree
  | name :: rest, tree =>
    match tree.node (reached ++ [name]) with
    | none => ensureDirectories (reached ++ [name]) rest ((reached ++ [name], .directory) :: tree)
    | some .directory => ensureDirectories (reached ++ [name]) rest tree
    | some _ => .error .io

/-- `ensure_directory_path`, for the components of a path. -/
def ensureDirectoryPath (tree : Tree) (path : List Char) (parts : List (Component Name)) :
    Except BundleError Tree := do
  ensureThat (parts.all (fun part => (normalName part).isSome)) (.unsafePath path)
  ensureDirectories [] (parts.filterMap normalName) tree

/-- Creates what must not exist yet, after the directories above it. -/
def createNode (tree : Tree) (path : List Char) (node : Node) : Except BundleError Tree := do
  let tree ← ensureDirectoryPath tree path (components path).dropLast
  let name ← okOr ((components path).getLast?.bind normalName) (.unsafePath path)
  let full := (components path).dropLast.filterMap normalName ++ [name]
  ensureThat (tree.node full = none) .io
  Pure.pure ((full, node) :: tree)

/-- `write_file`. -/
def writeFile (tree : Tree) (path : List Char) (data : List UInt8) (size : Nat) :
    Except BundleError Tree := do
  let tree ← createNode tree path (.file (data.take (size + 1)))
  ensureThat ((data.take (size + 1)).length = size) (.fileSizeMismatch path)
  Pure.pure tree

/-- `create_symlink`. -/
def createSymlink (tree : Tree) (path target : List Char) : Except BundleError Tree :=
  createNode tree path (.symlink target)

/-- What a pass does with one entry of the archive. -/
def extractEntry (symlinksOnly : Bool) (tree : Tree) (data : List UInt8) :
    ManifestEntry → Except BundleError Tree
  | .symlink path target => if symlinksOnly then createSymlink tree path target else .ok tree
  | .directory path =>
    if symlinksOnly then .ok tree else ensureDirectoryPath tree path (components path)
  | .file path size _ => if symlinksOnly then .ok tree else writeFile tree path data size

/-- `extract_pass`. -/
def extractPass (manifest : BundleManifest) (symlinksOnly : Bool) :
    List ArchiveEntry → Tree → Except BundleError Tree
  | [], tree => .ok tree
  | entry :: archive, tree => do
    let expected ← okOr (manifest.files.find? (·.path = entry.path))
      (.unexpectedArchiveEntry entry.path)
    let tree ← extractEntry symlinksOnly tree entry.data expected
    extractPass manifest symlinksOnly archive tree

/-- `extract_validated`. -/
def extractValidated (archive : List ArchiveEntry) (manifest : BundleManifest) :
    Except BundleError Tree := do
  let tree ← extractPass manifest false archive []
  extractPass manifest true archive tree

end Gascan.Bundle
