import Gascan.Daemon.Json
import Gascan.Lib.Program
import Gascan.Lib.Sha256
import Gascan.Lib.Text
import Mathlib.Logic.Function.Basic

/-!
# `Gascan.Core.EngineArtifacts`: fetching and verifying the boot artifacts

The engine boots from a kernel and from `vminit`, an OCI image layout. `fetch` downloads both into a
staging directory, verifies them against the pin, and moves them to the live paths.
`verifyInstalled` verifies what is at the live paths.

The file system is the artifact root: the two live paths, and the staging directory with its
entries. Each command meets a `Choice`: it is done, it fails, or the process dies there, after which
nothing happens any more; a tool leaves any output. A removal that does not come to its end leaves a
part of the directory, which is chosen as well.
-/

namespace Gascan.Artifacts

open Lib Lib.Text

/-! ### The pin -/

/-- The identity of what is inside an asset. -/
structure Content where
  bytes : Nat
  sha256 : String

structure Artifact where
  asset : String
  url : String
  bytes : Nat
  sha256 : String
  content : Content

/-- The part of the pin that is used here. -/
structure Pin where
  kernel : Artifact
  vminit : Artifact

/-- The errors. The text of an error of the file system is left out. -/
inductive ArtifactError where
  | download (asset detail : String)
  | digest (what expected observed : String)
  | unpack (asset detail : String)
  | io
  deriving DecidableEq

/-! ### The file system -/

/-- A file, or a directory with its entries. There are no symbolic links: the tools are taken to
leave none, although an archive could hold one, which `require_oci_manifest` would follow and the
rename to the live path would not. -/
inductive Entry where
  | file (data : List UInt8)
  | directory (entries : List (String × Entry))

namespace Entry

/-- What is at a path below an entry. -/
def find : Entry → List String → Option Entry
  | entry, [] => some entry
  | .file _, _ :: _ => none
  | .directory entries, name :: rest =>
    ((entries.find? (·.1 = name)).map Prod.snd).bind (find · rest)

/-- An entry without what is at a path below it. -/
def remove : Entry → List String → Option Entry
  | _, [] => none
  | .file data, _ :: _ => some (.file data)
  | .directory entries, name :: rest =>
    some (.directory (entries.filterMap fun entry =>
      if entry.1 = name then (remove entry.2 rest).map (entry.1, ·) else some entry))

/-- The content of a file. -/
def data : Entry → Option (List UInt8)
  | .file data => some data
  | .directory _ => none

end Entry

/-- The two live paths, and the entries of the staging directory by name. -/
inductive Spot where
  | kernel
  | vminit
  | staged (name : String)
  deriving DecidableEq

structure World where
  kernel : Option Entry
  vminit : Option Entry
  staging : Option (String → Option Entry)
  crashed : Bool

namespace World

def spot (w : World) : Spot → Option Entry
  | .kernel => w.kernel
  | .vminit => w.vminit
  | .staged name => w.staging.bind (· name)

def setSpot (w : World) (entry : Option Entry) : Spot → World
  | .kernel => { w with kernel := entry }
  | .vminit => { w with vminit := entry }
  | .staged name => { w with staging := w.staging.map (Function.update · name entry) }

/-- What is at a path below a spot. -/
def look (w : World) (spot : Spot) (path : List String) : Option Entry :=
  (w.spot spot).bind (·.find path)

end World

/-! ### Commands -/

inductive Fate where
  | done
  | failed
  | crashed
  deriving DecidableEq

/-- How a command goes: its fate, what a tool leaves or what is left of a directory, and what a tool
says about its failure. -/
structure Choice where
  fate : Fate
  output : Option Entry
  detail : String

/-- The tools of a `ToolRunner`. -/
inductive Tool where
  | download
  | gunzip
  | untar
  deriving DecidableEq

inductive Command where
  | preparePrivateRoot
  | removeStaging
  | createStaging
  | tool (tool : Tool) (source name : String)
  | createDirAll (name : String)
  | measure (spot : Spot) (path : List String)
  | read (spot : Spot) (path : List String)
  | removeFile (spot : Spot)
  | removeDirAll (spot : Spot)
  | rename (source : Spot) (path : List String) (target : Spot)

/-- The reply to a command. An error of a tool has its text. -/
@[reducible] def Command.Reply : Command → Type
  | .measure .. => Except Unit (Nat × String)
  | .read .. => Except Unit (List UInt8)
  | .tool .. => Except String Unit
  | _ => Except Unit Unit

/-- `sha256` in lowercase hexadecimal. -/
def sha256Hex (data : List UInt8) : String := hexLower (Sha256.digest (data.map UInt8.toNat))

/-- Whether a rename may replace what is there: a file replaces a file, and a directory an empty
directory. -/
def replaces : Entry → Option Entry → Bool
  | _, none => true
  | .file _, some (.file _) => true
  | .directory _, some (.directory []) => true
  | _, _ => false

/-- A tool leaves its output in staging, whether it fails or not. -/
def runTool (name : String) (x : Choice) (w : World) : Except String Unit × World :=
  (if x.fate = .done then .ok () else .error x.detail, w.setSpot x.output (.staged name))

/-- Reads a file to its end. -/
def readFile {α : Type} (f : List UInt8 → α) (spot : Spot) (path : List String) (x : Choice)
    (w : World) : Except Unit α :=
  match (w.look spot path).bind Entry.data with
  | some data => if x.fate = .done then .ok (f data) else .error ()
  | none => .error ()

/-- What a command does before a crash. -/
def act : (c : Command) → Choice → World → c.Reply × World
  | .preparePrivateRoot, x, w => (if x.fate = .done then .ok () else .error (), w)
  | .removeStaging, x, w =>
    if x.fate = .done then (.ok (), { w with staging := none }) else (.error (), w)
  | .createStaging, x, w =>
    if x.fate = .done ∧ w.staging.isNone then (.ok (), { w with staging := some fun _ => none })
    else (.error (), w)
  | .tool _ _ name, x, w => runTool name x w
  | .createDirAll name, x, w =>
    match w.spot (.staged name) with
    | none =>
      if x.fate = .done then (.ok (), w.setSpot (some (.directory [])) (.staged name))
      else (.error (), w)
    | some (.directory _) => (if x.fate = .done then .ok () else .error (), w)
    | some (.file _) => (.error (), w)
  | .measure spot path, x, w =>
    (readFile (fun data => (data.length, sha256Hex data)) spot path x w, w)
  | .read spot path, x, w => (readFile id spot path x w, w)
  | .removeFile spot, x, w =>
    match w.spot spot with
    | some (.file _) =>
      if x.fate = .done then (.ok (), w.setSpot none spot) else (.error (), w)
    | _ => (.error (), w)
  | .removeDirAll spot, x, w =>
    match w.spot spot with
    | some (.directory _) =>
      if x.fate = .done then (.ok (), w.setSpot none spot)
      else (.error (), w.setSpot x.output spot)
    | _ => (.error (), w)
  | .rename source path target, x, w =>
    match w.look source path with
    | some entry =>
      if x.fate = .done ∧ replaces entry (w.spot target) then
        (.ok (), (w.setSpot ((w.spot source).bind (·.remove path)) source).setSpot
          (some entry) target)
      else (.error (), w)
    | none => (.error (), w)

/-- The reply to a command of a process that is dead. -/
def noReply : (c : Command) → c.Reply
  | .measure .. | .read .. => .error ()
  | .tool .. => .error ""
  | .preparePrivateRoot | .removeStaging | .createStaging | .createDirAll _ | .removeFile _
  | .removeDirAll _ | .rename .. => .error ()

/-- Performs a command, unless the process is dead. -/
def perform (c : Command) (x : Choice) (w : World) : c.Reply × World :=
  if w.crashed then (noReply c, w)
  else ((act c x w).1, { (act c x w).2 with crashed := x.fate = .crashed })

/-! ### Verification -/

abbrev Art (α : Type) : Type := Prog Command Command.Reply ArtifactError α

def issue (c : Command) : Art c.Reply := Prog.perform c

/-- A command of the file system whose error ends the function. -/
def orIo {α : Type} (reply : Except Unit α) : Art α :=
  match reply with
  | .ok a => Prog.pure a
  | .error _ => Prog.throw .io

/-- `require_file`: the length is checked before the digest. -/
def requireFile (spot : Spot) (path : List String) (what : String) (content : Content) :
    Art Unit := do
  let measured : Except Unit (Nat × String) ← issue (.measure spot path)
  let (observedBytes, observedSha) ← orIo measured
  if observedBytes ≠ content.bytes then
    Prog.throw (.digest (what ++ " length") (toString content.bytes ++ " bytes")
      (toString observedBytes ++ " bytes"))
  else if observedSha ≠ content.sha256 then
    Prog.throw (.digest (what ++ " sha256") content.sha256 observedSha)
  else Pure.pure ()

/-- How JSON is parsed. An error has its text. -/
abbrev Parser : Type := List UInt8 → Except String Json

/-- The checks of `require_oci_manifest` on the index: it names one manifest, by the digest and size
of the pin. `asset` is the path of the index in error texts. -/
def checkIndex (asset : String) (content : Content) (index : Json) : Except ArtifactError Unit :=
  match (index.get "manifests").bind Json.asArray with
  | none => .error (.unpack asset "the image index names no manifests")
  | some [manifest] =>
    let digest := (manifest.getStr "digest").getD ""
    let size := manifest.getNat "size"
    if digest ≠ "sha256:" ++ content.sha256 then
      .error (.digest "vminit OCI manifest digest" ("sha256:" ++ content.sha256) digest)
    else if size ≠ some content.bytes then
      .error (.digest "vminit OCI manifest size" (toString content.bytes ++ " bytes")
        (size.elim "absent" fun size => toString size ++ " bytes"))
    else .ok ()
  | some manifests =>
    .error (.unpack asset ("the image index names " ++ toString manifests.length ++
      " manifests; the pin describes one"))

/-- `require_oci_manifest`. `asset` is the path of the index in error texts. -/
def requireOciManifest (parse : Parser) (spot : Spot) (path : List String) (asset : String)
    (content : Content) : Art Unit := do
  let bytes : Except Unit (List UInt8) ← issue (.read spot (path ++ ["index.json"]))
  let bytes ← orIo bytes
  let index ← Prog.ofExcept ((parse bytes).mapError fun detail => .unpack asset detail)
  Prog.ofExcept (checkIndex asset content index)
  requireFile spot (path ++ ["blobs", "sha256", content.sha256]) "vminit OCI manifest blob" content

/-- `verify_installed`. `root` is the artifact root in error texts. -/
def verifyInstalled (parse : Parser) (root : String) (pin : Pin) : Art Unit := do
  requireFile .kernel [] "the installed kernel" pin.kernel.content
  requireOciManifest parse .vminit [] (root ++ "/vminit/index.json") pin.vminit.content

/-! ### Fetching -/

/-- A tool whose error ends the function. -/
def orTool (error : String → ArtifactError) (reply : Except String Unit) : Art Unit :=
  match reply with
  | .ok () => Prog.pure ()
  | .error detail => Prog.throw (error detail)

/-- The first part of `fetch_into`: the kernel is downloaded, unpacked, and verified. -/
def stageKernel (pin : Pin) : Art Unit := do
  let asset := pin.kernel.asset
  let downloaded : Except String Unit ← issue (.tool .download pin.kernel.url asset)
  orTool (.download asset ·) downloaded
  requireFile (.staged asset) [] asset ⟨pin.kernel.bytes, pin.kernel.sha256⟩
  let unpacked : Except String Unit ← issue (.tool .gunzip asset "vmlinux")
  orTool (.unpack asset ·) unpacked
  requireFile (.staged "vmlinux") [] "the uncompressed kernel" pin.kernel.content

/-- The second part of `fetch_into`: the layout is downloaded, unpacked, and verified. -/
def stageVminit (parse : Parser) (root : String) (pin : Pin) : Art Unit := do
  let asset := pin.vminit.asset
  let downloaded : Except String Unit ← issue (.tool .download pin.vminit.url asset)
  orTool (.download asset ·) downloaded
  requireFile (.staged asset) [] asset ⟨pin.vminit.bytes, pin.vminit.sha256⟩
  let created : Except Unit Unit ← issue (.createDirAll "unpacked")
  orIo created
  let unpacked : Except String Unit ← issue (.tool .untar asset "unpacked")
  orTool (.unpack asset ·) unpacked
  requireOciManifest parse (.staged "unpacked") ["vminit"]
    (root ++ "/.staging/unpacked/vminit/index.json") pin.vminit.content

/-- The third part of `fetch_into`: the promotion. The results of the two removals are ignored. -/
def promote : Art Unit := do
  let _ : Except Unit Unit ← issue (.removeFile .kernel)
  let _ : Except Unit Unit ← issue (.removeDirAll .vminit)
  let renamed : Except Unit Unit ← issue (.rename (.staged "vmlinux") [] .kernel)
  orIo renamed
  let renamed : Except Unit Unit ← issue (.rename (.staged "unpacked") ["vminit"] .vminit)
  orIo renamed

/-- `fetch_into`. -/
def fetchInto (parse : Parser) (root : String) (pin : Pin) : Art Unit := do
  stageKernel pin
  stageVminit parse root pin
  promote

/-- `fetch`. It returns the two live paths, which are left out. -/
def fetch (parse : Parser) (root : String) (pin : Pin) : Art Unit := do
  let prepared : Except Unit Unit ← issue .preparePrivateRoot
  orIo prepared
  let _ : Except Unit Unit ← issue .removeStaging
  let created : Except Unit Unit ← issue .createStaging
  orIo created
  let result ← (fetchInto parse root pin).attempt
  let _ : Except Unit Unit ← issue .removeStaging
  Prog.ofExcept result

end Gascan.Artifacts
