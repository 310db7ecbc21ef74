import Gascan.Core.Identity
import Gascan.Core.Runtime

/-!
# `Gascan.Backend.Listing`: how the two backends read the labels of a resource

Gas Can labels what it creates with its own name and the identity of the sandbox. A backend reads
these labels back for every container, volume and network that the runtime has, and reports whose
each one is: the Apple backend for containers in `listContainer`, for volumes and networks in two
places that are the same (`listNamed`), the Arca backend in `runtimeResource`.

Reading an identity out of a label can fail in two ways: the text is refused, or the slice at a
fixed number of bytes from its end panics (`SandboxIdFailure`).
-/

namespace Gascan.Backend

open Lib Lib.Text

/-! ### Sandbox identities in labels -/

/-- How `SandboxId::try_from` can fail. -/
inductive SandboxIdFailure where
  | refused (message : String)
  | panicked
  deriving DecidableEq

/-- The error that `invalid_id` makes. -/
def invalidId (message : String) : SandboxIdFailure := .refused ("invalid sandbox ID: " ++ message)

/-- `validate_sandbox_id`, on the bytes of the text. -/
def checkSandboxId (text : List Char) : Except SandboxIdFailure Unit :=
  if byteLength text < digestLength + 1 then
    .error (invalidId "expected a slug and 12-character digest")
  else
    -- `split_at` panics when its index is inside a character.
    match splitBytesAtEnd digestLength text with
    | none => .error .panicked
    | some (head, digest) =>
      if head.getLast? ≠ some '-' then .error (invalidId "missing digest separator")
      else if !validSlug head.dropLast then
        .error (invalidId "slug must use lowercase letters, digits, and single hyphens")
      else if !digest.all isLowerHex then
        .error (invalidId "digest must be exactly 12 lowercase hexadecimal characters")
      else .ok ()

variable {text : List Char}

/-- Lowercase hexadecimal digits are one byte each. -/
theorem length_of_isLowerHex (h : text.all isLowerHex = true) : text.length = byteLength text := by
  induction text with
  | nil => rfl
  | cons c cs ih =>
    rw [List.all_cons, Bool.and_eq_true] at h
    have hone : c.utf8Size = 1 := by
      have hc := h.1
      simp only [isLowerHex, isDigit, Bool.or_eq_true, Bool.and_eq_true, decide_eq_true_eq] at hc
      have hle : c ≤ 'f' := hc.elim (fun h => Char.le_trans h.2 (by decide)) (·.2)
      exact Char.utf8Size_eq_one_iff.2 (UInt32.le_trans hle (by decide))
    rw [List.length_cons, ih h.2, byteLength, byteLength, List.map_cons, List.sum_cons, hone]
    omega

/-- What passes the check is a slug, a hyphen and a digest. -/
theorem append_of_checkSandboxId (h : checkSandboxId text = .ok ()) :
    ∃ slug digest, text = slug ++ '-' :: digest ∧ validSlug slug = true ∧
      digest.length = digestLength ∧ digest.all isLowerHex = true := by
  unfold checkSandboxId at h
  split at h
  · cases h
  split at h
  · cases h
  next head digest hsplit =>
    split at h
    · cases h
    next hlast =>
    split at h
    · cases h
    next hslug =>
    split at h
    · cases h
    next hdigest =>
    obtain ⟨happend, hbytes⟩ := splitBytesAtEnd_eq_some hsplit
    rw [Bool.not_eq_true, Bool.not_eq_false'] at hslug hdigest
    obtain ⟨slug, hhead⟩ := List.getLast?_eq_some_iff.1 (not_not.1 hlast)
    rw [hhead, List.dropLast_concat] at hslug
    rw [hhead, List.append_assoc, List.singleton_append] at happend
    exact ⟨slug, digest, happend.symm, hslug, (length_of_isLowerHex hdigest).trans hbytes, hdigest⟩

theorem validateSandboxId_of_checkSandboxId {value : String}
    (h : checkSandboxId value.toList = .ok ()) : validateSandboxId value = true := by
  obtain ⟨slug, digest, happend, hslug, hlength, hdigest⟩ := append_of_checkSandboxId h
  rw [← String.ofList_toList (s := value), happend]
  exact validateSandboxId_append hslug hlength hdigest

/-- `SandboxId::try_from`. -/
def readSandboxId (value : String) : Except SandboxIdFailure SandboxId :=
  match h : checkSandboxId value.toList with
  | .error failure => .error failure
  | .ok () => .ok ⟨value, validateSandboxId_of_checkSandboxId h⟩

/-! ### Classification -/

/-- The labels of a resource that Gas Can reads. -/
structure Labels where
  managedBy : Option String
  sandboxId : Option String
  deriving DecidableEq

inductive SandboxLabel where
  | absent
  | unparseable
  | parsed (id : SandboxId)
  deriving DecidableEq

/-- `classify_resource_ownership`. -/
def classifyResourceOwnership (kind : ResourceKind) (name : String) (manager : Option String)
    (sandbox : SandboxLabel) : ResourceOwnership :=
  match manager, sandbox with
  | none, .absent => .foreign
  | none, _ => .mismatched
  | some manager, sandbox =>
    if manager ≠ managedBy then .foreign
    else
      match sandbox with
      | .parsed id =>
        if kind = .container && id.value ≠ name then .mismatched else .gasCanOwned
      | _ => .mismatched

/-! ### Failures -/

/-- How a listing can fail. -/
inductive ListFailure where
  | error (error : RuntimeError)
  | panicked
  deriving DecidableEq

/-- `invalid_output`. -/
def invalidOutput (operation message : String) : ListFailure :=
  .error (.invalidOutput operation message)

/-- The identity of a resource. -/
def resourceIdentity (kind : ResourceKind) (name : String) : Except ListFailure ResourceIdentity :=
  (ResourceIdentity.new kind name).mapError .error

/-- A label whose text is refused is one that cannot be parsed. A panic ends the listing. -/
def lenientLabel (label : Option String) : Except ListFailure SandboxLabel :=
  match label with
  | none => .ok .absent
  | some value =>
    match readSandboxId value with
    | .ok id => .ok (.parsed id)
    | .error (.refused _) => .ok .unparseable
    | .error .panicked => .error .panicked

/-- The identity that a resource claims: the one in its label, if Gas Can manages it. -/
def claimedId (manager : Option String) (sandbox : SandboxLabel) : Option SandboxId :=
  match sandbox with
  | .parsed id => if manager = some managedBy then some id else none
  | _ => none

/-- A resource as the runtime has it. The state is that of a container. -/
structure Resource where
  kind : ResourceKind
  name : String
  labels : Labels
  state : ContainerState := .running
  deriving DecidableEq

/-- Reads resources one after the other. Every observation gets a removal proof of its own. -/
def listAll (read : Nat → Resource → Except ListFailure RuntimeResource) (fresh : Nat) :
    List Resource → Except ListFailure (List RuntimeResource)
  | [] => .ok []
  | resource :: rest => do
    let listed ← read fresh resource
    let others ← listAll read (fresh + 1) rest
    return listed :: others

/-! ### The Apple backend -/

namespace Apple

/-- A record of `container list`. -/
structure ContainerRecord where
  id : String
  labels : Labels
  state : String

/-- A record of `container volume list` or `container network list`. -/
structure NamedRecord where
  id : String
  name : String
  labels : Labels

/-- `map_state`. -/
def mapState (id state : String) : Except ListFailure ContainerState :=
  if state = "creating" then .ok .creating
  else if state = "running" then .ok .running
  else if state = "stopped" then .ok .stopped
  else .error (.error (.unknownActualState id state))

/-- The closure of `AppleInspector::list_resources`. `proof` is the removal proof of the new
observation. -/
def listContainer (proof : Nat) (record : ContainerRecord) :
    Except ListFailure RuntimeResource := do
  let _ ← mapState record.id record.state
  let label ← lenientLabel record.labels.sandboxId
  let ownership :=
    classifyResourceOwnership .container record.id record.labels.managedBy label
  let identity ← resourceIdentity .container record.id
  return ⟨identity, claimedId record.labels.managedBy label, ownership, proof⟩

/-- A label whose text is refused ends the listing. -/
def strictLabel (operation : String) (label : Option String) :
    Except ListFailure (Option SandboxId) :=
  match label with
  | none => .ok none
  | some value =>
    match readSandboxId value with
    | .ok id => .ok (some id)
    | .error (.refused message) => .error (invalidOutput operation message)
    | .error .panicked => .error .panicked

/-- The loop body that `inventory` has for volumes and again for networks. -/
def listNamed (kind : ResourceKind) (operation mismatch : String) (proof : Nat)
    (record : NamedRecord) : Except ListFailure RuntimeResource := do
  if record.id ≠ record.name then .error (invalidOutput operation mismatch) else pure ()
  let sandboxId ← strictLabel operation record.labels.sandboxId
  let ownership := classifyResourceOwnership kind record.id record.labels.managedBy
    (sandboxId.elim .absent .parsed)
  let identity ← resourceIdentity kind record.id
  return ⟨identity, sandboxId, ownership, proof⟩

/-- The volume loop of `inventory`. -/
def listVolume : Nat → NamedRecord → Except ListFailure RuntimeResource :=
  listNamed .volume "container volume list" "volume id and name differ"

/-- The network loop of `inventory`. -/
def listNetwork : Nat → NamedRecord → Except ListFailure RuntimeResource :=
  listNamed .network "container network list" "network id and name differ"

/-- The state of a container in a record. -/
def stateText : ContainerState → String
  | .creating => "creating"
  | .running => "running"
  | .stopped => "stopped"

/-- A resource in the record of its listing. -/
def listResource (proof : Nat) (resource : Resource) : Except ListFailure RuntimeResource :=
  match resource.kind with
  | .container => listContainer proof ⟨resource.name, resource.labels, stateText resource.state⟩
  | .volume => listVolume proof ⟨resource.name, resource.name, resource.labels⟩
  | .network => listNetwork proof ⟨resource.name, resource.name, resource.labels⟩

/-- The resources of one kind. -/
def ofKind (kind : ResourceKind) (resources : List Resource) : List Resource :=
  resources.filter (·.kind = kind)

/-- The three listings of `inventory`: containers, volumes, networks. -/
def list (fresh : Nat) (resources : List Resource) : Except ListFailure (List RuntimeResource) :=
  listAll listResource fresh (ofKind .container resources ++ ofKind .volume resources ++
    ofKind .network resources)

/-- The observation cache: the last observation of each identity. -/
abbrev Observations := ResourceIdentity → Option RuntimeResource

/-- The observation that a listing keeps: the cached one, when it says the same. -/
def stable (observations : Observations) (resource : RuntimeResource) : RuntimeResource :=
  match observations resource.identity with
  | some prior =>
    if prior.sandboxId = resource.sandboxId ∧ prior.ownership = resource.ownership then prior
    else resource
  | none => resource

/-- The loop over the listed resources, under the lock of the cache. -/
def reconcile : Observations → List RuntimeResource → Observations × List RuntimeResource
  | observations, [] => (observations, [])
  | observations, resource :: rest =>
    let kept := stable observations resource
    let (final, reconciled) :=
      reconcile (Function.update observations kept.identity (some kept)) rest
    (final, kept :: reconciled)

/-- The locked update of the cache: what was not listed is forgotten. -/
def update (observations : Observations) (listed : List RuntimeResource) :
    Observations × List RuntimeResource :=
  let (final, reconciled) := reconcile observations listed
  (fun identity => (final identity).filter (· ∈ reconciled), reconciled)

/-- `inventory`. -/
def inventory (observations : Observations) (fresh : Nat) (resources : List Resource) :
    Except ListFailure (Observations × List RuntimeResource) := do
  let listed ← list fresh resources
  return update observations listed

end Apple

/-! ### The Arca backend -/

namespace Arca

/-- The owner that the engine reports. -/
structure Owner where
  managedBy : String
  sandboxId : String
  deriving DecidableEq

/-- The owner of a resource. The engine reports one only when it holds both labels. -/
def ownerOf (labels : Labels) : Option Owner :=
  match labels.managedBy, labels.sandboxId with
  | some managedBy, some sandboxId => some ⟨managedBy, sandboxId⟩
  | _, _ => none

/-- `runtime_resource`. -/
def runtimeResource (proof : Nat) (resource : Resource) : Except ListFailure RuntimeResource := do
  let identity ← resourceIdentity resource.kind resource.name
  let owner := ownerOf resource.labels
  let label ← lenientLabel (owner.map (·.sandboxId))
  let ownership :=
    classifyResourceOwnership resource.kind resource.name (owner.map (·.managedBy)) label
  return ⟨identity, claimedId (owner.map (·.managedBy)) label, ownership, proof⟩

/-- `runtime_resources`. -/
def runtimeResources : Nat → List Resource → Except ListFailure (List RuntimeResource) :=
  listAll runtimeResource

end Arca

end Gascan.Backend
