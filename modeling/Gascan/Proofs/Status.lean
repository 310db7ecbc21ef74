import Gascan.Api.Status
import Gascan.Proofs.Policy

/-!
# `Gascan.Proofs.Status`: what a status says

An `apply` replaces the image when the recorded and the approved reference name different images.
A status announces a change when they are different texts. `imageChanged_iff_changeRequired` says
when the two agree, for a container that runs the recorded image. `classifySsh_wireStatus` says that
a client finds only a recorded endpoint ready, and `timestampMillis_timestampFromMillis_iff` which
times can be read back.
-/

namespace Gascan.Api

open Lib Option

variable {record : SandboxRecord} {recorded approved : String}

theorem imageRequirements_of_storedImage (h : storedImage record = some recorded) :
    imageRequirements record approved =
      if recorded ≠ approved then [⟨"image_changed", recorded, approved⟩] else [] := by
  unfold storedImage at h
  unfold imageRequirements
  cases hresolution : record.imageResolution with
  | none =>
    rw [hresolution] at h
    cases h
  | some resolution =>
    rw [hresolution, bind_some] at h
    by_cases hversion : resolution.version = 1
    · -- Both read the same member of the details, so that what is stored is compared.
      rw [if_neg (not_not.2 hversion)] at h
      simp only [filter_some, decide_eq_true hversion, if_true, bind_some, h]
      by_cases heq : recorded = approved <;> simp [heq]
    · rw [if_pos hversion] at h
      cases h

/-- Whether a status lists the requirement that the image has changed. -/
def SandboxStatus.imageChanged (status : SandboxStatus) : Prop :=
  ∃ requirement ∈ status.applyRequirements, requirement.reason = "image_changed"

theorem imageChanged_iff (h : storedImage record = some recorded) (active : Option Ssh.ActiveSsh) :
    (wireStatus record approved active).imageChanged ↔ recorded ≠ approved := by
  have hstorage : ∀ requirement ∈ storageRequirements record,
      requirement.reason = "storage_layout_changed" := by
    intro requirement hmem
    unfold storageRequirements at hmem
    split at hmem
    · rw [List.mem_singleton.1 hmem]
    · cases hmem
  show (∃ requirement ∈ storageRequirements record ++ imageRequirements record approved, _) ↔ _
  rw [imageRequirements_of_storedImage h]
  constructor
  · rintro ⟨requirement, hmem, hreason⟩
    rcases List.mem_append.1 hmem with hmem | hmem
    · rw [hstorage requirement hmem] at hreason
      exact absurd hreason (by decide)
    · split at hmem
      next hne => exact hne
      next => cases hmem
  · intro hne
    rw [if_pos hne]
    exact ⟨_, List.mem_append_right _ (List.mem_singleton_self _), rfl⟩

theorem changeRequired_iff :
    (⟨some recorded, recorded, approved⟩ : ImageState).changeRequired = true ↔
      ¬sameImmutableImage recorded approved = true := by
  simp [ImageState.changeRequired]

/-- A status announces a new image exactly when an `apply` replaces the one that is recorded and
runs, unless two texts name the same image. -/
theorem imageChanged_iff_changeRequired (active : Option Ssh.ActiveSsh)
    (hrecorded : storedImage record = some recorded)
    (happroved : immutableImageReference approved = true) :
    ((wireStatus record approved active).imageChanged ↔
        (⟨some recorded, recorded, approved⟩ : ImageState).changeRequired = true) ↔
      (sameImmutableImage recorded approved = true → recorded = approved) := by
  rw [imageChanged_iff hrecorded, changeRequired_iff]
  have hself : recorded = approved → sameImmutableImage recorded approved = true := by
    rintro rfl
    exact sameImmutableImage_self happroved
  constructor
  · intro hagree hsame
    exact not_not.1 fun hne => hagree.1 hne hsame
  · intro hsame
    exact not_congr ⟨hself, hsame⟩

/-- The digest of a workspace image. -/
def demoDigest : String := "@sha256:" ++ .ofList (List.replicate 64 'a')

/-- A record that names a reference with a tag. -/
def taggedRecord : SandboxRecord :=
  { id := ⟨"demo-0123456789ab", .refl true⟩
    canonicalRoot := "/work"
    desiredState := .running
    actualState := .running
    setupResolution := none
    toolResolution := none
    imageResolution := some (imageResolutionOf ("workspace:1" ++ demoDigest))
    storageResolution := none
    sshResolution := none
    lastOperationId := none
    updatedAtMillis := 0 }

theorem imageChanged_tagged :
    ((wireStatus taggedRecord ("workspace:1" ++ demoDigest) none).imageChanged ↔
      (⟨some ("workspace:1" ++ demoDigest), "workspace:1" ++ demoDigest,
        "workspace:1" ++ demoDigest⟩ : ImageState).changeRequired = true) :=
  (imageChanged_iff_changeRequired none (by decide +kernel) (by decide +kernel)).2 fun _ => rfl

/-- A new tag of the image that is recorded and runs is announced, and not applied. -/
theorem new_tag_announced :
    storedImage taggedRecord = some ("workspace:1" ++ demoDigest) ∧
      immutableImageReference ("workspace:2" ++ demoDigest) = true ∧
      ⟨"image_changed", "workspace:1" ++ demoDigest, "workspace:2" ++ demoDigest⟩ ∈
        (wireStatus taggedRecord ("workspace:2" ++ demoDigest) none).applyRequirements ∧
      (⟨some ("workspace:1" ++ demoDigest), "workspace:1" ++ demoDigest,
        "workspace:2" ++ demoDigest⟩ : ImageState).changeRequired = false := by
  decide +kernel

/-! ### The SSH endpoint -/

/-- An endpoint of a running sandbox, with the alias of its id and the recorded fingerprints. -/
def Verified (record : SandboxRecord) (endpoint : Ssh.ActiveSsh) : Prop :=
  record.actualState = .running ∧ ∃ resolution, record.sshResolution = some resolution ∧
    (resolution.details.get "enabled").bind Json.asBool = some true ∧
    String.ofList endpoint.hostAlias = "gascan-" ++ record.id.value ∧
    resolution.details.getStr "host_key_fingerprint" = some (.ofList endpoint.hostKeyFingerprint) ∧
    resolution.details.getStr "client_key_fingerprint" =
      some (.ofList endpoint.clientKeyFingerprint)

/-- A status shows no endpoint, or one that a client finds ready and that is verified. -/
theorem wireSshStatus_eq_some {active : Option Ssh.ActiveSsh} {ssh : SshStatus}
    (h : wireSshStatus record active = some ssh) :
    (∃ enabled, ssh = { enabled, active := false }) ∨
      classifySsh { sandboxId := record.id.value, actualState := wireActual record.actualState,
                    ssh } = .ready ∧ ∃ endpoint, active = some endpoint ∧
                      Verified record endpoint := by
  unfold wireSshStatus at h
  simp only [bind, bind_eq_some_iff] at h
  obtain ⟨resolution, hresolution, details, -, h⟩ := h
  split at h
  · cases h
  simp only [bind_eq_some_iff] at h
  obtain ⟨enabled, henabled, host, hhost, client, hclient, h⟩ := h
  split at h
  · split at h
    · cases h
      exact .inl ⟨false, rfl⟩
    · cases h
  next hon =>
    split at h
    · cases h
    generalize hmatch : Option.filter _ active = isMatching at h
    cases isMatching with
    | none =>
      cases h
      exact .inl ⟨true, rfl⟩
    | some endpoint =>
      obtain ⟨hactive, hsame⟩ := Option.filter_eq_some_iff.1 hmatch
      simp only [Bool.and_eq_true, decide_eq_true_eq] at hsame
      obtain ⟨⟨hrunning, rfl⟩, rfl⟩ := hsame
      split at h
      · cases h
        exact .inl ⟨true, rfl⟩
      next hready =>
        -- A candidate is shown only if the client's classification accepts it.
        simp only [isSome_some, true_and, not_not] at hready
        cases h
        obtain rfl : enabled = true := by simpa using hon
        refine .inr ⟨hready, endpoint, hactive, hrunning, resolution, hresolution,
          Option.bind_eq_some_iff.2 henabled, ?_, hhost, hclient⟩
        simp [classifySsh] at hready
        tauto

/-- A status never contradicts itself, and is ready only for a verified endpoint. -/
theorem classifySsh_wireStatus (record : SandboxRecord) (policyImage : String)
    (active : Option Ssh.ActiveSsh) :
    classifySsh (wireStatus record policyImage active) ≠ .unhealthy ∧
      (classifySsh (wireStatus record policyImage active) = .ready →
        ∃ endpoint, active = some endpoint ∧ Verified record endpoint) := by
  cases hssh : wireSshStatus record active with
  | none => simp [classifySsh, wireStatus, hssh]
  | some ssh =>
    rcases wireSshStatus_eq_some hssh with ⟨enabled, rfl⟩ | ⟨hready, hverified⟩
    · cases enabled <;> cases hstate : record.actualState <;>
        simp [classifySsh, wireStatus, wireActual, hssh, hstate]
    · have hclass : classifySsh (wireStatus record policyImage active) = .ready := by
        rw [← hready]
        simp only [classifySsh, wireStatus, hssh]
      exact ⟨by rw [hclass]; nofun, fun _ => hverified⟩

/-! ### Times -/

theorem I64.checked_eq_some {n : Int} {m : I64} : I64.checked n = some m ↔ n = m.1 := by
  unfold I64.checked
  split
  next h => rw [Option.some_inj, Subtype.ext_iff]
  next h => exact ⟨nofun, fun heq => absurd (heq ▸ m.2) h⟩

/-- A timestamp is read if its seconds alone fit, in milliseconds. -/
theorem timestampMillis_eq_ok {timestamp : Timestamp} {millis : I64} :
    timestampMillis timestamp = .ok millis ↔
      (0 ≤ timestamp.nanos.1 ∧ timestamp.nanos.1 < 1000000000) ∧
        (-9223372036854775808 ≤ timestamp.seconds.1 * 1000 ∧
          timestamp.seconds.1 * 1000 < 9223372036854775808) ∧
        timestamp.seconds.1 * 1000 + timestamp.nanos.1 / 1000000 = millis.1 := by
  unfold timestampMillis
  split
  next h => exact ⟨nofun, fun hok => absurd hok.1 h⟩
  next h =>
    rw [not_not] at h
    simp only [okOr_eq_ok, bind_eq_some_iff, I64.checked_eq_some, h, true_and,
      and_self, Subtype.exists]
    constructor
    · rintro ⟨seconds, hrange, rfl, hsum⟩
      exact ⟨hrange, hsum⟩
    · rintro ⟨hrange, hsum⟩
      exact ⟨_, hrange, rfl, hsum⟩

/-- A time can be read back exactly when its second, rounded down, does not begin before the first
`i64`. -/
theorem timestampMillis_timestampFromMillis_iff (millis : I64) :
    (timestampMillis (timestampFromMillis millis) = .ok millis ∧
      ∀ timestamp time, timestampMillis timestamp = .ok time → timestamp.nanos.1 % 1000000 = 0 →
        timestampFromMillis time = timestamp) ↔ -9223372036854775000 ≤ millis.1 := by
  have hback : ∀ timestamp time, timestampMillis timestamp = .ok time →
      timestamp.nanos.1 % 1000000 = 0 → timestampFromMillis time = timestamp := by
    rintro ⟨seconds, nanos⟩ time hok hwhole
    obtain ⟨hnanos, -, hsum⟩ := timestampMillis_eq_ok.1 hok
    simp only [timestampFromMillis, Timestamp.mk.injEq, Subtype.ext_iff] at hnanos hwhole hsum ⊢
    omega
  have hmillis := millis.2
  rw [and_iff_left hback, timestampMillis_eq_ok]
  simp only [timestampFromMillis]
  omega

/-- The first second of the range cannot be read back. -/
theorem first_millis_refused : (I64.checked (-9223372036854775808)).map
    (fun millis => timestampMillis (timestampFromMillis millis)) = some (.error .invalid) := by
  decide +kernel

end Gascan.Api
