import Gascan.Proofs.Policy
import Gascan.Proofs.Reachable

/-!
# `Gascan.Proofs.Confinement`: what a compiled request gives away

A compiled request publishes host ports on the loopback address alone, each once; it mounts the
workspace and nothing else, stays within the limits, and uses only names that belong to the sandbox.
The one part that does not always hold concerns SSH: a manifest may declare port 22, which is then
published although SSH is not (`confined_iff`). The inspection of a container takes every mapping to
guest port 22 for the SSH one, so the same manifests are reported as changed right after their
container was created: `fresh_transport_unchanged_iff`.
-/

namespace Gascan

open Lib Service PolicyCompiler List OrdMap

/-- Whether a compilation publishes SSH. -/
def sshGiven (spec : SandboxSpec) (control : Option ControlPlanePolicy) : Bool :=
  spec.manifest.ssh.enabled && control.isSome

/-- Whether a manifest declares the port of the SSH server. -/
def declaresSshPort (spec : SandboxSpec) : Bool := spec.manifest.ports.values.contains 22

/-- What a request may give to a sandbox. -/
structure Confined (spec : SandboxSpec) (capabilities : RuntimeCapabilities)
    (control : Option ControlPlanePolicy) (create : CreateRequest) : Prop where
  loopback : ∀ port ∈ create.ports, port.hostAddress = .localhost ∧ port.hostPort ≠ 0
  distinct : (create.ports.map (·.hostPort)).Nodup
  offline : create.network = .offline → create.ports = [] ∧ capabilities.offline = .proven
  cpus : ∀ cpus, create.resources.cpus = some cpus → cpus ≤ maxCpus
  memory : ∀ bytes, create.resources.memoryBytes = some bytes → bytes ≤ maxMemoryBytes
  capacity : ∀ volume ∈ create.volumes, volume.capacityBytes ≤ maxManagedVolumeBytes
  mount : create.bindMounts = [⟨spec.canonicalRoot, "/workspace", true⟩]
  names : ∃ expected, expectedResourceIdentities spec.id = .ok expected ∧
    (∀ volume ∈ create.volumes, ⟨.volume, volume.name⟩ ∈ expected) ∧
    ∀ name, create.network = .networked name → ⟨.network, name⟩ ∈ expected
  sshMapping : (∃ port ∈ create.ports, port.guestPort = 22) ↔ sshGiven spec control = true
  sshEnabled : create.environment.get? "GASCAN_SSH_ENABLED" = some "1" ↔
    sshGiven spec control = true
  sshKey : (create.environment.get? "GASCAN_SSH_AUTHORIZED_KEY").isSome = true ↔
    sshGiven spec control = true

/-! ### The parts of a request -/

theorem get?_guestEnvironment_enabled (sshEnabled : Bool) (control : ControlPlanePolicy) :
    (guestEnvironment sshEnabled control).get? "GASCAN_SSH_ENABLED" =
      some (if sshEnabled then "1" else "0") := by
  unfold guestEnvironment
  cases sshEnabled with
  | false => rw [get?_insert, if_pos rfl]
  | true =>
    cases control.sshAuthorizedKey with
    | none => rw [get?_insert, if_pos rfl]
    | some key =>
      rw [get?_insert, if_neg (by decide), get?_insert, if_pos rfl]

/-- The environment has the authorized key exactly when SSH is enabled and there is one. -/
theorem get?_guestEnvironment_key (sshEnabled : Bool) (control : ControlPlanePolicy) :
    (guestEnvironment sshEnabled control).get? "GASCAN_SSH_AUTHORIZED_KEY" =
      if sshEnabled then control.sshAuthorizedKey else none := by
  have hnone : workspaceEnvironment.get? "GASCAN_SSH_AUTHORIZED_KEY" = none :=
    get?_ofList_eq_none (by decide)
  unfold guestEnvironment
  cases sshEnabled with
  | false =>
    rw [get?_insert, if_neg (by decide), hnone]
    rfl
  | true =>
    cases control.sshAuthorizedKey with
    | none =>
      rw [get?_insert, if_neg (by decide), hnone]
      rfl
    | some key =>
      rw [get?_insert, if_pos rfl]
      rfl

theorem compileResources_le {declared : Resources} {limits : RuntimeResourceLimits}
    (h : compileResources declared = .ok limits) :
    (∀ cpus, limits.cpus = some cpus → cpus ≤ maxCpus) ∧
      ∀ bytes, limits.memoryBytes = some bytes → bytes ≤ maxMemoryBytes := by
  unfold compileResources at h
  dsimp only at h
  split at h
  · cases h
  next hcpus =>
    split at h
    · cases h
    next hmemory =>
      split at h
      · cases h
      · cases h
        simp only [Option.some.injEq, forall_eq']
        exact ⟨not_lt.1 hcpus, not_lt.1 hmemory⟩

variable {control : ControlPlanePolicy} {spec : SandboxSpec} {hostPort : Option Port}

variable {sshEnabled : Bool} {manifest : Manifest} {runtime : RuntimeSandbox}

/-- An offline sandbox is only compiled for a runtime that proves the isolation. -/
theorem proven_of_validateCapabilities {capabilities : RuntimeCapabilities}
    (h : validateCapabilities spec capabilities sshEnabled = .ok ())
    (hoffline : spec.manifest.network = .offline) : capabilities.offline = .proven := by
  cases hisolation : capabilities.offline with
  | proven => rfl
  | _ =>
    -- The other answers end the last check with an error.
    simp only [validateCapabilities, hoffline, hisolation] at h
    repeat' split at h
    all_goals cases h

theorem mem_managedVolumes {volume : RuntimeVolume}
    (h : volume ∈ managedVolumes spec.id.value spec.manifest.storage ⟨managedBy, spec.id⟩) :
    volume.name ∈ managedVolumeNames spec.id.value ∧
      volume.capacityBytes ≤ maxManagedVolumeBytes := by
  simp only [managedVolumes, managedVolumeNames, map_cons, map_nil, zip_cons_cons,
    zip_nil_right, mem_cons, not_mem_nil, or_false] at h
  rcases h with rfl | rfl | rfl
  · exact ⟨by simp [managedVolumeNames], spec.manifest.tools_le⟩
  · exact ⟨by simp [managedVolumeNames], spec.manifest.cache_le⟩
  · exact ⟨by simp [managedVolumeNames], spec.manifest.config_le⟩

theorem isSome_compileSshHostPort
    (h : compileSshHostPort manifest sshEnabled control = .ok hostPort) :
    hostPort.isSome = sshEnabled := by
  rcases compileSshHostPort_eq_ok h with ⟨rfl, rfl⟩ | ⟨key, port, rfl, rfl, -⟩ <;> rfl

theorem unprivileged_of_compileSshHostPort {port : Port}
    (h : compileSshHostPort manifest sshEnabled control = .ok (some port)) : 1024 ≤ port := by
  rcases compileSshHostPort_eq_ok h with ⟨-, hnone⟩ | ⟨key, found, -, hsome, hlow, -⟩
  · cases hnone
  · cases hsome
    exact hlow

namespace CompiledPorts

variable {network : NetworkMode} {declared : OrdMap String Port} {hostPort : Option Port}
  {ports : List RuntimePort} (h : CompiledPorts network declared hostPort ports)

include h

/-- A mapping of a request is a declared one or the one of SSH. -/
theorem mem_iff {port : RuntimePort} :
    port ∈ ports ↔
      (∃ value ∈ declared.values, declaredPort value = port) ∨
        ∃ value, hostPort = some value ∧ sshPort value = port := by
  rw [h.eq, mem_append, mem_map, mem_map]
  simp only [Option.mem_toList]

theorem loopback (hssh : ∀ port, hostPort = some port → 1024 ≤ port) :
    ∀ port ∈ ports, port.hostAddress = .localhost ∧ port.hostPort ≠ 0 := by
  intro port hport
  rcases h.mem_iff.1 hport with ⟨value, hvalue, rfl⟩ | ⟨value, hvalue, rfl⟩
  · exact ⟨rfl, h.ne_zero value hvalue⟩
  · refine ⟨rfl, ?_⟩
    rintro rfl
    exact absurd (hssh 0 hvalue) (by decide)

theorem distinct :
    (ports.map (·.hostPort)).Nodup := by
  rw [h.eq, map_append, map_map, map_map]
  cases hostPort with
  | none => simpa [Function.comp_def, declaredPort] using h.nodup
  | some value =>
    have hseparate := h.separate value rfl
    simpa [Function.comp_def, declaredPort, sshPort, nodup_append] using
      ⟨h.nodup, fun port hport heq => hseparate (heq ▸ hport)⟩

/-- The guest port of SSH is published for SSH or because it is declared. -/
theorem exists_guestPort_ssh :
    (∃ port ∈ ports, port.guestPort = 22) ↔ 22 ∈ declared.values ∨ hostPort.isSome = true := by
  rw [h.eq]
  cases hostPort <;> simp [declaredPort, sshPort]

/-- Without a declared port 22, the mappings to guest port 22 are those of SSH. -/
theorem filter_guestPort_ssh (hdeclared : 22 ∉ declared.values) :
    ports.filter (·.guestPort = 22) = hostPort.toList.map sshPort := by
  have hnil : (declared.values.map declaredPort).filter (·.guestPort = 22) = [] := by
    simp only [filter_eq_nil_iff, mem_map, decide_eq_true_eq]
    rintro _ ⟨value, hvalue, rfl⟩ heq
    exact hdeclared (heq ▸ hvalue)
  rw [h.eq, filter_append, hnil, nil_append]
  cases hostPort <;> rfl

end CompiledPorts

/-! ### Confinement -/

theorem ports_eq_nil_of_offline {given : Bool} {ports : List RuntimePort}
    (hhost : compileSshHostPort spec.manifest (spec.manifest.ssh.enabled && given) control = .ok
      hostPort) (hports : CompiledPorts spec.manifest.network spec.manifest.ports hostPort ports)
    (hoffline : spec.manifest.network = .offline) : ports = [] := by
  have hdisabled : spec.manifest.ssh.enabled = false := by
    rw [← Bool.not_eq_true]
    intro henabled
    rw [spec.manifest.networked_of_ssh henabled] at hoffline
    cases hoffline
  have hnone : hostPort = none := by
    rw [← Option.isSome_eq_false_iff.trans Option.isNone_iff_eq_none,
      isSome_compileSshHostPort hhost, hdisabled, Bool.false_and]
  rw [hports.eq, hports.offline hoffline, hnone]
  rfl

theorem mem_resourceIdentities {name : String} :
    (name ∈ managedVolumeNames spec.id.value → ⟨.volume, name⟩ ∈ resourceIdentities spec.id) ∧
      (compileNetwork spec.id spec.manifest.network = .networked name →
        ⟨.network, name⟩ ∈ resourceIdentities spec.id) := by
  constructor
  · intro hname
    simp only [resourceIdentities, cons_append, mem_cons, mem_append]
    exact .inr (.inl (mem_map_of_mem hname))
  · intro hname
    cases hmode : spec.manifest.network with
    | offline => simp [hmode, compileNetwork] at hname
    | networked =>
      simp only [hmode, compileNetwork, RuntimeNetwork.networked.injEq] at hname
      simp [resourceIdentities, hname]

/-- A compiled request is confined, except that a declared port 22 is published like the one of
SSH. -/
theorem confined_iff {spec : SandboxSpec} {capabilities : RuntimeCapabilities} {image : String}
    {control : Option ControlPlanePolicy} {create : CreateRequest}
    (h : compileForImageInternal spec capabilities image control = .ok create) :
    Confined spec capabilities control create ↔
      declaresSshPort spec = false ∨ sshGiven spec control = true := by
  obtain ⟨-, hcapabilities, hostPort, hhost, hcompiled, hresources, hcreate⟩ :=
    compileForImageInternal_inv h
  have hports := compilePorts_eq_ok hcompiled
  have hmapping := hports.exists_guestPort_ssh
  rw [isSome_compileSshHostPort hhost] at hmapping
  have hdeclares : declaresSshPort spec = true ↔ 22 ∈ spec.manifest.ports.values := by
    simp [declaresSshPort]
  constructor
  · intro hconfined
    by_contra hnot
    rw [not_or, Bool.not_eq_false, hdeclares] at hnot
    exact hnot.2 (hconfined.sshMapping.1 (hmapping.2 (.inl hnot.1)))
  · intro hcondition
    rw [← Bool.not_eq_true, hdeclares] at hcondition
    have hnetwork : create.network = compileNetwork spec.id spec.manifest.network := by rw [hcreate]
    have hvolumes : create.volumes =
        managedVolumes spec.id.value spec.manifest.storage ⟨managedBy, spec.id⟩ := by rw [hcreate]
    have henvironment : create.environment =
        guestEnvironment (sshGiven spec control) (control.getD {}) := by
      rw [hcreate]
      rfl
    refine
      { loopback := hports.loopback fun port hport =>
          unprivileged_of_compileSshHostPort (hport ▸ hhost)
        distinct := hports.distinct
        offline := ?_
        cpus := (compileResources_le hresources).1
        memory := (compileResources_le hresources).2
        capacity := fun volume hvolume => (mem_managedVolumes (hvolumes ▸ hvolume)).2
        mount := by rw [hcreate]; rfl
        names := ⟨_, expectedResourceIdentities_eq spec.id,
          fun volume hvolume =>
            mem_resourceIdentities.1 (mem_managedVolumes (hvolumes ▸ hvolume)).1,
          fun name hname => mem_resourceIdentities.2 (hnetwork ▸ hname)⟩
        sshMapping := ?_
        sshEnabled := ?_
        sshKey := ?_ }
    · intro hoff
      have hmode : spec.manifest.network = .offline := by
        rw [hnetwork] at hoff
        cases hmode : spec.manifest.network with
        | offline => rfl
        | networked => simp [hmode, compileNetwork] at hoff
      exact ⟨ports_eq_nil_of_offline hhost hports hmode,
        proven_of_validateCapabilities hcapabilities hmode⟩
    · rw [hmapping]
      exact ⟨fun hor => hor.elim
        (fun hdeclared => hcondition.resolve_left (not_not.2 hdeclared)) id,
        Or.inr⟩
    · rw [henvironment, get?_guestEnvironment_enabled]
      cases sshGiven spec control <;> decide
    · rw [henvironment, get?_guestEnvironment_key]
      rcases compileSshHostPort_eq_ok hhost with ⟨hoff, -⟩ | ⟨key, port, hon, -, -, hcheck, -⟩
      · simp [sshGiven, hoff]
      · simp [sshGiven, hon, (checkControlPlane_eq_ok hcheck).1]

/-- A networked sandbox that declares port 22 and disables SSH. -/
def listening : RawManifest where
  version := 1
  network := .networked
  ports := OrdMap.empty.insert "sshd" 22
  ssh := { enabled := false }

def listeningSpec : SandboxSpec :=
  ⟨demoId, "/work/demo", { demoManifest with
    network := .networked
    ports := OrdMap.empty.insert "sshd" 22
    networked_of_ssh := by decide }⟩

def servingSpec : SandboxSpec :=
  ⟨demoId, "/work/demo", { fullManifest with ports := OrdMap.empty.insert "web" 8080 }⟩

def allCapabilities : RuntimeCapabilities := ⟨⟨1, 1, 0⟩, true, true, true, true, .proven⟩

def servingControl : ControlPlanePolicy := ⟨some fullWorld.identity.publicKey, some 2222⟩

theorem compile_listeningSpec : ∃ create,
    compileForImageInternal listeningSpec allCapabilities demoImage none =
      .ok create ∧ create.ports = [declaredPort 22] := by
  obtain ⟨create, h⟩ := isOk_iff.1 (by decide +kernel :
    (compileForImageInternal listeningSpec allCapabilities demoImage none).isOk = true)
  obtain ⟨-, -, hostPort, hhost, hcompiled, -⟩ := compileForImageInternal_inv h
  refine ⟨create, h, ?_⟩
  have hnone : hostPort = none := by
    cases hhost
    rfl
  rw [(compilePorts_eq_ok hcompiled).eq, hnone]
  decide

theorem listening_request_unconfined :
    listening.validate (fun _ _ => .ok ()) "/work/demo" = .ok listeningSpec.manifest ∧
      ∃ create, compileForImageInternal listeningSpec allCapabilities demoImage none =
        .ok create ∧ ¬ Confined listeningSpec allCapabilities none create := by
  obtain ⟨create, h, hports⟩ := compile_listeningSpec
  refine ⟨rfl, create, h, ?_⟩
  intro hconfined
  have hgiven := hconfined.sshMapping.1 ⟨declaredPort 22, by rw [hports]; simp, rfl⟩
  exact absurd hgiven (by decide)

theorem compile_servingSpec : ∃ create,
    compileForImageInternal servingSpec allCapabilities demoImage
      (some servingControl) = .ok create :=
  isOk_iff.1 (by decide +kernel)

theorem serving_request_confined : ∃ create,
    compileForImageInternal servingSpec allCapabilities demoImage
      (some servingControl) = .ok create ∧
      Confined servingSpec allCapabilities (some servingControl) create := by
  obtain ⟨create, h⟩ := compile_servingSpec
  exact ⟨create, h, (confined_iff h).2 (by decide)⟩

/-! ### The SSH transport of a fresh container -/

/-- When a container is reported to have the SSH transport of a specification. -/
theorem runtimeSshTransportChanged_eq_false :
    runtimeSshTransportChanged runtime spec = false ↔
      (sshMappings runtime = [] ∧ spec.manifest.ssh.enabled = false) ∨
        ∃ mapping, sshMappings runtime = [mapping] ∧ spec.manifest.ssh.enabled = true ∧
          ∀ fixed, spec.manifest.ssh.hostPort = some fixed → fixed = mapping.hostPort := by
  unfold runtimeSshTransportChanged
  cases sshMappings runtime with
  | nil => simp
  | cons mapping rest =>
    cases spec.manifest.ssh.enabled <;> cases spec.manifest.ssh.hostPort <;> cases rest <;>
      simp [eq_comm (a := mapping.hostPort)]

theorem nativeSshPort_eq_ok {port : Port} :
    nativeSshPort runtime = .ok port ↔
      ∃ mapping, sshMappings runtime = [mapping] ∧ mapping.hostAddress = .localhost ∧
        1024 ≤ mapping.hostPort ∧ mapping.hostPort = port := by
  unfold nativeSshPort
  cases sshMappings runtime with
  | nil => simp
  | cons mapping rest =>
    cases rest with
    | nil =>
      by_cases haddress : mapping.hostAddress = .localhost
      · by_cases hlow : mapping.hostPort < 1024
        · simp [haddress, hlow, UInt16.not_le.2 hlow]
        · simp [haddress, hlow, UInt16.not_lt.1 hlow]
      · simp [haddress]
    | cons other rest => simp

/-- Whether a container that publishes the ports of its request passes for unchanged, with the SSH
port that the compiler chose. -/
def FreshUnchanged (spec : SandboxSpec) (control : Option ControlPlanePolicy)
    (runtime : RuntimeSandbox) : Prop :=
  runtimeSshTransportChanged runtime spec = false ∧
    (spec.manifest.ssh.enabled = true → ∃ port,
      compileSshHostPort spec.manifest (sshGiven spec control) (control.getD {}) = .ok (some port) ∧
        nativeSshPort runtime = .ok port)

/-- A container that was created from a compiled request passes for unchanged, unless the manifest
declares port 22 or the request leaves out the SSH of the manifest. -/
theorem fresh_transport_unchanged_iff {spec : SandboxSpec} {capabilities : RuntimeCapabilities}
    {image : String} {control : Option ControlPlanePolicy} {create : CreateRequest}
    {runtime : RuntimeSandbox}
    (h : compileForImageInternal spec capabilities image control = .ok create)
    (hruntime : runtime.ports.Perm create.ports) :
    FreshUnchanged spec control runtime ↔
      declaresSshPort spec = false ∧
        (spec.manifest.ssh.enabled = true → control.isSome = true) := by
  obtain ⟨-, -, hostPort, hhost, hcompiled, -⟩ := compileForImageInternal_inv h
  have hports := compilePorts_eq_ok hcompiled
  have hsome : hostPort.isSome = sshGiven spec control := isSome_compileSshHostPort hhost
  have hdeclares : declaresSshPort spec = false ↔ 22 ∉ spec.manifest.ports.values := by
    simp [declaresSshPort]
  rw [hdeclares]
  constructor
  · rintro ⟨hunchanged, hnative⟩
    -- A declared port 22 is one of the mappings that the inspection takes for SSH.
    have hmem : 22 ∈ spec.manifest.ports.values → declaredPort 22 ∈ sshMappings runtime := by
      intro hdeclared
      have hin := hruntime.mem_iff.2 (hports.mem_iff.2 (.inl ⟨22, hdeclared, rfl⟩))
      exact mem_filter.2 ⟨hin, rfl⟩
    cases henabled : spec.manifest.ssh.enabled with
    | false =>
      rcases runtimeSshTransportChanged_eq_false.1 hunchanged with ⟨hnil, -⟩ | ⟨_, -, htrue, -⟩
      · exact ⟨fun hdeclared => by simpa [hnil] using hmem hdeclared, fun hfalse => by cases hfalse⟩
      · rw [henabled] at htrue
        cases htrue
    | true =>
      obtain ⟨port, hchosen, hport⟩ := hnative henabled
      have hlow := unprivileged_of_compileSshHostPort hchosen
      have hgiven := isSome_compileSshHostPort hchosen
      obtain ⟨mapping, hmappings, -, -, rfl⟩ := nativeSshPort_eq_ok.1 hport
      refine ⟨fun hdeclared => ?_, fun _ => ?_⟩
      · have hmapping := hmem hdeclared
        rw [hmappings, mem_singleton] at hmapping
        rw [← hmapping] at hlow
        exact absurd hlow (by decide)
      · simpa [sshGiven, henabled] using hgiven.symm
  · rintro ⟨hdeclared, hcontrol⟩
    have hmappings : (sshMappings runtime).Perm (hostPort.toList.map sshPort) := by
      rw [← hports.filter_guestPort_ssh hdeclared]
      exact hruntime.filter _
    rw [FreshUnchanged, runtimeSshTransportChanged_eq_false]
    cases henabled : spec.manifest.ssh.enabled with
    | false =>
      have hnone : hostPort = none := by simpa [sshGiven, henabled] using hsome
      rw [hnone] at hmappings
      exact ⟨.inl ⟨hmappings.eq_nil, rfl⟩, fun hfalse => by cases hfalse⟩
    | true =>
      rw [sshGiven, henabled, hcontrol henabled] at hsome
      obtain ⟨port, rfl⟩ := Option.isSome_iff_exists.1 hsome
      have hsingle : sshMappings runtime = [sshPort port] := perm_singleton.1 hmappings
      rcases compileSshHostPort_eq_ok hhost with ⟨-, hnone⟩ |
        ⟨key, found, -, hfound, hlow, -, hfixed⟩
      · cases hnone
      · cases hfound
        exact ⟨.inr ⟨_, hsingle, rfl, hfixed⟩, fun _ =>
          ⟨port, hhost, nativeSshPort_eq_ok.2 ⟨_, hsingle, rfl, hlow, rfl⟩⟩⟩

/-- The container of a request. -/
def containerOf (create : CreateRequest) : RuntimeSandbox :=
  ⟨create.id, create.image, .running, create.ownership, create.ports⟩

theorem listening_container_changed : ∃ create,
    compileForImageInternal listeningSpec allCapabilities demoImage none =
      .ok create ∧ runtimeSshTransportChanged (containerOf create) listeningSpec = true := by
  obtain ⟨create, h, hports⟩ := compile_listeningSpec
  refine ⟨create, h, ?_⟩
  simp only [runtimeSshTransportChanged, sshMappings, containerOf, hports]
  decide

theorem serving_container_unchanged : ∃ create,
    compileForImageInternal servingSpec allCapabilities demoImage
      (some servingControl) = .ok create ∧
      FreshUnchanged servingSpec (some servingControl) (containerOf create) := by
  obtain ⟨create, h⟩ := compile_servingSpec
  exact ⟨create, h, (fresh_transport_unchanged_iff h (.refl _)).2 (by decide)⟩

end Gascan
