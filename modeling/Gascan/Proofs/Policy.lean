import Gascan.Daemon.Service
import Gascan.Lib.Result

/-!
# `Gascan.Proofs.Policy`: what a compiled request says

`compilePolicy_eq_ok` reads a request that was compiled: each of its parts comes from one part of
the manifest, and the ports from the declared ports and the host port of SSH. `compilePorts_eq_ok`
says which ports those are. The names of the resources of a sandbox are always well formed
(`expectedResourceIdentities_eq`).
-/

namespace Gascan

open Lib Service List ResourceIdentity Text

/-- The request that a specification compiles to, with the host port of SSH that it publishes. -/
structure Compiled (image : String) (spec : SandboxSpec) (prepared : Option PreparedSshCreate)
    (create : CreateRequest) : Prop where
  id : create.id = spec.id
  immutable : immutableImageReference image = true
  image : create.image = image
  volumes : create.volumes = managedVolumes spec.id.value spec.manifest.storage ⟨managedBy, spec.id⟩
  resources : compileResources spec.manifest.resources = .ok create.resources
  network : create.network = compileNetwork spec.id spec.manifest.network
  user : create.user = compileUser spec.manifest.user
  ownership : create.ownership = ⟨managedBy, spec.id⟩
  ports : ∃ hostPort,
    compileSshHostPort spec.manifest (spec.manifest.ssh.enabled && prepared.isSome)
      ((prepared.map (·.controlPlane)).getD {}) = .ok hostPort ∧
    compilePorts spec.manifest.network spec.manifest.ports hostPort = .ok create.ports

variable {spec : SandboxSpec} {capabilities : RuntimeCapabilities} {image : String}
  {create : CreateRequest}

theorem compileForImageInternal_inv {control : Option ControlPlanePolicy}
    (h : PolicyCompiler.compileForImageInternal spec capabilities image control = .ok create) :
    let sshEnabled := spec.manifest.ssh.enabled && control.isSome
    immutableImageReference image = true ∧
      validateCapabilities spec capabilities sshEnabled = .ok () ∧
      ∃ hostPort,
        compileSshHostPort spec.manifest sshEnabled (control.getD {}) = .ok hostPort ∧
        compilePorts spec.manifest.network spec.manifest.ports hostPort = .ok create.ports ∧
        compileResources spec.manifest.resources = .ok create.resources ∧
        create =
          { id := spec.id
            image
            bindMounts := [⟨spec.canonicalRoot, workspaceTarget, true⟩]
            volumes := managedVolumes spec.id.value spec.manifest.storage ⟨managedBy, spec.id⟩
            ports := create.ports
            environment := guestEnvironment sshEnabled (control.getD {})
            resources := create.resources
            network := compileNetwork spec.id spec.manifest.network
            user := compileUser spec.manifest.user
            init := true
            ownership := ⟨managedBy, spec.id⟩ } := by
  unfold PolicyCompiler.compileForImageInternal at h
  split at h
  · cases h
  next himage =>
    obtain ⟨-, h⟩ := check_bind_eq_ok.1 h
    obtain ⟨hcapabilities, h⟩ := check_bind_eq_ok.1 h
    obtain ⟨hostPort, hhost, h⟩ := bind_eq_ok.1 h
    obtain ⟨ports, hports, h⟩ := bind_eq_ok.1 h
    obtain ⟨resources, hresources, h⟩ := bind_eq_ok.1 h
    cases h
    exact ⟨by simpa using himage, hcapabilities, hostPort, hhost, hports, hresources, rfl⟩

variable {prepared : Option PreparedSshCreate} {ports : List RuntimePort}
  {control : ControlPlanePolicy}

theorem compileForImageInternal_eq_ok (h : PolicyCompiler.compileForImageInternal spec
      capabilities image (prepared.map (·.controlPlane)) = .ok create) :
    Compiled image spec prepared create := by
  obtain ⟨himage, -, hostPort, hhost, hports, hresources, hcreate⟩ := compileForImageInternal_inv h
  rw [Option.isSome_map] at hhost
  exact ⟨by rw [hcreate], himage, by rw [hcreate], by rw [hcreate], hresources, by rw [hcreate],
    by rw [hcreate], by rw [hcreate], hostPort, hhost, hports⟩

theorem compilePolicy_eq_ok (h : compilePolicy image spec capabilities prepared = .ok create) :
    Compiled image spec prepared create := by
  cases prepared with
  | none => exact compileForImageInternal_eq_ok h
  | some ssh => exact compileForImageInternal_eq_ok h

theorem yields_ofPolicy {α : Type} {result : Except PolicyError α} {φ : α → Prop}
    (h : ∀ a, result = .ok a → φ a) : (ofPolicy result).Yields φ := by
  cases result with
  | ok a => exact h a rfl
  | error error => trivial

/-! ### Ports -/

/-- The walk over the declared ports succeeds when no port is zero and none was seen before. -/
theorem compileDeclaredPorts_eq_ok {declared seen : List Port} :
    compileDeclaredPorts declared seen = .ok ports ↔
      ports = declared.map declaredPort ∧ declared.Nodup ∧
        ∀ port ∈ declared, port ≠ 0 ∧ port ∉ seen := by
  induction declared generalizing seen ports with
  | nil => simp [compileDeclaredPorts, eq_comm]
  | cons port rest ih =>
    unfold compileDeclaredPorts
    by_cases hzero : port = 0
    · simp [hzero]
    by_cases hseen : port ∈ seen
    · simp [hzero, hseen]
    rw [if_neg hzero, if_neg (by simpa using hseen), bind_eq_ok]
    simp only [ih, pure, Except.pure, Except.ok.injEq, map_cons, nodup_cons,
      mem_cons, not_or]
    constructor
    · rintro ⟨_, ⟨rfl, hnodup, hrest⟩, rfl⟩
      refine ⟨rfl, ⟨fun hmem => (hrest port hmem).2.1 rfl, hnodup⟩, ?_⟩
      rintro other (rfl | hmem)
      · exact ⟨hzero, hseen⟩
      · exact ⟨(hrest other hmem).1, (hrest other hmem).2.2⟩
    · rintro ⟨rfl, ⟨hnew, hnodup⟩, hrest⟩
      refine ⟨_, ⟨rfl, hnodup, ?_⟩, rfl⟩
      intro other hmem
      exact ⟨(hrest other (.inr hmem)).1, fun heq => hnew (heq ▸ hmem),
        (hrest other (.inr hmem)).2⟩

/-- The ports of a request: the declared ones, then the one of SSH. -/
structure CompiledPorts (network : NetworkMode) (declared : OrdMap String Port)
    (sshHostPort : Option Port) (ports : List RuntimePort) : Prop where
  offline : network = .offline → declared.values = []
  nodup : declared.values.Nodup
  ne_zero : ∀ port ∈ declared.values, port ≠ 0
  separate : ∀ port, sshHostPort = some port → port ∉ declared.values
  eq : ports = declared.values.map declaredPort ++ sshHostPort.toList.map sshPort

theorem compilePorts_eq_ok {network : NetworkMode} {declared : OrdMap String Port}
    {sshHostPort : Option Port} (h : compilePorts network declared sshHostPort = .ok ports) :
    CompiledPorts network declared sshHostPort ports := by
  unfold compilePorts at h
  split at h
  · cases h
  next hoffline =>
    have hempty : network = .offline → declared.values = [] := by
      intro hnetwork
      simpa [hnetwork, OrdMap.isEmpty, OrdMap.values] using hoffline
    obtain ⟨compiled, hdeclared, h⟩ := bind_eq_ok.1 h
    obtain ⟨rfl, hnodup, hvalues⟩ := compileDeclaredPorts_eq_ok.1 hdeclared
    have hzero : ∀ port ∈ declared.values, port ≠ 0 := fun port hport => (hvalues port hport).1
    cases sshHostPort with
    | none =>
      cases h
      exact ⟨hempty, hnodup, hzero, by simp, by simp⟩
    | some hostPort =>
      dsimp only at h
      split at h
      · cases h
      next hcontains =>
        cases h
        exact ⟨hempty, hnodup, hzero, by simpa using hcontains, rfl⟩

theorem checkControlPlane_eq_ok {key : String} {port : Port}
    (h : checkControlPlane control = .ok (key, port)) :
    control.sshAuthorizedKey = some key ∧ control.sshHostPort = some port ∧ 1024 ≤ port := by
  unfold checkControlPlane at h
  cases hkey : control.sshAuthorizedKey with
  | none => simp [hkey] at h
  | some found =>
    simp only [hkey] at h
    split at h
    · cases h
    cases hport : control.sshHostPort with
    | none => simp [hport] at h
    | some hostPort =>
      simp only [hport] at h
      split at h
      · cases h
      next hlow =>
        cases h
        exact ⟨rfl, rfl, UInt16.not_lt.1 hlow⟩

/-- The host port of SSH is the one of the control plane, which the manifest may fix too. -/
theorem compileSshHostPort_eq_ok {manifest : Manifest} {sshEnabled : Bool}
    {hostPort : Option Port} (h : compileSshHostPort manifest sshEnabled control = .ok hostPort) :
    (sshEnabled = false ∧ hostPort = none) ∨
      ∃ key port, sshEnabled = true ∧ hostPort = some port ∧ 1024 ≤ port ∧
        checkControlPlane control = .ok (key, port) ∧ ∀ fixed, manifest.ssh.hostPort = some fixed →
          fixed = port := by
  unfold compileSshHostPort at h
  cases sshEnabled with
  | false =>
    cases h
    exact .inl ⟨rfl, rfl⟩
  | true =>
    rw [if_pos rfl] at h
    obtain ⟨⟨key, port⟩, hcheck, h⟩ := bind_eq_ok.1 h
    have hlow := (checkControlPlane_eq_ok hcheck).2.2
    cases hfixed : manifest.ssh.hostPort with
    | none =>
      simp only [hfixed] at h
      cases h
      exact .inr ⟨key, port, rfl, rfl, hlow, hcheck, by simp⟩
    | some fixed =>
      simp only [hfixed] at h
      split at h
      · cases h
      next heq =>
        cases h
        exact .inr ⟨key, port, rfl, rfl, hlow, hcheck, by simpa using heq⟩

/-! ### Restoring the SSH transport -/

/-- The SSH transport of a control plane is restored when its host port is free. -/
theorem restoreSshTransport_some {request restored : CreateRequest} :
    PolicyCompiler.restoreSshTransport request (some control) = .ok restored ↔
      request.network ≠ .offline ∧ ∃ key port, checkControlPlane control = .ok (key, port) ∧
        (∀ mapping ∈ request.ports.filter (·.guestPort ≠ 22), mapping.hostPort ≠ port) ∧
        restored = { request with
          ports := request.ports.filter (·.guestPort ≠ 22) ++ [sshPort port]
          environment := ((request.environment.erase "GASCAN_SSH_AUTHORIZED_KEY").insert
            "GASCAN_SSH_ENABLED" "1").insert "GASCAN_SSH_AUTHORIZED_KEY" key } := by
  unfold PolicyCompiler.restoreSshTransport
  by_cases hoffline : request.network = .offline
  · simp [hoffline]
  dsimp only
  rw [if_neg hoffline, bind_eq_ok, and_iff_right hoffline, Prod.exists]
  refine exists_congr fun key => exists_congr fun port => and_congr_right fun _ => ?_
  by_cases hused : (request.ports.filter (·.guestPort ≠ 22)).any (·.hostPort = port) = true
  · rw [if_pos hused]
    obtain ⟨mapping, hmem, hport⟩ := any_eq_true.1 hused
    exact iff_of_false nofun fun h => h.1 mapping hmem (of_decide_eq_true hport)
  · rw [if_neg hused, and_iff_right (by simpa using hused)]
    exact ⟨fun h => (Except.ok.inj h).symm, fun h => congrArg _ h.symm⟩

/-! ### Images -/

theorem sameImmutableImage_self (h : immutableImageReference image = true) :
    sameImmutableImage image image = true := by
  unfold sameImmutableImage immutableImageIdentity
  rw [if_pos h]
  unfold immutableImageReference at h
  cases hsplit : splitOnce "@sha256:".toList image.toList with
  | none =>
    rw [hsplit] at h
    cases h
  | some parts => exact decide_eq_true rfl

/-! ### The identities of the resources of a sandbox -/

/-- A name made of a literal and an identity is a resource name. -/
theorem ResourceIdentity.new_append (kind : ResourceKind) (head : String)
    (hhead : head.toList.any Text.isControl = false) (id : SandboxId) :
    ResourceIdentity.new kind (head ++ id.value) = .ok ⟨kind, head ++ id.value⟩ := by
  have hplain : ∀ c ∈ id.value.toList, isWhitespace c = false ∧ isControl c = false := by
    intro c hc
    have hrange : 45 ≤ c.toNat ∧ c.toNat ≤ 122 := by
      rcases id.char_of_mem hc with h | h | rfl
      · simp only [isLower, Bool.and_eq_true, decide_eq_true_eq] at h
        exact ⟨Nat.le_trans (by decide) (show 97 ≤ c.toNat from h.1), show c.toNat ≤ 122 from h.2⟩
      · simp only [isDigit, Bool.and_eq_true, decide_eq_true_eq] at h
        have hlow : 48 ≤ c.toNat := h.1
        have hhigh : c.toNat ≤ 57 := h.2
        omega
      · decide
    constructor
    · simp only [isWhitespace, Bool.or_eq_false_iff, Bool.and_eq_false_iff,
        decide_eq_false_iff_not]
      omega
    · simp only [isControl, Bool.or_eq_false_iff, Bool.and_eq_false_iff,
        decide_eq_false_iff_not]
      omega
  have hblank : (head ++ id.value).toList.all isWhitespace = false := by
    obtain ⟨c, rest, hvalue⟩ := exists_cons_of_ne_nil id.value_ne_empty
    have hc := (hplain c (hvalue ▸ mem_cons_self ..)).1
    rw [String.toList_append, all_append, hvalue, all_cons, hc]
    simp
  have hcontrol : (head ++ id.value).toList.any isControl = false := by
    rw [String.toList_append, any_append, hhead, Bool.false_or, any_eq_false]
    exact fun c hc => by simp [(hplain c hc).2]
  unfold new
  rw [hblank, hcontrol]
  rfl

/-- The identities of the resources of a sandbox. -/
def resourceIdentities (id : SandboxId) : List ResourceIdentity :=
  ⟨.container, id.value⟩ :: (managedVolumeNames id.value).map (⟨.volume, ·⟩) ++
    [⟨.network, managedNetworkName id⟩]

theorem expectedResourceIdentities_eq (id : SandboxId) :
    expectedResourceIdentities id = .ok (resourceIdentities id) := by
  have hcontainer : new .container id.value = .ok ⟨.container, id.value⟩ := by
    have h := ResourceIdentity.new_append .container "" (by decide) id
    simpa using h
  have hvolume : ∀ kind ∈ ["mise", "cache", "config"],
      new .volume ("gascan-" ++ kind ++ "-" ++ id.value) =
        .ok ⟨.volume, "gascan-" ++ kind ++ "-" ++ id.value⟩ := by
    intro kind hkind
    refine ResourceIdentity.new_append .volume _ ?_ id
    simp only [mem_cons, not_mem_nil, or_false] at hkind
    rcases hkind with rfl | rfl | rfl <;> decide
  have hnetwork : new .network (managedNetworkName id) =
      .ok ⟨.network, managedNetworkName id⟩ :=
    ResourceIdentity.new_append .network _ (by decide) id
  unfold expectedResourceIdentities resourceIdentities managedVolumeNames
  rw [hcontainer, hnetwork]
  simp only [map_cons, map_nil, mapM_cons, mapM_nil, ok_bind,
    hvolume "mise" (by simp), hvolume "cache" (by simp), hvolume "config" (by simp)]
  rfl

end Gascan
