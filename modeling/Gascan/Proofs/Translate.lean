import Gascan.Backend.Translate
import Gascan.Proofs.Policy
import Gascan.Proofs.Reachable

/-!
# `Gascan.Proofs.Translate`: which requests the backends translate

A request that the policy compiler issued has every part that the translators check
(`IssuedRequest`). `translates_iff` says that both backends accept it and the engine gets the same
ports and the same image, exactly when the manifest asks for the workspace user and the image is not
named `host:port:tag`.

`mountConfined_iff` is about the option that Apple's backend writes for the workspace, a list of
fields between commas in which the root stands as it is: the fields are the three that the backend
means exactly when the root has no comma.
-/

namespace Gascan.Backend

open Lib Lib.Text PolicyCompiler
open List hiding splitOn splitOn_eq_singleton splitOn_ne_nil

/-! ### Requests of the policy compiler -/

/-- The requests that the policy compiler returns for a specification and an image. -/
inductive Issued (spec : SandboxSpec) (image : String) : CreateRequest → Prop
  | compiled {capabilities : RuntimeCapabilities} {control : Option ControlPlanePolicy}
      {request : CreateRequest} :
      compileForImageInternal spec capabilities image control = .ok request →
      Issued spec image request
  | restored {request result : CreateRequest} {control : Option ControlPlanePolicy} :
      Issued spec image request → restoreSshTransport request control = .ok result →
      Issued spec image result

/-- Ports that both translators accept. -/
structure GoodPorts (ports : List RuntimePort) : Prop where
  loopback : ∀ port ∈ ports, port.hostAddress = .localhost
  nonzero : ∀ port ∈ ports, port.hostPort ≠ 0 ∧ port.guestPort ≠ 0
  distinct : (ports.map (·.hostPort)).Nodup

/-- The parts of a request of the policy compiler. -/
structure IssuedRequest (spec : SandboxSpec) (image : String) (request : CreateRequest) : Prop where
  id : request.id = spec.id
  immutable : immutableImageReference image = true
  image : request.image = image
  mounts : request.bindMounts = [⟨spec.canonicalRoot, workspaceTarget, true⟩]
  volumes : request.volumes =
    managedVolumes spec.id.value spec.manifest.storage ⟨managedBy, spec.id⟩
  limits : ∃ cpus memory, request.resources = ⟨some cpus, some memory, none, none⟩
  network : request.network = compileNetwork spec.id spec.manifest.network
  user : request.user = compileUser spec.manifest.user
  init : request.init = true
  ownership : request.ownership = ⟨managedBy, spec.id⟩
  ports : GoodPorts request.ports

theorem compileResources_eq_ok {declared : Resources} {limits : RuntimeResourceLimits}
    (h : compileResources declared = .ok limits) :
    ∃ cpus memory, limits = ⟨some cpus, some memory, none, none⟩ := by
  unfold compileResources at h
  dsimp only at h
  split at h
  · cases h
  · split at h
    · cases h
    · split at h
      · cases h
      · cases h
        exact ⟨_, _, rfl⟩

variable {ports : List RuntimePort} {control : Option ControlPlanePolicy}
  {directory base component : List Char} {allowPort : Bool} {repository : List Char}
  (value : List Char)

/-- The mapping of SSH may join if its port is unprivileged and not in use. -/
theorem GoodPorts.push (h : GoodPorts ports) {port : Port} (hlow : 1024 ≤ port)
    (hnew : port ∉ ports.map (·.hostPort)) : GoodPorts (ports ++ [sshPort port]) := by
  have hport : port ≠ 0 := by
    rintro rfl
    exact absurd hlow (by decide)
  have hguest : (22 : Port) ≠ 0 := by decide
  refine ⟨forall_mem_append.2 ⟨h.loopback, forall_mem_singleton.2 rfl⟩,
    forall_mem_append.2 ⟨h.nonzero, forall_mem_singleton.2 ⟨hport, hguest⟩⟩, ?_⟩
  rw [map_append, nodup_append_comm]
  exact nodup_cons.2 ⟨hnew, h.distinct⟩

theorem goodPorts_compiled {network : NetworkMode} {declared : OrdMap String Port}
    {hostPort : Option Port} (h : CompiledPorts network declared hostPort ports)
    (hhost : ∀ port, hostPort = some port → 1024 ≤ port) : GoodPorts ports := by
  have hnumbers : (declared.values.map declaredPort).map (·.hostPort) = declared.values := by
    simp [declaredPort, Function.comp_def]
  have hdeclared : GoodPorts (declared.values.map declaredPort) :=
    ⟨forall_mem_map.2 fun _ _ => rfl,
      forall_mem_map.2 fun number h1 => ⟨h.ne_zero number h1, h.ne_zero number h1⟩,
      by rw [hnumbers]; exact h.nodup⟩
  rw [h.eq]
  cases hostPort with
  | none => simpa using hdeclared
  | some port => exact hdeclared.push (hhost port rfl) (by rw [hnumbers]; exact h.separate port rfl)

variable {spec : SandboxSpec} {image : String} {digest : List Char}

theorem issuedRequest_compiled {capabilities : RuntimeCapabilities} {request : CreateRequest}
    (h : compileForImageInternal spec capabilities image control = .ok request) :
    IssuedRequest spec image request := by
  obtain ⟨himage, -, hostPort, hhost, hports, hresources, hrequest⟩ := compileForImageInternal_inv h
  have hlow : ∀ port, hostPort = some port → 1024 ≤ port := by
    intro port hport
    rcases compileSshHostPort_eq_ok hhost with ⟨-, hnone⟩ | ⟨_, found, -, hfound, hlow, -⟩
    · rw [hnone] at hport
      cases hport
    · obtain rfl : found = port := Option.some.inj (hfound.symm.trans hport)
      exact hlow
  have hgood := goodPorts_compiled (compilePorts_eq_ok hports) hlow
  have hlimits := compileResources_eq_ok hresources
  refine ⟨?_, himage, ?_, ?_, ?_, hlimits, ?_, ?_, ?_, ?_, hgood⟩ <;> rw [hrequest]

/-- Restoring the transport only changes ports and environment. -/
theorem issuedRequest_restored {request result : CreateRequest}
    (h : IssuedRequest spec image request)
    (hrestore : restoreSshTransport request control = .ok result) :
    IssuedRequest spec image result := by
  have hsub : (request.ports.filter (·.guestPort ≠ 22)).Sublist request.ports :=
    filter_sublist
  have hfiltered : GoodPorts (request.ports.filter (·.guestPort ≠ 22)) :=
    ⟨fun port hport => h.ports.loopback port (hsub.subset hport),
      fun port hport => h.ports.nonzero port (hsub.subset hport),
      h.ports.distinct.sublist (hsub.map _)⟩
  cases control with
  | none =>
    cases hrestore
    exact { h with ports := hfiltered }
  | some control =>
    obtain ⟨-, key, hostPort, hcheck, hnew, rfl⟩ := restoreSshTransport_some.1 hrestore
    have hlow := (checkControlPlane_eq_ok hcheck).2.2
    refine { h with ports := hfiltered.push hlow fun hmem => ?_ }
    obtain ⟨port, hport, heq⟩ := mem_map.1 hmem
    exact hnew port hport heq

theorem Issued.request {request : CreateRequest} (h : Issued spec image request) :
    IssuedRequest spec image request := by
  induction h with
  | compiled hcompiled => exact issuedRequest_compiled hcompiled
  | restored _ hrestore ih => exact issuedRequest_restored ih hrestore

/-! ### Restoring the SSH transport -/

/-- Requests that differ at most in the order of their ports. -/
structure SameUpToPorts (left right : CreateRequest) : Prop where
  ports : left.ports.Perm right.ports
  rest : { left with ports := [] } = { right with ports := [] }

theorem guestEnvironment_ssh {control : ControlPlanePolicy} {key : String}
    (h : control.sshAuthorizedKey = some key) : guestEnvironment true control =
      (workspaceEnvironment.insert "GASCAN_SSH_ENABLED" "1").insert
        "GASCAN_SSH_AUTHORIZED_KEY" key := by
  unfold guestEnvironment
  rw [h]
  rfl

section Restore

variable {capabilities : RuntimeCapabilities} {control : ControlPlanePolicy}
  {request : CreateRequest}

theorem compiled_ssh (hssh : spec.manifest.ssh.enabled = true)
    (h : compileForImageWithControlPlane spec capabilities image control =
      .ok request) :
    ∃ key port, checkControlPlane control = .ok (key, port) ∧ port ∉ spec.manifest.ports.values ∧
      request.ports = spec.manifest.ports.values.map declaredPort ++ [sshPort port] ∧
      request.environment = (workspaceEnvironment.insert "GASCAN_SSH_ENABLED" "1").insert
        "GASCAN_SSH_AUTHORIZED_KEY" key := by
  obtain ⟨-, -, hostPort, hhost, hports, -, hrequest⟩ := compileForImageInternal_inv h
  have hon : (spec.manifest.ssh.enabled && (some control).isSome) = true := by rw [hssh]; rfl
  rw [hon] at hhost hrequest
  rcases compileSshHostPort_eq_ok hhost with ⟨hoff, -⟩ | ⟨key, port, -, rfl, -, hcheck, -⟩
  · cases hoff
  · have hcompiled := compilePorts_eq_ok hports
    refine ⟨key, port, hcheck, hcompiled.separate port rfl, hcompiled.eq, ?_⟩
    rw [hrequest]
    exact guestEnvironment_ssh (checkControlPlane_eq_ok hcheck).1

theorem compiled_alike {other : ControlPlanePolicy} {compiled : CreateRequest}
    (hrequest : compileForImageWithControlPlane spec capabilities image control =
      .ok request) (hcompiled : compileForImageWithControlPlane spec capabilities image other =
      .ok compiled) (ports : List RuntimePort) (environment : OrdMap String String) :
    { request with ports, environment } = { compiled with ports, environment } := by
  obtain ⟨-, -, _, -, -, hresources, hrequest⟩ := compileForImageInternal_inv hrequest
  obtain ⟨-, -, _, -, -, hresources', hcompiled⟩ := compileForImageInternal_inv hcompiled
  rw [hrequest, hcompiled, Except.ok.inj (hresources.symm.trans hresources')]

/-- Restoring a transport on a compiled request is compiling with it, unless the manifest declares
the port of the guest's SSH server: such a mapping is removed with the one of SSH. -/
theorem restore_compiled_iff {other : ControlPlanePolicy} {compiled : CreateRequest}
    (hssh : spec.manifest.ssh.enabled = true)
    (hrequest : compileForImageWithControlPlane spec capabilities image control =
      .ok request) (hcompiled : compileForImageWithControlPlane spec capabilities image other =
      .ok compiled) :
    (∃ restored, restoreSshTransport request (some other) = .ok restored ∧
      SameUpToPorts restored compiled) ↔ 22 ∉ spec.manifest.ports.values := by
  obtain ⟨_, port, -, -, hports, henvironment⟩ := compiled_ssh hssh hrequest
  obtain ⟨key', port', hcheck', hfree', hports', henvironment'⟩ := compiled_ssh hssh hcompiled
  constructor
  · rintro ⟨restored, hrestored, hsame⟩ hmem
    obtain ⟨-, _, found, hcheck, -, rfl⟩ := restoreSshTransport_some.1 hrestored
    have hdeclared : declaredPort 22 ∈ compiled.ports := by
      rw [hports']
      exact mem_append_left _ (mem_map_of_mem hmem)
    -- What leads to port 22 afterwards is the mapping of SSH, from an unprivileged port.
    rcases mem_append.1 (hsame.ports.mem_iff.2 hdeclared) with hkept | hnew
    · exact absurd (of_mem_filter hkept) (by decide)
    · have hport : 22 = found := congrArg RuntimePort.hostPort (mem_singleton.1 hnew)
      have hlow := (checkControlPlane_eq_ok hcheck).2.2
      rw [← hport] at hlow
      exact absurd hlow (by decide)
  · intro hmem
    have hkept : request.ports.filter (·.guestPort ≠ 22) =
        spec.manifest.ports.values.map declaredPort := by
      rw [hports, filter_append, filter_eq_self.2, filter_eq_nil_iff.2,
        append_nil]
      · intro mapping hmapping
        rw [mem_singleton.1 hmapping]
        simp [sshPort]
      · intro mapping hmapping
        obtain ⟨number, hnumber, rfl⟩ := mem_map.1 hmapping
        exact decide_eq_true fun heq : number = 22 => hmem (heq ▸ hnumber)
    have honline : request.network ≠ .offline := by
      rw [(Issued.compiled hrequest).request.network, spec.manifest.networked_of_ssh hssh]
      nofun
    have hunused : ∀ mapping ∈ request.ports.filter (·.guestPort ≠ 22),
        mapping.hostPort ≠ port' := by
      intro mapping hmapping heq
      rw [hkept] at hmapping
      obtain ⟨number, hnumber, rfl⟩ := mem_map.1 hmapping
      exact hfree' (heq ▸ hnumber)
    refine ⟨_, restoreSshTransport_some.2 ⟨honline, key', port', hcheck', hunused, rfl⟩, ?_, ?_⟩
    · rw [hkept, hports']
    · have henv : ((request.environment.erase "GASCAN_SSH_AUTHORIZED_KEY").insert
          "GASCAN_SSH_ENABLED" "1").insert "GASCAN_SSH_AUTHORIZED_KEY" key' =
            compiled.environment := by
        rw [henvironment, henvironment']
        rfl
      rw [henv]
      exact compiled_alike hrequest hcompiled [] compiled.environment

end Restore

/-! ### Apple's translation -/

/-- The digest of an image reference is one for Apple's backend too. -/
theorem validateImage_of_immutable (h : immutableImageReference image = true) :
    Apple.validateImage image = .ok () := by
  unfold immutableImageReference at h
  unfold Apple.validateImage
  cases hsplit : splitOnce "@sha256:".toList image.toList with
  | none =>
    rw [hsplit] at h
    cases h
  | some parts =>
    obtain ⟨name, digest⟩ := parts
    rw [hsplit] at h
    simp only [validImageName, Bool.and_eq_true, decide_eq_true_eq] at h
    obtain ⟨⟨⟨⟨⟨⟨hname, -⟩, -⟩, -⟩, -⟩, hlength⟩, hhex⟩ := h
    have hname : name.isEmpty = false := by simpa using hname
    simp [hname, hlength, hhex]

section Apple

variable {spec : SandboxSpec} {image : String} {request : CreateRequest}
  {canonicalize : Path → Option Path} {command : Apple.CommandSpec}

theorem volumes_expected (h : IssuedRequest spec image request) :
    (Apple.CreateView.fromRequest request).volumes.length =
        (Apple.expectedVolumes request.id).length ∧
      ((Apple.CreateView.fromRequest request).volumes.zip (Apple.expectedVolumes request.id)).all
        (fun (volume, expected) => volume.isExpected request.ownership expected) = true := by
  have hvolumes : (Apple.CreateView.fromRequest request).volumes =
      (Apple.expectedVolumes request.id).map fun expected =>
        ⟨expected.1, expected.2, true, request.ownership⟩ := by
    simp only [Apple.CreateView.fromRequest, h.volumes, h.id, h.ownership]
    rfl
  rw [hvolumes]
  refine ⟨length_map .., ?_⟩
  simp [Apple.expectedVolumes, Apple.VolumeView.isExpected]

/-- The checks pass exactly if the root is canonical and the user is the one of the image. -/
theorem validateView_iff (h : IssuedRequest spec image request) :
    Apple.validateView canonicalize (.fromRequest request) = .ok () ↔
      canonicalize spec.canonicalRoot = some spec.canonicalRoot ∧
        spec.manifest.user = .workspace := by
  obtain ⟨cpus, memory, hlimits⟩ := h.limits
  have himage := validateImage_of_immutable h.immutable
  have hports : request.ports.all (fun port => port.hostAddress = .localhost) = true := by
    simpa using h.ports.loopback
  have huser : request.user = .workspace ↔ spec.manifest.user = .workspace := by
    rw [h.user]
    cases spec.manifest.user <;> decide
  obtain ⟨hlength, hexpected⟩ := volumes_expected h
  have hmounts : Apple.validateMounts canonicalize (Apple.CreateView.fromRequest request).bindMounts
      = .ok () ↔ canonicalize spec.canonicalRoot = some spec.canonicalRoot := by
    simp only [Apple.CreateView.fromRequest, h.mounts]
    simp [Apple.validateMounts]
  have hview : (Apple.CreateView.fromRequest request).image = image := h.image
  have howner : request.ownership.managedBy = managedBy ∧
      request.ownership.sandboxId = request.id := by
    rw [h.ownership, h.id]
    exact ⟨rfl, rfl⟩
  have hresources : (Apple.CreateView.fromRequest request).resources = ⟨cpus, memory, none, none⟩ :=
    hlimits
  simp only [Apple.validateView, check_bind_eq_ok, ensureThat_eq_ok, hview, himage, hmounts,
    hresources, true_and]
  constructor
  · rintro ⟨-, hroot, -, -, -, -, -, -, -, hworkspace, -⟩
    exact ⟨hroot, huser.1 hworkspace⟩
  · rintro ⟨hroot, hworkspace⟩
    exact ⟨howner, hroot, hlength, hexpected, hports, rfl, rfl, rfl, rfl, huser.2 hworkspace,
      h.init⟩

theorem create_eq_ok (h : IssuedRequest spec image request) :
    Apple.create canonicalize request = .ok command ↔
      Apple.validateView canonicalize (.fromRequest request) = .ok () ∧
        ∃ cpus memory, request.resources = ⟨some cpus, some memory, none, none⟩ ∧
          command = Apple.CommandSpec.mk "container" (Apple.arguments (.fromRequest request)
            ⟨spec.canonicalRoot, workspaceTarget, true⟩ cpus memory) [] := by
  obtain ⟨cpus, memory, hlimits⟩ := h.limits
  have hmount : (Apple.CreateView.fromRequest request).bindMounts.head? =
      some ⟨spec.canonicalRoot, workspaceTarget, true⟩ := by
    simp [Apple.CreateView.fromRequest, h.mounts]
  have hresources : (Apple.CreateView.fromRequest request).resources = ⟨cpus, memory, none, none⟩ :=
    hlimits
  simp only [Apple.create, check_bind_eq_ok, hmount, hresources, okOr_some, ok_bind]
  refine and_congr_right fun _ => ⟨?_, ?_⟩
  · rintro ⟨⟩
    exact ⟨cpus, memory, hlimits, rfl⟩
  · rintro ⟨cpus', memory', hlimits', rfl⟩
    rw [hlimits] at hlimits'
    cases hlimits'
    rfl

end Apple

/-! ### Arca's translation -/

/-- Ports with different host ports go over the wire and come back. -/
theorem portMappingsAfter_goodPorts {seen : List Port} (h : GoodPorts ports)
    (hseen : ∀ port ∈ ports, port.hostPort ∉ seen) :
    ∃ mappings, Arca.portMappingsAfter seen ports = .ok mappings ∧
      Arca.runtimePortsAfter seen mappings = .ok ports := by
  induction ports generalizing seen with
  | nil => exact ⟨[], rfl, rfl⟩
  | cons port rest ih =>
    obtain ⟨hloopback, hrestLoopback⟩ := forall_mem_cons.1 h.loopback
    obtain ⟨hnonzero, hrestNonzero⟩ := forall_mem_cons.1 h.nonzero
    obtain ⟨hnew, hrestNew⟩ := forall_mem_cons.1 hseen
    obtain ⟨hfirst, hdistinct⟩ := nodup_cons.1 h.distinct
    have hrest : ∀ other ∈ rest, other.hostPort ∉ port.hostPort :: seen := by
      intro other hother hmem
      rcases mem_cons.1 hmem with heq | hmem
      · exact hfirst (mem_map.2 ⟨other, hother, heq⟩)
      · exact hrestNew other hother hmem
    obtain ⟨mappings, hmappings, hback⟩ := ih ⟨hrestLoopback, hrestNonzero, hdistinct⟩ hrest
    have hnarrow : ∀ which (p : Port), Arca.narrowPort which p.toUInt32 = .ok p := by
      intro which p
      have hlt : p.toUInt32.toNat < 2 ^ 16 := by
        rw [UInt16.toNat_toUInt32]
        exact p.toNat_lt
      simp only [Arca.narrowPort, hlt, ensureThat_true, ok_bind, UInt16.toUInt16_toUInt32]
      rfl
    refine ⟨⟨port.hostPort.toUInt32, port.guestPort.toUInt32⟩ :: mappings, ?_, ?_⟩
    · simp only [Arca.portMappingsAfter, hloopback, hnonzero, hnew, ne_eq, not_false_eq_true,
        and_self, ensureThat_true, ok_bind, hmappings]
      rfl
    · have hport : port = ⟨.localhost, port.hostPort, port.guestPort⟩ := by
        rw [← hloopback]
      simp only [Arca.runtimePortsAfter, hnarrow, hnonzero, hnew, ne_eq, not_false_eq_true,
        and_self, ensureThat_true, ok_bind, hback]
      rw [← hport]
      rfl

/-- The message of a request: its ports come back, and its image is the digest of the request's. -/
theorem createRequest_eq_ok {request : CreateRequest} (h : IssuedRequest spec image request)
    {digest : Arca.ImageDigest} (hdigest : Arca.imageDigest image = .ok digest) :
    ∃ message, Arca.createRequest request = .ok message ∧ message.image = digest ∧
      Arca.runtimePorts message.ports = .ok request.ports := by
  obtain ⟨mappings, hmappings, hback⟩ := portMappingsAfter_goodPorts h.ports
    (fun _ _ => not_mem_nil)
  have hvolumes : ∃ vs, Arca.volumes request.volumes = .ok vs := by
    rw [h.volumes]
    exact ⟨_, rfl⟩
  obtain ⟨vs, hvolumes⟩ := hvolumes
  have hproject : Arca.projectMount request.bindMounts =
      .ok ⟨spec.canonicalRoot, workspaceTarget⟩ := by
    rw [h.mounts]
    rfl
  simp only [Arca.createRequest, h.image, hdigest, hproject, hvolumes, Arca.portMappings, hmappings,
    ok_bind]
  exact ⟨_, rfl, rfl, hback⟩

/-! ### Image names -/

/-- The name of an image without its tag. -/
def repositoryOf (name : List Char) : List Char := (tagSeparator name).elim name name.take

theorem tagSeparator_of_noSlash {name : List Char} (h : '/' ∉ name) :
    tagSeparator name = lastIndexOf ':' name := by
  rw [tagSeparator, lastIndexOf_eq_none.2 h]
  cases lastIndexOf ':' name <;> rfl

/-- After a slash, only a colon in the last component separates a tag. -/
theorem tagSeparator_of_slash (h : '/' ∉ base) :
    tagSeparator (directory ++ '/' :: base) =
      (lastIndexOf ':' base).map (directory.length + 1 + ·) := by
  have hcons : directory ++ '/' :: base = (directory ++ ['/']) ++ base := by simp
  have hslash : lastIndexOf '/' (directory ++ '/' :: base) = some directory.length :=
    lastIndexOf_append h
  rw [tagSeparator, hslash, hcons, lastIndexOf_append_eq]
  cases hbase : lastIndexOf ':' base with
  | some i =>
    simp only [length_append, length_singleton, Option.map_some]
    rw [if_pos (by omega)]
  | none =>
    cases hdirectory : lastIndexOf ':' (directory ++ ['/']) with
    | none => simp
    | some i =>
      -- A colon in an earlier component is not after the slash.
      have hi := lt_length_of_lastIndexOf hdirectory
      rw [length_append, length_singleton] at hi
      have hnot : ¬ directory.length < i := by omega
      simp [hnot]

/-- A character of a component without a port. -/
def isPlain (c : Char) : Bool := isLower c || isDigit c || c = '.' || c = '_' || c = '-'

/-- A component is plain, or it is the first one and ends in a port. -/
theorem component_of_valid (h : validRepositoryComponent component allowPort = true) :
    component ≠ [] ∧
      (component.all isPlain = true ∨
        allowPort = true ∧ ∃ host port, component = host ++ [':'] ++ port ∧
          host.all isPlain = true ∧ port.all isDigit = true) := by
  unfold validRepositoryComponent at h
  cases hsplit : (if allowPort then splitOnce [':'] component else none) with
  | none =>
    simp only [hsplit, Option.all_none, Bool.true_and, Bool.and_eq_true] at h
    obtain ⟨⟨hhead, -⟩, hall⟩ := h
    refine ⟨?_, Or.inl hall⟩
    rintro rfl
    cases hhead
  | some parts =>
    obtain ⟨host, port⟩ := parts
    simp only [hsplit, Option.all_some, Bool.and_eq_true] at h
    obtain ⟨⟨⟨⟨-, hport⟩, -⟩, -⟩, hall⟩ := h
    cases allowPort with
    | false => cases hsplit
    | true =>
      have hcomponent := eq_of_splitOnce hsplit
      exact ⟨by simp [hcomponent], Or.inr ⟨rfl, host, port, hcomponent, hall, hport⟩⟩

theorem char_of_valid (h : validRepositoryComponent component allowPort = true) :
    '@' ∉ component ∧ (allowPort = false → ':' ∉ component) := by
  obtain ⟨-, hall | ⟨rfl, host, port, rfl, hhost, hport⟩⟩ := component_of_valid h
  · exact ⟨fun hc => absurd (all_eq_true.1 hall _ hc) (by decide),
      fun _ hc => absurd (all_eq_true.1 hall _ hc) (by decide)⟩
  · refine ⟨fun hc => ?_, nofun⟩
    rw [mem_append, mem_append, mem_singleton] at hc
    rcases hc with (hc | hc) | hc
    · exact absurd (all_eq_true.1 hhost _ hc) (by decide)
    · exact absurd hc (by decide)
    · exact absurd (all_eq_true.1 hport _ hc) (by decide)

theorem components_of_validImageName {name : List Char} (h : validImageName name = true) :
    ((splitOn '/' (repositoryOf name)).zipIdx).all
      (fun (component, index) => validRepositoryComponent component (index = 0)) = true := by
  simp only [validImageName, Bool.and_eq_true] at h
  exact h.2

variable {name : List Char}

theorem noAt_of_validImageName (h : validImageName name = true) : '@' ∉ repositoryOf name := by
  intro hmem
  have hfield : '@' = '/' ∨ ∃ component ∈ splitOn '/' (repositoryOf name), '@' ∈ component :=
    mem_field_of_mem hmem
  rcases hfield with hslash | ⟨component, hcomponent, hc⟩
  · exact absurd hslash (by decide)
  · obtain ⟨index, hindex⟩ := mem_iff_getElem?.1 hcomponent
    have hvalid := all_eq_true.1 (components_of_validImageName h) (component, index)
      (mem_zipIdx_iff_getElem?.2 hindex)
    exact (char_of_valid hvalid).1 hc

theorem noColon_of_components (hbase : '/' ∉ base) (h : ((splitOn '/' (directory ++ '/' ::
      base)).zipIdx).all (fun (component, index) => validRepositoryComponent component (index =
      0)) = true) : ':' ∉ base := by
  rw [splitOn_append_last hbase] at h
  have hmem : (base, (splitOn '/' directory).length) ∈
      (splitOn '/' directory ++ [base]).zipIdx := by
    rw [mem_zipIdx_iff_getElem?]
    simp
  have hvalid := all_eq_true.1 h _ hmem
  have hindex : decide ((splitOn '/' directory).length = 0) = false := by
    simpa using splitOn_ne_nil '/' directory
  exact (char_of_valid hvalid).2 hindex

/-- A name of several components has at most one tag, and a single component has at most one if it
has at most one colon. -/
theorem tagSeparator_repositoryOf (h : validImageName name = true) :
    tagSeparator (repositoryOf name) = none ↔ '/' ∈ name ∨ name.count ':' ≤ 1 := by
  have hcomponents := components_of_validImageName h
  by_cases hslash : '/' ∈ name
  · obtain ⟨directory, base, rfl, hbase⟩ := exists_of_mem_last hslash
    refine iff_of_true ?_ (Or.inl hslash)
    by_cases hcolon : ':' ∈ base
    · obtain ⟨first, tag, rfl, htag⟩ := exists_of_mem_last hcolon
      have hrepository : repositoryOf (directory ++ '/' :: (first ++ ':' :: tag)) =
          directory ++ '/' :: first := by
        have hsplit : directory ++ '/' :: (first ++ ':' :: tag) =
            (directory ++ '/' :: first) ++ ':' :: tag := by simp
        rw [repositoryOf, tagSeparator_of_slash hbase, lastIndexOf_append htag, hsplit]
        refine take_left' ?_
        show (directory ++ '/' :: first).length = directory.length + 1 + first.length
        rw [length_append, length_cons]
        omega
      have hfirst : '/' ∉ first := fun hc => hbase (by simp [hc])
      rw [hrepository] at hcomponents ⊢
      rw [tagSeparator_of_slash hfirst,
        lastIndexOf_eq_none.2 (noColon_of_components hfirst hcomponents)]
      rfl
    · have hnone : tagSeparator (directory ++ '/' :: base) = none := by
        rw [tagSeparator_of_slash hbase, lastIndexOf_eq_none.2 hcolon]
        rfl
      rw [repositoryOf, hnone]
      exact hnone
  · rw [or_iff_right hslash]
    by_cases hcolon : ':' ∈ name
    · obtain ⟨first, tag, rfl, htag⟩ := exists_of_mem_last hcolon
      have hrepository : repositoryOf (first ++ ':' :: tag) = first := by
        rw [repositoryOf, tagSeparator_of_noSlash hslash, lastIndexOf_append htag]
        simp
      have hfirst : '/' ∉ first := fun hc => hslash (by simp [hc])
      rw [hrepository, tagSeparator_of_noSlash hfirst, lastIndexOf_eq_none, count_append,
        count_cons_self, count_eq_zero.2 htag, ← count_eq_zero]
      omega
    · have hnone : tagSeparator name = none := by
        rw [tagSeparator_of_noSlash hslash, lastIndexOf_eq_none.2 hcolon]
      rw [repositoryOf, hnone, count_eq_zero.2 hcolon]
      exact iff_of_true hnone (by decide)

/-- A repository without a second tag is a valid name. -/
theorem validImageName_repositoryOf (h : validImageName name = true)
    (htag : tagSeparator (repositoryOf name) = none) :
    validImageName (repositoryOf name) = true := by
  have hcomponents := components_of_validImageName h
  have hsub : repositoryOf name <+: name := by
    rw [repositoryOf]
    cases tagSeparator name with
    | none => exact prefix_rfl
    | some i => exact take_prefix i name
  have hne : repositoryOf name ≠ [] := by
    intro hnil
    rw [hnil] at hcomponents
    exact absurd hcomponents (by decide)
  simp only [validImageName, Bool.and_eq_true] at h
  obtain ⟨⟨⟨⟨-, hascii⟩, hspace⟩, -⟩, -⟩ := h
  have hascii' : (repositoryOf name).all (fun c => c.toNat < 128) = true :=
    all_eq_true.2 fun c hc => all_eq_true.1 hascii c (hsub.subset hc)
  have hspace' : (!(repositoryOf name).any isSpace) = true := by
    rw [Bool.not_eq_true'] at hspace ⊢
    rw [any_eq_false] at hspace ⊢
    exact fun c hc => hspace c (hsub.subset hc)
  simp only [validImageName, htag, Option.elim_none, Option.map_none, Option.all_none, hascii',
    hspace', hcomponents, Bool.and_true]
  simpa using hne

/-- The image reference that the engine's digest stands for. -/
def carriedText (repository digest : List Char) : String :=
  String.ofList repository ++ "@sha256:" ++ String.ofList digest

theorem splitOnce_carriedText (h : '@' ∉ repository) :
    splitOnce "@sha256:".toList (carriedText repository digest).toList =
      some (repository, digest) := by
  simp only [carriedText, String.toList_append, String.toList_ofList]
  exact splitOnce_append h

theorem immutableImageIdentity_eq (h : immutableImageReference image = true)
    (hsplit : splitOnce "@sha256:".toList image.toList = some (name, digest)) :
    immutableImageIdentity image = some (repositoryOf name, digest) := by
  rw [immutableImageIdentity, if_pos h, hsplit]
  rfl

theorem repositoryOf_eq_self : repositoryOf name = name ↔ tagSeparator name = none := by
  rw [repositoryOf]
  cases htag : tagSeparator name with
  | none => simp
  | some i =>
    have hlt : i < name.length := by
      unfold tagSeparator at htag
      cases hcolon : lastIndexOf ':' name with
      | none => simp [hcolon] at htag
      | some j =>
        have hj := lt_length_of_lastIndexOf hcolon
        cases hslash : lastIndexOf '/' name with
        | none =>
          simp only [hcolon, hslash, Option.some.injEq] at htag
          omega
        | some k =>
          simp only [hcolon, hslash] at htag
          split at htag
          · simp only [Option.some.injEq] at htag
            omega
          · cases htag
    simp only [Option.elim_some, reduceCtorEq, iff_false]
    intro htake
    have hlength := congrArg List.length htake
    rw [length_take] at hlength
    omega

/-- The engine's digest is read as the text that it stands for, if that is an image reference. -/
theorem runtimeImage_eq_ok {carried : String} :
    Arca.runtimeImage ⟨String.ofList repository, String.ofList digest⟩ = .ok carried ↔
      immutableImageReference (carriedText repository digest) = true ∧
        carried = carriedText repository digest := by
  show (if immutableImageReference (carriedText repository digest) = true then
    Except.ok (carriedText repository digest) else _) = .ok carried ↔ _
  by_cases hvalid : immutableImageReference (carriedText repository digest) = true
  · rw [if_pos hvalid, and_iff_right hvalid, Except.ok.injEq, eq_comm]
  · rw [if_neg hvalid]
    exact iff_of_false nofun fun h => hvalid h.1

/-- Names of images with at most one tag. -/
def SingleTag (image : String) : Prop :=
  ∀ name digest, splitOnce "@sha256:".toList image.toList = some (name, digest) →
    '/' ∈ name ∨ name.count ':' ≤ 1

/-- The digest on the wire is one of the same image exactly if the name has at most one tag. -/
theorem imageDigest_same (h : immutableImageReference image = true) :
    ∃ digest, Arca.imageDigest image = .ok digest ∧
      ((∃ carried, Arca.runtimeImage digest = .ok carried ∧
        sameImmutableImage carried image = true) ↔ SingleTag image) := by
  have himmutable := h
  unfold immutableImageReference at h
  cases hsplit : splitOnce "@sha256:".toList image.toList with
  | none =>
    rw [hsplit] at h
    cases h
  | some parts =>
    obtain ⟨name, digest⟩ := parts
    simp only [hsplit, Bool.and_eq_true] at h
    obtain ⟨⟨hname, hlength⟩, hhex⟩ := h
    have hidentity := immutableImageIdentity_eq himmutable hsplit
    have hcarried : splitOnce "@sha256:".toList (carriedText (repositoryOf name) digest).toList =
        some (repositoryOf name, digest) := splitOnce_carriedText (noAt_of_validImageName hname)
    have hsingle : SingleTag image ↔ tagSeparator (repositoryOf name) = none := by
      rw [tagSeparator_repositoryOf hname, SingleTag, hsplit]
      exact ⟨fun h => h name digest rfl, fun h _ _ heq => by cases heq; exact h⟩
    refine ⟨⟨String.ofList (repositoryOf name), String.ofList digest⟩, ?_, ?_⟩
    · rw [Arca.imageDigest, hidentity]
    rw [hsingle]
    constructor
    · rintro ⟨carried, hread, hsame⟩
      obtain ⟨hvalid, rfl⟩ := runtimeImage_eq_ok.1 hread
      rw [sameImmutableImage, immutableImageIdentity_eq hvalid hcarried, hidentity] at hsame
      exact repositoryOf_eq_self.1 (congrArg Prod.fst (of_decide_eq_true hsame))
    · intro htag
      have hvalid : immutableImageReference (carriedText (repositoryOf name) digest) = true := by
        simp only [immutableImageReference, hcarried, hlength, hhex,
          validImageName_repositoryOf hname htag, Bool.and_true]
      refine ⟨_, runtimeImage_eq_ok.2 ⟨hvalid, rfl⟩, ?_⟩
      rw [sameImmutableImage, immutableImageIdentity_eq hvalid hcarried, hidentity,
        repositoryOf_eq_self.2 htag]
      exact decide_eq_true rfl

/-- The identity of an image as a canonical form: its own reference has the same identity, and the
engine's digest is read as one of the same image. -/
structure Canonical (image : String) (repository digest : List Char) : Prop where
  identity : immutableImageIdentity (carriedText repository digest) = some (repository, digest)
  roundTrip : ∃ wire carried, Arca.imageDigest image = .ok wire ∧
    Arca.runtimeImage wire = .ok carried ∧ sameImmutableImage carried image = true

theorem sameImmutableImage_iff {left right : String} : sameImmutableImage left right = true ↔
    ∃ identity, immutableImageIdentity left = some identity ∧
      immutableImageIdentity right = some identity := by
  unfold sameImmutableImage
  cases immutableImageIdentity left <;> cases immutableImageIdentity right <;> simp [eq_comm]

theorem immutable_of_identity {identity : List Char × List Char}
    (h : immutableImageIdentity image = some identity) : immutableImageReference image = true := by
  by_contra hnot
  rw [immutableImageIdentity, if_neg hnot] at h
  cases h

/-- Image references that name the same image. -/
def SameImage (left right : { image : String // immutableImageReference image = true }) : Prop :=
  sameImmutableImage left.1 right.1 = true

theorem sameImage_equivalence : Equivalence SameImage where
  refl image := sameImmutableImage_self image.2
  symm h := by
    obtain ⟨identity, hleft, hright⟩ := sameImmutableImage_iff.1 h
    exact sameImmutableImage_iff.2 ⟨identity, hright, hleft⟩
  trans h1 h2 := by
    obtain ⟨identity, hleft, hmiddle⟩ := sameImmutableImage_iff.1 h1
    obtain ⟨other, hmiddle', hright⟩ := sameImmutableImage_iff.1 h2
    rw [hmiddle, Option.some.injEq] at hmiddle'
    exact sameImmutableImage_iff.2 ⟨identity, hleft, hmiddle' ▸ hright⟩

/-- The identity of an image is a canonical form exactly if its name has at most one tag. -/
theorem canonical_iff {repository : List Char}
    (h : immutableImageIdentity image = some (repository, digest)) :
    (Canonical image repository digest ↔ SingleTag image) ∧ Equivalence SameImage := by
  refine ⟨?_, sameImage_equivalence⟩
  obtain ⟨wire, hwire, hsame⟩ := imageDigest_same (immutable_of_identity h)
  constructor
  · rintro ⟨-, found, carried, hfound, hcarried⟩
    obtain rfl := Except.ok.inj (hwire.symm.trans hfound)
    exact hsame.1 ⟨carried, hcarried⟩
  · intro htag
    obtain ⟨carried, hread, hcarried⟩ := hsame.2 htag
    refine ⟨?_, wire, carried, hwire, hread, hcarried⟩
    -- What is read back is the reference of the identity, and names the same image.
    rw [Arca.imageDigest, h] at hwire
    rw [← Except.ok.inj hwire] at hread
    obtain ⟨-, rfl⟩ := runtimeImage_eq_ok.1 hread
    obtain ⟨identity, hleft, hright⟩ := sameImmutableImage_iff.1 hcarried
    rw [hleft, ← hright, h]

/-! ### Both backends -/

/-- Both backends translate a request, and the engine gets its ports and its image. -/
structure Translates (canonicalize : Path → Option Path) (request : CreateRequest) : Prop where
  apple : ∃ command, Apple.create canonicalize request = .ok command
  arca : ∃ message, Arca.createRequest request = .ok message ∧
    Arca.runtimePorts message.ports = .ok request.ports ∧
    ∃ carried, Arca.runtimeImage message.image = .ok carried ∧
      sameImmutableImage carried request.image = true

/-- Both backends translate a request of the policy compiler exactly if the manifest asks for the
workspace user and the name of the image has at most one tag. -/
theorem translates_iff {spec : SandboxSpec} {image : String} {request : CreateRequest}
    {canonicalize : Path → Option Path} (h : Issued spec image request)
    (hroot : canonicalize spec.canonicalRoot = some spec.canonicalRoot) :
    Translates canonicalize request ↔ spec.manifest.user = .workspace ∧ SingleTag image := by
  have hissued := h.request
  obtain ⟨digest, hdigest, hsame⟩ := imageDigest_same hissued.immutable
  obtain ⟨message, hmessage, himage, hports⟩ := createRequest_eq_ok hissued hdigest
  have hview : Apple.validateView canonicalize (.fromRequest request) = .ok () ↔
      spec.manifest.user = .workspace := by
    rw [validateView_iff hissued]
    exact and_iff_right hroot
  constructor
  · rintro ⟨⟨command, hcommand⟩, found, hfound, -, hcarried⟩
    obtain rfl : message = found := Except.ok.inj (hmessage.symm.trans hfound)
    rw [himage, hissued.image] at hcarried
    exact ⟨hview.1 ((create_eq_ok hissued).1 hcommand).1, hsame.1 hcarried⟩
  · rintro ⟨huser, htag⟩
    obtain ⟨cpus, memory, hlimits⟩ := hissued.limits
    refine ⟨⟨_, (create_eq_ok hissued).2 ⟨hview.2 huser, cpus, memory, hlimits, rfl⟩⟩,
      message, hmessage, hports, ?_⟩
    rw [himage, hissued.image]
    exact hsame.2 htag

/-- A networked sandbox without ports. -/
def plainSpec (user : UserMode) (root : Path) : SandboxSpec where
  id := ⟨"plain-0123456789ab", .refl true⟩
  canonicalRoot := root
  manifest :=
    { demoManifest with
      network := .networked
      user
      canonicalRoot := root
      networked_of_ssh := fun _ => rfl }

/-- A runtime that can do everything. -/
def ableRuntime : RuntimeCapabilities := ⟨⟨1, 1, 0⟩, true, true, true, true, .proven⟩

def plainImage : String :=
  "registry.example/workspace:1@sha256:" ++
    "0123456789abcdef0123456789abcdef0123456789abcdef0123456789abcdef"

theorem splitOnce_plainImage : splitOnce "@sha256:".toList plainImage.toList =
    some ("registry.example/workspace:1".toList,
      "0123456789abcdef0123456789abcdef0123456789abcdef0123456789abcdef".toList) := by
  decide +kernel

theorem singleTag_plainImage : SingleTag plainImage := by
  intro name digest h
  rw [splitOnce_plainImage] at h
  cases h
  exact Or.inl (by decide)

theorem plainImage_canonical :
    Canonical plainImage "registry.example/workspace".toList
      "0123456789abcdef0123456789abcdef0123456789abcdef0123456789abcdef".toList :=
  (canonical_iff (by decide +kernel)).1.2 singleTag_plainImage

/-- A name with a port and a tag: without its tag, the port is read as one. -/
theorem port_read_as_tag :
    immutableImageIdentity ("a:5:c@sha256:" ++ .ofList (List.replicate 64 'd')) =
        some ("a:5".toList, List.replicate 64 'd') ∧
      immutableImageIdentity (carriedText "a:5".toList (List.replicate 64 'd')) =
        some ("a".toList, List.replicate 64 'd') := by
  decide +kernel

/-- What the policy compiler makes of such a specification. -/
def plainRequest (user : UserMode) (root : Path) : Except PolicyError CreateRequest :=
  compileForImageInternal (plainSpec user root) ableRuntime plainImage none

theorem workspaceUser_translates :
    ∃ request, plainRequest .workspace "/work/plain" = .ok request ∧ Translates some request := by
  have hok : (plainRequest .workspace "/work/plain").isOk = true := by decide +kernel
  obtain ⟨request, hrequest⟩ := isOk_iff.1 hok
  exact ⟨request, hrequest,
    (translates_iff (.compiled hrequest) rfl).2 ⟨rfl, singleTag_plainImage⟩⟩

/-- A manifest may ask for the root user, and then Apple's backend refuses the request. -/
theorem rootUser_refused :
    ∃ request, plainRequest .root "/work/plain" = .ok request ∧
      Apple.create some request = .error .unsupportedUser := by
  have hok : (plainRequest .root "/work/plain").isOk = true := by decide +kernel
  obtain ⟨request, hrequest⟩ := isOk_iff.1 hok
  have hrefused : failsWith (· = .unsupportedUser)
      (plainRequest .root "/work/plain" |>.toOption.elim (.error .initRequired) (Apple.create some))
        = true := by decide +kernel
  rw [hrequest] at hrefused
  obtain ⟨error, herror, hunsupported⟩ := failsWith_iff.1 hrefused
  rw [of_decide_eq_true hunsupported] at herror
  exact ⟨request, hrequest, herror⟩

/-- A sandbox with SSH that declares one port. -/
def portSpec (port : Port) : SandboxSpec where
  id := ⟨"plain-0123456789ab", .refl true⟩
  canonicalRoot := "/work/plain"
  manifest :=
    { demoManifest with
      network := .networked
      ports := OrdMap.empty.insert "web" port
      ssh := ⟨true, none, by decide, demoManifest.ssh.unprivileged⟩
      networked_of_ssh := fun _ => rfl }

/-- A control plane that publishes SSH. -/
def sshControl (port : Port) : ControlPlanePolicy where
  sshAuthorizedKey := some fullWorld.identity.publicKey
  sshHostPort := some port

def compilePort (declared hostPort : Port) : Except PolicyError CreateRequest :=
  compileForImageWithControlPlane (portSpec declared) ableRuntime plainImage
    (sshControl hostPort)

theorem web_port_restored :
    ∃ request compiled restored, compilePort 8080 2222 = .ok request ∧
      compilePort 8080 2200 = .ok compiled ∧
      restoreSshTransport request (some (sshControl 2200)) = .ok restored ∧
      SameUpToPorts restored compiled := by
  have hok : (compilePort 8080 2222).isOk = true ∧ (compilePort 8080 2200).isOk = true := by
    decide +kernel
  obtain ⟨request, hrequest⟩ := isOk_iff.1 hok.1
  obtain ⟨compiled, hcompiled⟩ := isOk_iff.1 hok.2
  obtain ⟨restored, hrestored⟩ :=
    (restore_compiled_iff rfl hrequest hcompiled).2 (by decide +kernel)
  exact ⟨request, compiled, restored, hrequest, hcompiled, hrestored⟩

/-- A declared port 22 is lost with the mapping of SSH. -/
theorem declared_port_removed :
    (compilePort 22 2200).map (·.ports) = .ok [declaredPort 22, sshPort 2200] ∧
      ((compilePort 22 2222).bind fun request => restoreSshTransport request
        (some (sshControl 2200))).map (·.ports) = .ok [sshPort 2200] := by
  decide +kernel

/-! ### The workspace mount of Apple's command -/

/-- The argument after an option. -/
def optionValue (option : String) : List String → Option String
  | first :: second :: rest =>
    if first = option then some second else optionValue option (second :: rest)
  | _ => none

/-- The fields of a mount option, as the `container` command reads them. -/
def mountFields (value : String) : List (List Char) := splitOn ',' value.toList

/-- The value of a field with this key. -/
def fieldValue (key field : List Char) : Option (List Char) :=
  (splitOnce ['='] field).bind fun (found, value) => if found = key then some value else none

def typeField : List Char := "type=bind".toList
def sourceStart : List Char := "source=".toList
def targetField : List Char := "target=/workspace".toList

/-- The fields of a mount option are the type, the root as the source and the workspace as the
target. -/
structure Confined (root : Path) (value : String) : Prop where
  source : (mountFields value).filterMap (fieldValue "source".toList) = [root.toList]
  target : (mountFields value).filterMap (fieldValue "target".toList) = [workspaceTarget.toList]
  nothingElse : ∀ field ∈ mountFields value,
    field = typeField ∨ field = sourceStart ++ root.toList ∨ field = targetField

theorem toList_mountArgument (root : Path) :
    (Apple.mountArgument root).toList =
      typeField ++ ',' :: (sourceStart ++ (root.toList ++ ',' :: targetField)) := by
  have happend : ∀ a b c d : String,
      (a ++ b ++ c ++ d).toList = a.toList ++ (b.toList ++ (c.toList ++ d.toList)) := by simp
  have hstart : "type=bind,source=".toList = typeField ++ ',' :: sourceStart := by decide +kernel
  have hend : ",target=".toList ++ workspaceTarget.toList = ',' :: targetField := by decide +kernel
  refine (happend _ _ _ _).trans ?_
  rw [hend, hstart, append_assoc, cons_append]

/-- The key and the value of a field that is given by its key. -/
theorem splitOnce_sourceStart :
    splitOnce ['='] (sourceStart ++ value) = some ("source".toList, value) := by
  have hstart : sourceStart = "source".toList ++ ['='] := by decide +kernel
  rw [hstart]
  exact splitOnce_append (by decide)

theorem fieldValue_source : fieldValue "source".toList (sourceStart ++ value) = some value := by
  rw [fieldValue, splitOnce_sourceStart, Option.bind_some]
  exact if_pos rfl

/-- The first two fields, up to the first comma after the source begins. -/
theorem mountFields_mountArgument {root : Path} {left right : List Char}
    (hroot : root.toList ++ ',' :: targetField = left ++ ',' :: right) (hleft : ',' ∉ left) :
    mountFields (Apple.mountArgument root) =
      typeField :: (sourceStart ++ left) :: splitOn ',' right := by
  have hsource : ',' ∉ sourceStart ++ left := by
    rw [mem_append, not_or]
    exact ⟨by decide, hleft⟩
  rw [mountFields, toList_mountArgument, hroot, splitOn_append (by decide), ← append_assoc,
    splitOn_append hsource]

/-- The option keeps the root apart from its own fields exactly if the root has no comma. -/
theorem confined_mountArgument {root : Path} :
    Confined root (Apple.mountArgument root) ↔ ',' ∉ root.toList := by
  have htype : ∀ key, key ≠ "type".toList → fieldValue key typeField = none := by
    intro key hkey
    have hsplit : splitOnce ['='] typeField = some ("type".toList, "bind".toList) := by
      decide +kernel
    rw [fieldValue, hsplit, Option.bind_some]
    exact if_neg (Ne.symm hkey)
  constructor
  · intro h hcomma
    obtain ⟨left, right, hroot, hleft⟩ := eq_append_cons_of_mem hcomma
    have hsource := h.source
    have hsplit : root.toList ++ ',' :: targetField =
        left ++ ',' :: (right ++ ',' :: targetField) := by
      rw [hroot, append_assoc, cons_append]
    -- The first source that is read ends at the comma.
    rw [mountFields_mountArgument hsplit hleft, filterMap_cons_none (htype _ (by decide)),
      filterMap_cons_some (fieldValue_source left)] at hsource
    have heq : left = root.toList := (List.cons.inj hsource).1
    rw [← heq] at hcomma
    exact hleft hcomma
  · intro hcomma
    have hfields : mountFields (Apple.mountArgument root) =
        [typeField, sourceStart ++ root.toList, targetField] := by
      rw [mountFields_mountArgument rfl hcomma, splitOn_eq_singleton (by decide)]
    have htarget : fieldValue "target".toList targetField = some workspaceTarget.toList ∧
        fieldValue "source".toList targetField = none := by decide +kernel
    have hother : fieldValue "target".toList (sourceStart ++ root.toList) = none := by
      rw [fieldValue, splitOnce_sourceStart, Option.bind_some]
      exact if_neg (by decide)
    refine ⟨?_, ?_, ?_⟩
    · rw [hfields, filterMap_cons_none (htype _ (by decide)),
        filterMap_cons_some (fieldValue_source root.toList),
        filterMap_cons_none htarget.2, filterMap_nil]
    · rw [hfields, filterMap_cons_none (htype _ (by decide)), filterMap_cons_none hother,
        filterMap_cons_some htarget.1, filterMap_nil]
    · rw [hfields]
      intro field hfield
      simpa using hfield

theorem optionValue_arguments {view : Apple.CreateView} {mount : Apple.BindMountView}
    {cpus memory : Nat} :
    optionValue "--mount" (Apple.arguments view mount cpus memory) =
      some (Apple.mountArgument mount.source) := by
  have hid : view.id.value ≠ "--mount" := by
    intro heq
    have hvalid := view.id.valid
    rw [heq] at hvalid
    exact absurd hvalid (by decide)
  have hlabel : "dev.gascan.sandbox-id=" ++ view.id.value ≠ "--mount" := by
    intro heq
    have hhead := congrArg (·.toList.head?) heq
    rw [String.toList_append] at hhead
    exact absurd (show some 'd' = some '-' from hhead) (by decide)
  have hstep : ∀ first second rest, first ≠ "--mount" →
      optionValue "--mount" (first :: second :: rest) = optionValue "--mount" (second :: rest) :=
    fun first second rest hne => if_neg hne
  show optionValue "--mount" ("run" :: "--name" :: view.id.value :: "--label" ::
    ("dev.gascan.managed-by=" ++ managedBy) :: "--label" ::
    ("dev.gascan.sandbox-id=" ++ view.id.value) :: "--mount" ::
    Apple.mountArgument mount.source :: _) = _
  rw [hstep _ _ _ (by decide), hstep _ _ _ (by decide), hstep _ _ _ hid, hstep _ _ _ (by decide),
    hstep _ _ _ (by decide), hstep _ _ _ (by decide), hstep _ _ _ hlabel]
  exact if_pos rfl

/-- In the command for a request of the policy compiler, the mount option names the root as its only
source and the workspace as its only target exactly if the root has no comma. -/
theorem mountConfined_iff {spec : SandboxSpec} {image : String} {request : CreateRequest}
    {canonicalize : Path → Option Path} {command : Apple.CommandSpec}
    (h : Issued spec image request) (hcommand : Apple.create canonicalize request = .ok command) :
    (∃ value, optionValue "--mount" command.args = some value ∧
      Confined spec.canonicalRoot value) ↔ ',' ∉ spec.canonicalRoot.toList := by
  obtain ⟨-, cpus, memory, -, rfl⟩ := (create_eq_ok h.request).1 hcommand
  rw [← confined_mountArgument, optionValue_arguments]
  exact ⟨fun ⟨_, hvalue, hconfined⟩ => Option.some.inj hvalue ▸ hconfined, fun h => ⟨_, rfl, h⟩⟩

theorem plainRequest_created (root : Path) (hok : (plainRequest .workspace root).isOk = true) :
    ∃ request command, plainRequest .workspace root = .ok request ∧
      Apple.create some request = .ok command ∧
      optionValue "--mount" command.args = some (Apple.mountArgument root) := by
  obtain ⟨request, hrequest⟩ := isOk_iff.1 hok
  have hissued := issuedRequest_compiled hrequest
  obtain ⟨cpus, memory, hlimits⟩ := hissued.limits
  refine ⟨request, _, hrequest, (create_eq_ok hissued).2 ⟨?_, cpus, memory, hlimits, rfl⟩, ?_⟩
  · exact (validateView_iff hissued).2 ⟨rfl, rfl⟩
  · exact optionValue_arguments

theorem plainRoot_confined :
    ∃ request command value, plainRequest .workspace "/work/plain" = .ok request ∧
      Apple.create some request = .ok command ∧ optionValue "--mount" command.args = some value ∧
      Confined "/work/plain" value := by
  obtain ⟨request, command, hrequest, hcreate, -⟩ :=
    plainRequest_created "/work/plain" (by decide +kernel)
  obtain ⟨value, hvalue, hconfined⟩ :=
    (mountConfined_iff (.compiled hrequest) hcreate).2 (by decide)
  exact ⟨request, command, value, hrequest, hcreate, hvalue, hconfined⟩

/-- A root with a comma adds a field of its own: here, a second target. -/
theorem commaRoot_adds_target :
    ∃ request command value, plainRequest .workspace "/work/plain,target=/etc" = .ok request ∧
      Apple.create some request = .ok command ∧ optionValue "--mount" command.args = some value ∧
      (mountFields value).filterMap (fieldValue "target".toList) =
        ["/etc".toList, "/workspace".toList] := by
  obtain ⟨request, command, hrequest, hcreate, hvalue⟩ :=
    plainRequest_created "/work/plain,target=/etc" (by decide +kernel)
  exact ⟨request, command, _, hrequest, hcreate, hvalue, by decide +kernel⟩

end Gascan.Backend
