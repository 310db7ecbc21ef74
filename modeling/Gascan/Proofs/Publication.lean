import Gascan.Proofs.Reachable

/-!
# `Gascan.Proofs.Publication`: the check of the SSH publication of all sandboxes

An `up` ends its SSH step with `verify_exact_ssh_publication`, which reads the records, the
containers and the published endpoints of every sandbox, while the lock covers only one.
`verdict_eq_ok` says what it decides: every sandbox has to agree with its publication.
`up_verification_independent_iff` says when the answer does not depend on how far an operation on
another sandbox is.
-/

namespace Gascan

open Lib Service List

/-! ### What the check reads -/

/-- The part of the world that the check reads. -/
structure SshView where
  ids : List SandboxId
  resolution : SandboxId → Option Resolution
  transport : SandboxId → Option SshTransportPolicy
  observed : SandboxId → Option RuntimeSandbox
  published : List ActiveSsh
  identity : HostIdentity

def World.sshView (w : World) : SshView where
  ids := w.store.sandboxes.map SandboxRow.id
  resolution id := (w.store.row? id).bind (·.record.sshResolution)
  transport := w.store.sshTransportPolicy
  observed id := (w.runtime.container? id).map Runtime.observe
  published := w.published
  identity := w.identity

namespace SshView

/-- Every sandbox is listed once, and only listed sandboxes have a resolution. -/
structure Listed (v : SshView) : Prop where
  nodup : v.ids.Nodup
  unlisted : ∀ id ∉ v.ids, v.resolution id = none

/-- The endpoint that a sandbox has to be published under. -/
def expected (v : SshView) (id : SandboxId) :
    Except ServiceError (Option (SandboxId × Resolution × Port)) :=
  if !sshResolutionEnabled (v.resolution id) then .ok none
  else
    match v.observed id with
    | none => .ok none
    | some runtime =>
      if !ownedBy runtime id then .error (.ownership id)
      else if runtime.state ≠ .running then .ok none
      else do
        let port ← nativeSshPort runtime
        validateInspectedSshPolicy (v.transport id) port
        match v.resolution id with
        | none => .error (.notReady "durable SSH resolution is missing")
        | some resolution => .ok (some (id, resolution, port))

/-- The endpoints of some sandboxes, in order. -/
def expecteds (v : SshView) :
    List SandboxId → Except ServiceError (List (SandboxId × Resolution × Port))
  | [] => .ok []
  | id :: rest => do
    let first ← v.expected id
    let others ← v.expecteds rest
    .ok (first.toList ++ others)

/-- What the check decides. -/
def verdict (v : SshView) : Except ServiceError Unit := do
  let expected ← v.expecteds v.ids
  validateExact v.identity.fingerprint v.published expected

/-- The names of the published endpoints. -/
def aliases (v : SshView) : List String := v.published.map (·.hostAlias)

/-- Whether the publication of a sandbox is what its record and its container ask for. -/
def agrees (v : SshView) (id : SandboxId) : Bool :=
  match v.expected id with
  | .error _ => false
  | .ok endpoint =>
    v.aliases.count (sshAlias id) = endpoint.toList.length &&
      endpoint.all fun endpoint =>
        (checkPublished v.identity.fingerprint v.published endpoint).isOk

/-- The views differ in one sandbox at most. -/
structure SameApart (id : SandboxId) (v v' : SshView) : Prop where
  ids : v'.ids.filter (· ≠ id) = v.ids.filter (· ≠ id)
  resolution : ∀ other, other ≠ id → v'.resolution other = v.resolution other
  transport : ∀ other, other ≠ id → v'.transport other = v.transport other
  observed : ∀ other, other ≠ id → v'.observed other = v.observed other
  published : v'.published.filter (·.hostAlias ≠ sshAlias id) =
    v.published.filter (·.hostAlias ≠ sshAlias id)
  identity : v'.identity = v.identity

theorem SameApart.refl {id : SandboxId} {v : SshView} : SameApart id v v :=
  ⟨rfl, fun _ _ => rfl, fun _ _ => rfl, fun _ _ => rfl, rfl, rfl⟩

theorem SameApart.trans {id : SandboxId} {v v' v'' : SshView} (h : SameApart id v v')
    (h' : SameApart id v' v'') : SameApart id v v'' where
  ids := h'.ids.trans h.ids
  resolution other hne := (h'.resolution other hne).trans (h.resolution other hne)
  transport other hne := (h'.transport other hne).trans (h.transport other hne)
  observed other hne := (h'.observed other hne).trans (h.observed other hne)
  published := h'.published.trans h.published
  identity := h'.identity.trans h.identity

/-- Every other sandbox agrees with its publication, and nothing else is published. -/
def OthersAgree (v : SshView) (id : SandboxId) : Prop :=
  (∀ other, other ≠ id → v.agrees other = true) ∧
    ∀ host ∈ v.published, ∃ other, host.hostAlias = sshAlias other

end SshView

theorem sshView_listed {w : World} (h : w.store.Inv) : w.sshView.Listed where
  nodup := h.ids
  unlisted id hid := by
    have hnone : w.store.row? id = none :=
      Table.lookup_eq_none.2 fun row hrow hkey => hid (mem_map.2 ⟨row, hrow, hkey⟩)
    show (w.store.row? id).bind _ = none
    rw [hnone]
    rfl

/-! ### The check as a run -/

/-- A run of the check: the world, and what the check has seen of it so far. What it has not looked
at is as it was at its beginning. -/
structure Reading where
  world : World
  seen : SshView

/-- What the check has seen after a command. -/
def SshView.note (seen : SshView) (w : World) : Cmd → SshView
  | .store .listSandboxes _ =>
    { seen with ids := w.sshView.ids, resolution := w.sshView.resolution }
  | .store (.sshTransportPolicy id) _ =>
    { seen with transport := Function.update seen.transport id (w.sshView.transport id) }
  | .inspect id =>
    { seen with observed := Function.update seen.observed id (w.sshView.observed id) }
  | .hostIdentity => { seen with identity := w.identity }
  | .activeHosts => { seen with published := w.published }
  | _ => seen

/-- A command of the check, with a note of what it saw. -/
def Reading.perform (c : Cmd) (x : Choice) (r : Reading) : Reply c × Reading :=
  let done := Gascan.perform c x r.world
  (done.1, ⟨done.2, r.seen.note r.world c⟩)

/-- No call fails. -/
def Choice.Works (x : Choice) : Prop :=
  x.storeFault = none ∧ x.fault = none ∧ x.sshFault = none ∧ x.serviceFault = none

/-- The environment of a check during which one sandbox may change at any time: others keep the
store well-formed and leave all other sandboxes alone, and no call of the check fails. -/
def checkEnv (id : SandboxId) : Prog.Env Cmd Reading Choice where
  rely r r' := r'.seen = r.seen ∧ (r.world.store.Inv → r'.world.store.Inv) ∧
    SshView.SameApart id r.world.sshView r'.world.sshView
  allows _ x _ := x.Works

/-- What holds during such a check that began in a world with the view `v`. -/
structure Apart (id : SandboxId) (v : SshView) (r : Reading) : Prop where
  inv : r.world.store.Inv
  world : SshView.SameApart id v r.world.sshView
  seen : SshView.SameApart id v r.seen
  listed : r.seen.Listed

section Runs

variable {α β : Type} {id : SandboxId} {v seen : SshView} {w : World}
  {R : SshView → Except ServiceError α → Prop}

theorem update_apart {β : Type} {f g v : SandboxId → β}
    (hf : ∀ other, other ≠ id → f other = v other)
    (hg : ∀ other, other ≠ id → g other = v other) (id' : SandboxId) :
    ∀ other, other ≠ id → Function.update f id' (g id') other = v other := by
  intro other hne
  by_cases hother : other = id'
  · subst hother
    rw [Function.update_self, hg other hne]
  · rw [Function.update_of_ne hother, hf other hne]

theorem Apart.note (h : Apart id v ⟨w, seen⟩) (c : Cmd) : Apart id v ⟨w, seen.note w c⟩ := by
  obtain ⟨hinv, hworld, hseen, hlisted⟩ := h
  refine ⟨hinv, hworld, ?_, ?_⟩
  · unfold SshView.note
    split
    · exact { hseen with ids := hworld.ids, resolution := hworld.resolution }
    · exact { hseen with transport := update_apart hseen.transport hworld.transport _ }
    · exact { hseen with observed := update_apart hseen.observed hworld.observed _ }
    · exact { hseen with identity := hworld.identity }
    · exact { hseen with published := hworld.published }
    · exact hseen
  · unfold SshView.note
    split
    · exact ⟨(sshView_listed hinv).nodup, (sshView_listed hinv).unlisted⟩
    all_goals exact ⟨hlisted.nodup, hlisted.unlisted⟩

/-- How a part of the check ends, in terms of what was seen by then. -/
def Reads (id : SandboxId) (v : SshView) (p : Svc α) (R : SshView → Except ServiceError α → Prop)
    (seen : SshView) : Prop :=
  ∀ w, Apart id v ⟨w, seen⟩ → p.wp Reading.perform (checkEnv id) (fun _ _ => True)
    (fun a r => Apart id v r ∧ R r.seen (.ok a)) (fun e r => Apart id v r ∧ R r.seen (.error e))
    ⟨w, seen⟩

theorem reads_ofExcept (result : Except ServiceError α) (h : R seen result) :
    Reads id v (Prog.ofExcept result) R seen := by
  intro w hI
  cases result with
  | ok a => exact ⟨hI, h⟩
  | error e => exact ⟨hI, h⟩

theorem reads_bind {p : Svc β} {f : β → Svc α} {M : SshView → Except ServiceError β → Prop}
    (hp : Reads id v p M seen) (hok : ∀ a seen', M seen' (.ok a) → Reads id v (f a) R seen')
    (herror : ∀ e seen', M seen' (.error e) → R seen' (.error e)) :
    Reads id v (p.bind f) R seen := by
  intro w hI
  refine (Prog.wp_bind _ _).2 (Prog.wp_imp ?_ ?_ (hp w hI))
  · rintro a ⟨w', seen'⟩ ⟨hI', hM⟩
    exact hok a seen' hM w' hI'
  · rintro e r ⟨hI', hM⟩
    exact ⟨hI', herror e _ hM⟩

/-- The rule for a command that only reads. -/
theorem reads_call {c : Cmd} {k : Reply c → Svc α}
    (hreply : ∀ w x, w.store.Inv → x.Works → ∃ reply, perform c x w = (reply, w) ∧
      Reads id v (k reply) R (seen.note w c)) : Reads id v (.call c k) R seen := by
  rintro w hI ⟨w', seen'⟩ ⟨rfl, hinv, hsame⟩ x hallows
  have hI' : Apart id v ⟨w', seen'⟩ := ⟨hinv hI.inv, hI.world.trans hsame, hI.seen, hI.listed⟩
  obtain ⟨reply, hperform, hk⟩ := hreply w' x hI'.inv hallows
  rw [Reading.perform, hperform]
  exact ⟨trivial, hk w' (hI'.note c)⟩

theorem reads_inspect (sandbox : SandboxId) {f : Option RuntimeSandbox → Svc α}
    (hf : ∀ found, Reads id v (f found) R
      { seen with observed := Function.update seen.observed sandbox found }) :
    Reads id v ((inspect sandbox).bind f) R seen := by
  refine reads_call fun w x _ hworks => ⟨.ok (w.sshView.observed sandbox), ?_, hf _⟩
  show (orElseOk (x.fault.map (·.error)) (w.sshView.observed sandbox), w) = _
  rw [hworks.2.1]
  rfl

theorem reads_sshTransportPolicy (sandbox : SandboxId)
    {f : Option SshTransportPolicy → Svc α}
    (hf : ∀ policy, Reads id v (f policy) R
      { seen with transport := Function.update seen.transport sandbox policy }) :
    Reads id v ((database (.sshTransportPolicy sandbox)).bind f) R seen := by
  refine reads_call fun w x _ hworks => ⟨.ok (w.sshView.transport sandbox), ?_, hf _⟩
  show performStore (.sshTransportPolicy sandbox) x w = _
  unfold performStore
  rw [hworks.1]
  rfl

theorem reads_hostIdentity {f : HostIdentity → Svc α}
    (hf : ∀ identity, Reads id v (f identity) R { seen with identity }) :
    Reads id v (hostIdentity.bind f) R seen := by
  refine reads_call fun w x _ hworks => ⟨.ok w.identity, ?_, hf _⟩
  show (orElseOk x.sshFault w.identity, w) = _
  rw [hworks.2.2.1]
  rfl

theorem reads_activeHosts {f : List ActiveSsh → Svc α}
    (hf : ∀ published, Reads id v (f published) R { seen with published }) :
    Reads id v (activeHosts.bind f) R seen := by
  refine reads_call fun w x _ hworks => ⟨.ok w.published, ?_, hf _⟩
  show (orElseOk x.serviceFault w.published, w) = _
  rw [hworks.2.2.2]
  rfl

/-- Only the containers and transports of some sandboxes were looked at. -/
structure SshView.Looked (sandboxes : List SandboxId) (seen seen' : SshView) : Prop where
  ids : seen'.ids = seen.ids
  resolution : seen'.resolution = seen.resolution
  others : ∀ other ∉ sandboxes, seen'.observed other = seen.observed other ∧
    seen'.transport other = seen.transport other

theorem SshView.Looked.expected {ids : List SandboxId} {seen' : SshView}
    (h : SshView.Looked ids seen seen') {id : SandboxId} (hid : id ∉ ids) :
    seen'.expected id = seen.expected id := by
  unfold SshView.expected
  rw [h.resolution, (h.others id hid).1, (h.others id hid).2]

/-- The endpoints do not depend on what is published. -/
theorem SshView.expecteds_congr {identity : HostIdentity} {published : List ActiveSsh}
    (ids : List SandboxId) :
    { seen with identity, published : SshView }.expecteds ids = seen.expecteds ids := by
  induction ids with
  | nil => rfl
  | cons id rest ih =>
    rw [SshView.expecteds, SshView.expecteds, ih]
    rfl

theorem reads_expectedPublication {record : SandboxRecord}
    (hrecord : record.sshResolution = seen.resolution record.id) :
    Reads id v (expectedPublication record)
      (fun seen' result => SshView.Looked [record.id] seen seen' ∧
        seen'.expected record.id = result) seen := by
  have hrefl : SshView.Looked [record.id] seen seen := ⟨rfl, rfl, fun _ _ => ⟨rfl, rfl⟩⟩
  unfold expectedPublication SshView.expected
  rw [hrecord]
  cases henabled : sshResolutionEnabled (seen.resolution record.id) with
  | false => exact reads_ofExcept (.ok none) ⟨hrefl, by simp [henabled]⟩
  | true =>
    refine reads_inspect record.id fun found => ?_
    have hlooked : SshView.Looked [record.id] seen
        { seen with observed := Function.update seen.observed record.id found } :=
      ⟨rfl, rfl, fun other hother => ⟨Function.update_of_ne (by simpa using hother) _ _, rfl⟩⟩
    cases found with
    | none => exact reads_ofExcept (.ok none) ⟨hlooked, by simp [henabled]⟩
    | some runtime =>
      unfold requireOwned
      dsimp only
      cases howned : ownedBy runtime record.id with
      | false => exact reads_ofExcept (.error _) ⟨hlooked, by simp [henabled, howned]⟩
      | true =>
        by_cases hstate : runtime.state ≠ .running
        · simp only [if_pos hstate]
          exact reads_ofExcept (.ok none) ⟨hlooked, by simp [henabled, howned, hstate]⟩
        · simp only [if_neg hstate]
          rw [not_not] at hstate
          cases hport : nativeSshPort runtime with
          | error e =>
            exact reads_ofExcept (.error e)
              ⟨hlooked, by simp [henabled, howned, hstate, hport]⟩
          | ok port =>
            refine reads_sshTransportPolicy record.id fun policy => ?_
            have hboth : SshView.Looked [record.id] seen
                { seen with
                  observed := Function.update seen.observed record.id (some runtime)
                  transport := Function.update seen.transport record.id policy } :=
              ⟨rfl, rfl, fun other hother => ⟨(hlooked.others other hother).1,
                Function.update_of_ne (by simpa using hother) _ _⟩⟩
            cases hpolicy : validateInspectedSshPolicy policy port with
            | error e =>
              exact reads_ofExcept (.error e)
                ⟨hboth, by simp [henabled, howned, hstate, hport, hpolicy]⟩
            | ok =>
              cases hresolution : seen.resolution record.id with
              | none =>
                rw [hresolution] at henabled
                cases henabled
              | some resolution =>
                rw [hresolution] at henabled
                exact reads_ofExcept (.ok _)
                  ⟨hboth, by simp [henabled, howned, hstate, hport, hpolicy, hresolution]⟩

theorem reads_expectedPublications {records : List SandboxRecord}
    (hnodup : (records.map (·.id)).Nodup)
    (hrecords : ∀ record ∈ records, record.sshResolution = seen.resolution record.id) :
    Reads id v (expectedPublications records)
      (fun seen' result => SshView.Looked (records.map (·.id)) seen seen' ∧
        seen'.expecteds (records.map (·.id)) = result) seen := by
  induction records generalizing seen with
  | nil => exact reads_ofExcept (.ok []) ⟨⟨rfl, rfl, fun _ _ => ⟨rfl, rfl⟩⟩, rfl⟩
  | cons record rest ih =>
    obtain ⟨hfirst, hrest⟩ := forall_mem_cons.1 hrecords
    obtain ⟨hid, hnodup⟩ := nodup_cons.1 hnodup
    -- What is looked at for the first record is not looked at again.
    have hwiden : ∀ seen', SshView.Looked [record.id] seen seen' →
        SshView.Looked ((record :: rest).map (·.id)) seen seen' := fun seen' hlooked =>
      ⟨hlooked.ids, hlooked.resolution, fun other hother =>
        hlooked.others other fun hmem => hother (by simp_all)⟩
    refine reads_bind (reads_expectedPublication hfirst) ?_ ?_
    · rintro first seen1 ⟨hlooked1, hfirst1⟩
      refine reads_bind (ih hnodup fun other hother => hlooked1.resolution ▸ hrest other hother)
        ?_ ?_
      all_goals
        rintro result seen2 ⟨hlooked2, hothers⟩
        have hlooked : SshView.Looked ((record :: rest).map (·.id)) seen seen2 := by
          refine ⟨hlooked2.ids.trans hlooked1.ids, hlooked2.resolution.trans hlooked1.resolution,
            fun other hother => ?_⟩
          obtain ⟨hne, hnot⟩ := not_or.1 (mem_cons.not.1 hother)
          have hone := hlooked1.others other (by simpa using hne)
          have htwo := hlooked2.others other hnot
          exact ⟨htwo.1.trans hone.1, htwo.2.trans hone.2⟩
        have hexpected := (hlooked2.expected hid).trans hfirst1
      · refine reads_ofExcept (.ok (first.toList ++ result)) ⟨hlooked, ?_⟩
        rw [map_cons, SshView.expecteds, hexpected, hothers]
        rfl
      · refine ⟨hlooked, ?_⟩
        rw [map_cons, SshView.expecteds, hexpected, hothers]
        rfl
    · rintro e seen1 ⟨hlooked1, hfirst1⟩
      refine ⟨hwiden seen1 hlooked1, ?_⟩
      rw [map_cons, SshView.expecteds, hfirst1]
      rfl

theorem listSandboxes_spec {w : World} (hinv : w.store.Inv) :
    w.store.listSandboxes.map (·.id) = w.sshView.ids ∧
      ∀ record ∈ w.store.listSandboxes,
        record.sshResolution = w.sshView.resolution record.id := by
  constructor
  · show (w.store.sandboxes.map _).map _ = w.store.sandboxes.map _
    rw [map_map]
    rfl
  · intro record hrecord
    obtain ⟨row, hrow, rfl⟩ := mem_map.1 hrecord
    have hfound : w.store.row? row.id = some row := (Table.lookup_eq_some hinv.ids).2 ⟨hrow, rfl⟩
    show row.record.sshResolution = (w.store.row? row.id).bind _
    rw [hfound]
    rfl

/-- The check decides by what it saw. -/
theorem reads_verifyExactSshPublication (seen : SshView) :
    Reads id v verifyExactSshPublication (fun seen' result => seen'.verdict = result) seen := by
  refine reads_call fun w x hinv hworks => ⟨.ok w.store.listSandboxes, ?_, ?_⟩
  · show performStore .listSandboxes x w = _
    unfold performStore
    rw [hworks.1]
    rfl
  obtain ⟨hids, hrecords⟩ := listSandboxes_spec hinv
  have hverdict : ∀ (seen' : SshView) {expected}, seen'.ids = w.sshView.ids →
      seen'.expecteds (w.store.listSandboxes.map (·.id)) = expected → seen'.verdict =
        expected >>= validateExact seen'.identity.fingerprint seen'.published := by
    rintro seen' _ hids' rfl
    rw [SshView.verdict, hids', hids]
  refine reads_bind (p := expectedPublications w.store.listSandboxes)
    (reads_expectedPublications (hids ▸ hinv.ids) hrecords) ?_ ?_
  · rintro expected seen1 ⟨hlooked, hexpected⟩
    refine reads_hostIdentity fun identity => reads_activeHosts fun published => ?_
    exact reads_ofExcept _ (hverdict { seen1 with identity, published } hlooked.ids
      ((SshView.expecteds_congr _).trans hexpected))
  · rintro e seen1 ⟨hlooked, hexpected⟩
    exact hverdict seen1 hlooked.ids hexpected

end Runs

/-! ### What the check decides -/

namespace SshView

variable {v v' : SshView} {id : SandboxId}

/-- The endpoint that a sandbox has to be published under, if it can be told. -/
def endpoint (v : SshView) (id : SandboxId) : Option (SandboxId × Resolution × Port) :=
  (v.expected id).toOption.join

theorem endpoint_of_expected {endpoint : Option (SandboxId × Resolution × Port)}
    (h : v.expected id = .ok endpoint) : v.endpoint id = endpoint := by
  unfold SshView.endpoint
  rw [h]
  rfl

theorem id_of_endpoint {endpoint : SandboxId × Resolution × Port}
    (h : v.endpoint id = some endpoint) : endpoint.1 = id := by
  unfold SshView.endpoint at h
  cases hexpected : v.expected id with
  | error error =>
    rw [hexpected] at h
    cases h
  | ok found =>
    rw [hexpected] at h
    obtain rfl : found = some endpoint := h
    unfold expected at hexpected
    split at hexpected
    · cases hexpected
    · split at hexpected
      · cases hexpected
      · split at hexpected
        · cases hexpected
        · split at hexpected
          · cases hexpected
          · obtain ⟨port, -, hrest⟩ := bind_eq_ok.1 hexpected
            obtain ⟨-, hrest⟩ := check_bind_eq_ok.1 hrest
            split at hrest
            · cases hrest
            · cases hrest
              rfl

theorem expected_of_unlisted (hv : v.Listed) (hid : id ∉ v.ids) : v.expected id = .ok none := by
  unfold expected
  rw [hv.unlisted id hid]
  rfl

theorem expecteds_eq_ok {ids : List SandboxId} {endpoints : List (SandboxId × Resolution × Port)} :
    v.expecteds ids = .ok endpoints ↔
      (∀ id ∈ ids, ∃ endpoint, v.expected id = .ok endpoint) ∧
        endpoints = ids.filterMap v.endpoint := by
  induction ids generalizing endpoints with
  | nil => simp [expecteds, eq_comm]
  | cons id rest ih =>
    unfold expecteds
    constructor
    · intro h
      obtain ⟨first, hfirst, h⟩ := bind_eq_ok.1 h
      obtain ⟨others, hothers, h⟩ := bind_eq_ok.1 h
      cases h
      obtain ⟨hall, rfl⟩ := ih.1 hothers
      refine ⟨forall_mem_cons.2 ⟨⟨first, hfirst⟩, hall⟩, ?_⟩
      rw [filterMap_cons, endpoint_of_expected hfirst]
      cases first <;> rfl
    · rintro ⟨hall, rfl⟩
      obtain ⟨⟨first, hfirst⟩, hrest⟩ := forall_mem_cons.1 hall
      rw [hfirst, ih.2 ⟨hrest, rfl⟩, filterMap_cons, endpoint_of_expected hfirst]
      cases first <;> rfl

theorem sshAlias_injective : Function.Injective sshAlias := by
  intro id id' h
  have hvalue : id.value = id'.value := by simpa [sshAlias] using h
  cases id
  cases id'
  cases hvalue
  rfl

/-- The names of the endpoints that have to be published. -/
def names (v : SshView) : List String :=
  v.ids.filterMap fun id => (v.endpoint id).map fun endpoint => sshAlias endpoint.1

theorem mem_names {name : String} :
    name ∈ v.names ↔ ∃ id ∈ v.ids, (v.endpoint id).isSome ∧ name = sshAlias id := by
  unfold names
  rw [mem_filterMap]
  constructor
  · rintro ⟨id, hid, h⟩
    obtain ⟨endpoint, hendpoint, rfl⟩ := Option.map_eq_some_iff.1 h
    exact ⟨id, hid, by rw [hendpoint]; rfl, by rw [id_of_endpoint hendpoint]⟩
  · rintro ⟨id, hid, hsome, rfl⟩
    obtain ⟨endpoint, hendpoint⟩ := Option.isSome_iff_exists.1 hsome
    exact ⟨id, hid, by rw [hendpoint, Option.map_some, id_of_endpoint hendpoint]⟩

theorem nodup_names (hv : v.Listed) : v.names.Nodup := by
  refine List.Nodup.filterMap (fun id id' name h h' => ?_) hv.nodup
  obtain ⟨endpoint, hendpoint, rfl⟩ := Option.map_eq_some_iff.1 h
  obtain ⟨endpoint', hendpoint', hname⟩ := Option.map_eq_some_iff.1 h'
  rw [id_of_endpoint hendpoint, id_of_endpoint hendpoint'] at hname
  exact (sshAlias_injective hname).symm

/-- A name is expected once for the sandbox that has an endpoint. -/
theorem count_names (hv : v.Listed) (id : SandboxId) :
    v.names.count (sshAlias id) = (v.endpoint id).toList.length := by
  cases hendpoint : v.endpoint id with
  | some endpoint =>
    have hlisted : id ∈ v.ids := by
      by_contra hid
      rw [endpoint_of_expected (expected_of_unlisted hv hid)] at hendpoint
      cases hendpoint
    exact count_eq_one_of_mem (nodup_names hv)
      (mem_names.2 ⟨id, hlisted, by rw [hendpoint]; rfl, rfl⟩)
  | none =>
    refine count_eq_zero_of_not_mem fun hmem => ?_
    obtain ⟨id', -, hsome, hname⟩ := mem_names.1 hmem
    rw [← sshAlias_injective hname, hendpoint] at hsome
    cases hsome

/-- The published names are the expected ones when they are, sandbox by sandbox. -/
theorem perm_names (hv : v.Listed) :
    v.aliases.Perm v.names ↔
      (∀ id, v.aliases.count (sshAlias id) = (v.endpoint id).toList.length) ∧
        ∀ host ∈ v.published, ∃ id, host.hostAlias = sshAlias id := by
  constructor
  · intro hperm
    refine ⟨fun id => by rw [hperm.count_eq, count_names hv], fun host hhost => ?_⟩
    obtain ⟨id, -, -, hname⟩ := mem_names.1 (hperm.mem_iff.1 (mem_map.2 ⟨host, hhost, rfl⟩))
    exact ⟨id, hname⟩
  · rintro ⟨hcount, hknown⟩
    refine perm_iff_count.2 fun name => ?_
    by_cases hname : ∃ id, name = sshAlias id
    · obtain ⟨id, rfl⟩ := hname
      rw [hcount, count_names hv]
    · -- Neither list has a name that is no sandbox's.
      rw [count_eq_zero_of_not_mem, count_eq_zero_of_not_mem]
      · intro hmem
        obtain ⟨id, -, -, hid⟩ := mem_names.1 hmem
        exact hname ⟨id, hid⟩
      · intro hmem
        obtain ⟨host, hhost, rfl⟩ := mem_map.1 hmem
        exact hname (hknown host hhost)

theorem mem_aliases_of_checkPublished {client : String} {hosts : List ActiveSsh}
    {endpoint : SandboxId × Resolution × Port} (h : checkPublished client hosts endpoint = .ok ()) :
    sshAlias endpoint.1 ∈ hosts.map (·.hostAlias) := by
  obtain ⟨active, hactive, h⟩ := bind_eq_ok.1 h
  cases active with
  | none => cases h
  | some active =>
    unfold publishedFor at hactive
    split at hactive
    · cases hactive
    · obtain ⟨fingerprints, -, hactive⟩ := bind_eq_ok.1 hactive
      cases fingerprints with
      | none => cases hactive
      | some fingerprints =>
        dsimp only at hactive
        split at hactive
        · cases hactive
        · split at hactive
          · cases hactive
          next found hfound =>
            exact mem_map.2 ⟨found, mem_of_find?_eq_some hfound,
              by simpa using find?_some hfound⟩

theorem agrees_iff : v.agrees id = true ↔
    (∃ endpoint, v.expected id = .ok endpoint) ∧
      v.aliases.count (sshAlias id) = (v.endpoint id).toList.length ∧
      ∀ endpoint ∈ v.endpoint id,
        checkPublished v.identity.fingerprint v.published endpoint = .ok () := by
  unfold agrees
  cases hexpected : v.expected id with
  | error error => simp
  | ok found =>
    rw [endpoint_of_expected hexpected]
    dsimp only
    rw [Bool.and_eq_true_iff, decide_eq_true_iff]
    refine ⟨fun ⟨hcount, hchecked⟩ => ⟨⟨found, rfl⟩, hcount, fun endpoint hendpoint => ?_⟩,
      fun ⟨_, hcount, hchecked⟩ => ⟨hcount, ?_⟩⟩
    · obtain rfl : found = some endpoint := hendpoint
      obtain ⟨_, hok⟩ := isOk_iff.1 hchecked
      exact hok
    · cases found with
      | none => rfl
      | some endpoint => exact isOk_iff.2 ⟨(), hchecked endpoint rfl⟩

/-- The check passes when every sandbox agrees with its publication, and nothing else is published.
-/
theorem verdict_eq_ok (hv : v.Listed) :
    v.verdict = .ok () ↔
      (∀ id, v.agrees id = true) ∧ ∀ host ∈ v.published, ∃ id, host.hostAlias = sshAlias id := by
  have hnames :
    (v.ids.filterMap v.endpoint).map (fun endpoint => sshAlias endpoint.1) = v.names := by
    unfold names
    rw [map_filterMap]
  have hexact : v.verdict = .ok () ↔
      (∀ id ∈ v.ids, ∃ endpoint, v.expected id = .ok endpoint) ∧
        (∀ endpoint ∈ v.ids.filterMap v.endpoint,
          checkPublished v.identity.fingerprint v.published endpoint = .ok ()) ∧
        v.aliases.Perm v.names := by
    unfold verdict
    simp only [bind_eq_ok, expecteds_eq_ok]
    rw [Table.perm_iff_of_nodup (nodup_names hv), ← hnames]
    constructor
    · rintro ⟨endpoints, ⟨hall, rfl⟩, hvalid⟩
      unfold validateExact at hvalid
      split at hvalid
      · cases hvalid
      next hlength =>
        have hchecked := forM_eq_ok.1 hvalid
        refine ⟨hall, hchecked, by simpa [aliases] using hlength, fun name hname => ?_⟩
        obtain ⟨endpoint, hendpoint, rfl⟩ := mem_map.1 hname
        exact mem_aliases_of_checkPublished (hchecked endpoint hendpoint)
    · rintro ⟨hall, hchecked, hlength, -⟩
      refine ⟨_, ⟨hall, rfl⟩, ?_⟩
      unfold validateExact
      rw [if_neg (by simpa [aliases] using hlength)]
      exact forM_eq_ok.2 hchecked
  rw [hexact, perm_names hv]
  constructor
  · rintro ⟨hall, hchecked, hcount, hknown⟩
    refine ⟨fun id => agrees_iff.2 ⟨?_, hcount id, fun endpoint hendpoint => ?_⟩, hknown⟩
    · by_cases hid : id ∈ v.ids
      · exact hall id hid
      · exact ⟨none, expected_of_unlisted hv hid⟩
    · have hid : id ∈ v.ids := by
        by_contra hid
        rw [endpoint_of_expected (expected_of_unlisted hv hid)] at hendpoint
        cases hendpoint
      exact hchecked endpoint (mem_filterMap.2 ⟨id, hid, hendpoint⟩)
  · rintro ⟨hagrees, hknown⟩
    refine ⟨fun id _ => (agrees_iff.1 (hagrees id)).1, fun endpoint hendpoint => ?_,
      fun id => (agrees_iff.1 (hagrees id)).2.1, hknown⟩
    obtain ⟨id, -, hid⟩ := mem_filterMap.1 hendpoint
    exact (agrees_iff.1 (hagrees id)).2.2 endpoint hid

/-! ### One sandbox apart -/

/-- What is published for the other sandboxes. -/
def others (v : SshView) (id : SandboxId) : List ActiveSsh :=
  v.published.filter (·.hostAlias ≠ sshAlias id)

variable {other : SandboxId}

theorem find?_others (hne : other ≠ id) :
    (v.others id).find? (·.hostAlias = sshAlias other) =
      v.published.find? (·.hostAlias = sshAlias other) := by
  unfold others
  rw [find?_filter]
  congr 1
  funext host
  by_cases h : host.hostAlias = sshAlias other
  · have hother :
      host.hostAlias ≠ sshAlias id := fun hid => hne (sshAlias_injective (h.symm.trans hid))
    rw [decide_eq_true h, decide_eq_true hother]
    rfl
  · simp [h]

theorem count_others (hne : other ≠ id) :
    ((v.others id).map (·.hostAlias)).count (sshAlias other) = v.aliases.count
      (sshAlias other) := by
  have hname : sshAlias other ≠ sshAlias id := fun h => hne (sshAlias_injective h)
  have hfilter : (v.others id).map (·.hostAlias) = v.aliases.filter (· ≠ sshAlias id) := by
    unfold others aliases
    rw [filter_map]
    rfl
  rw [hfilter]
  exact count_filter (by simpa using hname)

/-- Whether a sandbox agrees with its publication depends only on what concerns it. -/
theorem agrees_of_sameApart (h : SameApart id v v') (hne : other ≠ id) :
    v'.agrees other = v.agrees other := by
  have hexpected : v'.expected other = v.expected other := by
    unfold expected
    rw [h.resolution other hne, h.observed other hne, h.transport other hne]
  have hcount : v'.aliases.count (sshAlias other) = v.aliases.count (sshAlias other) := by
    rw [← count_others hne, ← count_others hne]
    unfold others
    rw [h.published]
  have hfind : v'.published.find? (·.hostAlias = sshAlias other) =
      v.published.find? (·.hostAlias = sshAlias other) := by
    rw [← find?_others hne, ← find?_others hne]
    unfold others
    rw [h.published]
  have hchecked : ∀ endpoint ∈ v.endpoint other,
      checkPublished v'.identity.fingerprint v'.published endpoint =
        checkPublished v.identity.fingerprint v.published endpoint := by
    intro endpoint hendpoint
    unfold checkPublished publishedFor
    rw [id_of_endpoint hendpoint, hfind, h.identity]
  rw [Bool.eq_iff_iff, agrees_iff, agrees_iff]
  have hendpoint : v'.endpoint other = v.endpoint other := by
    unfold SshView.endpoint
    rw [hexpected]
  rw [hexpected, hcount, hendpoint]
  refine and_congr_right fun _ => and_congr_right fun _ => ?_
  exact forall₂_congr fun endpoint hmem => by rw [hchecked endpoint hmem]

theorem othersAgree_of_sameApart (h : SameApart id v v') :
    v'.OthersAgree id ↔ v.OthersAgree id := by
  have hknown : ∀ u : SshView, (∀ host ∈ u.published, ∃ other, host.hostAlias = sshAlias other) ↔
      ∀ host ∈ u.others id, ∃ other, host.hostAlias = sshAlias other := by
    intro u
    refine ⟨fun hall host hhost => hall host (mem_filter.1 hhost).1, fun hall host hhost => ?_⟩
    by_cases hid : host.hostAlias = sshAlias id
    · exact ⟨id, hid⟩
    · exact hall host (mem_filter.2 ⟨hhost, by simpa using hid⟩)
  have hothers : v'.others id = v.others id := h.published
  unfold OthersAgree
  rw [hknown v', hknown v, hothers]
  refine and_congr_left fun _ => forall₂_congr fun other hne => ?_
  rw [agrees_of_sameApart h hne]

/-- The check passes when this sandbox and all others agree with their publication. -/
theorem verdict_eq_ok_iff (hv : v.Listed) (id : SandboxId) :
    v.verdict = .ok () ↔ v.agrees id = true ∧ v.OthersAgree id := by
  rw [verdict_eq_ok hv]
  constructor
  · rintro ⟨hagrees, hknown⟩
    exact ⟨hagrees id, fun other _ => hagrees other, hknown⟩
  · rintro ⟨hid, hothers, hknown⟩
    refine ⟨fun other => ?_, hknown⟩
    by_cases hne : other = id
    · rw [hne]
      exact hid
    · exact hothers other hne

end SshView

/-- The world after the container of a sandbox and its endpoint went away. -/
def World.withdrawn (w : World) (id : SandboxId) : World :=
  { w with
    runtime := { w.runtime with containers := w.runtime.containers.filter (·.id ≠ id) }
    published := w.published.filter (·.hostAlias ≠ sshAlias id) }

theorem sameApart_withdrawn (w : World) (id : SandboxId) :
    SshView.SameApart id w.sshView (w.withdrawn id).sshView where
  ids := rfl
  resolution _ _ := rfl
  transport _ _ := rfl
  observed other hne := by
    have hcontainer : (w.withdrawn id).runtime.container? other = w.runtime.container? other := by
      show (w.runtime.containers.filter _).find? _ = w.runtime.containers.find? _
      rw [find?_filter]
      congr 1
      funext container
      by_cases h : container.id = other
      · simp [h, hne]
      · simp [h]
    show Option.map _ _ = Option.map _ _
    rw [hcontainer]
  published := by
    show (w.published.filter _).filter _ = w.published.filter _
    rw [filter_filter]
    simp
  identity := rfl

theorem agrees_withdrawn (w : World) (id : SandboxId) :
    (w.withdrawn id).sshView.agrees id = true := by
  have hcontainer : (w.withdrawn id).runtime.container? id = none := by
    refine Table.lookup_eq_none.2 fun container hmem => ?_
    simpa using (mem_filter.1 hmem).2
  have hobserved : (w.withdrawn id).sshView.observed id = none := by
    show Option.map _ _ = none
    rw [hcontainer]
    rfl
  have hexpected : (w.withdrawn id).sshView.expected id = .ok none := by
    unfold SshView.expected
    rw [hobserved]
    split <;> rfl
  have hcount : (w.withdrawn id).sshView.aliases.count (sshAlias id) = 0 := by
    refine count_eq_zero_of_not_mem fun hmem => ?_
    obtain ⟨host, hhost, hname⟩ := mem_map.1 hmem
    have hother : host.hostAlias ≠ sshAlias id := by simpa using (mem_filter.1 hhost).2
    exact hother hname
  refine SshView.agrees_iff.2 ⟨⟨none, hexpected⟩, ?_, ?_⟩
  · rw [hcount, SshView.endpoint_of_expected hexpected]
    rfl
  · rw [SshView.endpoint_of_expected hexpected]
    nofun

/-! ### The check of an `up` -/

/-- The check of an `up`. -/
def upCheck : Svc Unit := verifyExactSshPublication.mapError .sshPublicationUncertain

/-- A run of the check from a world. -/
def checkRun (ts : Nat → Prog.Tick Reading Choice) (w : World) :
    Except ServiceError Unit × Reading :=
  upCheck.follow Reading.perform ts ⟨w, w.sshView⟩

/-- Whether the check ends its `up` as `SshPublicationUncertain`. -/
def endsUncertain (ts : Nat → Prog.Tick Reading Choice) (w : World) : Bool :=
  failsWith ServiceError.isSshPublicationUncertain (checkRun ts w).1

/-- What the check sees: each part as it is at the moment the check reads it. -/
def seenBy (ts : Nat → Prog.Tick Reading Choice) (w : World) : SshView := (checkRun ts w).2.seen

/-- The runs of the check during which one sandbox may change at any time, and no call fails. -/
def Interleaved (id : SandboxId) (ts : Nat → Prog.Tick Reading Choice) (w : World) : Prop :=
  upCheck.Within Reading.perform (checkEnv id) ts ⟨w, w.sshView⟩

section Check

variable {id : SandboxId} {ts : Nat → Prog.Tick Reading Choice} {w : World}

/-- The check sees the other sandboxes as they were at its beginning, and is decided by what it
sees. -/
theorem checkRun_spec (hinv : w.store.Inv) (hts : Interleaved id ts w) :
    Apart id w.sshView (checkRun ts w).2 ∧
      (endsUncertain ts w = true ↔ (seenBy ts w).verdict ≠ .ok ()) := by
  have hreads := Prog.wp_follow _ ts ((Prog.wp_mapError ServiceError.sshPublicationUncertain _
    (E := fun e r => ∃ error, e = .sshPublicationUncertain error ∧ Apart id w.sshView r ∧
      r.seen.verdict = .error error)).2
    (Prog.wp_imp_error (fun error _ he => ⟨error, rfl, he⟩)
      (reads_verifyExactSshPublication w.sshView w ⟨hinv, .refl, .refl, sshView_listed hinv⟩))) hts
  unfold endsUncertain seenBy checkRun upCheck
  split at hreads
  next a r hrun =>
    rw [hrun]
    exact ⟨hreads.1, by simp [failsWith, hreads.2]⟩
  next e r hrun =>
    obtain ⟨error, rfl, hapart, herror⟩ := hreads
    rw [hrun]
    exact ⟨hapart, by simp [failsWith, ServiceError.isSshPublicationUncertain, herror]⟩

/-- Wherever the other sandbox changes during the check, the check fails unless this sandbox agrees
with its publication when it is read, and so do all others. -/
theorem endsUncertain_iff (hinv : w.store.Inv) (hts : Interleaved id ts w) :
    endsUncertain ts w = true ↔
      ¬ ((seenBy ts w).agrees id = true ∧ w.sshView.OthersAgree id) := by
  obtain ⟨hapart, hverdict⟩ := checkRun_spec hinv hts
  rw [hverdict, ← SshView.othersAgree_of_sameApart hapart.seen, seenBy, ne_eq,
    SshView.verdict_eq_ok_iff hapart.listed id]

/-- Nothing happens during the check. -/
def quietly (_ : Nat) : Prog.Tick Reading Choice := { choice := {} }

theorem interleaved_quietly (id : SandboxId) (w : World) : Interleaved id quietly w := by
  have hrely : ∀ r, (checkEnv id).rely r r := fun _ => ⟨rfl, fun hinv => hinv, .refl⟩
  have hallows : ∀ c r, (checkEnv id).allows c {} r := fun _ _ => ⟨rfl, rfl, rfl, rfl⟩
  exact Prog.within_of_allows hrely hallows _ _

/-- When nothing happens, the check sees a sandbox as it is, because only some other one could have
changed. -/
theorem agrees_quietly (hinv : w.store.Inv) {other : SandboxId} (hne : id ≠ other) :
    (seenBy quietly w).agrees id = w.sshView.agrees id :=
  SshView.agrees_of_sameApart (checkRun_spec hinv (interleaved_quietly other w)).1.seen hne

end Check

/-- The identity of a second sandbox. -/
def otherId : SandboxId := ⟨"other-0123456789ab", .refl true⟩

theorem otherId_ne : otherId ≠ fullSpec.id := by decide

instance : Nontrivial SandboxId := ⟨otherId, fullSpec.id, otherId_ne⟩

/-- Take a run of the check during which another sandbox may change at any time, as by a `start`, a
`stop` or an `up` of it. The answer is that of every run in which this sandbox agrees with its
publication when it is read, wherever it is between its steps, exactly when it agrees with its
publication when this run reads it, or the check fails because of yet another one. -/
theorem up_verification_independent_iff {s : System} (hs : System.Reachable s) (id : SandboxId)
    (ts : Nat → Prog.Tick Reading Choice) (hts : Interleaved id ts s.world) :
    (∀ s', System.Reachable s' → SshView.SameApart id s.world.sshView s'.world.sshView →
      ∀ ts', Interleaved id ts' s'.world → (seenBy ts' s'.world).agrees id = true →
        endsUncertain ts s.world = endsUncertain ts' s'.world) ↔
    ((seenBy ts s.world).agrees id = true ∨ ¬ s.world.sshView.OthersAgree id) := by
  have hinv := System.reachable_inv hs
  constructor
  · intro hindependent
    -- Compare with the state after the container and the endpoint of the sandbox went away.
    have hoff : System.Reachable ⟨s.world.withdrawn id, s.daemon⟩ :=
      hs.steps (.single ⟨_, .outside s.world (s.world.withdrawn id) s.daemon rfl⟩)
    have hinv' := System.reachable_inv hoff
    have hapart := sameApart_withdrawn s.world id
    have hquiet := interleaved_quietly id (s.world.withdrawn id)
    have hagrees : (seenBy quietly (s.world.withdrawn id)).agrees id = true := by
      obtain ⟨other, hother⟩ := exists_ne id
      rw [agrees_quietly hinv' hother.symm]
      exact agrees_withdrawn s.world id
    have hsame := hindependent _ hoff hapart _ hquiet hagrees
    rw [Bool.eq_iff_iff, endsUncertain_iff hinv hts, endsUncertain_iff hinv' hquiet,
      SshView.othersAgree_of_sameApart hapart] at hsame
    by_contra hnot
    rw [not_or, not_not] at hnot
    exact hsame.1 (fun h => hnot.1 h.1) ⟨hagrees, hnot.2⟩
  · intro hcond s' hs' hapart ts' hts' hagrees
    rw [Bool.eq_iff_iff, endsUncertain_iff hinv hts,
      endsUncertain_iff (System.reachable_inv hs') hts', SshView.othersAgree_of_sameApart hapart]
    tauto

/-! ### Two sandboxes -/

/-- A second sandbox with SSH. -/
def otherSpec : SandboxSpec :=
  ⟨otherId, "/work/other", { fullManifest with
    ssh := ⟨true, some 2223, by decide, by rintro _ ⟨⟩; decide⟩
    canonicalRoot := "/work/other" }⟩

/-- The second sandbox is up. -/
def otherUpped : World :=
  System.after (upInner demoImage otherSpec) (Script.of (List.replicate 80 {})) fullWorld

theorem otherUpped_agrees :
    ((upInner demoImage otherSpec).run perform
      (Script.of (List.replicate 80 {})) fullWorld).1.ended =
        true ∧ otherUpped.sshView.agrees otherId = true := by
  decide +kernel

theorem otherUpped_reachable : System.Reachable ⟨otherUpped, .serving demoImage []⟩ :=
  fullWorld_reachable.servedAfter (.up otherSpec) (System.quiet_of _) otherUpped_agrees.1

/-- A sandbox that is at rest has no influence on the check of another one. -/
theorem verification_independent_of_upped :
    (seenBy quietly otherUpped).agrees otherId = true ∧
      ∀ s', System.Reachable s' → SshView.SameApart otherId otherUpped.sshView s'.world.sshView →
        ∀ ts', Interleaved otherId ts' s'.world → (seenBy ts' s'.world).agrees otherId = true →
          endsUncertain quietly otherUpped = endsUncertain ts' s'.world := by
  have hinv := System.reachable_inv otherUpped_reachable
  dsimp only at hinv
  have hagrees := (agrees_quietly hinv otherId_ne).trans otherUpped_agrees.2
  have hindependent := (up_verification_independent_iff otherUpped_reachable otherId quietly
    (interleaved_quietly otherId _)).2
  dsimp only at hindependent
  exact ⟨hagrees, hindependent (.inl hagrees)⟩

/-- The commands of a `stop` up to the withdrawal of the endpoint. -/
def stopScript : Script := Script.of (List.replicate 8 {})

/-- A `stop` of the second sandbox withdrew the endpoint and did not stop the container yet. -/
def stopping : World := System.after (stopSandbox otherId) stopScript otherUpped

/-- Whether a program stops this container next. -/
def stopsNext (id : SandboxId) : Svc OperationId → Bool
  | .call (.stop id') _ => id' = id
  | _ => false

/-- Whether an `up` of the first sandbox ends as `SshPublicationUncertain`. -/
def upEndsUncertain (w : World) : Bool :=
  failsWith ServiceError.isSshPublicationUncertain
    ((upInner demoImage fullSpec).exec perform {} w).1

/-- While a `stop` of the second sandbox is between the withdrawal of the endpoint and the stop of
the container, an `up` of the first sandbox fails. It succeeds after the `stop`. -/
theorem stop_disturbs_other_up :
    (∃ s, System.Reachable ⟨s, .serving demoImage
      [⟨.stop otherId, System.rest (stopSandbox otherId) stopScript otherUpped⟩, ⟨.up fullSpec,
        System.rest (upInner demoImage fullSpec) (Script.of (List.replicate 80 {})) stopping⟩]⟩) ∧
      stopsNext otherId (System.rest (stopSandbox otherId) stopScript otherUpped) = true ∧
      stopping.sshView.agrees otherId = false ∧ upEndsUncertain stopping = true ∧
      ((upInner demoImage fullSpec).exec perform {}
        ((stopSandbox otherId).exec perform {} otherUpped).2).1.isOk = true := by
  refine ⟨⟨_, otherUpped_reachable.meanwhile (.stop otherId) (.up fullSpec) (by decide)
    (System.quiet_of _) (System.quiet_of _)⟩, ?_⟩
  decide +kernel

end Gascan
