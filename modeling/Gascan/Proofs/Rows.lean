import Gascan.Daemon.Rows
import Gascan.Proofs.StoreInvariant

/-!
# `Gascan.Proofs.Rows`: what is written to the database is loaded again

`Encodes` says that the columns of a row are those of a record and a policy that pass their checks.
A row that encodes a record decodes to it (`Encodes.decode`), and every accepted write leaves only
such rows (`Inv.write`). So no loader fails after any sequence of writes, and a write that is
accepted is loaded as it was given: `store_roundTrips`. The root of a row never changes after it was
inserted; a later write may spell the same path in another way. `Represents.putSandbox` connects the
rows with the decoded tables of `Gascan.Daemon.Store`.
-/

namespace Gascan.Rows

open Lib List Database

variable {Text : Type} {codec : JsonCodec Text}

/-! ### Columns -/

@[simp] theorem desiredFromDb_asDb (state : DesiredState) :
    desiredFromDb (desiredAsDb state) = .ok state := by
  cases state <;> rfl

@[simp] theorem actualFromDb_asDb (state : ActualState) :
    actualFromDb state.asDb = .ok state := by
  cases state <;> rfl

@[simp] theorem decodeId_value (id : SandboxId) : decodeId id.value = .ok id := by
  simp [decodeId, SandboxId.tryFrom, id.valid]

variable {resolution : Option Resolution} {given : SandboxRecord}

theorem decodeResolution_encode (codec : JsonCodec Text)
    (h : ∀ value, resolution = some value → 0 < value.version) :
    decodeResolution codec (encodeResolution codec resolution) = .ok resolution := by
  cases resolution with
  | none => rfl
  | some value => simp [encodeResolution, decodeResolution, h value rfl, codec.fromText_toText]

@[simp] theorem decodePort_toNat (port : Port) : decodePort port.toNat = .ok port := by
  have hlt : port.toNat < 65536 := port.toNat_lt
  have hrange : (0 : Int) ≤ port.toNat ∧ (port.toNat : Int) < 65536 := by omega
  simp [decodePort, hrange]

/-- Every policy comes back from its columns. There is none that is disabled and has a port. -/
@[simp] theorem decodeSshTransportPolicy_encode (policy : Option SshTransportPolicy) :
    decodeSshTransportPolicy (encodeSshTransportPolicy policy) = .ok policy := by
  rcases policy with _ | _ | _ | port
  · rfl
  · rfl
  · rfl
  · show (do
      let port ← decodePort port.toNat
      return some (.enabled (some port)) : Except RowError (Option SshTransportPolicy)) = _
    rw [decodePort_toNat]
    rfl

theorem version_pos_of_validate
    (h : validateOptional (validateResolutionVersion ·.version) resolution = .ok ()) :
    ∀ value, resolution = some value → 0 < value.version := by
  rintro value rfl
  simp only [validateOptional, validateResolutionVersion] at h
  split at h
  · cases h
  · omega

theorem version_pos_of_validateSsh
    (h : validateOptional validateSshResolution resolution = .ok ()) :
    ∀ value, resolution = some value → 0 < value.version := by
  rintro value rfl
  obtain ⟨_, hversion, -⟩ := bind_eq_ok.1 (show validateSshResolution value = .ok () from h)
  have hoptional : validateOptional (validateResolutionVersion ·.version) (some value) = .ok () :=
    hversion
  exact version_pos_of_validate hoptional value rfl

/-! ### Rows -/

variable (codec) in
/-- The columns of a row are those of a record that passes its checks, and of a policy. -/
structure Encodes (row : Columns Text) (record : SandboxRecord)
    (policy : Option SshTransportPolicy) : Prop where
  id : row.id = record.id.value
  root : row.root = record.canonicalRoot
  desired : row.desired = desiredAsDb record.desiredState
  actual : row.actual = record.actualState.asDb
  setup : row.setup = encodeResolution codec record.setupResolution
  tools : row.tools = encodeResolution codec record.toolResolution
  image : row.image = encodeResolution codec record.imageResolution
  storage : row.storage = encodeResolution codec record.storageResolution
  ssh : row.ssh = encodeResolution codec record.sshResolution
  transport : row.transport = encodeSshTransportPolicy policy
  time : row.updatedAtMillis = record.updatedAtMillis
  valid : validateResolutions record = .ok ()

variable {row : Columns Text} {record : SandboxRecord} {policy : Option SshTransportPolicy}

theorem Encodes.decode (h : Encodes codec row record policy) {last : Option Int}
    (hlast : ∀ value, last = some value → 0 < value) :
    decode codec row last = .ok { record with lastOperationId := last.map Int.toNat } := by
  obtain ⟨hsetup, htools, himage, hstorage, hssh⟩ := Store.validateResolutions_eq_ok.1 h.valid
  have hid : decodeLast last = .ok (last.map Int.toNat) := by
    cases last with
    | none => rfl
    | some value => simp [decodeLast, operationId, hlast value rfl, Except.map]
  have hsetup := decodeResolution_encode codec (version_pos_of_validate hsetup)
  have htools := decodeResolution_encode codec (version_pos_of_validate htools)
  have himage := decodeResolution_encode codec (version_pos_of_validate himage)
  have hstorage := decodeResolution_encode codec (version_pos_of_validate hstorage)
  have hssh := decodeResolution_encode codec (version_pos_of_validateSsh hssh)
  simp only [Rows.decode, h.id, h.root, h.desired, h.actual, h.setup, h.tools, h.image, h.storage,
    h.ssh, h.time, decodeId_value, desiredFromDb_asDb, actualFromDb_asDb, hsetup, htools, himage,
    hstorage, hssh, hid, ok_bind]
  rfl

variable (codec) in
/-- What holds of the database: every row encodes a record, and operations have positive
identifiers. -/
structure Inv (d : Database Text) : Prop where
  rows : ∀ row ∈ d.sandboxes, ∃ record policy, Encodes codec row record policy
  positive : ∀ operation ∈ d.journal.operations, 0 < operation.id

variable {d d' : Database Text} {now : Int}

theorem inv_empty : Inv codec {} := ⟨by simp, by simp⟩

theorem Inv.last (h : Inv codec d) (row : Columns Text) :
    ∀ value, d.last row = some value → 0 < value := by
  intro value hvalue
  obtain ⟨id, hid, rfl⟩ := Option.map_eq_some_iff.1 hvalue
  obtain ⟨operation, hoperation, rfl⟩ := mem_map.1 (max?_mem hid)
  exact Int.natCast_pos.2 (h.positive operation (mem_filter.1 hoperation).1)

/-! ### Loaders -/

theorem mem_of_row? {id : String} (h : d.row? id = some row) : row ∈ d.sandboxes :=
  Table.mem_of_lookup h

theorem Inv.load (h : Inv codec d) {id : String} (hrow : d.row? id = some row)
    (hrecord : Encodes codec row record policy) :
    d.load codec id =
      .ok (some { record with lastOperationId := (d.last row).map Int.toNat }) := by
  rw [Database.load, hrow]
  show (decode codec row (d.last row)).map some = _
  rw [hrecord.decode (h.last row)]
  rfl

theorem Inv.load_ok (h : Inv codec d) (id : String) : ∃ loaded, d.load codec id = .ok loaded := by
  cases hrow : d.row? id with
  | none => exact ⟨none, by rw [Database.load, hrow]⟩
  | some row =>
    obtain ⟨record, policy, hrecord⟩ := h.rows row (mem_of_row? hrow)
    exact ⟨_, h.load hrow hrecord⟩

theorem Inv.listSandboxes_ok (h : Inv codec d) :
    ∃ listed, d.listSandboxes codec = .ok listed ∧
      ∀ row ∈ d.sandboxes, ∀ loaded, decode codec row (d.last row) = .ok loaded →
        loaded ∈ listed := by
  -- By induction on the sorted rows: each decodes, so the loop does.
  have hloop : ∀ rows : List (Columns Text), (∀ row ∈ rows, row ∈ d.sandboxes) →
      ∃ listed, rows.mapM (fun row => decode codec row (d.last row)) = .ok listed ∧
        ∀ row ∈ rows, ∀ loaded, decode codec row (d.last row) = .ok loaded → loaded ∈ listed := by
    intro rows hrows
    induction rows with
    | nil => exact ⟨[], rfl, by simp⟩
    | cons row rows ih =>
      obtain ⟨record, policy, hrecord⟩ := h.rows row (hrows row mem_cons_self)
      obtain ⟨listed, hlisted, hmem⟩ := ih fun r hr => hrows r (mem_cons_of_mem _ hr)
      obtain ⟨first, hdecode⟩ : ∃ first, decode codec row (d.last row) = .ok first :=
        ⟨_, hrecord.decode (h.last row)⟩
      refine ⟨first :: listed, ?_, ?_⟩
      · rw [mapM_cons, hdecode, ok_bind, hlisted]
        rfl
      · intro r hr loaded hloaded
        rcases mem_cons.1 hr with rfl | hr
        · rw [hdecode] at hloaded
          rw [Except.ok.inj hloaded]
          exact mem_cons_self ..
        · exact mem_cons_of_mem _ (hmem r hr loaded hloaded)
  unfold listSandboxes
  have hsame : ∀ row, row ∈ d.sandboxes.mergeSort (fun left right => left.id ≤ right.id) ↔
      row ∈ d.sandboxes := fun row => mem_mergeSort
  generalize d.sandboxes.mergeSort (fun left right => left.id ≤ right.id) = sorted at hsame ⊢
  obtain ⟨listed, hlisted, hmem⟩ := hloop sorted fun row hrow => (hsame row).1 hrow
  exact ⟨listed, hlisted, fun row hrow => hmem row ((hsame row).2 hrow)⟩

theorem sshTransportPolicy_of_row {id : SandboxId} (hrow : d.row? id.value = some row)
    (hrecord : Encodes codec row record policy) : d.sshTransportPolicy id = .ok policy := by
  rw [sshTransportPolicy, hrow]
  show decodeSshTransportPolicy row.transport = _
  rw [hrecord.transport, decodeSshTransportPolicy_encode]

theorem Inv.sshTransportPolicy_ok (h : Inv codec d) (id : SandboxId) :
    ∃ policy, d.sshTransportPolicy id = .ok policy := by
  cases hrow : d.row? id.value with
  | none => exact ⟨none, by rw [sshTransportPolicy, hrow]⟩
  | some row =>
    obtain ⟨record, policy, hrecord⟩ := h.rows row (mem_of_row? hrow)
    exact ⟨policy, sshTransportPolicy_of_row hrow hrecord⟩

/-! ### Writers -/

/-- A record that was written and what is stored of it. -/
structure SameRecord (given stored : SandboxRecord) : Prop where
  id : stored.id = given.id
  root : samePath stored.canonicalRoot given.canonicalRoot = true
  desired : stored.desiredState = given.desiredState
  actual : stored.actualState = given.actualState
  setup : stored.setupResolution = given.setupResolution
  tools : stored.toolResolution = given.toolResolution
  image : stored.imageResolution = given.imageResolution
  storage : stored.storageResolution = given.storageResolution
  ssh : stored.sshResolution = given.sshResolution

variable (codec) in
/-- A row of the database encodes what was written. -/
def Stored (d : Database Text) (given : SandboxRecord) (policy : Option SshTransportPolicy) :
    Prop :=
  ∃ row stored, d.row? given.id.value = some row ∧ Encodes codec row stored policy ∧
    SameRecord given stored

theorem lift_eq_ok {α : Type} {result : Except StoreError α} {a : α} :
    Database.lift result = .ok a ↔ result = .ok a := by
  cases result <;> simp [lift, Except.mapError]

/-- A change of one row that keeps its key and leaves it an encoding keeps the invariant. -/
theorem Inv.updateRow (h : Inv codec d) (id : String) {f : Columns Text → Columns Text}
    (hf : ∀ row record policy, row ∈ d.sandboxes → row.id = id → Encodes codec row record policy →
      ∃ record policy, Encodes codec (f row) record policy) :
    Inv codec (d.updateRow id f) := by
  refine ⟨Table.forall_mem_update h.rows ?_, h.positive⟩
  intro row hrow hid
  obtain ⟨record, policy, hrecord⟩ := h.rows row hrow
  exact hf row record policy hrow hid hrecord

theorem row?_updateRow {id : String} {f : Columns Text → Columns Text}
    (hf : ∀ row, (f row).id = row.id) (hrow : d.row? id = some row) :
    (d.updateRow id f).row? id = some (f row) := by
  rw [row?] at hrow
  rw [row?, Database.updateRow, Table.lookup_update hf, hrow]
  simp

theorem Encodes.assign {old given : SandboxRecord} (h : Encodes codec row old policy)
    (hid : row.id = given.id.value) (hvalid : validateResolutions given = .ok ()) :
    Encodes codec (Database.assign codec given now row)
      { given with canonicalRoot := old.canonicalRoot, updatedAtMillis := now } policy where
  id := hid
  root := h.root
  desired := rfl
  actual := rfl
  setup := rfl
  tools := rfl
  image := rfl
  storage := rfl
  ssh := rfl
  transport := h.transport
  time := rfl
  valid := hvalid

theorem Inv.samePath_of_checkIdentity (h : Inv codec d)
    (hcheck : d.checkIdentity codec given = .ok ()) (hrow : d.row? given.id.value = some row)
    (hrecord : Encodes codec row record policy) :
    samePath record.canonicalRoot given.canonicalRoot = true := by
  rw [checkIdentity, h.load hrow hrecord, ok_bind] at hcheck
  dsimp only at hcheck
  split at hcheck
  · cases hcheck
  next hsame => simpa using hsame

theorem Inv.putSandboxIn (h : Inv codec d) (hvalid : validateResolutions given = .ok ())
    (hput : d.putSandboxIn codec given now = .ok d') :
    Inv codec d' ∧ (∃ policy, Stored codec d' given policy) ∧ d'.journal = d.journal := by
  obtain ⟨⟨⟩, hidentity, hput⟩ := bind_eq_ok.1 hput
  obtain ⟨⟨⟩, -, hput⟩ := bind_eq_ok.1 hput
  obtain rfl := Except.ok.inj hput
  rw [upsert]
  cases hrow : d.row? given.id.value with
  | some row =>
    rw [if_pos Option.isSome_some]
    obtain ⟨old, policy, hold⟩ := h.rows row (mem_of_row? hrow)
    have hkey : row.id = given.id.value := Table.key_of_lookup hrow
    refine ⟨h.updateRow _ ?_, ⟨policy, _, _, row?_updateRow (fun _ => rfl) hrow,
      hold.assign hkey hvalid, ?_⟩, rfl⟩
    · intro other otherRecord otherPolicy _ hid hencodes
      exact ⟨_, _, hencodes.assign hid hvalid⟩
    · have hroot := h.samePath_of_checkIdentity hidentity hrow hold
      exact ⟨rfl, hroot, rfl, rfl, rfl, rfl, rfl, rfl, rfl⟩
  | none =>
    rw [if_neg (by simp)]
    have hencodes : Encodes codec (newRow codec given now)
        { given with updatedAtMillis := now } none :=
      ⟨rfl, rfl, rfl, rfl, rfl, rfl, rfl, rfl, rfl, rfl, rfl, hvalid⟩
    refine ⟨⟨?_, h.positive⟩, ⟨none, _, _, ?_, hencodes, ?_⟩, rfl⟩
    · exact forall_mem_append.2 ⟨h.rows, forall_mem_singleton.2 ⟨_, _, hencodes⟩⟩
    · rw [row?] at hrow
      rw [row?, Table.lookup_append_one, hrow]
      exact if_pos rfl
    · exact ⟨rfl, by simp [samePath], rfl, rfl, rfl, rfl, rfl, rfl, rfl⟩

theorem Inv.putSandbox (h : Inv codec d) (hput : d.putSandbox codec given now = .ok d') :
    Inv codec d' ∧ ∃ policy, Stored codec d' given policy := by
  obtain ⟨⟨⟩, hvalid, hput⟩ := bind_eq_ok.1 hput
  obtain ⟨hinv, hstored, -⟩ := h.putSandboxIn (lift_eq_ok.1 hvalid) hput
  exact ⟨hinv, hstored⟩

theorem Encodes.setTransport (h : Encodes codec row record policy)
    (policy' : Option SshTransportPolicy) :
    Encodes codec { row with transport := encodeSshTransportPolicy policy' } record policy' :=
  { h with transport := rfl }

theorem Inv.setSshTransportPolicyIn (h : Inv codec d) {policy' : Option SshTransportPolicy}
    (hstored : Stored codec d given policy)
    (hset : d.setSshTransportPolicyIn given.id policy' = .ok d') :
    Inv codec d' ∧ Stored codec d' given policy' := by
  obtain ⟨row, stored, hrow, hencodes, hsame⟩ := hstored
  rw [Database.setSshTransportPolicyIn, hrow] at hset
  dsimp only at hset
  split at hset
  · obtain rfl := Except.ok.inj hset
    refine ⟨h.updateRow _ ?_, _, stored, row?_updateRow (fun _ => rfl) hrow,
      hencodes.setTransport policy', hsame⟩
    intro other otherRecord _ _ _ hother
    exact ⟨otherRecord, policy', hother.setTransport policy'⟩
  · cases hset

theorem Inv.putSandboxWithSshTransport (h : Inv codec d) {policy' : Option SshTransportPolicy}
    (hput : d.putSandboxWithSshTransport codec given policy' now = .ok d') :
    Inv codec d' ∧ Stored codec d' given policy' := by
  obtain ⟨⟨⟩, hvalid, hput⟩ := bind_eq_ok.1 hput
  obtain ⟨d1, hput, hset⟩ := bind_eq_ok.1 hput
  obtain ⟨hinv, ⟨policy, hstored⟩, -⟩ := h.putSandboxIn (lift_eq_ok.1 hvalid) hput
  exact hinv.setSshTransportPolicyIn hstored hset

theorem Encodes.setSsh (h : Encodes codec row record policy)
    (hvalid : validateOptional validateSshResolution resolution = .ok ()) :
    Encodes codec { row with ssh := encodeResolution codec resolution, updatedAtMillis := now }
      { record with sshResolution := resolution, updatedAtMillis := now } policy := by
  have hrecord := Store.validateResolutions_eq_ok.1 h.valid
  exact { h with
    ssh := rfl
    time := rfl
    valid := Store.validateResolutions_eq_ok.2
      ⟨hrecord.1, hrecord.2.1, hrecord.2.2.1, hrecord.2.2.2.1, hvalid⟩ }

theorem Inv.setSshResolution (h : Inv codec d) {id : SandboxId}
    (hset : d.setSshResolution codec id resolution now = .ok d') :
    Inv codec d' ∧ ∃ row stored policy, d'.row? id.value = some row ∧
      Encodes codec row stored policy ∧ stored.sshResolution = resolution := by
  obtain ⟨⟨⟩, hvalid, hset⟩ := bind_eq_ok.1 hset
  obtain ⟨⟨⟩, hfound, hset⟩ := bind_eq_ok.1 hset
  have hvalid := lift_eq_ok.1 hvalid
  obtain ⟨row, hrow⟩ := Option.isSome_iff_exists.1 (ensureThat_eq_ok.1 hfound)
  obtain ⟨record, policy, hrecord⟩ := h.rows row (mem_of_row? hrow)
  obtain rfl := Except.ok.inj hset
  refine ⟨h.updateRow _ ?_, _, _, policy, row?_updateRow (fun _ => rfl) hrow,
    hrecord.setSsh hvalid, rfl⟩
  intro other otherRecord otherPolicy _ _ hother
  exact ⟨_, _, hother.setSsh hvalid⟩

theorem Inv.beginOperation (h : Inv codec d) {kind : OperationKind} {operation : OperationRecord}
    (hbegin : d.beginOperation codec given kind now = .ok (operation, d')) :
    Inv codec d' ∧ ∃ policy, Stored codec d' given policy := by
  obtain ⟨⟨⟩, hvalid, hbegin⟩ := bind_eq_ok.1 hbegin
  obtain ⟨d1, hput, hbegin⟩ := bind_eq_ok.1 hbegin
  obtain ⟨⟨⟩, -, hbegin⟩ := bind_eq_ok.1 hbegin
  obtain ⟨hinv, hstored, -⟩ := h.putSandboxIn (lift_eq_ok.1 hvalid) hput
  obtain ⟨-, rfl⟩ := Prod.mk.inj (Except.ok.inj hbegin)
  refine ⟨⟨hinv.rows, ?_⟩, hstored⟩
  intro other hother
  have hother : other ∈ d1.journal.operations ++ [d1.journal.newOperation given.id kind] := hother
  rcases mem_append.1 hother with hother | hother
  · exact hinv.positive other hother
  · rw [mem_singleton.1 hother]
    exact Nat.succ_pos _

theorem Encodes.finish (h : Encodes codec row record policy) (actual : ActualState) (clear : Bool) :
    Encodes codec (Database.finishRow actual clear now row)
      { record with
        actualState := actual
        sshResolution := if clear then none else record.sshResolution
        updatedAtMillis := now }
      (if clear then none else policy) := by
  have hrecord := Store.validateResolutions_eq_ok.1 h.valid
  cases clear with
  | true => exact { h with
    actual := rfl
    ssh := rfl
    transport := rfl
    time := rfl
    valid := Store.validateResolutions_eq_ok.2
      ⟨hrecord.1, hrecord.2.1, hrecord.2.2.1, hrecord.2.2.2.1, rfl⟩ }
  | false => exact { h with
    actual := rfl
    ssh := h.ssh
    transport := h.transport
    time := rfl
    valid := Store.validateResolutions_eq_ok.2 hrecord }

theorem Inv.finishOperation (h : Inv codec d) {id : OperationId} {actual : ActualState}
    {status : OperationStatus} {code : Option String} {details : Option Json} {clear : Bool}
    (hfinish : d.finishOperation id actual status code details clear now = .ok d') :
    Inv codec d' := by
  obtain ⟨operation, -, hfinish⟩ := bind_eq_ok.1 hfinish
  obtain ⟨⟨⟩, -, hfinish⟩ := bind_eq_ok.1 hfinish
  obtain ⟨row, -, hfinish⟩ := bind_eq_ok.1 hfinish
  obtain ⟨current, -, hfinish⟩ := bind_eq_ok.1 hfinish
  obtain ⟨⟨⟩, -, hfinish⟩ := bind_eq_ok.1 hfinish
  obtain ⟨⟨⟩, -, hfinish⟩ := bind_eq_ok.1 hfinish
  obtain rfl := Except.ok.inj hfinish
  have hupdated : Inv codec (d.updateRow operation.sandboxId.value
      (finishRow actual clear now)) := by
    refine h.updateRow _ ?_
    intro other otherRecord otherPolicy _ _ hother
    exact ⟨_, _, hother.finish actual clear⟩
  refine ⟨hupdated.rows, ?_⟩
  -- The operation that ends keeps its identifier.
  exact Table.forall_mem_update (p := fun other : OperationRecord => 0 < other.id) h.positive
    fun other hother _ => h.positive other hother

theorem Inv.appendOperationEvent (h : Inv codec d) {id : OperationId} {details : Json}
    (happend : d.appendOperationEvent id details now = .ok d') : Inv codec d' := by
  obtain ⟨⟨event, journal⟩, hjournal, happend⟩ := bind_eq_ok.1 happend
  obtain rfl := Except.ok.inj happend
  obtain ⟨operation, -, -, hevent⟩ := Store.appendOperationEvent_eq_ok.1 (lift_eq_ok.1 hjournal)
  have hsame : journal.operations = d.journal.operations := by
    rw [(Prod.mk.inj hevent).2]
  refine ⟨h.rows, ?_⟩
  show ∀ operation ∈ journal.operations, 0 < operation.id
  rw [hsame]
  exact h.positive

/-! ### Runs -/

theorem Inv.write (h : Inv codec d) {op : Database.Write} (hwrite : d.write codec now op = .ok d') :
    Inv codec d' := by
  cases op with
  | putSandbox record => exact (h.putSandbox hwrite).1
  | putSandboxWithSshTransport record policy => exact (h.putSandboxWithSshTransport hwrite).1
  | setSshResolution id resolution => exact (h.setSshResolution hwrite).1
  | beginOperation record kind =>
    obtain ⟨⟨operation, d1⟩, hbegin, rfl⟩ := map_eq_ok.1 hwrite
    exact (h.beginOperation hbegin).1
  | finishOperation id actual status code details clear => exact h.finishOperation hwrite
  | appendOperationEvent id details => exact h.appendOperationEvent hwrite

theorem Inv.run (h : Inv codec d) (ops : List (Database.Write × Int)) :
    Inv codec (d.run codec ops) := by
  induction ops generalizing d with
  | nil => exact h
  | cons op ops ih =>
    obtain ⟨op, now⟩ := op
    rw [Database.run]
    refine ih ?_
    cases hwrite : d.write codec now op with
    | ok d' => exact h.write hwrite
    | error _ => exact h

variable (codec) in
/-- The loaders return a record as it was given. -/
def Returned (d : Database Text) (given : SandboxRecord) : Prop :=
  ∃ loaded listed, d.sandbox codec given.id = .ok (some loaded) ∧ SameRecord given loaded ∧
    d.listSandboxes codec = .ok listed ∧ loaded ∈ listed

theorem Stored.returned (hstored : Stored codec d given policy) (h : Inv codec d) :
    Returned codec d given ∧ d.sshTransportPolicy given.id = .ok policy := by
  obtain ⟨row, stored, hrow, hencodes, hsame⟩ := hstored
  obtain ⟨listed, hlisted, hmem⟩ := h.listSandboxes_ok
  refine ⟨⟨_, listed, h.load hrow hencodes, ?_, hlisted, ?_⟩,
    sshTransportPolicy_of_row hrow hencodes⟩
  · exact { hsame with }
  · exact hmem row (mem_of_row? hrow) _ (hencodes.decode (h.last row))

/-- After any writes, every loader succeeds, and the next write that is accepted is loaded as it was
given. -/
theorem store_roundTrips (codec : JsonCodec Text) (ops : List (Database.Write × Int)) :
    let d : Database Text := Database.run codec ops {}
    (∀ id, ∃ loaded, d.sandbox codec id = .ok loaded) ∧
    (∃ listed, d.listSandboxes codec = .ok listed) ∧
    (∀ id, ∃ policy, d.sshTransportPolicy id = .ok policy) ∧
    (∀ record now d', d.putSandbox codec record now = .ok d' → Returned codec d' record) ∧
    (∀ record policy now d', d.putSandboxWithSshTransport codec record policy now = .ok d' →
      Returned codec d' record ∧ d'.sshTransportPolicy record.id = .ok policy) ∧
    (∀ record kind now operation d',
      d.beginOperation codec record kind now = .ok (operation, d') → Returned codec d' record) ∧
    (∀ id resolution now d', d.setSshResolution codec id resolution now = .ok d' →
      ∃ loaded, d'.sandbox codec id = .ok (some loaded) ∧ loaded.sshResolution = resolution) := by
  intro d
  have h : Inv codec d := inv_empty.run ops
  refine ⟨fun id => h.load_ok id.value, ?_, h.sshTransportPolicy_ok, ?_, ?_, ?_, ?_⟩
  · obtain ⟨listed, hlisted, -⟩ := h.listSandboxes_ok
    exact ⟨listed, hlisted⟩
  · intro record now d' hput
    obtain ⟨hinv, policy, hstored⟩ := h.putSandbox hput
    exact (hstored.returned hinv).1
  · intro record policy now d' hput
    obtain ⟨hinv, hstored⟩ := h.putSandboxWithSshTransport hput
    exact hstored.returned hinv
  · intro record kind now operation d' hbegin
    obtain ⟨hinv, policy, hstored⟩ := h.beginOperation hbegin
    exact (hstored.returned hinv).1
  · intro id resolution now d' hset
    obtain ⟨hinv, row, stored, policy, hrow, hencodes, hsame⟩ := h.setSshResolution hset
    exact ⟨_, hinv.load hrow hencodes, hsame⟩

/-! ### The decoded store -/

variable {s : Store}

variable (codec) in
/-- The rows of the database encode those of a store, in order. -/
def Represents (d : Database Text) (s : Store) : Prop :=
  Forall₂ (fun row stored => Encodes codec row stored.record stored.sshTransport) d.sandboxes
    s.sandboxes

/-- Lists that correspond have corresponding first matches. -/
theorem forall₂_find? {α β : Type} {R : α → β → Prop} {p : α → Bool} {q : β → Bool}
    {l : List α} {l' : List β} (hpq : ∀ a b, R a b → p a = q b) (h : Forall₂ R l l') :
    Option.Rel R (l.find? p) (l'.find? q) := by
  induction h with
  | nil => exact .none
  | @cons a b _ _ hab _ ih =>
    rw [find?_cons, find?_cons, hpq a b hab]
    cases q b with
    | true => exact .some hab
    | false => exact ih

theorem Encodes.key_iff (h : Encodes codec row record policy) (id : SandboxId) :
    row.id = id.value ↔ record.id = id := by
  rw [h.id]
  constructor
  · intro heq
    cases hrecord : record.id
    cases id
    simp_all
  · rintro rfl
    rfl

theorem Represents.row? (h : Represents codec d s) (id : SandboxId) :
    Option.Rel (fun row stored => Encodes codec row stored.record stored.sshTransport)
      (d.row? id.value) (s.row? id) :=
  forall₂_find? (fun _ _ hrow => decide_eq_decide.2 (hrow.key_iff id)) h

/-- Both models check the identity in the same way. -/
theorem Represents.checkIdentity (hd : Inv codec d) (h : Represents codec d s)
    (given : SandboxRecord) :
    d.checkIdentity codec given = Database.lift (s.checkIdentity given) := by
  have hrel := h.row? given.id
  rw [Database.checkIdentity, Store.checkIdentity]
  cases hrow : d.row? given.id.value with
  | none =>
    rw [hrow] at hrel
    cases hstored : s.row? given.id with
    | none => rw [Database.load, hrow]; rfl
    | some stored => rw [hstored] at hrel; cases hrel
  | some row =>
    rw [hrow] at hrel
    cases hstored : s.row? given.id with
    | none => rw [hstored] at hrel; cases hrel
    | some stored =>
      rw [hstored] at hrel
      obtain ⟨hencodes⟩ := hrel
      rw [hd.load hrow hencodes, ok_bind]
      dsimp only
      split <;> rfl

theorem Represents.checkRoot (h : Represents codec d s) (given : SandboxRecord) :
    d.checkRoot given = Database.lift (s.checkRoot given) := by
  have hrel : Option.Rel (fun row stored => Encodes codec row stored.record stored.sshTransport)
      (d.sandboxes.find? (·.root = given.canonicalRoot)) (s.rootOwner? given.canonicalRoot) :=
    forall₂_find? (fun _ _ hrow => by rw [hrow.root]) h
  rw [Database.checkRoot, Store.checkRoot]
  generalize d.sandboxes.find? (·.root = given.canonicalRoot) = owner at hrel ⊢
  generalize s.rootOwner? given.canonicalRoot = stored at hrel ⊢
  cases hrel with
  | none => rfl
  | @some owner stored hencodes =>
    dsimp only
    rw [hencodes.id, decodeId_value, ok_bind, ensureThat]
    by_cases hid : stored.record.id = given.id
    · simp [hid, lift, Except.mapError]
    · simp [hid, lift, Except.mapError]

theorem Represents.upsert (h : Represents codec d s) (hvalid : validateResolutions given = .ok ()) :
    Represents codec (d.upsert codec given now) (s.upsert given now) := by
  have hsome : (d.row? given.id.value).isSome = (s.row? given.id).isSome := by
    have hrel := h.row? given.id
    generalize d.row? given.id.value = row at hrel ⊢
    generalize s.row? given.id = stored at hrel ⊢
    cases hrel <;> rfl
  rw [Database.upsert, Store.upsert, hsome]
  split
  · refine forall₂_map_left_iff.2 (forall₂_map_right_iff.2 (h.imp fun row stored hrow => ?_))
    by_cases hid : stored.record.id = given.id
    · rw [if_pos ((hrow.key_iff given.id).2 hid), if_pos hid]
      exact { hrow with
        desired := rfl, actual := rfl, setup := rfl, tools := rfl, image := rfl, storage := rfl
        ssh := rfl, time := rfl, valid := hvalid }
    · rw [if_neg fun heq => hid ((hrow.key_iff given.id).1 heq), if_neg hid]
      exact hrow
  · exact rel_append h (.cons
      ⟨rfl, rfl, rfl, rfl, rfl, rfl, rfl, rfl, rfl, rfl, rfl, hvalid⟩ .nil)

/-- **The two models of `put_sandbox` agree.** On a database whose rows encode those of a store,
both accept the same records and give the same errors, and the rows of the results correspond again.
-/
theorem Represents.putSandbox (hd : Inv codec d) (h : Represents codec d s) (given : SandboxRecord)
    (now : Int) :
    (∀ s', s.putSandbox given now = .ok s' →
      ∃ d', d.putSandbox codec given now = .ok d' ∧ Represents codec d' s') ∧
    ∀ error, s.putSandbox given now = .error error →
      d.putSandbox codec given now = .error (.store error) := by
  rw [Store.putSandbox, Database.putSandbox, Store.putSandboxIn, Database.putSandboxIn,
    Store.checkPut, h.checkIdentity hd, h.checkRoot]
  cases hvalid : validateResolutions given with
  | error error => exact ⟨nofun, fun _ herror => by cases herror; rfl⟩
  | ok =>
    cases s.checkIdentity given with
    | error error => exact ⟨nofun, fun _ herror => by cases herror; rfl⟩
    | ok =>
      cases s.checkRoot given with
      | error error => exact ⟨nofun, fun _ herror => by cases herror; rfl⟩
      | ok =>
        refine ⟨fun s' hs' => ⟨_, rfl, ?_⟩, nofun⟩
        obtain rfl := Except.ok.inj hs'
        exact h.upsert hvalid

def plainCodec : JsonCodec Json := ⟨id, some, fun _ => rfl⟩

def plainRecord : SandboxRecord where
  id := ⟨"plain-0123456789ab", .refl true⟩
  canonicalRoot := "/work/plain"
  desiredState := .running
  actualState := .creating
  setupResolution := some ⟨1, .null⟩
  toolResolution := none
  imageResolution := none
  storageResolution := none
  sshResolution := some ⟨2, .bool true⟩
  lastOperationId := none
  updatedAtMillis := 0

theorem plainRecord_roundTrips :
    ∃ d', ({} : Database Json).putSandboxWithSshTransport plainCodec plainRecord
        (some (.enabled (some 2222))) 5 = .ok d' ∧
      Returned plainCodec d' plainRecord ∧
      d'.sshTransportPolicy plainRecord.id = .ok (some (.enabled (some 2222))) := by
  obtain ⟨d', hput⟩ := isOk_iff.1
    (show (({} : Database Json).putSandboxWithSshTransport plainCodec plainRecord
      (some (.enabled (some 2222))) 5).isOk = true by decide +kernel)
  exact ⟨d', hput, (store_roundTrips plainCodec []).2.2.2.2.1 _ _ _ _ hput⟩

end Gascan.Rows
