import Gascan.Daemon.Migration

/-!
# `Gascan.Proofs.Migration`: what opening an old store does

`storeDatabase` is the database of a store of a given schema version with arbitrary rows. The
migrations are evaluated on it statement by statement, and `open_preserves_iff` says which stores of
an earlier version `initializeSchema` opens with every row kept: all but those of version 1 that
have an event. The second migration updates the event log, and the trigger of the first one raises.
A store that was opened stays as it is whenever it is opened again (`reopen_unchanged`).
-/

namespace Gascan

open Lib Lib.Sql List Database

namespace Migration

/-! ### Stores of a version -/

/-- The rows of a store. -/
structure Contents where
  sandboxes : List Row
  operations : List Row
  events : List Row

/-- A row has exactly the columns of its table. -/
def HasColumns (columns : List Column) (row : Row) : Prop :=
  row.map Prod.fst = columns.map Column.name

/-- The rows fit the tables of a version. -/
structure Contents.Fits (c : Contents) (version : Nat) : Prop where
  sandboxes : ∀ row ∈ c.sandboxes, HasColumns (sandboxColumnsOf version) row
  operations : ∀ row ∈ c.operations, HasColumns operationColumns row
  events : ∀ row ∈ c.events, HasColumns (operationEventColumnsOf version) row

/-- The database of a store with the given columns and rows. -/
def layout (version : Int) (sandboxColumns : List Column) (sandboxes operations : List Row)
    (eventColumns : List Column) (events : List Row) : Database where
  tables :=
    [⟨"schema_version", schemaVersionColumns, [[("singleton", .int 1), ("version", .int version)]]⟩,
     ⟨"sandboxes", sandboxColumns, sandboxes⟩,
     ⟨"operations", operationColumns, operations⟩,
     ⟨"operation_events", eventColumns, events⟩]
  indexes := [onePendingOperationPerSandbox]
  triggers :=
    [appendOnly "operation_events_no_update" .beforeUpdate,
     appendOnly "operation_events_no_delete" .beforeDelete]

/-- The database of a store of a version. -/
def storeDatabase (version : Nat) (c : Contents) : Database :=
  layout version (sandboxColumnsOf version) c.sandboxes c.operations
    (operationEventColumnsOf version) c.events

/-- Every row of `c'` is the row of `c` at the same place with further columns. -/
structure Contents.Extends (c' c : Contents) : Prop where
  sandboxes : List.Forall₂ (fun old new => old <+: new) c.sandboxes c'.sandboxes
  operations : c'.operations = c.operations
  events : List.Forall₂ (fun old new => old <+: new) c.events c'.events

/-! ### The statements -/

section Statements

variable {clock version : Int} {sc ec : List Column} {sr rows er : List Row} {column : Column}

theorem table?_sandboxes :
    (layout version sc sr rows ec er).table? "sandboxes" = some ⟨"sandboxes", sc, sr⟩ := by
  simp [layout, table?, Table.lookup]

theorem table?_events : (layout version sc sr rows ec er).table? "operation_events" =
    some ⟨"operation_events", ec, er⟩ := by
  simp [layout, table?, Table.lookup]

theorem exec_addColumn_sandboxes (hnew : sc.any (·.name = column.name) = false)
    (hnull : (column.notNull && column.default = .null) = false)
    (hpass : column.passes column.default = true) :
    exec clock (layout version sc sr rows ec er) (.addColumn "sandboxes" column) =
      .ok (layout version (sc ++ [column]) (sr.map (· ++ [(column.name, column.default)])) rows
        ec er) := by
  simp only [exec, table?_sandboxes, hnew, hnull, hpass, Bool.true_or, Bool.false_eq_true, if_true,
    if_false]
  simp [layout, updateTable, Table.update, Relation.addColumn]

theorem exec_addColumn_events (hnew : ec.any (·.name = column.name) = false)
    (hnull : (column.notNull && column.default = .null) = false)
    (hpass : column.passes column.default = true) :
    exec clock (layout version sc sr rows ec er) (.addColumn "operation_events" column) =
      .ok (layout version sc sr rows (ec ++ [column])
        (er.map (· ++ [(column.name, column.default)]))) := by
  simp only [exec, table?_events, hnew, hnull, hpass, Bool.true_or, Bool.false_eq_true, if_true,
    if_false]
  simp [layout, updateTable, Table.update, Relation.addColumn]

/-- No trigger guards the sandboxes. -/
theorem exec_update_sandboxes {name : String} {value : Expr}
    (hcolumn : sc.any (·.name = name) = true)
    (hadmits : (⟨"sandboxes", sc, sr⟩ : Relation).admits name (value.eval clock) = true) :
    exec clock (layout version sc sr rows ec er) (.update "sandboxes" name value none) =
      .ok (layout version sc (sr.map (Row.set name (value.eval clock))) rows ec er) := by
  have htrigger : (layout version sc sr rows ec er).updateTrigger? "sandboxes" = none := by
    simp [layout, updateTrigger?, appendOnly]
  cases sr with
  | nil => simp [exec, table?_sandboxes, hcolumn]
  | cons row rest =>
    simp only [exec, table?_sandboxes, hcolumn, htrigger, hadmits, if_true]
    simp [layout, updateTable, Table.update, Relation.update, Row.meets]

/-- The trigger on the event log raises as soon as there is an event. -/
theorem exec_update_events {name : String} {value : Expr}
    (hcolumn : ec.any (·.name = name) = true) :
    exec clock (layout version sc sr rows ec er) (.update "operation_events" name value none) =
      if er = [] then .ok (layout version sc sr rows ec er)
      else .error (.raised "operation events are append-only") := by
  have htrigger : (layout version sc sr rows ec er).updateTrigger? "operation_events" =
      some (appendOnly "operation_events_no_update" .beforeUpdate) := by
    simp [layout, updateTrigger?, appendOnly]
  cases er with
  | nil => simp [exec, table?_events, hcolumn]
  | cons row rest =>
    simp [exec, table?_events, hcolumn, htrigger, Row.meets, appendOnly]

theorem exec_setVersion {new : Int} :
    exec clock (layout version sc sr rows ec er) (setVersion new) =
      .ok (layout new sc sr rows ec er) := by
  have htable : (layout version sc sr rows ec er).table? "schema_version" =
      some ⟨"schema_version", schemaVersionColumns,
        [[("singleton", .int 1), ("version", .int version)]]⟩ := by
    simp [layout, table?, Table.lookup]
  have htrigger : (layout version sc sr rows ec er).updateTrigger? "schema_version" = none := by
    simp [layout, updateTrigger?, appendOnly]
  simp only [setVersion, exec, htable, htrigger]
  simp [schemaVersionColumns, Row.meets, Relation.admits, Column.accepts, Column.passes,
    Expr.eval, layout, updateTable, Table.update, Relation.update, Row.set]

end Statements

/-! ### The scripts -/

variable {version : Nat} (clock : Int)

theorem execBatch_append (db : Database) (first second : List Statement) :
    execBatch clock db (first ++ second) =
      execBatch clock db first >>= fun db => execBatch clock db second := by
  induction first generalizing db with
  | nil => rfl
  | cons statement rest ih =>
    show (exec clock db statement >>= fun db => execBatch clock db (rest ++ second)) =
      (exec clock db statement >>= fun db => execBatch clock db rest) >>= _
    cases exec clock db statement with
    | error e => rfl
    | ok db' => exact ih db'

theorem execBatch_cons (db : Database) (statement : Statement) (rest : List Statement) :
    execBatch clock db (statement :: rest) =
      exec clock db statement >>= fun db => execBatch clock db rest := rfl

/-- A column that can be added to a table with rows. -/
def Addable (column : Column) : Prop :=
  (column.notNull && column.default = .null) = false ∧ column.passes column.default = true

instance (column : Column) : Decidable (Addable column) :=
  inferInstanceAs (Decidable (_ ∧ _))

/-- The row with the defaults of further columns. -/
def fill (columns : List Column) (row : Row) : Row :=
  row ++ columns.map fun column => (column.name, column.default)

section Scripts

variable {clock version : Int} {sc ec : List Column} {sr rows er : List Row}

variable (columns : List Column)

/-- Adding columns one by one fills every row with their defaults. -/
theorem execBatch_addColumns (hnames : ((sc ++ columns).map Column.name).Nodup)
    (hadd : ∀ column ∈ columns, Addable column) :
    execBatch clock (layout version sc sr rows ec er) (columns.map (.addColumn "sandboxes")) =
      .ok (layout version (sc ++ columns) (sr.map (fill columns)) rows ec er) := by
  induction columns generalizing sc sr with
  | nil =>
    have hfill : fill [] = id := by funext row; simp [fill]
    simp [execBatch, hfill]
  | cons column rest ih =>
    obtain ⟨hnull, hpass⟩ := hadd column mem_cons_self
    have hfresh : sc.any (·.name = column.name) = false := by
      rw [map_append, nodup_append] at hnames
      simpa using fun c hc heq => hnames.2.2 _ (mem_map_of_mem hc) _
        (mem_map_of_mem mem_cons_self) heq
    have hrest : ((sc ++ [column] ++ rest).map Column.name).Nodup := by simpa using hnames
    have hfill : fill (column :: rest) =
        fill rest ∘ (· ++ [(column.name, column.default)]) := by
      funext row
      simp [fill]
    rw [map_cons, execBatch_cons, exec_addColumn_sandboxes hfresh hnull hpass, ok_bind,
      ih hrest fun c hc => hadd c (mem_cons_of_mem _ hc), map_map, hfill,
      append_assoc, singleton_append]

theorem execBatch_sandboxColumnMigration {new : Int}
    (hnames : ((sc ++ columns).map Column.name).Nodup) (hadd : ∀ column ∈ columns, Addable column) :
    execBatch clock (layout version sc sr rows ec er) (sandboxColumnMigration columns new) =
      .ok (layout new (sc ++ columns) (sr.map (fill columns)) rows ec er) := by
  rw [sandboxColumnMigration, execBatch_append, execBatch_addColumns columns hnames hadd]
  rw [ok_bind, execBatch_cons, exec_setVersion]
  rfl

end Scripts

/-- The columns that `sandboxes` gets after a version. -/
def laterColumns : Nat → List Column
  | 1 | 2 => storageResolutionColumns ++ sshResolutionColumns ++ sshTransportColumns
  | 3 => sshResolutionColumns ++ sshTransportColumns
  | 4 => sshTransportColumns
  | _ => []

theorem fill_fill (first second : List Column) (row : Row) :
    fill second (fill first row) = fill (first ++ second) row := by
  simp [fill]

/-- The scripts from version 2 on only add columns to the sandboxes. -/
theorem execBatch_later (version : Nat) (hlow : 2 ≤ version) (hhigh : version ≤ 4)
    (sr rows er : List Row) :
    execBatch clock (layout version (sandboxColumnsOf version) sr rows
        (operationEventColumnsOf version) er) (upgradeScript version) =
      .ok (layout 5 (sandboxColumnsOf 5) (sr.map (fill (laterColumns version))) rows
        (operationEventColumnsOf 5) er) := by
  have hcases : version = 2 ∨ version = 3 ∨ version = 4 := by omega
  rcases hcases with rfl | rfl | rfl
  · rw [upgradeScript, storageResolutionMigration, sshResolutionMigration,
      sshTransportPolicyMigration, execBatch_append, execBatch_append,
      execBatch_sandboxColumnMigration storageResolutionColumns (by decide) (by decide), ok_bind,
      execBatch_sandboxColumnMigration sshResolutionColumns (by decide) (by decide), ok_bind,
      execBatch_sandboxColumnMigration sshTransportColumns (by decide) (by decide)]
    simp only [map_map, Function.comp_def, fill_fill]
    rfl
  · rw [upgradeScript, sshResolutionMigration, sshTransportPolicyMigration, execBatch_append,
      execBatch_sandboxColumnMigration sshResolutionColumns (by decide) (by decide), ok_bind,
      execBatch_sandboxColumnMigration sshTransportColumns (by decide) (by decide)]
    simp only [map_map, Function.comp_def, fill_fill]
    rfl
  · rw [upgradeScript, sshTransportPolicyMigration,
      execBatch_sandboxColumnMigration sshTransportColumns (by decide) (by decide)]
    rfl

/-! ### The second migration -/

theorem set_new {columns : List Column} {row : Row} (hrow : HasColumns columns row) {name : String}
    (hnew : name ∉ columns.map Column.name) (old new : Value) :
    Row.set name new (row ++ [(name, old)]) = row ++ [(name, new)] := by
  have hsame : row.map (fun cell => if cell.1 = name then (name, new) else cell) = row := by
    refine (map_congr_left fun cell hcell => ?_).trans (map_id row)
    have hne : cell.1 ≠ name := by
      intro heq
      exact hnew (hrow ▸ heq ▸ mem_map_of_mem hcell)
    rw [if_neg hne]
    rfl
  rw [Row.set, map_append, hsame]
  simp

/-- The row with the time of its migration. -/
def stamp (clock : Int) (row : Row) : Row := row ++ [("updated_at_millis", .int (clock * 1000))]

variable {rows : List Row} {c : Contents}

/-- The second migration succeeds on an empty event log, and only there. -/
theorem execBatch_durableMetadata {sr er : List Row}
    (hrows : ∀ row ∈ sr, HasColumns (sandboxColumnsOf 1) row) :
    execBatch clock (layout 1 (sandboxColumnsOf 1) sr rows (operationEventColumnsOf 1) er)
        durableMetadataMigration =
      if er = [] then
        .ok (layout 2 (sandboxColumnsOf 2) (sr.map (stamp clock)) rows
          (operationEventColumnsOf 2) [])
      else .error (.raised "operation events are append-only") := by
  have hstamp : (sr.map (· ++ [(updatedAtMillis.name, updatedAtMillis.default)])).map
      (Row.set "updated_at_millis" ((Expr.unixepoch 1000).eval clock)) = sr.map (stamp clock) := by
    rw [map_map]
    exact map_congr_left fun row hrow => set_new (hrows row hrow) (by decide) _ _
  rw [durableMetadataMigration, execBatch_cons,
    exec_addColumn_sandboxes (by decide) (by decide) (by decide), ok_bind, execBatch_cons,
    exec_update_sandboxes (by decide) (by rfl), ok_bind, hstamp, execBatch_cons,
    exec_addColumn_events (by decide) (by decide) (by decide), ok_bind, execBatch_cons,
    exec_addColumn_events (by decide) (by decide) (by decide), ok_bind, execBatch_cons,
    exec_update_events (by decide)]
  cases er with
  | nil =>
    simp only [map_nil, if_true, ok_bind, execBatch_cons, exec_setVersion]
    rfl
  | cons event rest => simp

theorem execBatch_upgrade_one (hc : c.Fits 1) :
    execBatch clock (storeDatabase 1 c) (upgradeScript 1) =
      if c.events = [] then
        .ok (storeDatabase 5
          ⟨(c.sandboxes.map (stamp clock)).map (fill (laterColumns 2)), c.operations, []⟩)
      else .error (.raised "operation events are append-only") := by
  have hscript : upgradeScript 1 = durableMetadataMigration ++ upgradeScript 2 := by
    simp only [upgradeScript, append_assoc]
  rw [hscript, execBatch_append]
  refine (congrArg (· >>= _) (execBatch_durableMetadata clock hc.sandboxes)).trans ?_
  by_cases hevents : c.events = []
  · rw [if_pos hevents, if_pos hevents, ok_bind]
    exact execBatch_later clock 2 (by omega) (by omega) _ _ _
  · rw [if_neg hevents, if_neg hevents, error_bind]

/-! ### The checks -/

/-- The schema of a store of a version passes its check, whatever the rows are. -/
theorem validateSchema_storeDatabase (hlow : 1 ≤ version) (hhigh : version ≤ 5) (c : Contents) :
    validateSchema version (storeDatabase version c) = .ok () := by
  have hsandboxes : columnsOf (storeDatabase version c) "sandboxes" = sandboxColumnsOf version := by
    simp [storeDatabase, layout, columnsOf, table?, Table.lookup]
  have hoperations : columnsOf (storeDatabase version c) "operations" = operationColumns := by
    simp [storeDatabase, layout, columnsOf, table?, Table.lookup]
  have hevents : columnsOf (storeDatabase version c) "operation_events" =
      operationEventColumnsOf version := by
    simp [storeDatabase, layout, columnsOf, table?, Table.lookup]
  have hinventory : validateSchemaInventory (storeDatabase version c) = .ok () := by rfl
  have hindex : validateUniqueIndex (storeDatabase version c) onePendingOperationPerSandbox =
      .ok () := by rfl
  have hupdate : validateTrigger (storeDatabase version c) "operation_events_no_update"
      .beforeUpdate = .ok () := by rfl
  have hdelete : validateTrigger (storeDatabase version c) "operation_events_no_delete"
      .beforeDelete = .ok () := by rfl
  unfold validateSchema validateOperationsAndConstraints validateTableColumns validateForeignKeys
    validateUniqueColumn
  rw [hinventory, hsandboxes, hoperations, hevents, hindex, hupdate, hdelete]
  have hcases : version = 1 ∨ version = 2 ∨ version = 3 ∨ version = 4 ∨ version = 5 := by omega
  rcases hcases with rfl | rfl | rfl | rfl | rfl <;> rfl

/-! ### Opening a store -/

theorem initializeSchema_storeDatabase (userVersion : Int) (hlow : 1 ≤ version)
    (hhigh : version ≤ 4) (c : Contents) :
    initializeSchema clock userVersion (storeDatabase version c) =
      upgrade clock version (storeDatabase version c) := by
  have htable : (storeDatabase version c).table? "schema_version" = some
      ⟨"schema_version", schemaVersionColumns,
        [[("singleton", .int 1), ("version", .int version)]]⟩ := by
    simp [storeDatabase, layout, table?, Table.lookup]
  unfold initializeSchema
  rw [htable]
  have hcases : version = 1 ∨ version = 2 ∨ version = 3 ∨ version = 4 := by omega
  rcases hcases with rfl | rfl | rfl | rfl <;> rfl

/-- An upgrade whose script succeeds ends with the store it computes. -/
theorem upgrade_ok {clock : Int} (hlow : 1 ≤ version) (hhigh : version ≤ 4) {c' : Contents}
    (hscript : execBatch clock (storeDatabase version c) (upgradeScript version) = .ok
      (storeDatabase 5 c')) :
    upgrade clock version (storeDatabase version c) = .ok (storeDatabase 5 c') := by
  unfold upgrade migrate
  rw [validateSchema_storeDatabase hlow (by omega), hscript]
  show (validateSchema 5 (storeDatabase 5 c') >>= fun _ => _) = _
  rw [validateSchema_storeDatabase (by omega) (by omega)]
  rfl

theorem upgrade_error {clock : Int} (hlow : 1 ≤ version) (hhigh : version ≤ 4) {message : String}
    (hscript : execBatch clock (storeDatabase version c) (upgradeScript version) =
      .error (.raised message)) :
    upgrade clock version (storeDatabase version c) = .error (.database message) := by
  unfold upgrade migrate
  rw [validateSchema_storeDatabase hlow (by omega), hscript]
  rfl

theorem forall₂_map_of_isPrefix {f : Row → Row} (hf : ∀ row, row <+: f row) :
    List.Forall₂ (fun old new => old <+: new) rows (rows.map f) := by
  rw [forall₂_map_right_iff]
  exact forall₂_same.2 fun row _ => hf row

theorem isPrefix_fill (columns : List Column) (row : Row) : row <+: fill columns row :=
  prefix_append _ _

/-- Opening a store of an earlier version succeeds and keeps every sandbox, operation and event
row in its columns exactly when the store is not of version 1 or has no event. -/
theorem open_preserves_iff (clock userVersion : Int) {version : Nat} (hlow : 1 ≤ version)
    (hhigh : version ≤ 4) {c : Contents} (hc : c.Fits version) :
    (∃ c' : Contents, initializeSchema clock userVersion (storeDatabase version c) =
        .ok (storeDatabase 5 c') ∧ c'.Extends c) ↔
      version ≠ 1 ∨ c.events = [] := by
  rw [initializeSchema_storeDatabase clock userVersion hlow hhigh]
  by_cases hversion : version = 1
  · subst hversion
    -- The script of version 1 starts with the second migration, which decides the outcome.
    have hscript := execBatch_upgrade_one clock hc
    by_cases hevents : c.events = []
    · rw [if_pos hevents] at hscript
      refine iff_of_true ⟨_, upgrade_ok hlow hhigh hscript, ?_, rfl, ?_⟩ (.inr hevents)
      · rw [map_map]
        exact forall₂_map_of_isPrefix fun row =>
          (prefix_append _ _).trans (isPrefix_fill _ _)
      · rw [hevents]
        exact .nil
    · rw [if_neg hevents] at hscript
      refine iff_of_false ?_ (by simpa using hevents)
      rintro ⟨c', hok, -⟩
      rw [upgrade_error hlow hhigh hscript] at hok
      cases hok
  · refine iff_of_true ⟨⟨c.sandboxes.map (fill (laterColumns version)), c.operations, c.events⟩,
      ?_, ?_⟩ (.inl hversion)
    · exact upgrade_ok hlow hhigh (execBatch_later clock version (by omega) hhigh _ _ _)
    · exact ⟨forall₂_map_of_isPrefix (isPrefix_fill _), rfl,
        forall₂_same.2 fun row _ => prefix_refl row⟩

/-- A store of version 1 with one sandbox and the event of its creation. -/
def firstVersionStore : Contents where
  sandboxes :=
    [[("id", .text "demo-0123456789ab"), ("canonical_root", .text "/work/demo"),
      ("desired_state", .text "running"), ("actual_state", .text "running"),
      ("setup_resolution_version", .null), ("setup_resolution_details", .null),
      ("tool_resolution_version", .null), ("tool_resolution_details", .null),
      ("image_resolution_version", .null), ("image_resolution_details", .null)]]
  operations :=
    [[("id", .int 1), ("sandbox_id", .text "demo-0123456789ab"), ("kind", .text "create"),
      ("status", .text "completed"), ("error_code", .null), ("error_details", .null)]]
  events :=
    [[("sequence", .int 1), ("operation_id", .int 1), ("status", .text "pending"),
      ("details", .null)]]

/-- A store of version 1 that ever ran an operation cannot be opened. -/
theorem open_refuses_events :
    firstVersionStore.Fits 1 ∧
      ∀ clock userVersion, initializeSchema clock userVersion (storeDatabase 1 firstVersionStore) =
        .error (.database "operation events are append-only") := by
  have hfits : firstVersionStore.Fits 1 := by
    constructor <;> simp only [firstVersionStore, HasColumns, forall_mem_singleton] <;> rfl
  refine ⟨hfits, fun clock userVersion => ?_⟩
  rw [initializeSchema_storeDatabase clock userVersion (by omega) (by omega)]
  refine upgrade_error (by omega) (by omega) ?_
  rw [execBatch_upgrade_one clock hfits, if_neg]
  simp [firstVersionStore]

/-- Without the event the same store opens and keeps its rows. -/
theorem open_without_events :
    ∃ c' : Contents,
      initializeSchema 0 0 (storeDatabase 1 { firstVersionStore with events := [] }) =
      .ok (storeDatabase 5 c') ∧ c'.Extends { firstVersionStore with events := [] } := by
  refine (open_preserves_iff 0 0 (by omega) (by omega) ?_).2 (.inr rfl)
  constructor <;> simp only [firstVersionStore, HasColumns, forall_mem_singleton] <;>
    first | rfl | simp

/-! ### Opening it again -/

theorem initializeSchema_current (clock userVersion : Int) (c : Contents) :
    initializeSchema clock userVersion (storeDatabase 5 c) = .ok (storeDatabase 5 c) := by
  show (validateSchema 5 (storeDatabase 5 c) >>= fun _ => _) = _
  rw [validateSchema_storeDatabase (by omega) (by omega)]
  rfl

/-- A store of an earlier version that is opened is one of the current version. -/
theorem current_of_initializeSchema {clock userVersion : Int} {version : Nat} (hlow : 1 ≤ version)
    (hhigh : version ≤ 4) {c : Contents} (hc : c.Fits version) {db : Database}
    (h : initializeSchema clock userVersion (storeDatabase version c) = .ok db) :
    ∃ c', db = storeDatabase 5 c' := by
  rw [initializeSchema_storeDatabase clock userVersion hlow hhigh] at h
  by_cases hversion : version = 1
  · subst hversion
    have hscript := execBatch_upgrade_one clock hc
    split_ifs at hscript with hevents
    · exact ⟨_, Except.ok.inj (h.symm.trans (upgrade_ok hlow hhigh hscript))⟩
    · exact nomatch h.symm.trans (upgrade_error hlow hhigh hscript)
  · have hscript := execBatch_later clock version (by omega) hhigh c.sandboxes c.operations c.events
    exact ⟨⟨_, _, _⟩, Except.ok.inj (h.symm.trans (upgrade_ok hlow hhigh hscript))⟩

/-- **A store is migrated once.** Whenever a store of an earlier version was opened, every later
opening succeeds and leaves the database as it is. -/
theorem reopen_unchanged (clock userVersion : Int) {version : Nat} (hlow : 1 ≤ version)
    (hhigh : version ≤ 4) {c : Contents} (hc : c.Fits version) {db : Database}
    (h : initializeSchema clock userVersion (storeDatabase version c) = .ok db)
    (later laterUserVersion : Int) : initializeSchema later laterUserVersion db = .ok db := by
  obtain ⟨c', rfl⟩ := current_of_initializeSchema hlow hhigh hc h
  exact initializeSchema_current later laterUserVersion c'

/-- The store of version 1 without its event. -/
theorem reopen_without_events :
    ∃ db, initializeSchema 0 0 (storeDatabase 1 { firstVersionStore with events := [] }) = .ok db ∧
      initializeSchema 1 0 db = .ok db := by
  have hfits : Contents.Fits { firstVersionStore with events := [] } 1 := by
    constructor <;> simp only [firstVersionStore, HasColumns, forall_mem_singleton] <;>
      first | rfl | simp
  exact ⟨_, rfl, reopen_unchanged 0 0 (by omega) (by omega) hfits rfl 1 0⟩

end Migration

end Gascan
