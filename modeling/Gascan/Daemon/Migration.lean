import Gascan.Daemon.Store
import Gascan.Lib.Sql

/-!
# `Gascan.Daemon.Migration`: the schema of the store and its migrations

The five migration scripts of the store, the checks of the schema of each version, and
`initializeSchema`, which `Store::open` runs: it creates the schema in an empty database, migrates
the schema of an earlier version in one transaction, and refuses everything else. Objects that
SQLite makes itself (`sqlite_sequence`, indexes of constraints) are left out.
-/

namespace Gascan

open Lib Lib.Sql

namespace Migration

/-! ### The scripts -/

def schemaVersionColumns : List Column :=
  [{ name := "singleton", type := .integer, notNull := true, primaryKey := true
     check := some (.equals (.int 1)) },
   { name := "version", type := .integer, notNull := true }]

def sandboxColumns : List Column :=
  [{ name := "id", type := .text, notNull := true, primaryKey := true },
   { name := "canonical_root", type := .text, notNull := true, unique := true },
   { name := "desired_state", type := .text, notNull := true },
   { name := "actual_state", type := .text, notNull := true },
   { name := "setup_resolution_version", type := .integer },
   { name := "setup_resolution_details", type := .text },
   { name := "tool_resolution_version", type := .integer },
   { name := "tool_resolution_details", type := .text },
   { name := "image_resolution_version", type := .integer },
   { name := "image_resolution_details", type := .text }]

def operationColumns : List Column :=
  [{ name := "id", type := .integer, primaryKey := true },
   { name := "sandbox_id", type := .text, notNull := true, references := some ("sandboxes", "id") },
   { name := "kind", type := .text, notNull := true },
   { name := "status", type := .text, notNull := true },
   { name := "error_code", type := .text },
   { name := "error_details", type := .text }]

def operationEventColumns : List Column :=
  [{ name := "sequence", type := .integer, primaryKey := true },
   { name := "operation_id", type := .integer, notNull := true
     references := some ("operations", "id") },
   { name := "status", type := .text, notNull := true },
   { name := "details", type := .text }]

def onePendingOperationPerSandbox : Index :=
  { name := "one_pending_operation_per_sandbox", table := "operations", columns := ["sandbox_id"]
    condition := some ("status", .text "pending") }

/-- The triggers that keep the event log append-only. -/
def appendOnly (name : String) (event : TriggerEvent) : Trigger :=
  ⟨name, event, "operation_events", "operation events are append-only"⟩

/-- The last statement of every later script. -/
def setVersion (version : Int) : Statement :=
  .update "schema_version" "version" (.literal (.int version)) (some ("singleton", .int 1))

/-- `001_initial.sql`. -/
def initialMigration : List Statement :=
  [.createTable "schema_version" schemaVersionColumns,
   .insert "schema_version" [("singleton", .int 1), ("version", .int 1)],
   .createTable "sandboxes" sandboxColumns,
   .createTable "operations" operationColumns,
   .createTable "operation_events" operationEventColumns,
   .createUniqueIndex onePendingOperationPerSandbox,
   .createTrigger (appendOnly "operation_events_no_update" .beforeUpdate),
   .createTrigger (appendOnly "operation_events_no_delete" .beforeDelete)]

def updatedAtMillis : Column :=
  { name := "updated_at_millis", type := .integer, notNull := true, default := .int 0 }

def errorCode : Column := { name := "error_code", type := .text }

def timestampMillis : Column :=
  { name := "timestamp_millis", type := .integer, notNull := true, default := .int 0 }

/-- `002_durable_metadata.sql`. -/
def durableMetadataMigration : List Statement :=
  [.addColumn "sandboxes" updatedAtMillis,
   .update "sandboxes" "updated_at_millis" (.unixepoch 1000) none,
   .addColumn "operation_events" errorCode,
   .addColumn "operation_events" timestampMillis,
   .update "operation_events" "timestamp_millis" (.unixepoch 1000) none,
   setVersion 2]

def storageResolutionColumns : List Column :=
  [{ name := "storage_resolution_version", type := .integer },
   { name := "storage_resolution_details", type := .text }]

def sshResolutionColumns : List Column :=
  [{ name := "ssh_resolution_version", type := .integer },
   { name := "ssh_resolution_details", type := .text }]

def sshTransportColumns : List Column :=
  [{ name := "ssh_transport_enabled", type := .integer
     check := some (.nullOrIn [.int 0, .int 1]) },
   { name := "ssh_transport_host_port", type := .integer
     check := some (.nullOrBetween 1024 65535) }]

/-- The form of the later scripts: columns for the sandboxes, and the version. -/
def sandboxColumnMigration (columns : List Column) (version : Int) : List Statement :=
  columns.map (.addColumn "sandboxes") ++ [setVersion version]

/-- `003_storage_resolution.sql`. -/
def storageResolutionMigration : List Statement :=
  sandboxColumnMigration storageResolutionColumns 3

/-- `004_ssh_resolution.sql`. -/
def sshResolutionMigration : List Statement := sandboxColumnMigration sshResolutionColumns 4

/-- `005_ssh_transport_policy.sql`. -/
def sshTransportPolicyMigration : List Statement := sandboxColumnMigration sshTransportColumns 5

/-! ### The checks -/

/-- What `pragma_table_info` reports of a column. -/
def columnInfo (column : Column) : String × ColumnType × Bool × Bool :=
  (column.name, column.type, column.notNull, column.primaryKey)

/-- The columns of a table, none when there is no such table. -/
def columnsOf (db : Database) (table : String) : List Column :=
  ((db.table? table).map (·.columns)).getD []

/-- `validate_table_columns`. -/
def validateTableColumns (db : Database) (table : String) (expected : List Column) :
    Except StoreError Unit :=
  if (columnsOf db table).map columnInfo = expected.map columnInfo then .ok ()
  else .error (.schemaMismatch ("table " ++ table ++ " has unexpected columns"))

/-- What `pragma_foreign_key_list` reports of a column. No key of the schema has an action. -/
def foreignKeys (columns : List Column) : List (String × String × String) :=
  columns.filterMap fun column => column.references.map fun (table, target) =>
    (table, column.name, target)

/-- `validate_foreign_keys`. -/
def validateForeignKeys (db : Database) (table : String)
    (expected : List (String × String × String)) : Except StoreError Unit :=
  if foreignKeys (columnsOf db table) = expected then .ok ()
  else .error (.schemaMismatch ("table " ++ table ++ " has an unexpected foreign key set"))

/-- `validate_unique_index` for the constraint of a column. -/
def validateUniqueColumn (db : Database) (table column : String) : Except StoreError Unit :=
  if (columnsOf db table).any fun c => c.name = column && c.unique then .ok ()
  else .error (.schemaMismatch ("table " ++ table ++ " is missing a required unique index"))

/-- `validate_unique_index` for a named partial index. -/
def validateUniqueIndex (db : Database) (index : Index) : Except StoreError Unit :=
  if db.indexes.contains index then .ok ()
  else .error (.schemaMismatch ("table " ++ index.table ++ " is missing a required unique index"))

/-- `validate_trigger`. -/
def validateTrigger (db : Database) (name : String) (event : TriggerEvent) :
    Except StoreError Unit :=
  if db.triggers.find? (·.name = name) = some (appendOnly name event) then .ok ()
  else .error (.schemaMismatch ("missing or malformed trigger " ++ name))

/-- The user objects of a schema: their type, name and table. -/
def userObjects (db : Database) : List (String × String × String) :=
  db.tables.map (fun table => ("table", table.name, table.name)) ++
    db.indexes.map (fun index => ("index", index.name, index.table)) ++
    db.triggers.map fun trigger => ("trigger", trigger.name, trigger.table)

/-- `validate_schema_inventory`. The source sorts both lists before it compares them. -/
def validateSchemaInventory (db : Database) : Except StoreError Unit :=
  let expected :=
    [("table", "schema_version", "schema_version"), ("table", "sandboxes", "sandboxes"),
     ("table", "operations", "operations"), ("table", "operation_events", "operation_events"),
     ("index", "one_pending_operation_per_sandbox", "operations"),
     ("trigger", "operation_events_no_update", "operation_events"),
     ("trigger", "operation_events_no_delete", "operation_events")]
  if (userObjects db).isPerm expected then .ok ()
  else .error (.schemaMismatch "sqlite_master contains unexpected or missing user objects")

/-- `validate_operations_and_constraints`. -/
def validateOperationsAndConstraints (db : Database) : Except StoreError Unit := do
  validateTableColumns db "operations" operationColumns
  validateForeignKeys db "sandboxes" []
  validateForeignKeys db "operations" [("sandboxes", "sandbox_id", "id")]
  validateForeignKeys db "operation_events" [("operations", "operation_id", "id")]
  validateUniqueColumn db "sandboxes" "canonical_root"
  validateUniqueIndex db onePendingOperationPerSandbox
  validateTrigger db "operation_events_no_update" .beforeUpdate
  validateTrigger db "operation_events_no_delete" .beforeDelete

/-- The columns that the `sandboxes` table has in a version. -/
def sandboxColumnsOf (version : Nat) : List Column :=
  sandboxColumns ++ (if 2 ≤ version then [updatedAtMillis] else []) ++
    (if 3 ≤ version then storageResolutionColumns else []) ++
    (if 4 ≤ version then sshResolutionColumns else []) ++
    (if 5 ≤ version then sshTransportColumns else [])

/-- The columns that the `operation_events` table has in a version. -/
def operationEventColumnsOf (version : Nat) : List Column :=
  operationEventColumns ++ if 2 ≤ version then [errorCode, timestampMillis] else []

/-- `validate_v1_schema` to `validate_v5_schema`. -/
def validateSchema (version : Nat) (db : Database) : Except StoreError Unit := do
  validateSchemaInventory db
  validateTableColumns db "sandboxes" (sandboxColumnsOf version)
  validateTableColumns db "operation_events" (operationEventColumnsOf version)
  validateOperationsAndConstraints db

/-! ### Opening a store -/

/-- A script in a transaction. -/
def migrate (clock : Int) (db : Database) (script : List Statement) : Except StoreError Database :=
  (execBatch clock db script).mapError fun
    | .raised message => .database message
    | .exists name => .database ("table " ++ name ++ " already exists")
    | .missing name => .database ("no such table: " ++ name)
    | .duplicateColumn name => .database ("duplicate column name: " ++ name)
    | .constraint name => .database ("constraint failed: " ++ name)

/-- The scripts that lead from a version to the current one. -/
def upgradeScript : Nat → List Statement
  | 1 => durableMetadataMigration ++ storageResolutionMigration ++ sshResolutionMigration ++
    sshTransportPolicyMigration
  | 2 => storageResolutionMigration ++ sshResolutionMigration ++ sshTransportPolicyMigration
  | 3 => sshResolutionMigration ++ sshTransportPolicyMigration
  | 4 => sshTransportPolicyMigration
  | _ => []

/-- The version that the one row of `schema_version` holds. -/
def recordedVersion (table : Relation) : Except StoreError Int :=
  if (table.columns.map columnInfo) ≠ schemaVersionColumns.map columnInfo then
    .error (.schemaMismatch "table schema_version has unexpected columns")
  else if table.columns ≠ schemaVersionColumns then
    .error (.schemaMismatch "schema_version must enforce its singleton row")
  else
    match table.rows with
    | [row] =>
      if row.lookup "singleton" ≠ some (.int 1) then
        .error (.schemaMismatch "schema_version singleton must equal 1")
      else
        match row.lookup "version" with
        | some (.int version) => .ok version
        | _ => .error (.schemaMismatch "Invalid column type at index: 1, name: version")
    | _ => .error (.schemaMismatch "schema_version must contain exactly one row")

/-- Checks the schema of a version, migrates it and checks the result. -/
def upgrade (clock : Int) (version : Nat) (db : Database) : Except StoreError Database := do
  validateSchema version db
  let db ← migrate clock db (upgradeScript version)
  validateSchema 5 db
  return db

/-- Creates the schema in an empty database. -/
def createSchema (clock : Int) (userVersion : Int) (db : Database) :
    Except StoreError Database := do
  if !(userObjects db).isEmpty || userVersion ≠ 0 then .error .unknownSchema
  else
    let db ← migrate clock db (initialMigration ++ upgradeScript 1)
    validateSchema 5 db
    return db

/-- `initialize_schema`. -/
def initializeSchema (clock : Int) (userVersion : Int) (db : Database) :
    Except StoreError Database :=
  match db.table? "schema_version" with
  | none => createSchema clock userVersion db
  | some table =>
    match recordedVersion table with
    | .error error => .error error
    | .ok 1 => upgrade clock 1 db
    | .ok 2 => upgrade clock 2 db
    | .ok 3 => upgrade clock 3 db
    | .ok 4 => upgrade clock 4 db
    | .ok 5 => do
      validateSchema 5 db
      return db
    | .ok version => .error (.unsupportedSchemaVersion version)

end Migration

end Gascan
