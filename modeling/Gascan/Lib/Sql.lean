import Gascan.Lib.Table
import Gascan.Lib.Result

/-!
# `Gascan.Lib.Sql`: a small relational database

Tables with typed columns, partial unique indexes and triggers, and the statements that a schema
migration is made of. A row is the list of its columns with their values, in the order of the
table. `exec` is one statement, `execBatch` a script that stops at the first error and then returns
no database.

`ALTER TABLE … ADD COLUMN` gives every row the default of the column. `UPDATE` fires the `BEFORE
UPDATE` triggers of its table for each row that it changes, and a trigger raises its message.
-/

namespace Gascan.Lib.Sql

inductive Value where
  | null
  | int (value : Int)
  | text (value : String)
  deriving DecidableEq, Repr

inductive ColumnType where
  | integer
  | text
  deriving DecidableEq, Repr

/-- The `CHECK` constraint of a column. -/
inductive Check where
  | equals (value : Value)
  | nullOrIn (values : List Value)
  | nullOrBetween (low high : Int)
  deriving DecidableEq, Repr

/-- Whether a value passes a constraint. -/
def Check.holds : Check → Value → Bool
  | .equals expected, value => value = expected
  | .nullOrIn values, value => value = .null || values.contains value
  | .nullOrBetween _ _, .null => true
  | .nullOrBetween low high, .int value => low ≤ value && value ≤ high
  | .nullOrBetween _ _, .text _ => false

structure Column where
  name : String
  type : ColumnType
  notNull : Bool := false
  primaryKey : Bool := false
  unique : Bool := false
  default : Value := .null
  check : Option Check := none
  references : Option (String × String) := none
  deriving DecidableEq, Repr

/-- Whether a value passes the constraint of a column. -/
def Column.passes (column : Column) (value : Value) : Bool := column.check.all (·.holds value)

/-- Whether a column can hold a value. -/
def Column.accepts (column : Column) (value : Value) : Bool :=
  (!column.notNull || value ≠ .null) && column.passes value

abbrev Row := List (String × Value)

/-- The row with a new value in a column. -/
def Row.set (name : String) (value : Value) (row : Row) : Row :=
  row.map fun cell => if cell.1 = name then (name, value) else cell

structure Relation where
  name : String
  columns : List Column
  rows : List Row := []
  deriving DecidableEq, Repr

/-- A unique index. `condition` makes it partial. -/
structure Index where
  name : String
  table : String
  columns : List String
  condition : Option (String × Value) := none
  deriving DecidableEq, Repr

inductive TriggerEvent where
  | beforeUpdate
  | beforeDelete
  deriving DecidableEq, Repr

/-- A trigger that raises an error. -/
structure Trigger where
  name : String
  event : TriggerEvent
  table : String
  message : String
  deriving DecidableEq, Repr

structure Database where
  tables : List Relation := []
  indexes : List Index := []
  triggers : List Trigger := []
  deriving DecidableEq, Repr

/-- A value in a statement: a literal, or a multiple of the current time in seconds. -/
inductive Expr where
  | literal (value : Value)
  | unixepoch (factor : Int)

/-- The value of an expression at a time. -/
def Expr.eval (clock : Int) : Expr → Value
  | .literal value => value
  | .unixepoch factor => .int (clock * factor)

inductive Statement where
  | createTable (name : String) (columns : List Column)
  | createUniqueIndex (index : Index)
  | createTrigger (trigger : Trigger)
  | insert (table : String) (row : Row)
  | addColumn (table : String) (column : Column)
  | update (table column : String) (value : Expr) (condition : Option (String × Value))

inductive SqlError where
  | exists (name : String)
  | missing (name : String)
  | duplicateColumn (name : String)
  | constraint (name : String)
  | raised (message : String)
  deriving DecidableEq, Repr

namespace Database

/-- The table with the given name. -/
def table? (db : Database) (name : String) : Option Relation :=
  Table.lookup Relation.name name db.tables

/-- Changes a table. -/
def updateTable (db : Database) (name : String) (f : Relation → Relation) : Database :=
  { db with tables := Table.update Relation.name name f db.tables }

/-- The trigger that an update of a table fires. -/
def updateTrigger? (db : Database) (table : String) : Option Trigger :=
  db.triggers.find? fun trigger => trigger.event = .beforeUpdate && trigger.table = table

end Database

/-- Whether a row meets the condition of a statement. -/
def Row.meets (condition : Option (String × Value)) (row : Row) : Bool :=
  condition.all row.contains

/-- `ALTER TABLE … ADD COLUMN` on a table. -/
def Relation.addColumn (column : Column) (table : Relation) : Relation :=
  { table with
    columns := table.columns ++ [column]
    rows := table.rows.map (· ++ [(column.name, column.default)]) }

/-- `UPDATE` of a column of a table. -/
def Relation.update (column : String) (value : Value) (condition : Option (String × Value))
    (table : Relation) : Relation :=
  { table with
    rows := table.rows.map fun row => if row.meets condition then row.set column value else row }

/-- Whether a table has a column that accepts a value. -/
def Relation.admits (table : Relation) (column : String) (value : Value) : Bool :=
  table.columns.any fun c => c.name = column && c.accepts value

/-- One statement at a time. -/
def exec (clock : Int) (db : Database) : Statement → Except SqlError Database
  | .createTable name columns =>
    if (db.table? name).isSome then .error (.exists name)
    else .ok { db with tables := db.tables ++ [⟨name, columns, []⟩] }
  | .createUniqueIndex index => .ok { db with indexes := db.indexes ++ [index] }
  | .createTrigger trigger => .ok { db with triggers := db.triggers ++ [trigger] }
  | .insert name row =>
    match db.table? name with
    | none => .error (.missing name)
    | some table =>
      if row.all fun cell => table.admits cell.1 cell.2 then
        .ok (db.updateTable name fun table => { table with rows := table.rows ++ [row] })
      else .error (.constraint name)
  | .addColumn name column =>
    match db.table? name with
    | none => .error (.missing name)
    | some table =>
      if table.columns.any (·.name = column.name) then .error (.duplicateColumn column.name)
      else if column.notNull && column.default = .null then .error (.constraint column.name)
      else if column.passes column.default || table.rows.isEmpty then
        .ok (db.updateTable name (·.addColumn column))
      else .error (.constraint column.name)
  | .update name column value condition =>
    match db.table? name with
    | none => .error (.missing name)
    | some table =>
      if !table.columns.any (·.name = column) then .error (.missing column)
      else if (table.rows.filter (·.meets condition)).isEmpty then .ok db
      else
        match db.updateTrigger? name with
        | some trigger => .error (.raised trigger.message)
        | none =>
          if table.admits column (value.eval clock) then
            .ok (db.updateTable name (·.update column (value.eval clock) condition))
          else .error (.constraint column)

/-- A script. -/
def execBatch (clock : Int) (db : Database) : List Statement → Except SqlError Database
  | [] => .ok db
  | statement :: rest => do
    let db ← exec clock db statement
    execBatch clock db rest

end Gascan.Lib.Sql
