import EmbeddedSql.Sql.Expression

/-! SQL statements as they are written. -/

namespace EmbeddedSql.Sql

/-! ## Changing rows -/

/-- What to do instead of inserting a row that is there already. -/
structure Upsert where
  target : List Bytes := []
  assignments : List (Bytes × Expression) := []
  filter : Option Expression := none

inductive InsertSource where
  | query (query : Select)
  | defaults

structure Insert where
  commonTables : List CommonTable := []
  resolution : Option Resolution := none
  table : ObjectName
  aliasName : Option Bytes := none
  columns : List Bytes := []
  source : InsertSource
  upserts : List Upsert := []
  returning : List ResultColumn := []

structure Update where
  commonTables : List CommonTable := []
  resolution : Option Resolution := none
  table : ObjectName
  aliasName : Option Bytes := none
  assignments : List (Bytes × Expression)
  sources : List Source := []
  filter : Option Expression := none
  returning : List ResultColumn := []

structure Delete where
  commonTables : List CommonTable := []
  table : ObjectName
  aliasName : Option Bytes := none
  filter : Option Expression := none
  returning : List ResultColumn := []

/-! ## Defining tables -/

inductive ReferenceAction where
  | noAction
  | restrict
  | setNull
  | setDefault
  | cascade
deriving DecidableEq, Repr

structure Reference where
  table : Bytes
  columns : List Bytes := []
  onDelete : ReferenceAction := .noAction
  onUpdate : ReferenceAction := .noAction
  deferred : Bool := false
deriving DecidableEq, Repr

inductive ColumnConstraint where
  | primaryKey (descending : Bool) (resolution : Option Resolution) (autoincrement : Bool)
  | notNull (resolution : Option Resolution)
  | unique (resolution : Option Resolution)
  | check (name : Option Bytes) (condition : Expression) (written : Bytes)
  | default (value : Expression) (written : Bytes)
  | collate (collation : Bytes)
  | references (reference : Reference)
  | generated (value : Expression) (stored : Bool)

structure ColumnDefinition where
  name : Bytes
  type : Bytes := []
  constraints : List ColumnConstraint := []

structure KeyColumn where
  name : Bytes
  collation : Option Bytes := none
  descending : Bool := false
deriving DecidableEq, Repr

inductive TableConstraint where
  | primaryKey (columns : List KeyColumn) (resolution : Option Resolution) (autoincrement : Bool)
  | unique (columns : List KeyColumn) (resolution : Option Resolution)
  | check (name : Option Bytes) (condition : Expression) (written : Bytes)
  | foreignKey (columns : List Bytes) (reference : Reference)

inductive TableBody where
  | columns (columns : List ColumnDefinition) (constraints : List TableConstraint)
      (withoutRowid strict : Bool)
  | query (query : Select)

/-! A definition is also kept as it is written, from the name on, because that is
what the schema table shows. -/

structure CreateTable where
  temporary : Bool := false
  ifNotExists : Bool := false
  name : ObjectName
  body : TableBody
  written : Bytes := []
  /-- Where in the written text further columns can be put in. -/
  columnsEnd : Nat := 0

structure IndexColumn where
  expression : Expression
  descending : Bool := false

structure CreateIndex where
  unique : Bool := false
  ifNotExists : Bool := false
  name : ObjectName
  table : Bytes
  columns : List IndexColumn
  filter : Option Expression := none
  written : Bytes := []

structure CreateView where
  temporary : Bool := false
  ifNotExists : Bool := false
  name : ObjectName
  columns : List Bytes := []
  query : Select
  written : Bytes := []

/-! ## Triggers -/

inductive TriggerTime where
  | before
  | after
  | insteadOf
deriving DecidableEq, Repr

inductive TriggerEvent where
  | insert
  | delete
  | update (columns : List Bytes)
deriving DecidableEq, Repr

inductive TriggerStep where
  | select (query : Select)
  | insert (insert : Insert)
  | update (update : Update)
  | delete (delete : Delete)

structure CreateTrigger where
  temporary : Bool := false
  ifNotExists : Bool := false
  name : ObjectName
  time : TriggerTime
  event : TriggerEvent
  table : ObjectName
  condition : Option Expression := none
  steps : List TriggerStep
  written : Bytes := []

/-! ## All statements -/

inductive ObjectKind where
  | table
  | index
  | view
  | trigger
deriving DecidableEq, Repr

inductive TransactionKind where
  | deferred
  | immediate
  | exclusive
deriving DecidableEq, Repr

inductive AlterAction where
  | renameTable (name : Bytes)
  | renameColumn (column name : Bytes)
  | addColumn (column : ColumnDefinition) (written : Bytes)
  | dropColumn (column : Bytes)

inductive Statement where
  | select (query : Select)
  | insert (insert : Insert)
  | update (update : Update)
  | delete (delete : Delete)
  | createTable (table : CreateTable)
  | createIndex (index : CreateIndex)
  | createView (view : CreateView)
  | createTrigger (trigger : CreateTrigger)
  | drop (kind : ObjectKind) (ifExists : Bool) (name : ObjectName)
  | alter (table : ObjectName) (action : AlterAction)
  | begin (kind : TransactionKind)
  | commit
  | rollback
  | savepoint (name : Bytes)
  | release (name : Bytes)
  | rollbackTo (name : Bytes)
  /-- The value as it is written after an equals sign or in parentheses. -/
  | pragma (database : Option Bytes) (name : Bytes) (value : Option Bytes)
  | vacuum
  | maintain

end EmbeddedSql.Sql
