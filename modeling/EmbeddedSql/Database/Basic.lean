import EmbeddedSql.Database.Table

/-! A database: its tables with their rows, and whatever else is defined in it. -/

namespace EmbeddedSql

structure Index where
  name : Bytes
  table : Bytes
  columns : List Sql.IndexColumn
  unique : Bool
  filter : Option Sql.Expression := none
  written : Bytes

structure View where
  name : Bytes
  columns : List Bytes
  query : Sql.Select
  written : Bytes

structure Trigger where
  name : Bytes
  table : Bytes
  time : Sql.TriggerTime
  event : Sql.TriggerEvent
  condition : Option Sql.Expression
  steps : List Sql.TriggerStep
  written : Bytes

inductive SchemaObject where
  | table (table : Table)
  | index (index : Index)
  | view (view : View)
  | trigger (trigger : Trigger)

structure SchemaEntry where
  /-- The first page of what the object stores. -/
  page : Nat
  object : SchemaObject

structure Database where
  encoding : TextEncoding := .utf8
  entries : List SchemaEntry := []
  nextPage : Nat := 2
  /-- Grows with every change of the schema. -/
  schemaVersion : Nat := 0
  userVersion : Int := 0
  applicationId : Int := 0

namespace Database

/-! ## Finding objects -/

def tables (database : Database) : List Table :=
  database.entries.filterMap fun entry =>
    match entry.object with
    | .table table => some table
    | _ => none

def indexes (database : Database) : List Index :=
  database.entries.filterMap fun entry =>
    match entry.object with
    | .index index => some index
    | _ => none

def views (database : Database) : List View :=
  database.entries.filterMap fun entry =>
    match entry.object with
    | .view view => some view
    | _ => none

def triggers (database : Database) : List Trigger :=
  database.entries.filterMap fun entry =>
    match entry.object with
    | .trigger trigger => some trigger
    | _ => none

def table? (database : Database) (name : Bytes) : Option Table :=
  database.tables.find? fun table => Bytes.sameName table.name name

def index? (database : Database) (name : Bytes) : Option Index :=
  database.indexes.find? fun index => Bytes.sameName index.name name

def view? (database : Database) (name : Bytes) : Option View :=
  database.views.find? fun view => Bytes.sameName view.name name

def trigger? (database : Database) (name : Bytes) : Option Trigger :=
  database.triggers.find? fun trigger => Bytes.sameName trigger.name name

def triggersOf (database : Database) (table : Bytes) : List Trigger :=
  (database.triggers.filter fun trigger => Bytes.sameName trigger.table table).reverse

def indexesOf (database : Database) (table : Bytes) : List Index :=
  database.indexes.filter fun index => Bytes.sameName index.table table

/-! ## Changing objects -/

def mapTables (database : Database) (change : Table → Table) : Database :=
  { database with
    entries := database.entries.map fun entry =>
      match entry.object with
      | .table table => { entry with object := .table (change table) }
      | _ => entry }

def setTable (database : Database) (table : Table) : Database :=
  database.mapTables fun other =>
    if Bytes.sameName other.name table.name then table else other

private def automaticIndexes (table : Table) : Nat :=
  (table.uniques.filter (·.index.isSome)).length

def changeSchema (database : Database) : Database :=
  { database with schemaVersion := database.schemaVersion + 1 }

/-- Adds an object; a table takes further rows of the schema table for the indexes
that come with it. -/
def addObject (database : Database) (object : SchemaObject) : Database :=
  let pages :=
    match object with
    | .table table => 1 + automaticIndexes table
    | .index _ => 1
    | _ => 0
  { database.changeSchema with
    entries := database.entries ++
      [{ page := if pages = 0 then 0 else database.nextPage, object }]
    nextPage := database.nextPage + pages }

def removeObjects (database : Database) (isRemoved : SchemaObject → Bool) : Database :=
  { database.changeSchema with
    entries := database.entries.filter fun entry => !isRemoved entry.object }

/-! ## Row numbers that are not used again

The largest row number that an autoincrementing table ever had is kept in a table of
its own. -/

def sequenceTable : Bytes := Bytes.ofAscii "sqlite_sequence"

private def isSequenceOf (table : Bytes) (row : Row) : Bool :=
  match row.values with
  | .text name :: _ => Bytes.sameName name table
  | _ => false

def sequence (database : Database) (table : Bytes) : Int64 :=
  let row? := (database.table? sequenceTable).bind fun sequences =>
    sequences.rows.find? (isSequenceOf table)
  (row?.bind fun row => row.values[1]?).elim 0 Value.toInt64

def setSequence (database : Database) (table : Bytes) (sequence : Int64) : Database :=
  match database.table? sequenceTable with
  | none => database
  | some sequences =>
      let rowid :=
        ((sequences.rows.find? (isSequenceOf table)).map (·.rowid)).getD sequences.nextRowid
      database.setTable <| (sequences.eraseRow rowid).insertRow database.encoding
        { rowid, values := [.text table, .integer sequence] }

def dropSequence (database : Database) (table : Bytes) : Database :=
  match database.table? sequenceTable with
  | none => database
  | some sequences =>
      database.setTable
        { sequences with rows := sequences.rows.filter fun row => !isSequenceOf table row }

/-! ## The schema as a table -/

namespace SchemaTable

def columnNames : List String :=
  ["type", "name", "tbl_name", "rootpage", "sql"]

def isName (name : Bytes) : Bool :=
  Bytes.sameName name (Bytes.ofAscii "sqlite_master") ||
    Bytes.sameName name (Bytes.ofAscii "sqlite_schema")

private def line (type : String) (name table : Bytes) (page : Nat) (sql : Value) : List Value :=
  [.text (Bytes.ofAscii type), .text name, .text table, .integer (Int64.ofNat page), sql]

private def ofEntry (entry : SchemaEntry) : List (List Value) :=
  match entry.object with
  | .table table =>
      let automatic := table.uniques.filterMap (·.index)
      line "table" table.name table.name entry.page (.text table.written) ::
        automatic.zipIdx.map fun (index, place) =>
          line "index" index table.name (entry.page + 1 + place) .null
  | .index index => [line "index" index.name index.table entry.page (.text index.written)]
  | .view view => [line "view" view.name view.name 0 (.text view.written)]
  | .trigger trigger => [line "trigger" trigger.name trigger.table 0 (.text trigger.written)]

def rows (database : Database) : List Row :=
  (database.entries.flatMap ofEntry).zipIdx.map fun (values, place) =>
    { rowid := Int64.ofNat (place + 1), values }

end SchemaTable

end Database

end EmbeddedSql
