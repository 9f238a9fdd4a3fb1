import EmbeddedSql.Sql.Statement
import EmbeddedSql.Value.Order

/-! Tables: their columns and rules, and the rows that they hold. -/

namespace EmbeddedSql

structure Column where
  name : Bytes
  type : Bytes := []
  affinity : Affinity := .blob
  collation : Collation := .binary
  /-- Nulls are refused in the way given. -/
  notNull : Option Sql.Resolution := none
  default : Option Sql.Expression := none
  defaultText : Option Bytes := none
  generated : Option Sql.Expression := none

/-- Columns whose values no two rows share, unless one of them is null. -/
structure UniqueKey where
  columns : List Nat
  collations : List Collation
  resolution : Sql.Resolution := .abort
  isPrimary : Bool := false
  /-- The index that keeps the key, unless the rows themselves do. -/
  index : Option Bytes := none
deriving DecidableEq, Repr

def UniqueKey.covers (key : UniqueKey) (columns : List Nat) : Bool :=
  key.columns.length = columns.length && columns.all key.columns.contains

structure Check where
  condition : Sql.Expression
  label : Bytes

structure ForeignKey where
  columns : List Nat
  reference : Sql.Reference
deriving DecidableEq, Repr

structure Row where
  rowid : Int64
  values : List Value
deriving DecidableEq, Repr, Inhabited

structure Table where
  name : Bytes
  columns : List Column
  /-- The column that is another name for the row number. -/
  rowidColumn : Option Nat := none
  rowidResolution : Sql.Resolution := .abort
  /-- Rows are kept in the order of the primary key and have no visible number. -/
  withoutRowid : Bool := false
  autoincrement : Bool := false
  strict : Bool := false
  uniques : List UniqueKey := []
  checks : List Check := []
  foreignKeys : List ForeignKey := []
  written : Bytes := []
  columnsEnd : Nat := 0
  rows : List Row := []

namespace Table

def columnIndex? (table : Table) (name : Bytes) : Option Nat :=
  table.columns.findIdx? fun column => Bytes.sameName column.name name

def column? (table : Table) (index : Nat) : Option Column :=
  table.columns[index]?

/-! ## Rows -/

def row? (table : Table) (rowid : Int64) : Option Row :=
  table.rows.find? (·.rowid = rowid)

def largestRowid? (table : Table) : Option Int64 :=
  (table.rows.map (·.rowid)).foldl (fun largest rowid =>
    some (match largest with
      | some largest => max largest rowid
      | none => rowid)) none

private def freeRowid (table : Table) : (left : Nat) → Int64 → Int64
  | 0, rowid => rowid
  | left + 1, rowid =>
      if (table.row? rowid).isSome then freeRowid table left (rowid + 1) else rowid

/-- The number after the largest one, or any free one if there is none after it. -/
def nextRowid (table : Table) : Int64 :=
  match table.largestRowid? with
  | none => 1
  | some largest =>
      if largest < Int64.maxValue then largest + 1
      else freeRowid table table.rows.length 1

private def compareKeys (encoding : TextEncoding) :
    List Collation → List Value → List Value → Ordering
  | collation :: collations, left :: lefts, right :: rights =>
      (Value.compare encoding collation left right).then
        (compareKeys encoding collations lefts rights)
  | _, _, _ => .eq

def keyValues (key : UniqueKey) (values : List Value) : List Value :=
  key.columns.map fun column => values[column]?.getD .null

private def primaryKey? (table : Table) : Option UniqueKey :=
  table.uniques.find? (·.isPrimary)

def isBefore (table : Table) (encoding : TextEncoding) (left right : Row) : Bool :=
  match table.withoutRowid, table.primaryKey? with
  | true, some key =>
      compareKeys encoding key.collations (keyValues key left.values)
        (keyValues key right.values) = .lt
  | _, _ => left.rowid < right.rowid

private def insertSorted (isBefore : Row → Row → Bool) (row : Row) : List Row → List Row
  | [] => [row]
  | other :: rest =>
      if isBefore row other then row :: other :: rest
      else other :: insertSorted isBefore row rest

def insertRow (table : Table) (encoding : TextEncoding) (row : Row) : Table :=
  { table with rows := insertSorted (table.isBefore encoding) row table.rows }

def eraseRow (table : Table) (rowid : Int64) : Table :=
  { table with rows := table.rows.filter (·.rowid ≠ rowid) }

/-! ## Keys that other tables refer to -/

def primaryColumns (table : Table) : List Nat :=
  match table.rowidColumn, table.primaryKey? with
  | some column, _ => [column]
  | none, some key => key.columns
  | none, none => []

end Table

end EmbeddedSql
