import EmbeddedSql.Database.Basic

/-! References between tables, and rows that refer to nothing. -/

namespace EmbeddedSql

namespace ForeignKey

/-- The columns that a key refers to; those of the primary key if none are named. -/
def parentColumns? (key : ForeignKey) (parent : Table) : Option (List Nat) :=
  if key.reference.columns.isEmpty then
    if parent.primaryColumns.length = key.columns.length then some parent.primaryColumns
    else none
  else key.reference.columns.mapM parent.columnIndex?

def isUnique (parent : Table) (columns : List Nat) : Bool :=
  parent.rowidColumn.any (fun column => columns = [column]) ||
    parent.uniques.any fun unique => unique.covers columns

private def keyOf (columns : List Nat) (row : Row) : List Value :=
  columns.map fun column => row.values[column]?.getD .null

def refersTo (encoding : TextEncoding) (parent : Table) (columns : List Nat)
    (values : List Value) (row : Row) : Bool :=
  (columns.zip values).all fun (place, value) =>
    match parent.column? place, row.values[place]? with
    | some column, some other =>
        let value := value.withAffinity column.affinity
        value ≠ .null && Value.compare encoding column.collation value other = .eq
    | _, _ => false

def referrers (key : ForeignKey) (encoding : TextEncoding) (child parent : Table)
    (columns : List Nat) (row : Row) : List Row :=
  child.rows.filter fun other =>
    refersTo encoding parent columns (keyOf key.columns other) row

/-- The rows of a child that should refer to a row of the parent but do not. -/
def orphans (key : ForeignKey) (database : Database) (child : Table) : List Row :=
  let parent := (database.table? key.reference.table).bind fun parent =>
    (key.parentColumns? parent).map fun columns => (parent, columns)
  child.rows.filter fun row =>
    let values := keyOf key.columns row
    !values.contains .null &&
      match parent with
      | none => true
      | some (parent, columns) =>
          !parent.rows.any (refersTo database.encoding parent columns values)

end ForeignKey

namespace Database

def foreignKeys (database : Database) : List (Table × ForeignKey) :=
  database.tables.flatMap fun table => table.foreignKeys.map fun key => (table, key)

/-- How often a reference is broken, of those that are looked at later or of those
that are not. -/
def brokenReferences (database : Database) (deferred : Bool) : Nat :=
  (database.foreignKeys.filter fun (_, key) => key.reference.deferred = deferred).foldl
    (fun count (table, key) => count + (key.orphans database table).length) 0

end Database

end EmbeddedSql
