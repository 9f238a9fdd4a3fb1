import EmbeddedSql.Plan.Environment

/-! What names stand for. A query sees its own sources first and then those of the
queries around it. -/

namespace EmbeddedSql.Plan

structure ColumnInfo where
  name : Bytes
  affinity : Option Affinity := none
  collation : Collation := .binary
  isMerged : Bool := false
deriving DecidableEq, Repr

structure ScopeSource where
  name : Bytes
  columns : List ColumnInfo
  hasRowid : Bool := false
  rowidColumn : Option Nat := none
  /-- Columns are only found with the name of the source before them. -/
  isQualifiedOnly : Bool := false
deriving DecidableEq, Repr

structure Scope where
  sources : List ScopeSource := []
  aliases : List (Bytes × Sql.Expression) := []

inductive Reference where
  | column (depth source column : Nat) (info : ColumnInfo)
  | rowid (depth source : Nat) (name : Bytes)
  | result (depth : Nat) (expression : Sql.Expression)

inductive LookUp where
  | found (reference : Reference)
  | ambiguous
  | missing

namespace ScopeSource

def ofTable (name : Bytes) (table : Table) : ScopeSource where
  name := name
  columns := table.columns.map fun column =>
    { name := column.name, affinity := some column.affinity, collation := column.collation }
  hasRowid := !table.withoutRowid
  rowidColumn := table.rowidColumn

end ScopeSource

namespace Scope

def isRowidName (name : Bytes) : Bool :=
  ["rowid", "_rowid_", "oid"].any fun rowid => Bytes.sameName (Bytes.ofAscii rowid) name

private def columnsNamed (source : ScopeSource) (name : Bytes) : List (Nat × ColumnInfo) :=
  (source.columns.zipIdx.filter fun (info, _) => Bytes.sameName info.name name).map
    fun (info, place) => (place, info)

private def lookUpIn (scope : Scope) (depth : Nat) (table : Option Bytes) (name : Bytes) :
    LookUp :=
  let sources := scope.sources.zipIdx.filter fun (source, _) =>
    match table with
    | some table => Bytes.sameName source.name table
    | none => !source.isQualifiedOnly
  let columns := sources.flatMap fun (source, place) =>
    (columnsNamed source name).take 1 |>.map fun (column, info) => (place, column, info)
  let columns :=
    if table.isNone then columns.filter fun (_, _, info) => !info.isMerged else columns
  match columns, sources with
  | [(source, column, info)], _ => .found (.column depth source column info)
  | _ :: _ :: _, _ => .ambiguous
  | [], [(source, place)] =>
      if source.hasRowid && isRowidName name then
        let name :=
          ((source.rowidColumn.bind fun column => source.columns[column]?).map (·.name)).getD
            (Bytes.ofAscii "rowid")
        .found (.rowid depth place name)
      else .missing
  | [], _ => .missing

private def lookUpFrom (table : Option Bytes) (name : Bytes) :
    (depth : Nat) → List Scope → LookUp
  | _, [] => .missing
  | depth, scope :: scopes =>
      match lookUpIn scope depth table name with
      | .missing =>
          match table, scope.aliases.find? fun (aliasName, _) => Bytes.sameName aliasName name with
          | none, some (_, expression) => .found (.result depth expression)
          | _, _ => lookUpFrom table name (depth + 1) scopes
      | result => result

def lookUp (scopes : List Scope) (table : Option Bytes) (name : Bytes) : LookUp :=
  lookUpFrom table name 0 scopes

end Scope

end EmbeddedSql.Plan
