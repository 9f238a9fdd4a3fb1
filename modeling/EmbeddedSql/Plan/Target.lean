import EmbeddedSql.Plan.Reference
import EmbeddedSql.Plan.Select

/-! Tables whose rows are changed, and the rules that their rows have to keep. -/

namespace EmbeddedSql.Plan

/-- Terms on which no two rows agree, unless one of them is null. -/
structure UniqueRule where
  columns : List Nat := []
  terms : List Term
  collations : List Collation
  filter : Option Term := none
  resolution : Sql.Resolution := .abort
  label : Bytes

structure Target where
  table : Table
  uniques : List UniqueRule := []
  checks : List (Term × Bytes) := []
  defaults : List Term := []
  generated : List (Nat × Term) := []
  foreignKeys : Bool := true

namespace Target

variable (inner : Compilers) (context : Context)

/-! ## Compiling rules -/

private def columnLabel (table : Table) (column : Nat) : Bytes :=
  table.name ++ [0x2E] ++ ((table.column? column).map (·.name)).getD (Bytes.ofAscii "rowid")

private def columnsLabel (table : Table) (columns : List Nat) : Bytes :=
  List.intercalate (Bytes.ofAscii ", ") (columns.map (columnLabel table))

private def rowContext (table : Table) : Context :=
  { context with
    scopes := [{ sources := [.ofTable table.name table] }]
    commonTables := []
    allowsAggregates := false }

private def ruleOfKey (table : Table) (key : UniqueKey) : UniqueRule where
  columns := key.columns
  terms := key.columns.map fun column =>
    { evaluate := fun environment => .ok ((environment.tuple 0 0).value column) }
  collations := key.collations
  resolution := key.resolution
  label := columnsLabel table key.columns

private def indexedColumn? (table : Table) (column : Sql.IndexColumn) : Option Nat :=
  match column.expression with
  | .name name _ => table.columnIndex? name
  | .collate (.name name _) _ => table.columnIndex? name
  | _ => none

private def ruleOfIndex (table : Table) (index : Index) : Except Failure UniqueRule := do
  let context := rowContext context table
  let terms ← index.columns.mapM fun column =>
    withoutCalls (inner.expression context column.expression)
  let filter ← index.filter.mapM fun filter => withoutCalls (inner.expression context filter)
  let columns := index.columns.mapM (indexedColumn? table)
  return {
    columns := if filter.isNone then columns.getD [] else []
    terms
    collations := terms.map fun term => term.collation.getD .binary
    filter
    label :=
      match columns with
      | some columns => columnsLabel table columns
      | none => Bytes.ofAscii "index '" ++ index.name ++ [0x27] }

def compile (table : Table) : Except Failure Target := do
  let row := rowContext context table
  let term (expression : Sql.Expression) : Except Failure Term :=
    withoutCalls (inner.expression row expression)
  let indexes := (context.database.indexesOf table.name).filter (·.unique)
  let indexRules ← indexes.mapM (ruleOfIndex inner context table)
  return {
    table
    uniques := indexRules.reverse ++ table.uniques.reverse.map (ruleOfKey table)
    checks := ← table.checks.mapM fun check => do
      return (← term check.condition, check.label)
    defaults := ← table.columns.mapM fun column =>
      match column.default with
      | some default => term default
      | none => .ok (Term.constant .null)
    generated := ← table.columns.zipIdx.filterMapM fun (column, place) => do
      match column.generated with
      | some expression => return some (place, ← term expression)
      | none => return none
    foreignKeys := context.foreignKeys }

/-! ## Rules on one row -/

private def setColumn (values : List Value) (column : Nat) (value : Value) : List Value :=
  values.set column value

def withRowid (target : Target) (rowid : Value) (values : List Value) : List Value :=
  match target.table.rowidColumn with
  | some column => setColumn values column rowid
  | none => values

private def withAffinities (target : Target) (values : List Value) : List Value :=
  target.table.columns.zipWith (fun column value => value.withAffinity column.affinity) values

/-- Generated columns may read each other, so they are computed until nothing can
change any more. -/
def withGenerated (target : Target) (frames : Frames) (values : List Value) :
    Effect (List Value) :=
  target.generated.foldlM (fun values _ =>
    target.generated.foldlM (fun values (column, term) => do
      return setColumn values column
        (← Effect.evaluate ([{ values }] :: frames) term)) values) values

def tuple (target : Target) (rowid : Value) (values : List Value) : Tuple where
  rowid := rowid
  values := target.withRowid rowid (target.withAffinities values)

private def checkNull (target : Target) (forced : Option Sql.Resolution) (frames : Frames)
    (column : Column × Nat) (value : Value) : Effect Value := do
  match column.1.notNull with
  | none => pure value
  | some own =>
      if value ≠ .null ∨ target.table.rowidColumn = some column.2 then return value
      let message :=
        Bytes.ofAscii "NOT NULL constraint failed: " ++ columnLabel target.table column.2
      match forced.getD own with
      | .replace =>
          let default ← Effect.evaluate frames (target.defaults[column.2]?.getD default)
          if default = .null then Effect.violate .abort message
          pure default
      | resolution => Effect.violate resolution message

private def checkConditions (target : Target) (forced : Option Sql.Resolution) (rowid : Int64)
    (values : List Value) : Effect Unit := do
  let real := target.table.columns.zipWith (fun column value =>
    if column.affinity = .real then value.withAffinity .real else value) values
  for (condition, label) in target.checks do
    let result ← Effect.evaluate [[{ rowid := .integer rowid, values := real }]] condition
    if result.truth? = some false then
      let resolution :=
        match forced.getD .abort with
        | .replace => .abort
        | resolution => resolution
      Effect.violate resolution (Bytes.ofAscii "CHECK constraint failed: " ++ label)

private def className : Value → String
  | .null => "NULL"
  | .integer _ => "INT"
  | .real _ => "REAL"
  | .text _ => "TEXT"
  | .blob _ => "BLOB"

private def fitsType (type : Bytes) (value : Value) : Bool :=
  match value with
  | .null => true
  | value =>
      let isType (name : String) := Bytes.sameName type (Bytes.ofAscii name)
      if isType "ANY" then true
      else if isType "INT" || isType "INTEGER" then className value = "INT"
      else isType (className value)

private def checkTypes (target : Target) (forced : Option Sql.Resolution)
    (values : List Value) : Effect Unit := do
  if target.table.strict then
    for (column, value) in target.table.columns.zip values do
      unless fitsType column.type value do
        Effect.violate (forced.getD .abort) <|
          Bytes.ofAscii s!"cannot store {className value} value in " ++
            column.type.map Bytes.toUpper ++ Bytes.ofAscii " column " ++
            target.table.name ++ [0x2E] ++ column.name

/-- The values of a row as they are stored. The conditions see them as they are
given. -/
def settle (target : Target) (forced : Option Sql.Resolution) (rowid : Int64)
    (values : List Value) : Effect (List Value) := do
  let values ← target.withGenerated [] (target.withRowid (.integer rowid) values)
  let values ← (target.table.columns.zipIdx.zip values).mapM fun (column, value) =>
    checkNull target forced [] column value
  checkConditions target forced rowid values
  let values := withAffinities target values
  checkTypes target forced values
  return target.withRowid (.integer rowid) values

/-! ## Rules on all rows -/

private def keyOf (rule : UniqueRule) (row : Row) : Effect (Option (List Value)) := do
  let frames := [[Tuple.ofRow row]]
  if ← Effect.holds frames rule.filter then
    let key ← Effect.evaluateAll frames rule.terms
    return if key.contains .null then none else some key
  else return none

private def rivals (target : Target) (rule : UniqueRule) (row : Row) (itself : Option Int64) :
    Effect (List Row) := do
  match ← keyOf rule row with
  | none => return []
  | some key =>
      let database := (← get).database
      let directions := rule.collations.map fun collation => { collation }
      let rows := ((database.table? target.table.name).map (·.rows)).getD []
      rows.filterM fun other => do
        if itself = some other.rowid then return false
        match ← keyOf rule other with
        | some otherKey =>
            return Direction.compareAll database.encoding directions key otherKey == .eq
        | none => return false

private def rowidRivals (target : Target) (row : Row) (itself : Option Int64) :
    Effect (List Row) := do
  if target.table.withoutRowid ∨ itself = some row.rowid then return []
  let table ← Effect.table? target.table.name
  return (table.bind (·.row? row.rowid)).toList

/-- What is done about rows in the way, for the rules on certain columns. -/
abbrev Intercept := (columns : List Nat) → Option (Row → Effect Unit)

private def clear (target : Target) (forced : Option Sql.Resolution) (intercept : Intercept)
    (columns : List Nat) (own : Sql.Resolution) (label : Bytes) (rows : List Row) :
    Effect Unit := do
  match rows, intercept columns with
  | [], _ => pure ()
  | row :: _, some action =>
      action row
      Effect.ignore
  | rows, none =>
      match forced.getD own with
      | .replace => rows.forM (eraseRow target.foreignKeys target.table.name)
      | resolution =>
          Effect.violate resolution (Bytes.ofAscii "UNIQUE constraint failed: " ++ label)

/-- Makes sure that a row can be stored, which may mean that others have to go. -/
def makeRoom (target : Target) (forced : Option Sql.Resolution) (intercept : Intercept)
    (row : Row) (itself : Option Int64) : Effect Unit := do
  clear target forced intercept target.table.rowidColumn.toList target.table.rowidResolution
    (target.table.rowidColumn.elim (target.table.name ++ Bytes.ofAscii ".rowid")
      (columnLabel target.table))
    (← target.rowidRivals row itself)
  for rule in target.uniques do
    clear target forced intercept rule.columns rule.resolution rule.label
      (← target.rivals rule row itself)

end Target

/-! ## References

Whoever changes a table has to be able to tell whether references hold. -/

private def mismatch (child parent : Bytes) : Failure where
  message :=
    Bytes.ofAscii "foreign key mismatch - \"" ++ child ++ Bytes.ofAscii "\" referencing \"" ++
      parent ++ [0x22]

private def checkParent (context : Context) (child : Table) (key : ForeignKey) :
    Except Failure Unit :=
  match context.database.table? key.reference.table with
  | none =>
      throw { message := Bytes.ofAscii "no such table: main." ++ key.reference.table }
  | some parent =>
      match key.parentColumns? parent with
      | some columns =>
          if ForeignKey.isUnique parent columns then pure ()
          else throw (mismatch child.name parent.name)
      | none => throw (mismatch child.name parent.name)

def checkReferences (context : Context) (table : Table) : Except Failure Unit := do
  if context.foreignKeys then
    table.foreignKeys.forM (checkParent context table)
    for (child, key) in context.database.foreignKeys do
      if Bytes.sameName key.reference.table table.name then checkParent context child key

end EmbeddedSql.Plan
