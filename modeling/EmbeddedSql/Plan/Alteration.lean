import EmbeddedSql.Plan.Table
import EmbeddedSql.Sql.Token

/-! Altering tables. Their definitions are altered as they are written, too. -/

namespace EmbeddedSql.Plan

private def setObjects (change : SchemaObject → SchemaObject) : Effect Unit :=
  modify fun work =>
    let database := work.database.changeSchema
    { work with
      database := { database with
        entries := database.entries.map fun entry =>
          { entry with object := change entry.object } } }

private def setDefinition (name : Bytes) (change : Table → Table) : Effect Unit :=
  setObjects fun object =>
    match object with
    | .table table => .table (if Bytes.sameName table.name name then change table else table)
    | object => object

private def refuseRows (table : Table) (message : String) : Effect Unit := do
  let rows := ((← Effect.table? table.name).map (·.rows)).getD []
  unless rows.isEmpty do throw (Fault.ofText message)

/-! ## Texts -/

private def replaceTokens (isReplaced : Sql.Token → Bool) (replacement : Bytes)
    (text : Bytes) : Bytes :=
  ((Sql.Token.scan text).filter isReplaced).foldr (fun token text =>
    text.take token.start ++ replacement ++ text.drop token.stop) text

private def isNameToken (name : Bytes) (token : Sql.Token) : Bool :=
  (token.kind = .word || token.kind = .quotedName) && Bytes.sameName token.name name

/-- The stretches of a definition between its outermost commas: where each starts and
where it ends. -/
private def stretches (tokens : List Sql.Token) : List (Nat × Nat) :=
  let (_, start, found) := tokens.foldl (fun (depth, start, found) token =>
    if token.isSymbol "(" then
      (depth + 1, if depth = 0 then token.stop else start, found)
    else if token.isSymbol ")" then
      (depth - 1, start, if depth = 1 then (start, token.start) :: found else found)
    else if token.isSymbol "," && depth = 1 then (depth, token.stop, (start, token.start) :: found)
    else (depth, start, found)) ((0, 0, []) : Nat × Nat × List (Nat × Nat))
  if start = 0 then [] else found.reverse

private def withoutStretch (text : Bytes) (place : Nat) : Bytes :=
  let parts := stretches (Sql.Token.scan text)
  match parts[place]?, parts[place + 1]? with
  | some (start, _), some (next, _) => text.take start ++ text.drop next
  | some (start, stop), none => text.take (start - 1) ++ text.drop stop
  | none, _ => text

/-! ## Adding columns -/

private def checkAddition (table : Table) (definition : Sql.ColumnDefinition) :
    Except Failure Unit := do
  for constraint in definition.constraints do
    match constraint with
    | .primaryKey .. => throw (Failure.ofText "Cannot add a PRIMARY KEY column")
    | .unique _ => throw (Failure.ofText "Cannot add a UNIQUE column")
    | _ => pure ()
  if table.columns.isEmpty then throw (Failure.ofText "Cannot add a column to a view")

private def addColumnTo (inner : Compilers) (context : Context) (table : Table)
    (definition : Sql.ColumnDefinition) (written : Bytes) :
    Except Failure (Effect Unit) := do
  checkAddition table definition
  let added ← addColumn inner table definition
  let target ← Target.compile inner context added
  let text := Bytes.trimBlank written
  let place := table.columns.length
  let column := added.columns[place]?
  let default := target.defaults[place]?.getD default
  return do
    let value ← Effect.evaluate [] default
    let value := (column.map fun column => value.withAffinity column.affinity).getD value
    if column.any (·.notNull.isSome) ∧ value = .null then
      refuseRows table "Cannot add a NOT NULL column with default value NULL"
    if context.foreignKeys ∧ table.foreignKeys.length < added.foreignKeys.length ∧
        value ≠ .null then
      refuseRows table "Cannot add a REFERENCES column with non-NULL default value"
    setDefinition table.name fun current =>
      { added with
        rows := current.rows.map fun row => { row with values := row.values ++ [value] }
        written := table.written.take table.columnsEnd ++ Bytes.ofAscii ", " ++ text ++
          table.written.drop table.columnsEnd
        columnsEnd := table.columnsEnd + 2 + text.length }

/-! ## Renaming -/

private def renameTable (context : Context) (table : Table) (name : Bytes) :
    Except Failure (Effect Unit) := do
  if (context.database.table? name).isSome || (context.database.index? name).isSome ||
      (context.database.view? name).isSome then
    failNamed "there is already another table or index with this name: " name ""
  checkObjectName name
  let old := table.name
  let renamed (other : Bytes) : Bytes := if Bytes.sameName other old then name else other
  let retext := replaceTokens (isNameToken old) (quotedName name)
  return setObjects fun object =>
    match object with
    | .table table =>
        let table :=
          { table with
            foreignKeys := table.foreignKeys.map fun key =>
              { key with reference := { key.reference with
                  table := renamed key.reference.table } } }
        if Bytes.sameName table.name old then
          let written := retext table.written
          .table
            { table with
              name, written
              columnsEnd := table.columnsEnd + written.length - table.written.length
              uniques := table.uniques.zipIdx.map fun (key, place) =>
                { key with index := key.index.map fun _ =>
                    Bytes.ofAscii "sqlite_autoindex_" ++ name ++
                      Bytes.ofAscii s!"_{place + 1}" } }
        else .table table
    | .index index =>
        if Bytes.sameName index.table old then
          .index { index with table := name, written := retext index.written }
        else .index index
    | .trigger trigger =>
        if Bytes.sameName trigger.table old then
          .trigger { trigger with table := name, written := retext trigger.written }
        else .trigger trigger
    | .view view => .view view

private def renameColumn (table : Table) (place : Nat) (old name : Bytes) :
    Except Failure (Effect Unit) := do
  if (table.columnIndex? name).isSome then
    failNamed "duplicate column name: " name ""
  let shown := if name.all Sql.Token.isNamePart then name else quotedName name
  return setDefinition table.name fun table =>
    let written := replaceTokens (isNameToken old) shown table.written
    { table with
      columns := table.columns.modify place fun column => { column with name }
      written
      columnsEnd := table.columnsEnd + written.length - table.written.length }

/-! ## Dropping columns -/

private def withoutPlace (place : Nat) (columns : List Nat) : List Nat :=
  columns.map fun column => if place < column then column - 1 else column

private def dropColumn (table : Table) (place : Nat) (name : Bytes) :
    Except Failure (Effect Unit) := do
  if table.primaryColumns.contains place then
    failNamed "cannot drop PRIMARY KEY column: \"" name "\""
  if table.uniques.any fun key => key.columns.contains place then
    failNamed "cannot drop UNIQUE column: \"" name "\""
  if table.columns.length ≤ 1 then
    failNamed "cannot drop column \"" name "\": no other columns exist"
  return setDefinition table.name fun table =>
    let written := withoutStretch table.written place
    { table with
      columns := table.columns.eraseIdx place
      rowidColumn := table.rowidColumn.map fun column =>
        if place < column then column - 1 else column
      uniques := table.uniques.map fun key =>
        { key with columns := withoutPlace place key.columns }
      foreignKeys := table.foreignKeys.map fun key =>
        { key with columns := withoutPlace place key.columns }
      rows := table.rows.map fun row => { row with values := row.values.eraseIdx place }
      written
      columnsEnd := table.columnsEnd + written.length - table.written.length }

/-! ## All alterations -/

private def alteredTable (context : Context) (name : Sql.ObjectName) : Except Failure Table := do
  if !isMainDatabase name.database then noSuchTable name
  else if Database.SchemaTable.isName name.name then
    failNamed "table " (Bytes.ofAscii "sqlite_master") " may not be altered"
  else
    match context.database.table? name.name, context.database.view? name.name with
    | some table, _ => return table
    | none, some view => failNamed "view " view.name " may not be altered"
    | none, none => noSuchTable name

private def columnPlaceOf (table : Table) (name : Bytes) : Except Failure Nat :=
  match table.columnIndex? name with
  | some place => .ok place
  | none => failNamed "no such column: \"" name "\""

def compileAlter (inner : Compilers) (context : Context) (name : Sql.ObjectName)
    (action : Sql.AlterAction) : Except Failure (Effect Unit) := do
  let table ← alteredTable context name
  match action with
  | .addColumn column written => addColumnTo inner context table column written
  | .renameTable new => renameTable context table new
  | .renameColumn old new => renameColumn table (← columnPlaceOf table old) old new
  | .dropColumn column => dropColumn table (← columnPlaceOf table column) column

end EmbeddedSql.Plan
