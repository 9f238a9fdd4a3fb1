import EmbeddedSql.Plan.Target

/-! Defining tables. -/

namespace EmbeddedSql.Plan

/-! ## Names -/

private def startsWith (start : Bytes) (name : Bytes) : Bool :=
  Bytes.sameName start (name.take start.length)

def checkDatabase (name : Sql.ObjectName) : Except Failure Unit :=
  match name.database with
  | some database =>
      if isMainDatabase name.database then pure () else failNamed "unknown database " database ""
  | none => pure ()

def checkObjectName (name : Bytes) : Except Failure Unit :=
  if startsWith (Bytes.ofAscii "sqlite_") name then
    failNamed "object name reserved for internal use: " name ""
  else pure ()

/-- Whether a table or view of this name may be defined. If there is one already, that
may be all right. -/
def isNewTable (database : Database) (name : Bytes) (ifNotExists : Bool) :
    Except Failure Bool :=
  let taken (kind : String) : Except Failure Bool :=
    if ifNotExists then .ok false else failNamed (kind ++ " ") name " already exists"
  if (database.table? name).isSome || Database.SchemaTable.isName name then taken "table"
  else if (database.view? name).isSome then taken "view"
  else if (database.index? name).isSome then failNamed "there is already an index named " name ""
  else .ok true

/-! ## Building a table up -/

private def columnPlace (table : Table) (name : Bytes) : Except Failure Nat :=
  match table.columnIndex? name with
  | some place => .ok place
  | none => failNamed "no such column: " name ""

private def automaticIndexName (table : Table) : Bytes :=
  Bytes.ofAscii "sqlite_autoindex_" ++ table.name ++
    Bytes.ofAscii s!"_{table.uniques.length + 1}"

private def addUnique (table : Table) (key : UniqueKey) : Table :=
  let same (other : UniqueKey) : Bool :=
    other.columns = key.columns && other.collations = key.collations
  if table.uniques.any same then
    { table with
      uniques := table.uniques.map fun other =>
        if same other then { other with isPrimary := other.isPrimary || key.isPrimary }
        else other }
  else
    { table with
      uniques := table.uniques ++ [{ key with index := some (automaticIndexName table) }] }

private def collationsOf (table : Table) (columns : List Nat) : List Collation :=
  columns.map fun column => ((table.column? column).map (·.collation)).getD .binary

private def hasPrimaryKey (table : Table) : Bool :=
  table.rowidColumn.isSome || table.uniques.any (·.isPrimary)

/-- One column of type `INTEGER` becomes another name for the row number. -/
private def setPrimaryKey (table : Table) (columns : List Nat) (collations : List Collation)
    (descending : Bool) (resolution : Option Sql.Resolution) (autoincrement : Bool) :
    Except Failure Table := do
  if hasPrimaryKey table then
    failNamed "table \"" table.name "\" has more than one primary key"
  let isInteger (column : Nat) : Bool :=
    (table.column? column).any fun column =>
      Bytes.sameName column.type (Bytes.ofAscii "INTEGER")
  match columns with
  | [column] =>
      if isInteger column && !descending then
        return { table with
          rowidColumn := some column
          rowidResolution := resolution.getD .abort
          autoincrement }
  | _ => pure ()
  if autoincrement then
    throw (Failure.ofText "AUTOINCREMENT is only allowed on an INTEGER PRIMARY KEY")
  return addUnique table
    { columns, collations, resolution := resolution.getD .abort, isPrimary := true }

private def modifyColumn (table : Table) (place : Nat) (change : Column → Column) : Table :=
  { table with columns := table.columns.modify place change }

private def collationNamed (name : Bytes) : Except Failure Collation :=
  match Collation.ofName? name with
  | some collation => .ok collation
  | none => failNamed "no such collation sequence: " name ""

private def checkDefault (inner : Compilers) (column : Bytes) (value : Sql.Expression) :
    Except Failure Unit :=
  match withoutCalls (inner.expression { database := {} } value) with
  | .ok _ => pure ()
  | .error _ => failNamed "default value of column [" column "] is not constant"

private def columnReference (place : Nat) (column : Bytes) (reference : Sql.Reference) :
    Except Failure ForeignKey := do
  if 1 < reference.columns.length then
    throw
      { message := Bytes.ofAscii "foreign key on " ++ column ++
          Bytes.ofAscii " should reference only one column of table " ++ reference.table }
  return { columns := [place], reference }

private def addColumnConstraint (inner : Compilers) (place : Nat) (name : Bytes) (table : Table)
    (constraint : Sql.ColumnConstraint) : Except Failure Table := do
  match constraint with
  | .primaryKey descending resolution autoincrement =>
      setPrimaryKey table [place] (collationsOf table [place]) descending resolution autoincrement
  | .notNull resolution =>
      return modifyColumn table place fun column =>
        { column with notNull := some (resolution.getD .abort) }
  | .unique resolution =>
      return addUnique table
        { columns := [place], collations := collationsOf table [place]
          resolution := resolution.getD .abort }
  | .check label condition written =>
      return { table with
        checks := table.checks ++ [{ condition, label := label.getD written }] }
  | .default value written =>
      checkDefault inner name value
      return modifyColumn table place fun column =>
        { column with default := some value, defaultText := some written }
  | .collate collation =>
      let collation ← collationNamed collation
      let changed := modifyColumn table place fun column => { column with collation }
      return { changed with
        uniques := changed.uniques.map fun key =>
          { key with collations := collationsOf changed key.columns } }
  | .references reference =>
      return { table with
        foreignKeys := table.foreignKeys ++ [← columnReference place name reference] }
  | .generated value _ =>
      return modifyColumn table place fun column => { column with generated := some value }

def addColumn (inner : Compilers) (table : Table) (definition : Sql.ColumnDefinition) :
    Except Failure Table := do
  if (table.columnIndex? definition.name).isSome then
    failNamed "duplicate column name: " definition.name ""
  if 2000 ≤ table.columns.length then failNamed "too many columns on " table.name ""
  let column : Column :=
    { name := definition.name, type := definition.type
      affinity := Affinity.ofType definition.type }
  definition.constraints.foldlM
    (addColumnConstraint inner table.columns.length definition.name)
    { table with columns := table.columns ++ [column] }

private def keyCollations (table : Table) (columns : List Sql.KeyColumn) (places : List Nat) :
    Except Failure (List Collation) :=
  (columns.zip (collationsOf table places)).mapM fun (column, own) =>
    match column.collation with
    | some name => collationNamed name
    | none => .ok own

private def tableReference (table : Table) (columns : List Bytes) (reference : Sql.Reference) :
    Except Failure ForeignKey := do
  if !reference.columns.isEmpty ∧ reference.columns.length ≠ columns.length then
    throw <| Failure.ofText <|
      "number of columns in foreign key does not match the number of columns in " ++
        "the referenced table"
  let places ← columns.mapM fun name =>
    match table.columnIndex? name with
    | some place => .ok place
    | none => failNamed "unknown column \"" name "\" in foreign key definition"
  return { columns := places, reference }

private def addTableConstraint (table : Table) (constraint : Sql.TableConstraint) :
    Except Failure Table := do
  match constraint with
  | .primaryKey columns resolution autoincrement =>
      let places ← columns.mapM fun column => columnPlace table column.name
      setPrimaryKey table places (← keyCollations table columns places)
        (columns.any (·.descending) && columns.length > 1) resolution autoincrement
  | .unique columns resolution =>
      let places ← columns.mapM fun column => columnPlace table column.name
      return addUnique table
        { columns := places, collations := ← keyCollations table columns places
          resolution := resolution.getD .abort }
  | .check label condition written =>
      return { table with
        checks := table.checks ++ [{ condition, label := label.getD written }] }
  | .foreignKey columns reference =>
      return { table with
        foreignKeys := table.foreignKeys ++ [← tableReference table columns reference] }

/-! ## Options -/

/-- The primary key keeps the rows themselves, and none of its columns can be null. -/
private def withoutRowid (table : Table) : Except Failure Table := do
  unless hasPrimaryKey table do failNamed "PRIMARY KEY missing on table " table.name ""
  if table.autoincrement then
    throw (Failure.ofText "AUTOINCREMENT not allowed on WITHOUT ROWID tables")
  let primary := table.primaryColumns
  let key : UniqueKey :=
    { columns := primary, collations := collationsOf table primary
      resolution := table.rowidResolution, isPrimary := true }
  let uniques :=
    if table.uniques.any (·.isPrimary) then
      table.uniques.map fun key => if key.isPrimary then { key with index := none } else key
    else key :: table.uniques
  return { table with
    withoutRowid := true
    rowidColumn := none
    uniques
    columns := table.columns.zipIdx.map fun (column, place) =>
      if primary.contains place then
        { column with notNull := column.notNull <|> some .abort }
      else column }

private def strictTypes : List String := ["INT", "INTEGER", "REAL", "TEXT", "BLOB", "ANY"]

private def checkStrict (table : Table) : Except Failure Unit := do
  for column in table.columns do
    let name := table.name ++ [0x2E] ++ column.name
    if column.type.isEmpty then failNamed "missing datatype for " name ""
    unless strictTypes.any fun type => Bytes.sameName column.type (Bytes.ofAscii type) do
      throw
        { message := Bytes.ofAscii "unknown datatype for " ++ name ++ Bytes.ofAscii ": \"" ++
            column.type ++ [0x22] }

private def strictColumn (column : Column) : Column :=
  if Bytes.sameName column.type (Bytes.ofAscii "ANY") then { column with affinity := .blob }
  else column

/-! ## Whole definitions -/

private def tableOfColumns (inner : Compilers) (context : Context) (create : Sql.CreateTable)
    (columns : List Sql.ColumnDefinition) (constraints : List Sql.TableConstraint)
    (isWithoutRowid isStrict : Bool) : Except Failure Table := do
  let lead := "CREATE TABLE "
  let initial : Table :=
    { name := create.name.name
      columns := []
      written := Bytes.ofAscii lead ++ create.written
      columnsEnd := lead.length + create.columnsEnd }
  let table ← columns.foldlM (addColumn inner) initial
  let table ← constraints.foldlM addTableConstraint table
  if table.columns.all (·.generated.isSome) then
    throw (Failure.ofText "must have at least one non-generated column")
  let table ← if isWithoutRowid then withoutRowid table else pure table
  if isStrict then checkStrict table
  let table :=
    if isStrict then { table with strict := true, columns := table.columns.map strictColumn }
    else table
  let _ ← Target.compile inner { context with database := {} } table
  return table

private def simpleName (name : Bytes) : Bool :=
  (name.head?.any fun byte => !Bytes.isDigit byte) &&
    name.all fun byte =>
      Bytes.isUpper byte || Bytes.isLower byte || Bytes.isDigit byte || byte = 0x5F

def quotedName (name : Bytes) : Bytes :=
  [0x22] ++ name.flatMap (fun byte => if byte = 0x22 then [0x22, 0x22] else [byte]) ++ [0x22]

private def nameText (name : Bytes) : Bytes :=
  if simpleName name then name else quotedName name

private def typeOf (affinity : Option Affinity) : Bytes :=
  Bytes.ofAscii <|
    match affinity with
    | some .text => "TEXT"
    | some .numeric => "NUM"
    | some .integer => "INT"
    | some .real => "REAL"
    | _ => ""

/-- A table that is given the results of a query has columns of their names. -/
private def tableOfQuery (name : Bytes) (query : Query) : Table :=
  let names := distinctNames (query.columns.map (·.name))
  let types := query.columns.map fun column => typeOf column.affinity
  let entries := names.zipWith (fun name type =>
    nameText name ++ (if type.isEmpty then [] else [0x20]) ++ type) types
  let isShort :=
    names.foldl (fun length name => length + name.length + 5) name.length < 50
  let (first, between, last) :=
    if isShort then ("", ",", ")") else ("\n  ", ",\n  ", "\n)")
  { name
    columns := names.zipWith (fun name type =>
      { name, type, affinity := Affinity.ofType type }) types
    written :=
      Bytes.ofAscii "CREATE TABLE " ++ nameText name ++ Bytes.ofAscii ("(" ++ first) ++
        List.intercalate (Bytes.ofAscii between) entries ++ Bytes.ofAscii last }

def define (object : SchemaObject) : Effect Unit :=
  modify fun work => { work with database := work.database.addObject object }

/-- The table for the row numbers that are not used again comes with the first table
that needs it. -/
private def defineSequences : Effect Unit := do
  if ((← get).database.table? Database.sequenceTable).isNone then
    define <| .table
      { name := Database.sequenceTable
        columns := [{ name := Bytes.ofAscii "name" }, { name := Bytes.ofAscii "seq" }]
        written := Bytes.ofAscii "CREATE TABLE sqlite_sequence(name,seq)" }

private def fill (name : Bytes) (query : Query) : Effect Unit := do
  let rows ← Effect.read fun work => (query.rows (work.environment [])).toExcept
  for values in rows do
    if let some table := ← Effect.table? name then
      let values := table.columns.zipWith (fun column value =>
        value.withAffinity column.affinity) values
      Effect.setTable
        (table.insertRow (← get).database.encoding { rowid := table.nextRowid, values })

def compileCreateTable (inner : Compilers) (context : Context) (create : Sql.CreateTable) :
    Except Failure (Option (Effect Unit)) := do
  checkDatabase create.name
  let name := create.name.name
  checkObjectName name
  unless ← isNewTable context.database name create.ifNotExists do return none
  match create.body with
  | .columns columns constraints isWithoutRowid isStrict =>
      let table ←
        tableOfColumns inner context create columns constraints isWithoutRowid isStrict
      return some do
        define (.table table)
        if table.autoincrement then defineSequences
  | .query query =>
      let query ← inner.select context query
      return some do
        define (.table (tableOfQuery name query))
        fill name query

end EmbeddedSql.Plan
