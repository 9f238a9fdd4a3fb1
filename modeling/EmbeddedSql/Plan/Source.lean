import EmbeddedSql.Plan.Expression

/-! The sources of a query: tables, views, queries and joins of them. -/

namespace EmbeddedSql.Plan

/-- What a query reads: one tuple for each source, over and over. -/
structure Sources where
  scope : List ScopeSource := []
  tuples : Environment → Stream (List Tuple) := fun _ => .ofList [[]]

namespace Sources

def missing (sources : Sources) : List Tuple :=
  sources.scope.map fun source => { values := List.replicate source.columns.length .null }

end Sources

/-! ## Names of columns -/

private def hasName (names : List Bytes) (name : Bytes) : Bool :=
  names.any (Bytes.sameName name)

private def withoutNumber (name : Bytes) : Bytes :=
  match name.reverse.dropWhile Bytes.isDigit with
  | 0x3A :: rest => if rest.isEmpty then name else rest.reverse
  | _ => name

private def freshName (names : List Bytes) (name : Bytes) : (left number : Nat) → Bytes
  | 0, _ => name
  | left + 1, number =>
      if hasName names name then
        freshName names (withoutNumber name ++ Bytes.ofAscii s!":{number}") left (number + 1)
      else name

def distinctNames (names : List Bytes) : List Bytes :=
  names.foldl (fun taken name => taken ++ [freshName taken name (taken.length + 1) 1]) []

example : distinctNames [[0x61], [0x61], [0x62]] = [[0x61], [0x61, 0x3A, 0x31], [0x62]] := by
  decide +kernel

variable (inner : Compilers) (context : Context)

/-! ## Single sources -/

def ofQuery (name : Bytes) (columnNames : List Bytes) (query : Query) : Sources :=
  let names :=
    if columnNames.isEmpty then distinctNames (query.columns.map (·.name)) else columnNames
  { scope :=
      [{ name
         columns := query.columns.zipWith (fun column name =>
           { name, affinity := column.affinity, collation := column.collation.getD .binary })
           names }]
    tuples := fun environment =>
      let rows := query.rows environment
      { items := rows.items.map fun values => [{ values }], fault := rows.fault } }

def ofTable (name : Bytes) (table : Table) : Sources where
  scope := [.ofTable name table]
  tuples environment :=
    let rows := ((environment.database.table? table.name).map (·.rows)).getD []
    .ofList (rows.map fun row => [.ofRow row])

private def ofSchemaTable (name : Bytes) : Sources where
  scope :=
    [{ name
       columns := Database.SchemaTable.columnNames.map fun column =>
         { name := Bytes.ofAscii column
           affinity := some (if column = "rootpage" then .integer else .text) }
       hasRowid := true }]
  tuples environment :=
    .ofList ((Database.SchemaTable.rows environment.database).map fun row => [.ofRow row])

private def ofRecursion (name : Bytes) (level : Nat) (columns : List ColumnInfo) : Sources where
  scope := [{ name, columns }]
  tuples environment :=
    .ofList ((environment.recursion[level]?.getD []).map fun values => [{ values }])

def noSuchTable {α : Type} (name : Sql.ObjectName) : Except Failure α :=
  let qualified := (name.database.map (· ++ [0x2E])).getD [] ++ name.name
  .error { message := Bytes.ofAscii "no such table: " ++ qualified }

def isMainDatabase (database : Option Bytes) : Bool :=
  database.all (Bytes.sameName (Bytes.ofAscii "main"))

def viewQuery (view : View) : Except Failure Query := do
  let query ←
    inner.select { database := context.database } view.query
  if !view.columns.isEmpty ∧ view.columns.length ≠ query.columns.length then
    throw (Failure.ofText
      s!"expected {view.columns.length} columns for '{Utf8.toString view.name}' but got {query.columns.length}")
  return query

/-! ## Common tables -/

private def recursionLimit : Nat := 100000

private def mentionsIn (name : Bytes) : (depth : Nat) → List Sql.Source → Bool
  | 0, _ => false
  | depth + 1, sources =>
      sources.any fun source =>
        match source.body with
        | .table table => table.database.isNone && Bytes.sameName table.name name
        | .query query => query.cores.any fun core => mentionsIn name depth core.sources
        | .group group => mentionsIn name depth group

private def recurse (step : List (List Value) → Stream (List Value))
    (isNew : List (List Value) → List Value → Bool) :
    (fuel : Nat) → (seen queue : List (List Value)) → Stream (List Value)
  | 0, seen, _ => .ofList seen.reverse
  | _ + 1, seen, [] => .ofList seen.reverse
  | fuel + 1, seen, row :: queue =>
      let next := step [row]
      match next.fault with
      | some fault => { items := (row :: seen).reverse, fault := some fault }
      | none =>
          let found := next.items.foldl (fun found candidate =>
            if isNew (found ++ row :: queue ++ seen) candidate then found ++ [candidate]
            else found) []
          recurse step isNew fuel (row :: seen) (queue ++ found)

private def recursiveQuery (definition : Sql.CommonTable) (tables : List (Bytes × CommonMeaning))
    (operator : Sql.CompoundOperator) (first : Sql.Select) (step : Sql.SelectCore) :
    Except Failure Query := do
  let plain := { context with scopes := [], commonTables := tables }
  let start ← inner.select plain first
  let names :=
    if definition.columns.isEmpty then distinctNames (start.columns.map (·.name))
    else definition.columns
  let columns := start.columns.zipWith (fun column name =>
    { name, affinity := column.affinity, collation := column.collation.getD .binary }) names
  let level := context.recursionDepth
  let next ← inner.select
    { plain with
      commonTables := (definition.name, .recursion level columns) :: tables
      recursionDepth := level + 1 }
    { first := step }
  if start.columns.length ≠ next.columns.length then
    throw (Failure.ofText
      "SELECTs to the left and right of UNION ALL do not have the same number of result columns")
  let isNew (seen : List (List Value)) (row : List Value) : Bool :=
    operator = .unionAll || !seen.contains row
  return {
    columns := start.columns
    rows := fun environment =>
      let initial := start.rows environment
      match initial.fault with
      | some _ => initial
      | none =>
          let step (rows : List (List Value)) : Stream (List Value) :=
            next.rows
              { environment with recursion := environment.recursion.take level ++ [rows] }
          recurse step isNew recursionLimit [] initial.items }

private def commonTablesBefore (name : Bytes) :
    List (Bytes × CommonMeaning) → List (Bytes × CommonMeaning)
  | [] => []
  | (other, _) :: rest =>
      if Bytes.sameName other name then rest else commonTablesBefore name rest

private def commonTableQuery (definition : Sql.CommonTable) : Except Failure Query := do
  let tables := commonTablesBefore definition.name context.commonTables
  let select := definition.query
  let query ←
    match select.rest.reverse with
    | (operator, step) :: earlier =>
        if mentionsIn definition.name 16 step.sources then
          let first := { select with rest := earlier.reverse, orderBy := [], limit := none,
                                     offset := none }
          recursiveQuery inner context definition tables operator first step
        else inner.select { context with scopes := [], commonTables := tables } select
    | [] => inner.select { context with scopes := [], commonTables := tables } select
  if !definition.columns.isEmpty ∧ definition.columns.length ≠ query.columns.length then
    throw (Failure.ofText
      s!"table {Utf8.toString definition.name} has {query.columns.length} values for {definition.columns.length} columns")
  return query

/-! ## Tables by name -/

private def findCommonTable? (name : Sql.ObjectName) : Option CommonMeaning :=
  if name.database.isSome then none
  else
    (context.commonTables.find? fun (other, _) => Bytes.sameName other name.name).map (·.2)

private def namedSource (name : Sql.ObjectName) (aliasName : Option Bytes) :
    Except Failure Sources := do
  let shown := aliasName.getD name.name
  match findCommonTable? context name with
  | some (.recursion level columns) => return ofRecursion shown level columns
  | some (.query definition) =>
      return ofQuery shown definition.columns (← commonTableQuery inner context definition)
  | none =>
      if !isMainDatabase name.database then noSuchTable name
      else if Database.SchemaTable.isName name.name then return ofSchemaTable shown
      else
        match context.database.table? name.name, context.database.view? name.name with
        | some table, _ => return ofTable shown table
        | none, some view =>
            return ofQuery shown view.columns (← viewQuery inner context view)
        | none, none => noSuchTable name

/-! ## Joins -/

private structure SharedColumn where
  left : Nat × Nat × ColumnInfo
  right : Nat × Nat × ColumnInfo

private def findColumn (sources : List ScopeSource) (name : Bytes) :
    Option (Nat × Nat × ColumnInfo) :=
  sources.zipIdx.findSome? fun (source, place) =>
    (source.columns.zipIdx.find? fun (info, _) =>
      !info.isMerged && Bytes.sameName info.name name).map fun (info, column) =>
        (place, column, info)

private def visibleNames (sources : List ScopeSource) : List Bytes :=
  sources.flatMap fun source =>
    (source.columns.filter fun info => !info.isMerged).map (·.name)

private def sharedColumns (left right : Sources) (join : Sql.Source) :
    Except Failure (List SharedColumn) := do
  let names :=
    if join.join.natural then
      (visibleNames right.scope).filter (hasName (visibleNames left.scope))
    else join.shared
  names.mapM fun name =>
    match findColumn left.scope name, findColumn right.scope name with
    | some left, some right => .ok { left, right }
    | _, _ =>
        .error
          { message := Bytes.ofAscii "cannot join using column " ++ name ++
              Bytes.ofAscii " - column not present in both tables" }

private def merge (shared : List SharedColumn) (sources : List ScopeSource) :
    List ScopeSource :=
  sources.zipIdx.map fun (source, place) =>
    { source with
      columns := source.columns.zipIdx.map fun (info, column) =>
        if shared.any fun pair => pair.right.1 = place && pair.right.2.1 = column then
          { info with isMerged := true }
        else info }

private def tupleTerm (place : Nat × Nat × ColumnInfo) (offset : Nat) : Term where
  evaluate environment := .ok ((environment.tuple 0 (place.1 + offset)).value place.2.1)
  affinity := place.2.2.affinity
  collation := some place.2.2.collation

/-- Tuples of both sides that go together, and the ones without a partner that are
kept. -/
private def joinTuples (kind : Sql.JoinKind) (left right : Sources) (condition : Option Term)
    (environment : Environment) : Stream (List Tuple) :=
  let rights := right.tuples environment
  match rights.fault with
  | some fault => .failed fault
  | none =>
      let holds (tuples : List Tuple) : Except Fault Bool :=
        match condition with
        | none => .ok true
        | some condition => condition.isTrue (environment.push tuples)
      let pairs := (left.tuples environment).bind fun leftTuples =>
        let found := (Stream.ofList rights.items.zipIdx).filterExcept fun (rightTuples, _) =>
          holds (leftTuples ++ rightTuples)
        let joined : Stream (Option Nat × List Tuple) :=
          { items := found.items.map fun (rightTuples, place) =>
              (some place, leftTuples ++ rightTuples)
            fault := found.fault }
        if kind.keepsLeft && joined.items.isEmpty && joined.fault.isNone then
          .ofList [(none, leftTuples ++ right.missing)]
        else joined
      let tuples : Stream (List Tuple) := { items := pairs.items.map (·.2), fault := pairs.fault }
      if kind.keepsRight then
        let partnered := pairs.items.filterMap (·.1)
        let lonely := rights.items.zipIdx.filter fun (_, place) => !partnered.contains place
        tuples.append (.ofList (lonely.map fun (rightTuples, _) => left.missing ++ rightTuples))
      else tuples

private def joinSources (left right : Sources) (join : Sql.Source) : Compile Sources := do
  let shared ← (sharedColumns left right join : Except Failure _)
  let rightScope := merge shared right.scope
  let scope := left.scope ++ rightScope
  let equal := shared.map fun pair =>
    Term.compare (· = .eq) (tupleTerm pair.left 0) (tupleTerm pair.right left.scope.length)
  let written ← join.on.mapM
    (inner.expression { context with scopes := { sources := scope } :: context.scopes })
  let condition :=
    match equal ++ written.toList with
    | [] => none
    | first :: rest => some (rest.foldl Term.and first)
  pure { scope, tuples := joinTuples join.join left right condition }

private def compileWithin : (fuel : Nat) → List Sql.Source → Compile Sources
  | 0, _ => refuse "parser stack overflow"
  | fuel + 1, sources => do
      let single (source : Sql.Source) : Compile Sources :=
        match source.body with
        | .table name => namedSource inner context name source.aliasName
        | .query query => do
            let query ← (inner.select { context with allowsAggregates := false } query :
              Except Failure _)
            pure (ofQuery (source.aliasName.getD []) [] query)
        | .group group => compileWithin fuel group
      match sources with
      | [] => pure {}
      | first :: rest =>
          let first ← single first
          rest.foldlM (fun left source => do
            joinSources inner context left (← single source) source) first

def compileSources (sources : List Sql.Source) : Compile Sources :=
  compileWithin inner context 64 sources

end EmbeddedSql.Plan
