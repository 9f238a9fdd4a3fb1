import EmbeddedSql.Plan.Group
import EmbeddedSql.Plan.Source

/-! Queries: what they select, from where, in which order and how much of it. -/

namespace EmbeddedSql.Plan

/-- A query that reads one table in the order of its row numbers. It needs no more
than one row at a time, and so sees changes that are made while it runs. -/
structure Scan where
  table : Bytes
  descending : Bool := false
  pick : Environment → Row → Except Fault (Option (List Value))

/-- Which of the rows are given: some are skipped, and only so many are taken. -/
structure Window where
  skip : Nat := 0
  take : Option Nat := none
deriving DecidableEq, Repr

def Window.apply {α : Type} (window : Window) (rows : Stream α) : Stream α :=
  match window.take with
  | some 0 => .empty
  | some count => (rows.drop window.skip).take count
  | none => rows.drop window.skip

structure Selection where
  columns : List OutputColumn
  rows : Environment → Stream (List Value)
  window : Environment → Except Fault Window := fun _ => .ok {}
  scan : Option Scan := none

def Selection.query (selection : Selection) : Query where
  columns := selection.columns
  rows environment :=
    match selection.window environment with
    | .ok window => window.apply (selection.rows environment)
    | .error fault => .failed fault

variable (inner : Compilers) (context : Context)

def withoutCalls {α : Type} (compile : Compile α) : Except Failure α :=
  (compile.run []).map (·.1)

/-! ## Limits -/

private def windowNumber (term : Term) (environment : Environment) : Except Fault Int := do
  match (← term.evaluate environment).withAffinity .numeric with
  | .integer value => return value.toInt
  | _ => throw .mismatch

private def compileWindow (limit offset : Option Sql.Expression) :
    Except Failure (Environment → Except Fault Window) := do
  let plain := { context with scopes := [], allowsAggregates := false }
  let limit ← limit.mapM fun limit => withoutCalls (inner.expression plain limit)
  let offset ← offset.mapM fun offset => withoutCalls (inner.expression plain offset)
  return fun environment => do
    let take ← limit.mapM fun limit => windowNumber limit environment
    let skip ← offset.mapM fun offset => windowNumber offset environment
    return {
      skip := (skip.getD 0).toNat
      take := take.bind fun count => if count < 0 then none else some count.toNat }

/-! ## Result columns -/

/-- A result: its name, its meaning, and how it is written unless a star stands for
it. -/
structure Output where
  name : Bytes
  term : Term
  expression : Option Sql.Expression := none
  aliasName : Option Bytes := none

def Output.column (output : Output) : OutputColumn where
  name := output.name
  affinity := output.term.affinity
  collation := output.term.collation
  isExplicit := output.term.isExplicit

private def starOutputs (sources : List (ScopeSource × Nat)) : List Output :=
  sources.flatMap fun (source, place) =>
    (source.columns.zipIdx.filter fun (info, _) => !info.isMerged).map fun (info, column) =>
      { name := info.name
        term :=
          { evaluate := fun environment => .ok ((environment.tuple 0 place).value column)
            affinity := info.affinity
            collation := some info.collation } }

private def columnName? (scopes : List Scope) (expression : Sql.Expression) : Option Bytes :=
  let found :=
    match expression with
    | .name name _ => Scope.lookUp scopes none name
    | .column _ table name => Scope.lookUp scopes (some table) name
    | _ => .missing
  match found with
  | .found (.column _ _ _ info) => some info.name
  | .found (.rowid _ _ name) => some name
  | _ => none

def compileOutputs (column : Sql.ResultColumn) (sources : List ScopeSource) :
    Compile (List Output) := do
  match column.body with
  | .star =>
      if sources.isEmpty then refuse "no tables specified"
      pure (starOutputs sources.zipIdx)
  | .tableStar table =>
      let named := sources.zipIdx.filter fun (source, _) => Bytes.sameName source.name table
      if named.isEmpty then refuseNamed "no such table: " table ""
      pure (starOutputs named)
  | .expression expression =>
      let term ← inner.expression context expression
      let name :=
        (column.aliasName <|> columnName? context.scopes expression).getD column.written
      pure [{ name, term, expression := some expression, aliasName := column.aliasName }]

private def aliasesOf (outputs : List Output) : List (Bytes × Sql.Expression) :=
  outputs.filterMap fun output =>
    match output.aliasName, output.expression with
    | some aliasName, some expression => some (aliasName, expression)
    | _, _ => none

/-! ## Order -/

private def ordinal (number : Nat) : String :=
  let ending :=
    if number % 100 / 10 = 1 then "th"
    else if number % 10 = 1 then "st"
    else if number % 10 = 2 then "nd"
    else if number % 10 = 3 then "rd"
    else "th"
  s!"{number}{ending}"

example : [1, 2, 3, 4, 11, 21].map ordinal = ["1st", "2nd", "3rd", "4th", "11th", "21st"] := by
  decide +kernel

/-- What rows are put in order or in groups by: one of the results or another
term. -/
private inductive Key where
  | result (place : Nat)
  | term (term : Term)

private def position? (expression : Sql.Expression) : Option Int :=
  match expression with
  | .integer digits => some (Numeral.ofDigits digits)
  | .unary .negate (.integer digits) => some (-Numeral.ofDigits digits)
  | _ => none

private def placeOf (clause : String) (number count : Nat) (position : Int) : Compile Nat := do
  if position < 1 ∨ (count : Int) < position then
    refuse
      s!"{ordinal number} {clause} BY term out of range - should be between 1 and {count}"
  pure (position.toNat - 1)

private def aliasPlace? (outputs : List Output) (expression : Sql.Expression) : Option Nat :=
  match expression with
  | .name name _ =>
      outputs.findIdx? fun output => output.aliasName.any (Bytes.sameName name)
  | _ => none

private def orderKey (outputs : List Output) (number : Nat) (expression : Sql.Expression) :
    Compile Key := do
  match aliasPlace? outputs expression, position? expression with
  | some place, _ => pure (.result place)
  | none, some position =>
      pure (.result (← placeOf "ORDER" number outputs.length position))
  | none, none => pure (.term (← inner.expression context expression))

private def groupKey (outputs : List Output) (number : Nat) (expression : Sql.Expression) :
    Compile Key := do
  match position? expression with
  | some position => pure (.result (← placeOf "GROUP" number outputs.length position))
  | none => pure (.term (← inner.expression context expression))

private def Key.meaning (outputs : List Output) : Key → Term
  | .result place => ((outputs[place]?).map (·.term)).getD default
  | .term meaning => meaning

private def directionOf (collation : Option Collation) (order : Sql.OrderTerm) : Direction where
  collation := collation.getD .binary
  descending := order.descending
  nullsFirst := order.nullsFirst.getD !order.descending

/-- A collation that is written after a position or an alias counts for the order
alone. -/
private def splitCollation (expression : Sql.Expression) :
    Sql.Expression × Option Collation :=
  match expression with
  | .collate operand name => (operand, Collation.ofName? name)
  | _ => (expression, none)

private def sortKey (outputs : List Output) (order : Sql.OrderTerm) (number : Nat) :
    Compile (Key × Direction) := do
  let (operand, collation) := splitCollation order.expression
  let isResult := (aliasPlace? outputs operand).isSome || (position? operand).isSome
  let key ← orderKey inner context outputs number
    (if isResult then operand else order.expression)
  let collation := collation <|> (key.meaning outputs).collation
  pure (key, directionOf collation order)

/-! ## The parts of a query -/

private structure Result where
  values : List Value
  keys : List Value := []

/-- A part of a query, with the keys that its rows are put in order by. -/
private structure Part where
  columns : List OutputColumn
  results : Environment → Stream Result
  directions : List Direction := []
  scan : Option Scan := none

private def evaluateKeys (environment : Environment) (values : List Value) (keys : List Key) :
    Except Fault (List Value) :=
  keys.mapM fun key =>
    match key with
    | .result place => .ok (values[place]?.getD .null)
    | .term term => term.evaluate environment

private def evaluateResult (outputs : List Output) (keys : List Key)
    (environment : Environment) : Except Fault Result := do
  let values ← outputs.mapM fun output => output.term.evaluate environment
  return { values, keys := ← evaluateKeys environment values keys }

private def holds (condition : Option Term) (environment : Environment) : Except Fault Bool :=
  match condition with
  | some condition => condition.isTrue environment
  | none => .ok true

private def plainResults (sources : Sources) (filter : Option Term) (outputs : List Output)
    (keys : List Key) (environment : Environment) : Stream Result :=
  ((sources.tuples environment).filterExcept fun tuples =>
    holds filter (environment.push tuples)).mapExcept fun tuples =>
      evaluateResult outputs keys (environment.push tuples)

/-- Without keys to group by all rows are one group, even if there are none. -/
private def groupsOf (groupKeys : List Term) (environment : Environment)
    (rows : List (List Tuple)) : Except Fault (List (List (List Tuple))) := do
  if groupKeys.isEmpty then return [rows]
  let keyed ← rows.mapM fun tuples => do
    return (← Term.evaluateAll (environment.push tuples) groupKeys, tuples)
  let encoding := environment.database.encoding
  let directions := groupKeys.map fun term => { collation := term.collation.getD .binary }
  let sorted := sortByKeys encoding directions (·.1) keyed
  return (groupByKeys encoding directions (·.1) sorted).map fun group => group.map (·.2)

private def groupedResults (sources : Sources) (filter : Option Term) (groupKeys : List Term)
    (calls : List AggregateCall) (having : Option Term) (outputs : List Output)
    (keys : List Key) (environment : Environment) : Stream Result :=
  let rows := (sources.tuples environment).filterExcept fun tuples =>
    holds filter (environment.push tuples)
  match rows.toExcept.bind (groupsOf groupKeys environment) with
  | .error fault => .failed fault
  | .ok groups =>
      (Stream.ofList groups).bind fun group =>
        let result : Except Fault (Option Result) := do
          let environment ← groupEnvironment calls environment sources.missing group
          if ← holds having environment then
            return some (← evaluateResult outputs keys environment)
          else return none
        match result with
        | .ok (some result) => .ofList [result]
        | .ok none => .empty
        | .error fault => .failed fault

private def distinctResults (columns : List OutputColumn) (results : Environment → Stream Result)
    (environment : Environment) : Stream Result :=
  let directions := columns.map fun column => { collation := column.collation.getD .binary }
  let stream := results environment
  { stream with
    items :=
      distinctByKeys environment.database.encoding directions (·.values) stream.items }

private def orderedRows (part : Part) (environment : Environment) : Stream (List Value) :=
  let results := part.results environment
  let sorted :=
    if part.directions.isEmpty then results
    else
      match results.toExcept with
      | .ok results =>
          .ofList (sortByKeys environment.database.encoding part.directions (·.keys) results)
      | .error fault => .failed fault
  { items := sorted.items.map (·.values), fault := sorted.fault }

/-! ## Scans -/

/-- The direction in which the row numbers of the only source have to be read. -/
private def scanDirection? (scopes : List Scope) (sources : Sources)
    (orderBy : List Sql.OrderTerm) : Option Bool :=
  match sources.scope, orderBy with
  | [_], [] => some false
  | [source], order :: _ =>
      let found :=
        match order.expression with
        | .name name _ => Scope.lookUp scopes none name
        | .column _ table name => Scope.lookUp scopes (some table) name
        | _ => .missing
      match found with
      | .found (.rowid 0 _ _) => some order.descending
      | .found (.column 0 _ column _) =>
          if source.rowidColumn = some column then some order.descending else none
      | _ => none
  | _, _ => none

private def scannedTable? (core : Sql.SelectCore) : Option Table :=
  match core.sources with
  | [{ body := .table name, .. }] =>
      if (name.database.isNone &&
          context.commonTables.any fun (other, _) => Bytes.sameName other name.name) ||
          Database.SchemaTable.isName name.name then none
      else (context.database.table? name.name).filter fun table => !table.withoutRowid
  | _ => none

private def scanOf (table : Table) (filter : Option Term) (outputs : List Output)
    (descending : Bool) : Scan where
  table := table.name
  descending := descending
  pick environment row := do
    let environment := environment.push [.ofRow row]
    if ← holds filter environment then
      return some (← evaluateResult outputs [] environment).values
    else return none

/-! ## Compiling a part -/

private def partOf (core : Sql.SelectCore) (orderBy : List Sql.OrderTerm) : Compile Part := do
  let sources ←
    compileSources inner { context with allowsAggregates := false } core.sources
  let scope : Scope := { sources := sources.scope }
  let counting :=
    { context with scopes := scope :: context.scopes, allowsAggregates := true }
  let outputs :=
    (← core.columns.mapM fun column =>
      compileOutputs inner counting column sources.scope).flatten
  if 2000 < outputs.length then refuse "too many columns in result set"
  let isGrouped := !core.groupBy.isEmpty || !(← get).isEmpty
  let named : Scope := { scope with aliases := aliasesOf outputs }
  let plain :=
    { counting with scopes := named :: context.scopes, allowsAggregates := false }
  let late := { plain with allowsAggregates := isGrouped }
  if core.having.isSome && !isGrouped then refuse "HAVING clause on a non-aggregate query"
  let having ← core.having.mapM (inner.expression late)
  let filter ← core.filter.mapM (inner.expression plain)
  let keys ← orderBy.zipIdx.mapM fun (order, place) =>
    sortKey inner late outputs order (place + 1)
  let grouping ← core.groupBy.zipIdx.mapM fun (expression, place) => do
    let calls := (← get).length
    let key ← groupKey inner late outputs (place + 1) expression
    if calls < (← get).length then
      refuse "aggregate functions are not allowed in the GROUP BY clause"
    pure (key.meaning outputs)
  let calls ← get
  let columns := outputs.map (·.column)
  let results :=
    if isGrouped then
      groupedResults sources filter grouping calls having outputs (keys.map (·.1))
    else plainResults sources filter outputs (keys.map (·.1))
  let scan :=
    if isGrouped || core.distinct then none
    else do
      let table ← scannedTable? context core
      let descending ← scanDirection? plain.scopes sources orderBy
      some (scanOf table filter outputs descending)
  pure
    { columns
      results := if core.distinct then distinctResults columns results else results
      directions := keys.map (·.2)
      scan }

private def valuesPart (rows : List (List Sql.Expression)) : Compile Part := do
  let width := (rows.headD []).length
  unless rows.all (·.length = width) do
    refuse "all VALUES must have the same number of terms"
  if 2000 < width then refuse "too many columns in result set"
  let terms ← rows.mapM fun row => row.mapM (inner.expression context)
  pure
    { columns := (List.range width).map fun place =>
        { name := Bytes.ofAscii s!"column{place + 1}" }
      results := fun environment =>
        (Stream.ofList terms).mapExcept fun row => do
          return { values := ← Term.evaluateAll environment row } }

private def valuesKey (width number : Nat) (order : Sql.OrderTerm) :
    Compile (Nat × Direction) := do
  let (operand, collation) := splitCollation order.expression
  match position? operand with
  | some position =>
      pure (← placeOf "ORDER" number width position, directionOf collation order)
  | none =>
      refuse s!"{ordinal number} ORDER BY term does not match any column in the result set"

private def compilePart (core : Sql.SelectCore) (orderBy : List Sql.OrderTerm) :
    Except Failure Part := withoutCalls do
  if core.rows.isEmpty then partOf inner context core orderBy
  else
    let part ← valuesPart inner
      { context with scopes := {} :: context.scopes, allowsAggregates := false } core.rows
    let keys ← orderBy.zipIdx.mapM fun (order, place) =>
      valuesKey part.columns.length (place + 1) order
    pure
      { part with
        results := fun environment =>
          let results := part.results { environment with frames := [] :: environment.frames }
          { results with
            items := results.items.map fun result =>
              { result with keys := keys.map fun (place, _) =>
                  result.values[place]?.getD .null } }
        directions := keys.map (·.2) }

/-! ## Compounds -/

private def operatorName : Sql.CompoundOperator → String
  | .union => "UNION"
  | .unionAll => "UNION ALL"
  | .except => "EXCEPT"
  | .intersect => "INTERSECT"

private def columnDirections (columns : List OutputColumn) : List Direction :=
  columns.map fun column => { collation := column.collation.getD .binary }

private def combine (operator : Sql.CompoundOperator) (columns : List OutputColumn)
    (left right : Environment → Stream (List Value)) (environment : Environment) :
    Stream (List Value) :=
  match operator with
  | .unionAll => (left environment).append (right environment)
  | _ =>
      match (left environment).toExcept, (right environment).toExcept with
      | .error fault, _ => .failed fault
      | .ok _, .error fault => .failed fault
      | .ok lefts, .ok rights =>
          let encoding := environment.database.encoding
          let directions := columnDirections columns
          let isAmong (rows : List (List Value)) (row : List Value) : Bool :=
            rows.any fun other => Direction.compareAll encoding directions row other == .eq
          let rows :=
            match operator with
            | .except => lefts.filter fun row => !isAmong rights row
            | .intersect => lefts.filter (isAmong rights)
            | _ => lefts ++ rights
          .ofList (sortByKeys encoding directions id
            (distinctByKeys encoding directions id rows))

private def mergedColumns (left right : List OutputColumn) : List OutputColumn :=
  left.zipWith (fun left right =>
    { left with collation := left.collation <|> right.collation }) right

/-- A term that a compound is put in order by has to be one of the results of one of
its parts. -/
private def compoundKey (parts : List (List Sql.ResultColumn × List OutputColumn))
    (number : Nat) (order : Sql.OrderTerm) : Except Failure (Nat × Direction) := withoutCalls do
  let (operand, collation) := splitCollation order.expression
  let columns := ((parts.head?).map (·.2)).getD []
  let width := columns.length
  let place? :=
    match operand with
    | .name name _ =>
        parts.findSome? fun (_, columns) =>
          columns.findIdx? fun column => Bytes.sameName column.name name
    | _ => none
  let place ←
    match place?, position? operand with
    | some place, _ => pure place
    | none, some position => placeOf "ORDER" number width position
    | none, none =>
        refuse s!"{ordinal number} ORDER BY term does not match any column in the result set"
  let collation := collation <|> (columns[place]?.bind (·.collation))
  pure (place, directionOf collation order)

private def compileCompound (select : Sql.Select) :
    Except Failure (List OutputColumn × (Environment → Stream (List Value))) := do
  let first ← compilePart inner context select.first []
  let rest ← select.rest.mapM fun (operator, core) => do
    let part ← compilePart inner context core []
    if part.columns.length ≠ first.columns.length then
      if core.rows.isEmpty then
        throw (Failure.ofText <|
          s!"SELECTs to the left and right of {operatorName operator}" ++
            " do not have the same number of result columns")
      else throw (Failure.ofText "all VALUES must have the same number of terms")
    return (operator, part)
  let parts := (select.first.columns, first.columns) ::
    (select.rest.zip rest).map fun ((_, core), (_, part)) => (core.columns, part.columns)
  let keys ← select.orderBy.zipIdx.mapM fun (order, place) =>
    compoundKey parts (place + 1) order
  let (columns, rows) := rest.foldl (fun (columns, rows) (operator, part) =>
    let columns := mergedColumns columns part.columns
    (columns, combine operator columns rows (orderedRows part)))
    (first.columns, orderedRows first)
  if keys.isEmpty then return (columns, rows)
  return (columns, fun environment =>
    match (rows environment).toExcept with
    | .error fault => .failed fault
    | .ok rows =>
        .ofList (sortByKeys environment.database.encoding (keys.map (·.2))
          (fun row => keys.map fun (place, _) => row[place]?.getD .null) rows))

/-! ## Whole queries -/

def withCommonTables (tables : List Sql.CommonTable) : Except Failure Context :=
  tables.foldlM (fun context table => do
    let isTaken := context.commonTables.take tables.length |>.any fun (name, _) =>
      Bytes.sameName name table.name
    if isTaken ∧ (tables.filter fun other =>
        Bytes.sameName other.name table.name).length > 1 then
      throw
        { message := Bytes.ofAscii "duplicate WITH table name: " ++ table.name }
    return { context with
      commonTables := (table.name, .query table) :: context.commonTables }) context

def compileSelection (select : Sql.Select) : Except Failure Selection := do
  let context ← withCommonTables context select.commonTables
  match select.rest with
  | [] =>
      let part ← compilePart inner context select.first select.orderBy
      let window ← compileWindow inner context select.limit select.offset
      return {
        columns := part.columns
        rows := orderedRows part
        window
        scan := part.scan }
  | _ =>
      let (columns, rows) ← compileCompound inner context select
      let window ← compileWindow inner context select.limit select.offset
      return { columns, rows, window }

/-! ## Compilers for phrases of bounded depth -/

def depthLimit : Nat := 1000

private def tooDeep {α : Type} : Except Failure α :=
  .error (Failure.ofText s!"Expression tree is too large (maximum depth {depthLimit})")

def Compilers.ofDepth : (depth : Nat) → Compilers
  | 0 => { expression := fun _ _ => tooDeep, select := fun _ _ => tooDeep }
  | depth + 1 =>
      let inner := Compilers.ofDepth depth
      { expression := compileExpression inner
        select := fun context select => do
          return (← compileSelection inner context select).query }

def compilers : Compilers :=
  .ofDepth depthLimit

end EmbeddedSql.Plan
