import EmbeddedSql.Plan.Update

/-! Putting rows in, and what is done instead if they are there already. -/

namespace EmbeddedSql.Plan

/-! ## Rows as they are given -/

structure Arrangement where
  columns : List (Option Nat)
  rowid : Option Nat := none

namespace Arrangement

private def ofSlots (table : Table) (slots : List Slot) : Arrangement where
  columns := (List.range table.columns.length).map fun index =>
    slots.findIdx? (· = .column index)
  rowid := slots.findIdx? (· = .rowid)

private def allColumns (table : Table) : List Slot :=
  table.columns.zipIdx.filterMap fun (column, index) =>
    if column.generated.isSome then none
    else if table.rowidColumn = some index then some .rowid
    else some (.column index)

private def slotOf (shown : Bytes) (table : Table) (name : Bytes) : Except Failure Slot := do
  match Slot.find? (.ofTable table.name table) name with
  | none =>
      throw
        { message := Bytes.ofAscii "table " ++ shown ++ Bytes.ofAscii " has no column named " ++
            name }
  | some slot =>
      if let .column index := slot then
        if let some column := table.column? index then
          if column.generated.isSome then
            throw
              { message := Bytes.ofAscii "cannot INSERT into generated column \"" ++
                  column.name ++ [0x22] }
      return slot

private def compile (shown : Bytes) (table : Table) (names : List Bytes) (count : Nat) :
    Except Failure Arrangement := do
  if names.isEmpty then
    let slots := allColumns table
    if count ≠ slots.length then
      throw
        { message := Bytes.ofAscii "table " ++ shown ++ Bytes.ofAscii
            s!" has {slots.length} columns but {count} values were supplied" }
    return ofSlots table slots
  else
    let slots ← names.mapM (slotOf shown table)
    if count ≠ slots.length then
      throw (Failure.ofText s!"{count} values for {slots.length} columns")
    return ofSlots table slots

/-- The values of the columns; those that are not given have their defaults. -/
private def values (arrangement : Arrangement) (target : Target) (given : List Value) :
    Effect (List Value) :=
  (arrangement.columns.zip target.defaults).mapM fun (place, default) =>
    match place with
    | some place => pure (given[place]?.getD .null)
    | none => Effect.evaluate [] default

end Arrangement

/-! ## One row -/

private structure RowInsert where
  target : Target
  triggers : Triggers := {}
  returning : Returning := {}
  forced : Option Sql.Resolution := none
  /-- What is done about rows in the way, for a row that does not go in. -/
  upsert : Frames → (new : Tuple) → Target.Intercept := fun _ _ _ => none

namespace RowInsert

private def fullMessage : Fault where
  code := Status.full
  message := Bytes.ofAscii "database or disk is full"

private def freshRowid (name : Bytes) : Effect Int64 := do
  let database := (← get).database
  match database.table? name with
  | none => return 1
  | some table =>
      if table.autoincrement then
        let largest := max (database.sequence name) (table.largestRowid?.getD 0)
        if largest = Int64.maxValue then throw fullMessage
        return largest + 1
      else return table.nextRowid

private def rowidFor (insert : RowInsert) (given : Value) : Effect Int64 := do
  match given with
  | .null => freshRowid insert.target.table.name
  | value =>
      match value.withAffinity .numeric with
      | .integer rowid => return rowid
      | _ => throw .mismatch

private def store (insert : RowInsert) (row : Row) : Effect Unit := do
  let target := insert.target
  let name := target.table.name
  if let some table := ← Effect.table? name then
    Effect.setTable (table.insertRow (← get).database.encoding row)
  Effect.countChange
  unless target.table.withoutRowid do
    modify fun work =>
      { work with counters := { work.counters with lastInsertRowid := row.rowid } }
  if target.table.autoincrement then
    modify fun work =>
      { work with
        database := work.database.setSequence name
          (max (work.database.sequence name) row.rowid) }

/-- Before a row number is chosen, triggers see one that stands for none. -/
private def fireBefore (insert : RowInsert) (given : Value) (values : List Value) :
    Effect Unit := do
  unless insert.triggers.before.isEmpty do
    let rowid :=
      match given.withAffinity .numeric with
      | .null => .integer (-1)
      | value => value
    let values ← insert.target.withGenerated [] values
    let tuple := insert.target.tuple rowid values
    Triggers.fire insert.triggers.before tuple tuple

private def run (insert : RowInsert) (frames : Frames) (given : Value) (values : List Value) :
    Effect Unit :=
  Effect.unlessIgnored do
    let target := insert.target
    insert.fireBefore given values
    let rowid ← insert.rowidFor given
    let values ← target.settle insert.forced rowid values
    let row : Row := { rowid, values }
    let tuple := target.tuple (.integer rowid) values
    target.makeRoom insert.forced (insert.upsert frames tuple) row none
    insert.store row
    Triggers.fire insert.triggers.after tuple tuple
    insert.returning.give frames tuple

end RowInsert

variable (inner : Compilers)
  (step : ChangeContext → Sql.TriggerStep → Except Failure (Frames → Effect Unit))
  (context : ChangeContext)

/-! ## Instead of rows that are there already -/

private structure CompiledUpsert where
  columns : Option (List Nat)
  update : Option RowUpdate
  filter : Option Term

private def targetColumns (target : Target) (names : List Bytes) :
    Except Failure (Option (List Nat)) := do
  if names.isEmpty then return none
  let columns ← names.mapM fun name =>
    match target.table.columnIndex? name with
    | some column => .ok column
    | none => .error { message := Bytes.ofAscii "no such column: " ++ name : Failure }
  let same (other : List Nat) : Bool :=
    other.length = columns.length && columns.all other.contains
  let rules := target.table.rowidColumn.toList.map (fun column => [column]) ++
    target.uniques.map (·.columns)
  match rules.find? same with
  | some rule => return some rule
  | none =>
      throw <| Failure.ofText
        "ON CONFLICT clause does not match any PRIMARY KEY or UNIQUE constraint"

private def compileUpsert (plan : Context) (target : Target) (source : ScopeSource)
    (returning : Returning) (upsert : Sql.Upsert) : Except Failure CompiledUpsert := do
  let columns ← targetColumns target upsert.target
  if upsert.assignments.isEmpty then return { columns, update := none, filter := none }
  let excluded : ScopeSource :=
    { source with name := Bytes.ofAscii "excluded", isQualifiedOnly := true }
  let inside := { plan with scopes := { sources := [source, excluded] } :: plan.scopes }
  let assignments ← compileAssignments inner inside source upsert.assignments
  let filter ← upsert.filter.mapM fun filter => withoutCalls (inner.expression inside filter)
  let event : Sql.TriggerEvent := .update (upsert.assignments.map (·.1))
  let triggers ←
    Triggers.compile inner step context (.ofTable target.table.name target.table) event
  return { columns, update := some { target, assignments, triggers, returning }, filter }

private def intercept (upserts : List CompiledUpsert) (frames : Frames) (new : Tuple) :
    Target.Intercept := fun columns =>
  let upsert? := upserts.find? fun upsert => upsert.columns.all (· = columns)
  upsert?.map fun upsert row => do
    match upsert.update with
    | none => pure ()
    | some update =>
        let inside := [.ofRow row, new] :: frames
        if ← Effect.holds inside upsert.filter then update.run row inside frames

/-! ## Statements -/

private def shownName (insert : Sql.Insert) : Bytes :=
  insert.aliasName.getD
    ((insert.table.database.map (· ++ [0x2E])).getD [] ++ insert.table.name)

private def givenRows (plan : Context) (source : Sql.InsertSource) :
    Except Failure (Option Nat × (Frames → Effect (List (List Value)))) := do
  match source with
  | .defaults => return (none, fun _ => pure [[]])
  | .query query =>
      let query ← inner.select plan query
      return (some query.columns.length, fun frames =>
        Effect.read fun work => (query.rows (work.environment frames)).toExcept)

private def insertIntoTable (plan : Context) (insert : Sql.Insert) (table : Table) :
    Except Failure Change := do
  let forced := context.forced <|> insert.resolution
  let context := { context with forced }
  let triggers ← Triggers.compile inner step context (.ofTable table.name table) .insert
  let (count, rows) ← givenRows inner plan insert.source
  let arrangement ←
    match count with
    | some count => Arrangement.compile (shownName insert) table insert.columns count
    | none => pure (Arrangement.ofSlots table [])
  let target ← Target.compile inner plan table
  let source := scopeSource insert.aliasName table
  let returning ← Returning.compile inner plan source insert.returning
  let upserts ← insert.upserts.mapM (compileUpsert inner step context plan target source returning)
  checkReferences plan table
  let rowInsert : RowInsert :=
    { target, triggers, returning, forced, upsert := intercept upserts }
  return {
    columns := returning.columns
    run := fun frames => do
      for given in ← rows frames do
        let rowid := (arrangement.rowid.bind fun place => given[place]?).getD .null
        rowInsert.run frames rowid (← arrangement.values target given) }

private def insertIntoView (plan : Context) (insert : Sql.Insert) (view : View) :
    Except Failure Change := do
  let source := (← viewSource inner plan view).scope.headD { name := view.name, columns := [] }
  let triggers ← Triggers.compile inner step context source .insert
  let (count, rows) ← givenRows inner plan insert.source
  let table : Table :=
    { name := view.name
      columns := source.columns.map fun info => { name := info.name }
      withoutRowid := true }
  let arrangement ←
    match count with
    | some count => Arrangement.compile (shownName insert) table insert.columns count
    | none => pure (Arrangement.ofSlots table [])
  let target : Target :=
    { table, defaults := table.columns.map fun _ => Term.constant .null }
  return {
    run := fun frames => do
      for given in ← rows frames do
        Effect.unlessIgnored do
          let tuple : Tuple := { values := ← arrangement.values target given }
          Triggers.fire triggers.insteadOf tuple tuple }

def compileInsert (insert : Sql.Insert) : Except Failure Change := do
  let plan ← withCommonTables context.plan insert.commonTables
  match ← changeable plan.database insert.table .insert with
  | .table table => insertIntoTable inner step context plan insert table
  | .view view => insertIntoView inner step context plan insert view

end EmbeddedSql.Plan
