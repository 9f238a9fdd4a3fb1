import EmbeddedSql.Plan.Trigger

/-! Changing rows that are there. -/

namespace EmbeddedSql.Plan

inductive Slot where
  | column (index : Nat)
  | rowid
deriving DecidableEq, Repr

def Slot.find? (source : ScopeSource) (name : Bytes) : Option Slot :=
  match source.columns.findIdx? fun info => Bytes.sameName info.name name with
  | some index => if source.rowidColumn = some index then some .rowid else some (.column index)
  | none => if source.hasRowid && Scope.isRowidName name then some .rowid else none

namespace Slot

def assign (values : List Value) : Slot → Value → List Value
  | .column index, value => values.set index value
  | .rowid, _ => values

end Slot

/-- How one row is changed, once the rows that its values are computed from are
known. -/
structure RowUpdate where
  target : Target
  assignments : List (Slot × Term)
  triggers : Triggers := {}
  returning : Returning := {}
  forced : Option Sql.Resolution := none

namespace RowUpdate

private def rowidOf (value : Value) : Effect Int64 :=
  match value.withAffinity .numeric with
  | .integer rowid => pure rowid
  | _ => throw .mismatch

private def assigned (update : RowUpdate) (row : Row) (assignments : List (Slot × Value)) :
    Effect Row := do
  let values := assignments.foldl (fun values (slot, value) => slot.assign values value)
    row.values
  let rowid ←
    match assignments.reverse.lookup .rowid with
    | some value => rowidOf value
    | none => pure row.rowid
  return { rowid, values := update.target.withRowid (.integer rowid) values }

def run (update : RowUpdate) (row : Row) (assignmentFrames frames : Frames) : Effect Unit :=
  Effect.unlessIgnored do
    let target := update.target
    let name := target.table.name
    let assignments ← update.assignments.mapM fun (slot, term) => do
      return (slot, ← Effect.evaluate assignmentFrames term)
    let new ← update.assigned row assignments
    let tupleOf (row : Row) := target.tuple (.integer row.rowid) row.values
    Triggers.fire update.triggers.before (tupleOf new) (tupleOf row)
    let current := (← Effect.table? name).bind (·.row? row.rowid)
    match current with
    | none => pure ()
    | some current =>
        let new ← update.assigned current assignments
        let values ← target.settle update.forced new.rowid new.values
        let new := { new with values }
        target.makeRoom update.forced (fun _ => none) new (some current.rowid)
        changeRow target.foreignKeys name current new
        Effect.countChange
        Triggers.fire update.triggers.after (tupleOf new) (tupleOf current)
        update.returning.give frames (tupleOf new)

end RowUpdate

variable (inner : Compilers)
  (step : ChangeContext → Sql.TriggerStep → Except Failure (Frames → Effect Unit))
  (context : ChangeContext)

/-! ## Compiling -/

def compileAssignments (plan : Context) (source : ScopeSource)
    (assignments : List (Bytes × Sql.Expression)) : Except Failure (List (Slot × Term)) :=
  assignments.mapM fun (name, expression) => do
    match Slot.find? source name with
    | some slot => return (slot, ← withoutCalls (inner.expression plan expression))
    | none => throw { message := Bytes.ofAscii "no such column: " ++ name }

private def checkGenerated (table : Table) (assignments : List (Slot × Term)) :
    Except Failure Unit := do
  for (slot, _) in assignments do
    if let .column index := slot then
      if let some column := table.column? index then
        if column.generated.isSome then
          throw
            { message := Bytes.ofAscii "cannot UPDATE generated column \"" ++ column.name ++
                [0x22] }

/-- The first of the tuples beside a row with which the condition holds. -/
private def partner (sources : Sources) (filter : Option Term) (frames : Frames)
    (tuple : Tuple) : Effect (Option (List Tuple)) :=
  Effect.read fun work => do
    let environment := work.environment frames
    let tuples ← (sources.tuples environment).toExcept
    tuples.findM? fun others =>
      match filter with
      | some filter => filter.isTrue (environment.push (tuple :: others))
      | none => .ok true

/-- The scope in which an update reads its table, under another name if it has
one. -/
def scopeSource (aliasName : Option Bytes) (table : Table) : ScopeSource :=
  { ScopeSource.ofTable table.name table with name := aliasName.getD table.name }

private def updateTable (plan : Context) (update : Sql.Update) (table : Table) :
    Except Failure Change := do
  let forced := context.forced <|> update.resolution
  let event : Sql.TriggerEvent := .update (update.assignments.map (·.1))
  let context := { context with forced }
  let source := scopeSource update.aliasName table
  let triggers ← Triggers.compile inner step context (.ofTable table.name table) event
  let sources ← withoutCalls (compileSources inner plan update.sources)
  let inside := { plan with scopes := { sources := source :: sources.scope } :: plan.scopes }
  let assignments ← compileAssignments inner inside source update.assignments
  checkGenerated table assignments
  let filter ← update.filter.mapM fun filter => withoutCalls (inner.expression inside filter)
  let returning ← Returning.compile inner plan source update.returning
  checkReferences plan table
  let target ← Target.compile inner plan table
  let rowUpdate : RowUpdate := { target, assignments, triggers, returning, forced }
  return {
    columns := returning.columns
    run := fun frames => do
      let rows := ((← Effect.table? table.name).map (·.rows)).getD []
      let chosen ← rows.filterMapM fun row => do
        return (← partner sources filter frames (.ofRow row)).map fun others => (row, others)
      for (row, others) in chosen do
        if let some current := (← Effect.table? table.name).bind (·.row? row.rowid) then
          rowUpdate.run current ((.ofRow current :: others) :: frames) frames }

/-! ## Views -/

def viewRows (sources : Sources) (filter : Option Term) (frames : Frames) :
    Effect (List Tuple) :=
  Effect.read fun work => do
    let environment := work.environment frames
    let rows ← ((sources.tuples environment).filterExcept fun tuples =>
      match filter with
      | some filter => filter.isTrue (environment.push tuples)
      | none => .ok true).toExcept
    return rows.map fun tuples => tuples.headD { values := [] }

def viewSource (plan : Context) (view : View) : Except Failure Sources := do
  return ofQuery view.name view.columns (← viewQuery inner plan view)

private def updateView (plan : Context) (update : Sql.Update) (view : View) :
    Except Failure Change := do
  let event : Sql.TriggerEvent := .update (update.assignments.map (·.1))
  let sources ← viewSource inner plan view
  let source := sources.scope.headD { name := view.name, columns := [] }
  let triggers ← Triggers.compile inner step context source event
  let shown := { source with name := update.aliasName.getD view.name }
  let inside := { plan with scopes := { sources := [shown] } :: plan.scopes }
  let assignments ← compileAssignments inner inside source update.assignments
  let filter ← update.filter.mapM fun filter => withoutCalls (inner.expression inside filter)
  return {
    run := fun frames => do
      for old in ← viewRows sources filter frames do
        Effect.unlessIgnored do
          let values ← assignments.foldlM (fun values (slot, term) => do
            return slot.assign values (← Effect.evaluate ([old] :: frames) term)) old.values
          Triggers.fire triggers.insteadOf { values } old }

def compileUpdate (update : Sql.Update) : Except Failure Change := do
  let plan ← withCommonTables context.plan update.commonTables
  match ← changeable plan.database update.table (.update []) with
  | .table table => updateTable inner step context plan update table
  | .view view => updateView inner step context plan update view

end EmbeddedSql.Plan
