import EmbeddedSql.Plan.Update

/-! Taking rows away. -/

namespace EmbeddedSql.Plan

variable (inner : Compilers)
  (step : ChangeContext → Sql.TriggerStep → Except Failure (Frames → Effect Unit))
  (context : ChangeContext)

private def deleteRow (target : Target) (triggers : Triggers) (returning : Returning)
    (frames : Frames) (row : Row) : Effect Unit :=
  Effect.unlessIgnored do
    let name := target.table.name
    let tuple := target.tuple (.integer row.rowid) row.values
    Triggers.fire triggers.before tuple tuple
    match (← Effect.table? name).bind (·.row? row.rowid) with
    | none => pure ()
    | some row =>
        eraseRow target.foreignKeys name row
        Effect.countChange
        Triggers.fire triggers.after tuple tuple
        returning.give frames tuple

private def deleteFromTable (plan : Context) (delete : Sql.Delete) (table : Table) :
    Except Failure Change := do
  let source := scopeSource delete.aliasName table
  let triggers ← Triggers.compile inner step context (.ofTable table.name table) .delete
  let inside := { plan with scopes := { sources := [source] } :: plan.scopes }
  let filter ← delete.filter.mapM fun filter => withoutCalls (inner.expression inside filter)
  let returning ← Returning.compile inner plan source delete.returning
  checkReferences plan table
  let target ← Target.compile inner plan table
  return {
    columns := returning.columns
    run := fun frames => do
      let rows := ((← Effect.table? table.name).map (·.rows)).getD []
      let chosen ← rows.filterM fun row => Effect.holds ([.ofRow row] :: frames) filter
      for row in chosen do
        if let some current := (← Effect.table? table.name).bind (·.row? row.rowid) then
          deleteRow target triggers returning frames current }

private def deleteFromView (plan : Context) (delete : Sql.Delete) (view : View) :
    Except Failure Change := do
  let sources ← viewSource inner plan view
  let source := sources.scope.headD { name := view.name, columns := [] }
  let triggers ← Triggers.compile inner step context source .delete
  let shown := { source with name := delete.aliasName.getD view.name }
  let inside := { plan with scopes := { sources := [shown] } :: plan.scopes }
  let filter ← delete.filter.mapM fun filter => withoutCalls (inner.expression inside filter)
  return {
    run := fun frames => do
      for old in ← viewRows sources filter frames do
        Effect.unlessIgnored (Triggers.fire triggers.insteadOf old old) }

def compileDelete (delete : Sql.Delete) : Except Failure Change := do
  let plan ← withCommonTables context.plan delete.commonTables
  match ← changeable plan.database delete.table .delete with
  | .table table => deleteFromTable inner step context plan delete table
  | .view view => deleteFromView inner step context plan delete view

end EmbeddedSql.Plan
