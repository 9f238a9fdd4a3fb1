import EmbeddedSql.Plan.Target

/-! Triggers: steps that are taken for rows before, after or instead of a change. -/

namespace EmbeddedSql.Plan

structure Change where
  columns : List OutputColumn := []
  run : Frames → Effect Unit

structure ChangeContext where
  plan : Context
  active : List Bytes := []
  /-- How broken rules are dealt with whatever the rules say themselves. -/
  forced : Option Sql.Resolution := none

abbrev RowAction := (new old : Tuple) → Effect Unit

structure Triggers where
  before : List RowAction := []
  after : List RowAction := []
  insteadOf : List RowAction := []

namespace Triggers

def fire (actions : List RowAction) (new old : Tuple) : Effect Unit :=
  actions.forM fun action => action new old

/-- Runs what a trigger does. What it counts and gives is not the statement's. -/
private def aside (action : Effect Unit) : Effect Unit := do
  let outer ← get
  modify fun work => { work with changed := 0 }
  let restore : Effect Unit := modify fun work =>
    { work with
      changed := outer.changed
      results := outer.results
      counters :=
        { work.counters with
          totalChanges := work.counters.totalChanges + work.changed
          lastInsertRowid := outer.counters.lastInsertRowid } }
  tryCatch action fun fault => do
    restore
    throw fault
  restore

private def isFor (event : Sql.TriggerEvent) (trigger : Trigger) : Bool :=
  match event, trigger.event with
  | .insert, .insert => true
  | .delete, .delete => true
  | .update _, .update [] => true
  | .update assigned, .update columns =>
      assigned.any fun name => columns.any (Bytes.sameName name)
  | _, _ => false

private def rowSources (event : Sql.TriggerEvent) (source : ScopeSource) : List ScopeSource :=
  let named (name : String) : ScopeSource :=
    { source with name := Bytes.ofAscii name, isQualifiedOnly := true }
  match event with
  | .insert => [named "new"]
  | .delete => [named "old"]
  | .update _ => [named "new", named "old"]

private def rowTuples (event : Sql.TriggerEvent) (new old : Tuple) : List Tuple :=
  match event with
  | .insert => [new]
  | .delete => [old]
  | .update _ => [new, old]

variable (inner : Compilers)
  (step : ChangeContext → Sql.TriggerStep → Except Failure (Frames → Effect Unit))

private def compileOne (context : ChangeContext) (source : ScopeSource)
    (event : Sql.TriggerEvent) (trigger : Trigger) : Except Failure RowAction := do
  let plan : Context :=
    { database := context.plan.database
      scopes := [{ sources := rowSources event source }]
      isInTrigger := true
      foreignKeys := context.plan.foreignKeys }
  let condition ← trigger.condition.mapM fun condition =>
    withoutCalls (inner.expression plan condition)
  let steps ← trigger.steps.mapM
    (step { plan, active := trigger.name :: context.active, forced := context.forced })
  return fun new old => do
    let frames := [rowTuples event new old]
    if ← Effect.holds frames condition then
      aside (steps.forM fun step => step frames)

def compile (context : ChangeContext) (source : ScopeSource) (event : Sql.TriggerEvent) :
    Except Failure Triggers := do
  let triggers := (context.plan.database.triggersOf source.name).filter fun trigger =>
    isFor event trigger && !context.active.any (Bytes.sameName trigger.name)
  let at_ (time : Sql.TriggerTime) : Except Failure (List RowAction) :=
    (triggers.filter (·.time = time)).mapM (compileOne inner step context source event)
  return {
    before := ← at_ .before
    after := ← at_ .after
    insteadOf := ← at_ .insteadOf }

end Triggers

/-! ## Results of changed rows -/

structure Returning where
  columns : List OutputColumn := []
  terms : List Term := []

namespace Returning

def compile (inner : Compilers) (context : Context) (source : ScopeSource)
    (columns : List Sql.ResultColumn) : Except Failure Returning := do
  for column in columns do
    if let .tableStar _ := column.body then
      throw (Failure.ofText "RETURNING may not use \"TABLE.*\" wildcards")
  let context :=
    { context with
      scopes := { sources := [source] } :: context.scopes
      allowsAggregates := false }
  let outputs ← withoutCalls (columns.mapM fun column =>
    compileOutputs inner context column [source])
  return {
    columns := outputs.flatten.map (·.column)
    terms := outputs.flatten.map (·.term) }

def give (returning : Returning) (frames : Frames) (tuple : Tuple) : Effect Unit := do
  unless returning.terms.isEmpty do
    Effect.give (← Effect.evaluateAll ([tuple] :: frames) returning.terms)

end Returning

/-! ## Tables that can be changed -/

inductive Changeable where
  | table (table : Table)
  | view (view : View)

private def readOnlyMessage (name : Bytes) : Failure where
  message := Bytes.ofAscii "table " ++ name ++ Bytes.ofAscii " may not be modified"

/-- The table or view of a name. A view can only be changed if something is done
instead. -/
def changeable (database : Database) (name : Sql.ObjectName) (event : Sql.TriggerEvent) :
    Except Failure Changeable :=
  if !isMainDatabase name.database then noSuchTable name
  else if Database.SchemaTable.isName name.name then
    .error (readOnlyMessage (Bytes.ofAscii "sqlite_master"))
  else
    match database.table? name.name, database.view? name.name with
    | some table, _ => .ok (.table table)
    | none, some view =>
        let isReplaced := (database.triggersOf view.name).any fun trigger =>
          trigger.time = .insteadOf &&
            match event, trigger.event with
            | .insert, .insert => true
            | .delete, .delete => true
            | .update _, .update _ => true
            | _, _ => false
        if isReplaced then .ok (.view view)
        else
          .error
            { message := Bytes.ofAscii "cannot modify " ++ view.name ++
                Bytes.ofAscii " because it is a view" }
    | none, none => noSuchTable name

end EmbeddedSql.Plan
