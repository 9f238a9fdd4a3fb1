import EmbeddedSql.Plan.Table
import EmbeddedSql.Plan.Trigger

/-! Defining indexes, views and triggers, and dropping what is defined. -/

namespace EmbeddedSql.Plan

private def inMain (name : Sql.ObjectName) : Bytes :=
  (name.database.getD (Bytes.ofAscii "main")) ++ [0x2E] ++ name.name

/-! ## Indexes -/

private def indexedTable (context : Context) (name : Bytes) : Except Failure Table :=
  if Database.SchemaTable.isName name then
    failNamed "table " name " may not be indexed"
  else
    match context.database.table? name, context.database.view? name with
    | some table, _ => .ok table
    | none, some _ => throw (Failure.ofText "views may not be indexed")
    | none, none => failNamed "no such table: main." name ""

private def checkRows (target : Target) : Effect Unit := do
  let rows := ((← Effect.table? target.table.name).map (·.rows)).getD []
  for row in rows do
    target.makeRoom (some .abort) (fun _ => none) row (some row.rowid)

def compileCreateIndex (inner : Compilers) (context : Context) (create : Sql.CreateIndex) :
    Except Failure (Option (Effect Unit)) := do
  checkDatabase create.name
  let table ← indexedTable context create.table
  let name := create.name.name
  checkObjectName name
  if (context.database.table? name).isSome then
    failNamed "there is already a table named " name ""
  if (context.database.index? name).isSome then
    if create.ifNotExists then return none else failNamed "index " name " already exists"
  let lead := if create.unique then "CREATE UNIQUE INDEX " else "CREATE INDEX "
  let index : Index :=
    { name, table := table.name, columns := create.columns, unique := create.unique
      filter := create.filter, written := Bytes.ofAscii lead ++ create.written }
  let database := context.database.addObject (.index { index with unique := true })
  let target ← Target.compile inner { context with database } table
  return some do
    if create.unique then checkRows { target with uniques := target.uniques.take 1 }
    define (.index index)

/-! ## Views -/

def compileCreateView (context : Context) (create : Sql.CreateView) :
    Except Failure (Option (Effect Unit)) := do
  checkDatabase create.name
  let name := create.name.name
  checkObjectName name
  unless ← isNewTable context.database name create.ifNotExists do return none
  return some <| define <| .view
    { name, columns := create.columns, query := create.query
      written := Bytes.ofAscii "CREATE VIEW " ++ create.written }

/-! ## Triggers -/

private def timeWord : Sql.TriggerTime → String
  | .before => "BEFORE"
  | .after => "AFTER"
  | .insteadOf => "INSTEAD OF"

private def triggeredTable (context : Context) (create : Sql.CreateTrigger) :
    Except Failure Bytes := do
  let name := create.table.name
  if Database.SchemaTable.isName name then
    throw (Failure.ofText "cannot create trigger on system table")
  match context.database.table? name, context.database.view? name with
  | some table, _ =>
      if create.time = .insteadOf then
        failNamed "cannot create INSTEAD OF trigger on table: " name ""
      return table.name
  | none, some view =>
      if create.time ≠ .insteadOf then
        failNamed s!"cannot create {timeWord create.time} trigger on view: " name ""
      return view.name
  | none, none => failNamed "no such table: " (inMain create.table) ""

def compileCreateTrigger (context : Context) (create : Sql.CreateTrigger) :
    Except Failure (Option (Effect Unit)) := do
  checkDatabase create.name
  let table ← triggeredTable context create
  let name := create.name.name
  checkObjectName name
  if (context.database.trigger? name).isSome then
    if create.ifNotExists then return none else failNamed "trigger " name " already exists"
  return some <| define <| .trigger
    { name, table, time := create.time, event := create.event, condition := create.condition
      steps := create.steps, written := Bytes.ofAscii "CREATE TRIGGER " ++ create.written }

/-! ## Dropping -/

private def belongsTo (table : Bytes) : SchemaObject → Bool
  | .table other => Bytes.sameName other.name table
  | .index index => Bytes.sameName index.table table
  | .view view => Bytes.sameName view.name table
  | .trigger trigger => Bytes.sameName trigger.table table

private def clearReferences (context : Context) (table : Table) : Effect Unit := do
  let isReferred := context.database.foreignKeys.any fun (_, key) =>
    Bytes.sameName key.reference.table table.name
  if context.foreignKeys && isReferred then
    let before := (← get).database
    for row in table.rows do
      eraseRow true table.name row
    let after := (← get).database
    if before.brokenReferences false < after.brokenReferences false then
      Effect.violate .abort brokenReference

private def dropTable (context : Context) (table : Table) : Effect Unit := do
  clearReferences context table
  modify fun work =>
    { work with
      database := (work.database.removeObjects (belongsTo table.name)).dropSequence table.name }

private def remove (isRemoved : SchemaObject → Bool) : Effect Unit :=
  modify fun work => { work with database := work.database.removeObjects isRemoved }

private def missing (kind : String) (ifExists : Bool) (name : Sql.ObjectName) :
    Except Failure (Option (Effect Unit)) :=
  if ifExists then .ok none
  else
    let qualified := (name.database.map (· ++ [0x2E])).getD [] ++ name.name
    failNamed s!"no such {kind}: " qualified ""

private def compileDropTable (context : Context) (ifExists : Bool) (name : Sql.ObjectName) :
    Except Failure (Option (Effect Unit)) := do
  if Database.SchemaTable.isName name.name ||
      Bytes.sameName name.name Database.sequenceTable then
    failNamed "table " name.name " may not be dropped"
  match context.database.table? name.name, context.database.view? name.name with
  | some table, _ => return some (dropTable context table)
  | none, some view => failNamed "use DROP VIEW to delete view " view.name ""
  | none, none => missing "table" ifExists name

private def compileDropView (context : Context) (ifExists : Bool) (name : Sql.ObjectName) :
    Except Failure (Option (Effect Unit)) := do
  match context.database.view? name.name, context.database.table? name.name with
  | some view, _ => return some (remove (belongsTo view.name))
  | none, some table => failNamed "use DROP TABLE to delete table " table.name ""
  | none, none => missing "view" ifExists name

private def isAutomatic (database : Database) (name : Bytes) : Bool :=
  database.tables.any fun table =>
    table.uniques.any fun key => key.index.any (Bytes.sameName name)

private def compileDropIndex (context : Context) (ifExists : Bool) (name : Sql.ObjectName) :
    Except Failure (Option (Effect Unit)) := do
  match context.database.index? name.name with
  | some index =>
      return some <| remove fun object =>
        match object with
        | .index other => Bytes.sameName other.name index.name
        | _ => false
  | none =>
      if isAutomatic context.database name.name then
        throw <| Failure.ofText
          "index associated with UNIQUE or PRIMARY KEY constraint cannot be dropped"
      missing "index" ifExists name

private def compileDropTrigger (context : Context) (ifExists : Bool) (name : Sql.ObjectName) :
    Except Failure (Option (Effect Unit)) := do
  match context.database.trigger? name.name with
  | some trigger =>
      return some <| remove fun object =>
        match object with
        | .trigger other => Bytes.sameName other.name trigger.name
        | _ => false
  | none => missing "trigger" ifExists name

def compileDrop (context : Context) (kind : Sql.ObjectKind) (ifExists : Bool)
    (name : Sql.ObjectName) : Except Failure (Option (Effect Unit)) :=
  if !isMainDatabase name.database then
    let word :=
      match kind with
      | .table => "table"
      | .index => "index"
      | .view => "view"
      | .trigger => "trigger"
    missing word ifExists name
  else
    match kind with
    | .table => compileDropTable context ifExists name
    | .index => compileDropIndex context ifExists name
    | .view => compileDropView context ifExists name
    | .trigger => compileDropTrigger context ifExists name

end EmbeddedSql.Plan
