import EmbeddedSql.Plan.Alteration
import EmbeddedSql.Plan.Change
import EmbeddedSql.Plan.Pragma
import EmbeddedSql.Plan.Schema
import EmbeddedSql.Sql.Parser.Statement

/-! Statements that are ready to run. -/

namespace EmbeddedSql.Plan

inductive Program where
  | query (selection : Selection) (reads : Bool)
  | change (change : Change)
  /-- Changes the schema or the settings that are stored with it. Objects cannot be
  dropped while rows are read. -/
  | define (effect : Effect Unit) (drops : Bool)
  | begin (kind : Sql.TransactionKind)
  | commit
  | rollback
  | savepoint (name : Bytes)
  | release (name : Bytes)
  | rollbackTo (name : Bytes)
  | vacuum
  | nothing

namespace Program

def columns : Program → List OutputColumn
  | .query selection _ => selection.columns
  | .change whole => whole.columns
  | _ => []

private def ofRows (columns : List String) (reads : Bool)
    (rows : Database → List (List Value)) : Program :=
  .query
    { columns := columns.map fun name => { name := Bytes.ofAscii name }
      rows := fun environment => .ofList (rows environment.database) }
    reads

private def ofDefinition (drops : Bool) : Option (Effect Unit) → Program
  | some effect => .define effect drops
  | none => ofRows [] true fun _ => []

private def ofPragma : Pragma → Program
  | .nothing => .nothing
  | .set _ => .nothing
  | .answer columns rows => ofRows columns false fun _ => rows
  | .report columns rows => ofRows columns true rows
  | .store effect => .define effect false

private def settingOf : Pragma → Option Setting
  | .set setting => some setting
  | _ => none

/-! ## What is known without the schema -/

/-- Whether rows of tables are read, and not only those of common tables. -/
private def readsTables (statement : Sql.Statement) (sources : List Sql.ObjectName) : Bool :=
  let common : List Bytes :=
    match statement with
    | .select select => select.commonTables.map fun table => table.name
    | _ => []
  sources.any fun source =>
    source.database.isSome || !common.any (Bytes.sameName source.name)

def needsSchema (parsed : Sql.Parsed) : Bool :=
  match parsed.statement with
  | some (.select select) => readsTables (.select select) parsed.sources
  | some (.insert _) | some (.update _) | some (.delete _) => true
  | some (.createTable _) | some (.createIndex _) | some (.createView _) => true
  | some (.createTrigger _) | some (.drop _ _ _) | some (.alter _ _) => true
  | some (.pragma _ name value) =>
      let isNamed (pragma : String) := Bytes.sameName name (Bytes.ofAscii pragma)
      isNamed "table_info" || (isNamed "encoding" && value.isNone)
  | _ => false

/-! ## Compiling -/

private def compilePragma (circumstances : Circumstances) (database : Option Bytes)
    (name : Bytes) (value : Option Bytes) : Except Failure Pragma := do
  if let some database := database then
    unless isMainDatabase (some database) do
      failNamed "unknown database " database ""
  Pragma.compile circumstances name value

def compile (context : Context) (circumstances : Circumstances) (parsed : Sql.Parsed)
    (statement : Sql.Statement) : Except Failure (Program × Option Setting) := do
  let only (program : Program) : Program × Option Setting := (program, none)
  match statement with
  | .select select =>
      let selection ← compileSelection compilers context select
      return only (.query selection (readsTables statement parsed.sources))
  | .insert insert => return only (.change (← Change.ofInsert compilers context insert))
  | .update update => return only (.change (← Change.ofUpdate compilers context update))
  | .delete delete => return only (.change (← Change.ofDelete compilers context delete))
  | .createTable create =>
      return only (ofDefinition false (← compileCreateTable compilers context create))
  | .createIndex create =>
      return only (ofDefinition false (← compileCreateIndex compilers context create))
  | .createView create =>
      return only (ofDefinition false (← compileCreateView context create))
  | .createTrigger create =>
      return only (ofDefinition false (← compileCreateTrigger context create))
  | .drop kind ifExists name =>
      let drops := kind = .table || kind = .index
      return only (ofDefinition drops (← compileDrop context kind ifExists name))
  | .alter table action =>
      return only (.define (← compileAlter compilers context table action) false)
  | .begin kind => return only (.begin kind)
  | .commit => return only .commit
  | .rollback => return only .rollback
  | .savepoint name => return only (.savepoint name)
  | .release name => return only (.release name)
  | .rollbackTo name => return only (.rollbackTo name)
  | .pragma database name value =>
      let pragma ← compilePragma circumstances database name value
      return (ofPragma pragma, settingOf pragma)
  | .vacuum => return only .vacuum
  | .maintain => return only .nothing

end Program

end EmbeddedSql.Plan
