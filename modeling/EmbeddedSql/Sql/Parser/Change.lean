import EmbeddedSql.Sql.Parser.Select
import EmbeddedSql.Sql.Statement

/-! Statements that change rows. -/

namespace EmbeddedSql.Sql.Parser

variable (inner : Grammar)

def resolution : Parser Resolution := do
  if ← acceptWord "ROLLBACK" then pure .rollback
  else if ← acceptWord "ABORT" then pure .abort
  else if ← acceptWord "FAIL" then pure .fail
  else if ← acceptWord "IGNORE" then pure .ignore
  else if ← acceptWord "REPLACE" then pure .replace
  else unexpected

private def acceptOrResolution : Parser (Option Resolution) := do
  if ← acceptWord "OR" then pure (some (← resolution)) else pure none

private def acceptReturning : Parser (List ResultColumn) := do
  if ← acceptWord "RETURNING" then resultColumns inner else pure []

private def assignment : Parser (List (Bytes × Expression)) := do
  if ← isNextSymbol "(" then
    let columns ← parenthesized (separated name)
    expectSymbol "="
    match ← inner.expression Rank.lowest with
    | .row elements =>
        unless columns.length = elements.length do
          refuse s!"{columns.length} columns assigned {elements.length} values"
        pure (columns.zip elements)
    | value => pure (columns.map (·, value))
  else
    let column ← name
    expectSymbol "="
    pure [(column, ← inner.expression Rank.lowest)]

private def assignments : Parser (List (Bytes × Expression)) := do
  pure (← separated (assignment inner)).flatten

private def changedTable : Parser (ObjectName × Option Bytes) := do
  let table ← objectName
  if ← acceptWord "AS" then pure (table, some (← name)) else pure (table, none)

/-! ## Inserting -/

private def upsertTarget : Parser (List Bytes) := do
  if ← isNextSymbol "(" then
    let columns ← parenthesized (separated do
      let column ← name
      let _ ← acceptDirection
      pure column)
    let _ ← acceptFilter inner
    pure columns
  else pure []

private def upsert : Parser (Option Upsert) := do
  if (← isNextWord "ON") && (← peekAt 1).isWord "CONFLICT" then
    skip
    skip
    let target ← upsertTarget inner
    expectWord "DO"
    if ← acceptWord "NOTHING" then pure (some { target })
    else
      expectWord "UPDATE"
      expectWord "SET"
      let assignments ← assignments inner
      pure (some { target, assignments, filter := ← acceptFilter inner })
  else pure none

private def insertInto (commonTables : List CommonTable) (resolution : Option Resolution) :
    Parser Insert := do
  expectWord "INTO"
  let (table, aliasName) ← changedTable
  let columns ←
    if ← isNextSymbol "(" then parenthesized (separated name) else pure []
  if ← acceptWord "DEFAULT" then
    expectWord "VALUES"
    let returning ← acceptReturning inner
    pure { commonTables, resolution, table, aliasName, columns, source := .defaults, returning }
  else
    let query ← inner.select
    let upserts ← many (upsert inner)
    let returning ← acceptReturning inner
    pure { commonTables, resolution, table, aliasName, columns, source := .query query, upserts,
           returning }

def insert (commonTables : List CommonTable) : Parser Insert := do
  if ← acceptWord "REPLACE" then insertInto inner commonTables (some .replace)
  else
    expectWord "INSERT"
    insertInto inner commonTables (← acceptOrResolution)

/-! ## Updating and deleting -/

def update (commonTables : List CommonTable) : Parser Update := do
  expectWord "UPDATE"
  let resolution ← acceptOrResolution
  let (table, aliasName) ← changedTable
  skipIndexHint
  expectWord "SET"
  let assignments ← assignments inner
  let sources ← acceptSources inner
  let filter ← acceptFilter inner
  let returning ← acceptReturning inner
  pure { commonTables, resolution, table, aliasName, assignments, sources, filter, returning }

def delete (commonTables : List CommonTable) : Parser Delete := do
  expectWord "DELETE"
  expectWord "FROM"
  let (table, aliasName) ← changedTable
  skipIndexHint
  let filter ← acceptFilter inner
  let returning ← acceptReturning inner
  pure { commonTables, table, aliasName, filter, returning }

end EmbeddedSql.Sql.Parser
