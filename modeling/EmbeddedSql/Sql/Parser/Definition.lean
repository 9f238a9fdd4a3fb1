import EmbeddedSql.Sql.Parser.Change

/-! Statements that define tables, indexes, views and triggers. -/

namespace EmbeddedSql.Sql.Parser

variable (inner : Grammar)

private def acceptIfNotExists : Parser Bool := do
  if ← acceptWord "IF" then
    expectWord "NOT"
    expectWord "EXISTS"
    pure true
  else pure false

private def definedName : Parser (ObjectName × Nat) := do
  let start := (← peek).start
  let first ← name
  if ← acceptSymbol "." then
    let start := (← peek).start
    pure ({ database := some first, name := ← name }, start)
  else pure ({ name := first }, start)

/-! ## Constraints -/

private def acceptConflict : Parser (Option Resolution) := do
  if (← isNextWord "ON") && (← peekAt 1).isWord "CONFLICT" then
    skip
    skip
    pure (some (← resolution))
  else pure none

private def referenceAction : Parser ReferenceAction := do
  if ← acceptWord "SET" then
    if ← acceptWord "NULL" then pure .setNull
    else
      expectWord "DEFAULT"
      pure .setDefault
  else if ← acceptWord "CASCADE" then pure .cascade
  else if ← acceptWord "RESTRICT" then pure .restrict
  else
    expectWord "NO"
    expectWord "ACTION"
    pure .noAction

private def acceptDeferral (reference : Reference) : Parser (Option Reference) := do
  let token ← peek
  if token.isWord "DEFERRABLE" || (token.isWord "NOT" && (← peekAt 1).isWord "DEFERRABLE") then
    let negated ← acceptWord "NOT"
    skip
    if ← acceptWord "INITIALLY" then
      if ← acceptWord "DEFERRED" then
        pure (some { reference with deferred := !negated })
      else
        expectWord "IMMEDIATE"
        pure (some { reference with deferred := false })
    else pure (some { reference with deferred := false })
  else pure none

private def referenceClause : Parser Reference := do
  let table ← name
  let columns ← if ← isNextSymbol "(" then parenthesized (separated name) else pure []
  let reference ← extend (fun (reference : Reference) => do
    if ← acceptWord "ON" then
      if ← acceptWord "DELETE" then
        pure (some { reference with onDelete := ← referenceAction })
      else if ← acceptWord "UPDATE" then
        pure (some { reference with onUpdate := ← referenceAction })
      else
        expectWord "INSERT"
        let _ ← referenceAction
        pure (some reference)
    else if ← acceptWord "MATCH" then
      let _ ← name
      pure (some reference)
    else pure none) { table, columns }
  extend acceptDeferral reference

private def acceptAutoincrement : Parser Bool := acceptWord "AUTOINCREMENT"

private def checkClause : Parser (Expression × Bytes) := do
  expectSymbol "("
  let start := (← peek).start
  let condition ← inner.expression Rank.lowest
  let written ← writtenFrom start
  expectSymbol ")"
  pure (condition, Bytes.trimBlank written)

private def defaultValue : Parser (Expression × Bytes) := do
  if ← isNextSymbol "(" then checkClause inner
  else
    let start := (← peek).start
    let token ← peek
    let value ←
      if Keyword.isName token then
        skip
        pure (if token.isWord "TRUE" then Expression.integer [0x31]
          else if token.isWord "FALSE" then .integer [0x30]
          else .string token.name)
      else inner.expression Rank.sign
    pure (value, Bytes.trimBlank (← writtenFrom start))

private def columnConstraint : Parser (Option (List ColumnConstraint)) := do
  let constraintName ←
    if ← acceptWord "CONSTRAINT" then pure (some (← name)) else pure none
  if ← acceptWord "DEFAULT" then
    let (value, written) ← defaultValue inner
    pure (some [.default value written])
  else if ← acceptWord "NULL" then
    let _ ← acceptConflict
    pure (some [])
  else if (← isNextWord "NOT") && !(← peekAt 1).isWord "DEFERRABLE" then
    skip
    expectWord "NULL"
    pure (some [.notNull (← acceptConflict)])
  else if ← acceptWord "PRIMARY" then
    expectWord "KEY"
    let descending ← acceptDirection
    let resolution ← acceptConflict
    pure (some [.primaryKey descending resolution (← acceptAutoincrement)])
  else if ← acceptWord "UNIQUE" then pure (some [.unique (← acceptConflict)])
  else if ← acceptWord "CHECK" then
    let (condition, written) ← checkClause inner
    pure (some [.check constraintName condition written])
  else if ← acceptWord "REFERENCES" then pure (some [.references (← referenceClause)])
  else if ← acceptWord "COLLATE" then pure (some [.collate (← name)])
  else if (← isNextWord "GENERATED") || (← isNextWord "AS") then
    if ← acceptWord "GENERATED" then expectWord "ALWAYS"
    expectWord "AS"
    let value ← parenthesized (inner.expression Rank.lowest)
    let stored ← acceptWord "STORED"
    unless stored do
      let _ ← acceptWord "VIRTUAL"
    pure (some [.generated value stored])
  else if constraintName.isSome then pure (some [])
  else pure none

def columnDefinition : Parser ColumnDefinition := do
  let columnName ← name
  let type ← typeName
  let constraints ← many (columnConstraint inner)
  pure { name := columnName, type, constraints := constraints.flatten }

private def keyColumn : Parser KeyColumn := do
  let columnName ← name
  let collation ← if ← acceptWord "COLLATE" then pure (some (← name)) else pure none
  let descending ← acceptDirection
  pure { name := columnName, collation, descending }

private def isTableConstraint (token : Token) : Bool :=
  ["CONSTRAINT", "PRIMARY", "UNIQUE", "CHECK", "FOREIGN"].any token.isWord

private def tableConstraint : Parser (List TableConstraint) := do
  let constraintName ←
    if ← acceptWord "CONSTRAINT" then pure (some (← name)) else pure none
  if ← acceptWord "PRIMARY" then
    expectWord "KEY"
    expectSymbol "("
    let columns ← separated keyColumn
    let autoincrement ← acceptAutoincrement
    expectSymbol ")"
    pure [.primaryKey columns (← acceptConflict) autoincrement]
  else if ← acceptWord "UNIQUE" then
    let columns ← parenthesized (separated keyColumn)
    pure [.unique columns (← acceptConflict)]
  else if ← acceptWord "CHECK" then
    let (condition, written) ← checkClause inner
    let _ ← acceptConflict
    pure [.check constraintName condition written]
  else if ← acceptWord "FOREIGN" then
    expectWord "KEY"
    let columns ← parenthesized (separated name)
    expectWord "REFERENCES"
    pure [.foreignKey columns (← referenceClause)]
  else if constraintName.isSome then pure []
  else unexpected

/-! ## Tables -/

private def tableOptions : Parser (Bool × Bool) := do
  let option : Parser (Bool × Bool) := do
    if ← acceptWord "WITHOUT" then
      expectWord "ROWID"
      pure (true, false)
    else
      expectWord "STRICT"
      pure (false, true)
  if (← isNextWord "WITHOUT") || (← isNextWord "STRICT") then
    let options ← separated option
    pure (options.any (·.1), options.any (·.2))
  else pure (false, false)

/-- The columns come first and the constraints after them. The position where
further columns can be put is given, too. -/
private def tableColumns : Parser (List ColumnDefinition × List TableConstraint × Nat) := do
  let first ← columnDefinition inner
  let rest ← many do
    if (← isNextSymbol ",") && !isTableConstraint (← peekAt 1) then
      skip
      pure (some (← columnDefinition inner))
    else pure none
  let columnsEnd := (← peek).start
  let constraints ← many do
    let next ← peek
    if next.isSymbol "," then
      skip
      pure (some (← tableConstraint inner))
    else if isTableConstraint next then pure (some (← tableConstraint inner))
    else pure none
  pure (first :: rest, constraints.flatten, columnsEnd)

private def createTable (temporary : Bool) : Parser CreateTable := do
  let ifNotExists ← acceptIfNotExists
  let (tableName, start) ← definedName
  if ← acceptWord "AS" then
    let query ← inner.select
    pure { temporary, ifNotExists, name := tableName, body := .query query }
  else
    expectSymbol "("
    let (columns, constraints, columnsEnd) ← tableColumns inner
    expectSymbol ")"
    let (withoutRowid, strict) ← tableOptions
    pure
      { temporary, ifNotExists, name := tableName
        body := .columns columns constraints withoutRowid strict
        written := ← writtenThrough start
        columnsEnd := columnsEnd - start }

/-! ## Indexes and views -/

private def indexColumn : Parser IndexColumn := do
  let expression ← inner.expression Rank.lowest
  pure { expression, descending := ← acceptDirection }

private def createIndex (unique : Bool) : Parser CreateIndex := do
  let ifNotExists ← acceptIfNotExists
  let (indexName, start) ← definedName
  expectWord "ON"
  let table ← name
  let columns ← parenthesized (separated (indexColumn inner))
  let filter ← acceptFilter inner
  pure { unique, ifNotExists, name := indexName, table, columns, filter,
         written := ← writtenThrough start }

private def createView (temporary : Bool) : Parser CreateView := do
  let ifNotExists ← acceptIfNotExists
  let (viewName, start) ← definedName
  let columns ← if ← isNextSymbol "(" then parenthesized (separated name) else pure []
  expectWord "AS"
  let query ← inner.select
  pure { temporary, ifNotExists, name := viewName, columns, query,
         written := ← writtenThrough start }

/-! ## Triggers -/

private def triggerStep : Parser (Option TriggerStep) := do
  if ← acceptWord "END" then pure none
  else
    let tables ← commonTables inner
    let step ←
      if (← isNextWord "INSERT") || (← isNextWord "REPLACE") then
        pure (TriggerStep.insert (← insert inner tables))
      else if ← isNextWord "UPDATE" then pure (.update (← update inner tables))
      else if ← isNextWord "DELETE" then pure (.delete (← delete inner tables))
      else pure (.select (← selectBody inner tables))
    expectSymbol ";"
    pure (some step)

private def triggerTime : Parser TriggerTime := do
  if ← acceptWord "BEFORE" then pure .before
  else if ← acceptWord "AFTER" then pure .after
  else if ← acceptWord "INSTEAD" then
    expectWord "OF"
    pure .insteadOf
  else pure .before

private def triggerEvent : Parser TriggerEvent := do
  if ← acceptWord "DELETE" then pure .delete
  else if ← acceptWord "INSERT" then pure .insert
  else
    expectWord "UPDATE"
    if ← acceptWord "OF" then pure (.update (← separated name)) else pure (.update [])

private def createTrigger (temporary : Bool) : Parser CreateTrigger := do
  let ifNotExists ← acceptIfNotExists
  let (triggerName, start) ← definedName
  let time ← triggerTime
  let event ← triggerEvent
  expectWord "ON"
  let table ← objectName
  if ← acceptWord "FOR" then
    expectWord "EACH"
    expectWord "ROW"
  let condition ←
    if ← acceptWord "WHEN" then pure (some (← inner.expression Rank.lowest)) else pure none
  expectWord "BEGIN"
  if ← isNextWord "END" then unexpected
  let steps ← many (triggerStep inner)
  pure { temporary, ifNotExists, name := triggerName, time, event, table, condition, steps,
         written := ← writtenThrough start }

/-! ## All definitions -/

def definition : Parser Statement := do
  let temporary ← (do pure ((← acceptWord "TEMP") || (← acceptWord "TEMPORARY")) : Parser Bool)
  if ← acceptWord "TABLE" then pure (.createTable (← createTable inner temporary))
  else if ← acceptWord "VIEW" then pure (.createView (← createView inner temporary))
  else if ← acceptWord "TRIGGER" then pure (.createTrigger (← createTrigger inner temporary))
  else if temporary then unexpected
  else if ← acceptWord "UNIQUE" then
    expectWord "INDEX"
    pure (.createIndex (← createIndex inner true))
  else if ← acceptWord "INDEX" then pure (.createIndex (← createIndex inner false))
  else unexpected

def removal : Parser Statement := do
  let kind ←
    if ← acceptWord "TABLE" then pure ObjectKind.table
    else if ← acceptWord "INDEX" then pure .index
    else if ← acceptWord "VIEW" then pure .view
    else if ← acceptWord "TRIGGER" then pure .trigger
    else unexpected
  let ifExists ←
    if ← acceptWord "IF" then
      expectWord "EXISTS"
      pure true
    else pure false
  pure (.drop kind ifExists (← objectName))

def alteration : Parser Statement := do
  let table ← objectName
  if ← acceptWord "RENAME" then
    if ← acceptWord "TO" then pure (.alter table (.renameTable (← name)))
    else
      let _ ← acceptWord "COLUMN"
      let column ← name
      expectWord "TO"
      pure (.alter table (.renameColumn column (← name)))
  else if ← acceptWord "DROP" then
    let _ ← acceptWord "COLUMN"
    pure (.alter table (.dropColumn (← name)))
  else
    expectWord "ADD"
    let _ ← acceptWord "COLUMN"
    let start := (← peek).start
    let column ← columnDefinition inner
    pure (.alter table (.addColumn column (← writtenThrough start)))

end EmbeddedSql.Sql.Parser
