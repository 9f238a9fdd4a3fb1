import EmbeddedSql.Sql.Parser.Definition

/-! The first statement of a text. -/

namespace EmbeddedSql.Sql

namespace Parser

variable (inner : Grammar)

/-! ## Transactions and settings -/

private def skipTransactionName : Parser Unit := do
  if ← acceptWord "TRANSACTION" then
    let _ ← acceptBareName

private def beginTransaction : Parser Statement := do
  let kind ←
    if ← acceptWord "IMMEDIATE" then pure TransactionKind.immediate
    else if ← acceptWord "EXCLUSIVE" then pure .exclusive
    else
      let _ ← acceptWord "DEFERRED"
      pure .deferred
  skipTransactionName
  pure (.begin kind)

private def rollback : Parser Statement := do
  if ← acceptWord "TRANSACTION" then
    unless ← isNextWord "TO" do
      let _ ← acceptBareName
  if ← acceptWord "TO" then
    let _ ← acceptWord "SAVEPOINT"
    pure (.rollbackTo (← name))
  else pure .rollback

private def pragmaValue : Parser Bytes := do
  let sign ←
    if ← acceptSymbol "-" then pure [0x2D]
    else
      let _ ← acceptSymbol "+"
      pure []
  let token ← peek
  if token.kind = .integer || token.kind = .real then
    skip
    pure (sign ++ token.text)
  else if sign.isEmpty &&
      (isNameOrString token || token.isWord "ON" || token.isWord "DELETE" ||
        token.isWord "DEFAULT") then
    skip
    pure token.name
  else unexpected

private def pragma : Parser Statement := do
  let target ← objectName
  let value ←
    if ← acceptSymbol "=" then pure (some (← pragmaValue))
    else if ← isNextSymbol "(" then pure (some (← parenthesized pragmaValue))
    else pure none
  pure (.pragma target.database target.name value)

private def maintenance : Parser Statement := do
  let token ← advance
  if isNameOrString (← peek) then
    let _ ← objectName
  pure (if token.isWord "VACUUM" then .vacuum else .maintain)

/-! ## Statements -/

private def statement : Parser Statement := do
  let token ← peek
  if token.isWord "CREATE" then skip; definition inner
  else if token.isWord "DROP" then skip; removal
  else if token.isWord "ALTER" then
    skip
    expectWord "TABLE"
    alteration inner
  else if token.isWord "BEGIN" then skip; beginTransaction
  else if token.isWord "COMMIT" || token.isWord "END" then
    skip
    skipTransactionName
    pure .commit
  else if token.isWord "ROLLBACK" then skip; rollback
  else if token.isWord "SAVEPOINT" then
    skip
    pure (.savepoint (← name))
  else if token.isWord "RELEASE" then
    skip
    let _ ← acceptWord "SAVEPOINT"
    pure (.release (← name))
  else if token.isWord "PRAGMA" then skip; pragma
  else if token.isWord "VACUUM" || token.isWord "ANALYZE" || token.isWord "REINDEX" then
    maintenance
  else
    let tables ← commonTables inner
    let token ← peek
    if token.isWord "INSERT" || token.isWord "REPLACE" then
      pure (.insert (← insert inner tables))
    else if token.isWord "UPDATE" then pure (.update (← update inner tables))
    else if token.isWord "DELETE" then pure (.delete (← delete inner tables))
    else pure (.select (← selectBody inner tables))

private def first : Parser (Option Statement) := do
  let _ ← many do
    if ← acceptSymbol ";" then pure (some ()) else pure none
  if (← peek).kind = .ending then pure none
  else
    let result ← statement inner
    let token ← peek
    if token.isSymbol ";" then skip
    else if token.kind ≠ .ending then unexpected
    pure (some result)

/-- The first statement, after empty ones, as long as the text goes on with a token. -/
private def leading : Parser (Option Statement) := do
  let _ ← many do
    if ← acceptSymbol ";" then pure (some ()) else pure none
  let result ← statement inner
  if (← peek).kind = .illegal then pure none else pure (some result)

end Parser

/-- A statement, its parameters, the tables that it names as sources, and the part of
the text that it takes. -/
structure Parsed where
  statement : Option Statement
  parameters : Parameters
  sources : List ObjectName
  written : Bytes

namespace Parsed

def depth : Nat := 1200

/-- The first statement of a text. Without a semicolon it takes all of the text. -/
def ofText (text : Bytes) : Except ParseError Parsed := do
  let tokens := Token.scan text
  let state : ParserState := { source := text, tokens, limit := tokens.length }
  let (statement, state) ← (Parser.first (Grammar.ofDepth depth)).run state
  let stop := if (state.source.drop (state.stop - 1)).head? = some 0x3B then state.stop
    else text.length
  return {
    statement
    parameters := state.parameters
    sources := state.sources
    written := text.take stop }

def leading? (text : Bytes) : Option Statement :=
  let tokens := Token.scan text
  let state : ParserState := { source := text, tokens, limit := tokens.length }
  match (Parser.leading (Grammar.ofDepth depth)).run state with
  | .ok (statement, _) => statement
  | .error _ => none

end Parsed

end EmbeddedSql.Sql
