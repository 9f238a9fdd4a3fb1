import EmbeddedSql.Sql.Parser.Expression

/-! Queries, and the nesting of queries and expressions. -/

namespace EmbeddedSql.Sql.Parser

variable (inner : Grammar)

/-! ## Columns and order -/

def resultColumn : Parser ResultColumn := do
  let token ← peek
  if ← acceptSymbol "*" then pure { body := .star }
  else if isNameOrString token && (← peekAt 1).isSymbol "." && (← peekAt 2).isSymbol "*" then
    skip; skip; skip
    pure { body := .tableStar token.name }
  else
    let expression ← inner.expression Rank.lowest
    let written ← writtenFrom token.start
    pure { body := .expression expression, aliasName := ← acceptAlias,
           written := Bytes.trimBlank written }

def resultColumns : Parser (List ResultColumn) :=
  separated (resultColumn inner)

def acceptDirection : Parser Bool := do
  if ← acceptWord "DESC" then pure true
  else
    let _ ← acceptWord "ASC"
    pure false

private def orderTerm : Parser OrderTerm := do
  let expression ← inner.expression Rank.lowest
  let descending ← acceptDirection
  let nullsFirst ←
    if ← acceptWord "NULLS" then
      if ← acceptWord "FIRST" then pure (some true)
      else
        expectWord "LAST"
        pure (some false)
    else pure none
  pure { expression, descending, nullsFirst }

private def orderBy : Parser (List OrderTerm) := do
  if ← acceptWord "ORDER" then
    expectWord "BY"
    separated (orderTerm inner)
  else pure []

private def limits : Parser (Option Expression × Option Expression) := do
  if ← acceptWord "LIMIT" then
    let first ← inner.expression Rank.lowest
    if ← acceptWord "OFFSET" then
      pure (some first, some (← inner.expression Rank.lowest))
    else if ← acceptSymbol "," then
      let second ← inner.expression Rank.lowest
      pure (some second, some first)
    else pure (some first, none)
  else pure (none, none)

def acceptFilter : Parser (Option Expression) := do
  if ← acceptWord "WHERE" then pure (some (← inner.expression Rank.lowest))
  else pure none

/-! ## Sources -/

private def joinWords : List String :=
  ["NATURAL", "LEFT", "RIGHT", "FULL", "OUTER", "INNER", "CROSS"]

private def joinWord? (token : Token) : Option String :=
  joinWords.find? token.isWord

private def joinKind : Parser (Option JoinKind) := do
  if ← acceptSymbol "," then pure (some {})
  else
    let words ← many do
      match joinWord? (← peek) with
      | some word => skip; pure (some word)
      | none => pure none
    if words.isEmpty then
      if ← acceptWord "JOIN" then pure (some {}) else pure none
    else
      expectWord "JOIN"
      pure (some
        { natural := words.contains "NATURAL"
          keepsLeft := words.contains "LEFT" || words.contains "FULL"
          keepsRight := words.contains "RIGHT" || words.contains "FULL" })

def skipIndexHint : Parser Unit := do
  if (← isNextWord "NOT") && (← peekAt 1).isWord "INDEXED" then
    skip
    skip
  else if ← acceptWord "INDEXED" then
    expectWord "BY"
    let _ ← name

private def sourceBody (sources : Parser (List Source)) : Parser SourceBody := do
  if ← acceptSymbol "(" then
    if (← isNextWord "SELECT") || (← isNextWord "VALUES") || (← isNextWord "WITH") then
      let query ← inner.select
      expectSymbol ")"
      pure (.query query)
    else
      let group ← sources
      expectSymbol ")"
      pure (.group group)
  else pure (.table (← sourceName))

private def source (sources : Parser (List Source)) (join : JoinKind) : Parser Source := do
  let body ← sourceBody inner sources
  let aliasName ← acceptAlias
  skipIndexHint
  if ← acceptWord "ON" then
    pure { join, body, aliasName, on := some (← inner.expression Rank.lowest) }
  else if ← acceptWord "USING" then
    pure { join, body, aliasName, shared := ← parenthesized (separated name) }
  else pure { join, body, aliasName }

/-- Joined sources; the fuel bounds how deep they are put in parentheses. -/
private def sourcesWithin : (fuel : Nat) → Parser (List Source)
  | 0 => unexpected
  | fuel + 1 => do
      let first ← source inner (sourcesWithin fuel) {}
      let rest ← many do
        match ← joinKind with
        | some kind => pure (some (← source inner (sourcesWithin fuel) kind))
        | none => pure none
      pure (first :: rest)

def acceptSources : Parser (List Source) := do
  if ← acceptWord "FROM" then sourcesWithin inner 64 else pure []

/-! ## Queries -/

private def valueRow : Parser (List Expression) :=
  parenthesized (separated (inner.expression Rank.lowest))

private def selectCore : Parser SelectCore := do
  if ← acceptWord "VALUES" then
    let rows ← separated (valueRow inner)
    unless rows.all (·.length = (rows.head?.getD []).length) do
      refuse "all VALUES must have the same number of terms"
    pure { columns := [], rows }
  else
    expectWord "SELECT"
    let distinct ← acceptWord "DISTINCT"
    unless distinct do
      let _ ← acceptWord "ALL"
    let columns ← resultColumns inner
    let sources ← acceptSources inner
    let filter ← acceptFilter inner
    let groupBy ←
      if ← acceptWord "GROUP" then
        expectWord "BY"
        separated (inner.expression Rank.lowest)
      else pure []
    let having ←
      if ← acceptWord "HAVING" then pure (some (← inner.expression Rank.lowest))
      else pure none
    pure { distinct, columns, sources, filter, groupBy, having }

private def compoundOperator : Parser (Option (CompoundOperator × String)) := do
  if ← acceptWord "UNION" then
    if ← acceptWord "ALL" then pure (some (.unionAll, "UNION ALL"))
    else pure (some (.union, "UNION"))
  else if ← acceptWord "EXCEPT" then pure (some (.except, "EXCEPT"))
  else if ← acceptWord "INTERSECT" then pure (some (.intersect, "INTERSECT"))
  else pure none

private def commonTable : Parser CommonTable := do
  let tableName ← name
  let columns ←
    if ← isNextSymbol "(" then parenthesized (separated name) else pure []
  expectWord "AS"
  if ← acceptWord "NOT" then expectWord "MATERIALIZED"
  else
    let _ ← acceptWord "MATERIALIZED"
  let query ← parenthesized inner.select
  pure { name := tableName, columns, query }

def commonTables : Parser (List CommonTable) := do
  if ← acceptWord "WITH" then
    let _ ← acceptWord "RECURSIVE"
    separated (commonTable inner)
  else pure []

/-- How many queries can be put together, unless the last one is a list of values. -/
private def compoundLimit : Nat := 500

private def checkCompound (select : Select) : Parser Unit := do
  let isList := (select.cores.getLast?.map fun core => !core.rows.isEmpty).getD false
  checkLimit (isList || select.cores.length ≤ compoundLimit)
    (Bytes.ofAscii "too many terms in compound SELECT")

/-- A query without common tables. The order and the limits stand at its end. -/
def selectBody (commonTables : List CommonTable) : Parser Select := do
  let first ← selectCore inner
  let terms ← orderBy inner
  let (limit, offset) ← limits inner
  let initial : Select := { commonTables, first, orderBy := terms, limit, offset }
  let select ← extend (fun select => do
      match ← compoundOperator with
      | none => pure none
      | some (operator, written) =>
          unless select.orderBy.isEmpty do
            refuse s!"ORDER BY clause should come after {written} not before"
          if select.limit.isSome then
            refuse s!"LIMIT clause should come after {written} not before"
          let core ← selectCore inner
          let terms ← orderBy inner
          let (limit, offset) ← limits inner
          pure (some
            { select with
              rest := select.rest ++ [(operator, core)], orderBy := terms, limit, offset }))
    initial
  checkCompound select
  pure select

def select : Parser Select := do
  selectBody inner (← commonTables inner)

end Parser

namespace Grammar

def ofDepth : (depth : Nat) → Grammar
  | 0 =>
      { expression := fun _ => Parser.refuse "parser stack overflow"
        select := Parser.refuse "parser stack overflow" }
  | depth + 1 =>
      let inner := ofDepth depth
      { expression := Parser.expression inner
        select := Parser.select inner }

end Grammar

end EmbeddedSql.Sql
