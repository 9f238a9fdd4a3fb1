import EmbeddedSql.Sql.Parser.Basic

/-! Expressions. Operators are ranked; an operand takes everything that is ranked
higher than the operator before it. -/

namespace EmbeddedSql.Sql.Parser

/-! ## Ranks -/

namespace Rank

def lowest : Nat := 0
def or : Nat := 1
def and : Nat := 2
def not : Nat := 3
def equality : Nat := 4
def comparison : Nat := 5
def escape : Nat := 6
def bits : Nat := 7
def sum : Nat := 8
def product : Nat := 9
def concatenation : Nat := 10
def collation : Nat := 11
def sign : Nat := 12

end Rank

private def symbolOperators : List (String × BinaryOperator × Nat) :=
  [("=", .equal, Rank.equality), ("==", .equal, Rank.equality),
    ("<>", .notEqual, Rank.equality), ("!=", .notEqual, Rank.equality),
    ("<", .less, Rank.comparison), ("<=", .lessOrEqual, Rank.comparison),
    (">", .greater, Rank.comparison), (">=", .greaterOrEqual, Rank.comparison),
    ("&", .bitAnd, Rank.bits), ("|", .bitOr, Rank.bits),
    ("<<", .shiftLeft, Rank.bits), (">>", .shiftRight, Rank.bits),
    ("+", .add, Rank.sum), ("-", .subtract, Rank.sum),
    ("*", .multiply, Rank.product), ("/", .divide, Rank.product),
    ("%", .remainder, Rank.product), ("||", .concatenate, Rank.concatenation)]

private def matchOperators : List (String × MatchOperator) :=
  [("LIKE", .like), ("GLOB", .glob), ("REGEXP", .regexp), ("MATCH", .match)]

private def matchOperator? (token : Token) : Option MatchOperator :=
  (matchOperators.find? fun (word, _) => token.isWord word).map (·.2)

variable (inner : Grammar)

/-! ## Names of types -/

private def signedNumber : Parser Unit := do
  let _ ← (do pure ((← acceptSymbol "+") || (← acceptSymbol "-")) : Parser Bool)
  let token ← peek
  if token.kind = .integer || token.kind = .real then skip else unexpected

def typeName : Parser Bytes := do
  let start := (← peek).start
  let words ← many do
    if (← isNextWord "GENERATED") && (← peekAt 1).isWord "ALWAYS" then pure none
    else acceptBareName
  if words.isEmpty then pure []
  else
    if ← acceptSymbol "(" then
      signedNumber
      if ← acceptSymbol "," then signedNumber
      expectSymbol ")"
    writtenThrough start

/-! ## Operands -/

private def isSeparatorPlaced (isDigit : UInt8 → Bool) : Bytes → Bool
  | before :: 0x5F :: after :: rest =>
      isDigit before && isDigit after && isSeparatorPlaced isDigit (after :: rest)
  | [_, 0x5F] => false
  | _ :: rest => isSeparatorPlaced isDigit rest
  | [] => true

private def separatedNumber (token : Token) : Parser Expression := do
  let isHexadecimal := token.text.length > 2 && (token.text.drop 1).head? != some 0x2E &&
    (token.text[1]? = some 0x78 || token.text[1]? = some 0x58)
  let isDigit := if isHexadecimal then Bytes.isHexDigit else Bytes.isDigit
  unless isSeparatorPlaced isDigit token.text do
    throw (.unexpected { token with kind := .illegal })
  let digits := token.text.filter (· ≠ 0x5F)
  let isReal := !isHexadecimal &&
    digits.any fun byte => byte = 0x2E || byte = 0x65 || byte = 0x45
  pure (if isReal then .real digits else .integer digits)

private def castExpression : Parser Expression := do
  expectSymbol "("
  let operand ← inner.expression Rank.lowest
  expectWord "AS"
  let type ← typeName
  expectSymbol ")"
  pure (.cast operand type)

private def caseExpression : Parser Expression := do
  let operand ←
    if ← isNextWord "WHEN" then pure none
    else pure (some (← inner.expression Rank.lowest))
  let branch : Parser (Expression × Expression) := do
    let condition ← inner.expression Rank.lowest
    expectWord "THEN"
    let result ← inner.expression Rank.lowest
    pure (condition, result)
  expectWord "WHEN"
  let first ← branch
  let rest ← many do
    if ← acceptWord "WHEN" then pure (some (← branch)) else pure none
  let otherwise ←
    if ← acceptWord "ELSE" then pure (some (← inner.expression Rank.lowest)) else pure none
  expectWord "END"
  pure (.case operand (first :: rest) otherwise)

private def raiseExpression : Parser Expression := do
  expectSymbol "("
  if ← acceptWord "IGNORE" then
    expectSymbol ")"
    pure (.raise .ignore [])
  else
    let resolution ←
      if ← acceptWord "ROLLBACK" then pure Resolution.rollback
      else if ← acceptWord "ABORT" then pure .abort
      else if ← acceptWord "FAIL" then pure .fail
      else unexpected
    expectSymbol ","
    let message ← name
    expectSymbol ")"
    pure (.raise resolution message)

private def isQueryStart : Parser Bool := do
  pure ((← isNextWord "SELECT") || (← isNextWord "VALUES") || (← isNextWord "WITH"))

private def parenthesizedExpression : Parser Expression := do
  if ← isQueryStart then
    let query ← inner.select
    expectSymbol ")"
    pure (.scalar query)
  else
    let elements ← separated (inner.expression Rank.lowest)
    expectSymbol ")"
    match elements with
    | [element] => pure element
    | elements => pure (.row elements)

private def filterClause : Parser (Option Expression) := do
  if (← isNextWord "FILTER") && (← peekAt 1).isSymbol "(" then
    skip
    expectSymbol "("
    expectWord "WHERE"
    let condition ← inner.expression Rank.lowest
    expectSymbol ")"
    pure (some condition)
  else pure none

private def argumentLimit : Nat := 127

private def callExpression (function : Token) : Parser Expression := do
  expectSymbol "("
  if ← acceptSymbol "*" then
    expectSymbol ")"
    pure (.callStar function.name (← filterClause inner))
  else
    let distinct ← acceptWord "DISTINCT"
    unless distinct do
      let _ ← acceptWord "ALL"
    let arguments ←
      if ← isNextSymbol ")" then pure []
      else separated (inner.expression Rank.lowest)
    expectSymbol ")"
    checkLimit (arguments.length ≤ argumentLimit)
      (Bytes.ofAscii "too many arguments on function " ++ function.text)
    pure (.call function.name distinct arguments (← filterClause inner))

private def nameExpression (first : Token) : Parser Expression := do
  if ← isNextSymbol "." then
    skip
    let second ← name
    if ← acceptSymbol "." then
      pure (.column (some first.name) second (← name))
    else pure (.column none first.name second)
  else if ← isNextSymbol "(" then callExpression inner first
  else pure (.name first.name (first.text.head? = some 0x22))

private def operand : Parser Expression := do
  let token ← peek
  match token.kind with
  | .integer => skip; pure (.integer token.text)
  | .real => skip; pure (.real token.text)
  | .separatedNumber => skip; separatedNumber token
  | .blob => skip; pure (.blob token.blobBytes)
  | .string =>
      skip
      if ← isNextSymbol "." then nameExpression inner token
      else pure (.string token.name)
  | .parameter =>
      match token.text with
      | 0x23 :: digit :: _ =>
          if Bytes.isDigit digit then unexpected
          else skip; pure (.parameter (← parameterNumber token))
      | _ => skip; pure (.parameter (← parameterNumber token))
  | .quotedName => skip; nameExpression inner token
  | .word =>
      if token.isWord "NULL" then skip; pure .null
      else if token.isWord "CAST" then skip; castExpression inner
      else if token.isWord "CASE" then skip; caseExpression inner
      else if token.isWord "RAISE" then skip; raiseExpression
      else if token.isWord "EXISTS" then
        skip
        pure (.exists (← parenthesized inner.select))
      else if token.isWord "NOT" then
        skip
        pure (.unary .not (← inner.expression Rank.not))
      else if Keyword.isWideName token then skip; nameExpression inner token
      else unexpected
  | .symbol =>
      if token.isSymbol "(" then skip; parenthesizedExpression inner
      else if token.isSymbol "-" then
        skip
        pure (.unary .negate (← inner.expression Rank.sign))
      else if token.isSymbol "+" then
        skip
        pure (.unary .plus (← inner.expression Rank.sign))
      else if token.isSymbol "~" then
        skip
        pure (.unary .bitNot (← inner.expression Rank.sign))
      else unexpected
  | .illegal => unexpected
  | .ending => unexpected

/-! ## Operators -/

private def isExpression (left : Expression) : Parser Expression := do
  let negated ← acceptWord "NOT"
  let distinct ← acceptWords "DISTINCT" "FROM"
  let right ← inner.expression (Rank.equality + 1)
  let isNot := negated != distinct
  match right with
  | .null => pure (.isNull left isNot)
  | right => pure (.binary (if isNot then .isNot else .is) left right)

private def inExpression (left : Expression) (negated : Bool) : Parser Expression := do
  if ← acceptSymbol "(" then
    if ← isQueryStart then
      let query ← inner.select
      expectSymbol ")"
      pure (.isInQuery left query negated)
    else
      let elements ←
        if ← isNextSymbol ")" then pure []
        else separated (inner.expression Rank.lowest)
      expectSymbol ")"
      pure (.isIn left elements negated)
  else pure (.isInTable left (← sourceName) negated)

private def betweenExpression (left : Expression) (negated : Bool) : Parser Expression := do
  let low ← inner.expression Rank.not
  expectWord "AND"
  let high ← inner.expression (Rank.equality + 1)
  pure (.between left low high negated)

private def matchExpression (left : Expression) (operator : MatchOperator) (negated : Bool) :
    Parser Expression := do
  let pattern ← inner.expression (Rank.equality + 1)
  let escape ←
    if ← acceptWord "ESCAPE" then pure (some (← inner.expression (Rank.escape + 1)))
    else pure none
  pure (.matches operator left pattern escape negated)

private def wordOperator (minimum : Nat) (left : Expression) :
    Parser (Option Expression) := do
  let token ← peek
  let next ← peekAt 1
  if token.isWord "OR" && minimum ≤ Rank.or then
    skip
    pure (some (.binary .or left (← inner.expression (Rank.or + 1))))
  else if token.isWord "AND" && minimum ≤ Rank.and then
    skip
    pure (some (.binary .and left (← inner.expression (Rank.and + 1))))
  else if token.isWord "COLLATE" && minimum ≤ Rank.collation then
    skip
    match ← acceptBareName with
    | some collation => pure (some (.collate left collation))
    | none => unexpected
  else if token.isWord "NOT" && minimum ≤ Rank.not then
    if next.isWord "IN" then skip; skip; pure (some (← inExpression inner left true))
    else if next.isWord "BETWEEN" then
      skip; skip; pure (some (← betweenExpression inner left true))
    else if next.isWord "NULL" then skip; skip; pure (some (.isNull left true))
    else
      match matchOperator? next with
      | some operator => skip; skip; pure (some (← matchExpression inner left operator true))
      | none => skip; unexpected
  else if minimum ≤ Rank.equality then
    if token.isWord "IS" then skip; pure (some (← isExpression inner left))
    else if token.isWord "IN" then skip; pure (some (← inExpression inner left false))
    else if token.isWord "BETWEEN" then
      skip; pure (some (← betweenExpression inner left false))
    else if token.isWord "ISNULL" then skip; pure (some (.isNull left false))
    else if token.isWord "NOTNULL" then skip; pure (some (.isNull left true))
    else
      match matchOperator? token with
      | some operator => skip; pure (some (← matchExpression inner left operator false))
      | none => pure none
  else pure none

private def operatorAfter (minimum : Nat) (left : Expression) :
    Parser (Option Expression) := do
  let token ← peek
  match token.kind with
  | .word => wordOperator inner minimum left
  | .symbol =>
      match symbolOperators.find? fun (symbol, _) => token.isSymbol symbol with
      | some (_, operator, rank) =>
          if minimum ≤ rank then
            skip
            pure (some (.binary operator left (← inner.expression (rank + 1))))
          else pure none
      | none =>
          if (token.isSymbol "->" || token.isSymbol "->>") && minimum ≤ Rank.concatenation then
            skip
            let right ← inner.expression (Rank.concatenation + 1)
            pure (some (.call token.text false [left, right] none))
          else pure none
  | _ => pure none

def expression (minimum : Nat) : Parser Expression := do
  extend (operatorAfter inner minimum) (← operand inner)

end EmbeddedSql.Sql.Parser
