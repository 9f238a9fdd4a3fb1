import EmbeddedSql.Sql.Keyword
import EmbeddedSql.Sql.Expression
import EmbeddedSql.Number.Numeral

/-! Parsers over the tokens of a text. -/

namespace EmbeddedSql.Sql

/-! ## Parameters

A parameter has a number, and may have a name. A name that comes again stands for
the same number. -/

structure Parameters where
  count : Nat := 0
  names : List (Bytes × Nat) := []
deriving DecidableEq, Repr, Inhabited

namespace Parameters

def limit : Nat := 32766

def number? (parameters : Parameters) (name : Bytes) : Option Nat :=
  parameters.names.lookup name

def name? (parameters : Parameters) (number : Nat) : Option Bytes :=
  (parameters.names.find? (·.2 = number)).map (·.1)

end Parameters

/-! ## Failures -/

inductive ParseError where
  | unexpected (token : Token)
  | other (message : Bytes)
deriving DecidableEq, Repr

namespace ParseError

def message : ParseError → Bytes
  | .unexpected token =>
      match token.kind with
      | .ending => Bytes.ofAscii "incomplete input"
      | .illegal =>
          Bytes.ofAscii "unrecognized token: \"" ++ token.text ++ Bytes.ofAscii "\""
      | _ => Bytes.ofAscii "near \"" ++ token.text ++ Bytes.ofAscii "\": syntax error"
  | .other message => message

end ParseError

/-! ## Parsers -/

structure ParserState where
  source : Bytes
  /-- What is still to be read; the last token is the end of the text. -/
  tokens : List Token
  limit : Nat
  stop : Nat := 0
  parameters : Parameters := {}
  sources : List ObjectName := []

abbrev Parser := StateT ParserState (Except ParseError)

namespace Parser

variable {α : Type}

def peekAt (ahead : Nat) : Parser Token := do
  let state ← get
  pure (state.tokens[ahead]?.getD (Token.ending state.source.length))

def peek : Parser Token := peekAt 0

def unexpected : Parser α := do
  throw (.unexpected (← peek))

def refuse (message : String) : Parser α :=
  throw (.other (Bytes.ofAscii message))

def skip : Parser Unit :=
  modify fun state =>
    match state.tokens with
    | token :: rest => { state with tokens := rest, stop := token.stop }
    | [] => state

def advance : Parser Token := do
  let token ← peek
  skip
  pure token

def checkLimit (legal : Bool) (message : Bytes) : Parser Unit := do
  unless legal do
    if (← peek).kind = .illegal then unexpected
    throw (.other message)

/-! ## Words and symbols -/

def isNextWord (keyword : String) : Parser Bool := do
  pure ((← peek).isWord keyword)

def isNextSymbol (symbol : String) : Parser Bool := do
  pure ((← peek).isSymbol symbol)

def acceptWord (keyword : String) : Parser Bool := do
  if ← isNextWord keyword then
    skip
    pure true
  else pure false

def acceptSymbol (symbol : String) : Parser Bool := do
  if ← isNextSymbol symbol then
    skip
    pure true
  else pure false

def acceptWords (first second : String) : Parser Bool := do
  if (← isNextWord first) && (← peekAt 1).isWord second then
    skip
    skip
    pure true
  else pure false

def expectWord (keyword : String) : Parser Unit := do
  unless ← acceptWord keyword do unexpected

def expectSymbol (symbol : String) : Parser Unit := do
  unless ← acceptSymbol symbol do unexpected

/-! ## Names -/

def isNameOrString (token : Token) : Bool :=
  Keyword.isWideName token || token.kind = .string

def name : Parser Bytes := do
  let token ← peek
  if isNameOrString token then
    skip
    pure token.name
  else unexpected

def acceptBareName : Parser (Option Bytes) := do
  let token ← peek
  if Keyword.isName token || token.kind = .string then
    skip
    pure (some token.name)
  else pure none

def acceptAlias : Parser (Option Bytes) := do
  if ← acceptWord "AS" then
    pure (some (← name))
  else acceptBareName

def objectName : Parser ObjectName := do
  let first ← name
  if ← acceptSymbol "." then
    pure { database := some first, name := ← name }
  else pure { name := first }

def sourceName : Parser ObjectName := do
  let name ← objectName
  modify fun state => { state with sources := name :: state.sources }
  pure name

/-! ## Repetition -/

private def manyWithin (next : Parser (Option α)) : (fuel : Nat) → Parser (List α)
  | 0 => pure []
  | fuel + 1 => do
      match ← next with
      | none => pure []
      | some item =>
          let items ← manyWithin next fuel
          pure (item :: items)

def many (next : Parser (Option α)) : Parser (List α) := do
  manyWithin next (← get).limit

private def extendWithin (next : α → Parser (Option α)) : (fuel : Nat) → α → Parser α
  | 0, item => pure item
  | fuel + 1, item => do
      match ← next item with
      | none => pure item
      | some item => extendWithin next fuel item

def extend (next : α → Parser (Option α)) (item : α) : Parser α := do
  extendWithin next (← get).limit item

def separated (item : Parser α) : Parser (List α) := do
  let first ← item
  let rest ← many do
    if ← acceptSymbol "," then pure (some (← item)) else pure none
  pure (first :: rest)

def parenthesized (inner : Parser α) : Parser α := do
  expectSymbol "("
  let result ← inner
  expectSymbol ")"
  pure result

/-! ## Written text -/

def writtenFrom (start : Nat) : Parser Bytes := do
  let stop := (← peek).start
  pure (((← get).source.drop start).take (stop - start))

def writtenThrough (start : Nat) : Parser Bytes := do
  let state ← get
  pure ((state.source.drop start).take (state.stop - start))

/-! ## Parameters -/

private def record (name : Bytes) (number : Nat) : Parser Unit :=
  modify fun state =>
    { state with
      parameters :=
        { count := max state.parameters.count number
          names := state.parameters.names ++ [(name, number)] } }

private def tooMany : Bytes := Bytes.ofAscii "too many SQL variables"

def parameterNumber (token : Token) : Parser Nat := do
  let parameters := (← get).parameters
  let fresh := parameters.count + 1
  match token.text with
  | [0x3F] =>
      checkLimit (fresh ≤ Parameters.limit) tooMany
      modify fun state => { state with parameters := { parameters with count := fresh } }
      pure fresh
  | 0x3F :: digits =>
      let number := Numeral.ofDigits digits
      checkLimit (1 ≤ number ∧ number ≤ Parameters.limit)
        (Bytes.ofAscii "variable number must be between ?1 and ?32766")
      if parameters.count < number ∨ (parameters.name? number).isNone then
        record token.text number
      pure number
  | _ =>
      match parameters.number? token.text with
      | some number => pure number
      | none =>
          checkLimit (fresh ≤ Parameters.limit) tooMany
          record token.text fresh
          pure fresh

end Parser

/-! ## Nesting

Expressions hold queries and queries hold expressions. Both are parsed with the
help of parsers for what is nested one level deeper. -/

structure Grammar where
  /-- An expression whose operators bind at least as tightly as `minimum`. -/
  expression : (minimum : Nat) → Parser Expression
  select : Parser Select

end EmbeddedSql.Sql
