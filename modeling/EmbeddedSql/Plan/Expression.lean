import EmbeddedSql.Function.Aggregate
import EmbeddedSql.Plan.Scope
import EmbeddedSql.Plan.Term

/-! Compiling expressions: names are resolved, and what remains is a term. -/

namespace EmbeddedSql.Plan

/-! ## Compilers -/

structure OutputColumn where
  name : Bytes
  affinity : Option Affinity := none
  collation : Option Collation := none
  isExplicit : Bool := false

structure Query where
  columns : List OutputColumn
  rows : Environment → Stream (List Value)

/-- What a common table's name stands for: a query, or the rows of a recursion at some
level. -/
inductive CommonMeaning where
  | query (definition : Sql.CommonTable)
  | recursion (level : Nat) (columns : List ColumnInfo)

structure Context where
  database : Database
  scopes : List Scope := []
  commonTables : List (Bytes × CommonMeaning) := []
  recursionDepth : Nat := 0
  allowsAggregates : Bool := false
  isInTrigger : Bool := false
  foreignKeys : Bool := true

/-- A call of an aggregate function, which is evaluated for a group of rows. -/
structure AggregateCall where
  function : Function.Aggregate
  arguments : List Term
  filter : Option Term
  distinct : Bool
  collation : Collation

abbrev Compile := StateT (List AggregateCall) (Except Failure)

def refuse {α : Type} (message : String) : Compile α :=
  throw (Failure.ofText message)

def refuseNamed {α : Type} (before : String) (name : Bytes) (after : String) : Compile α :=
  (failNamed before name after : Except Failure α)

structure Compilers where
  expression : Context → Sql.Expression → Compile Term
  select : Context → Sql.Select → Except Failure Query

variable (inner : Compilers) (context : Context)

/-! ## Literals -/

private def isHexadecimal (digits : Bytes) : Bool :=
  match digits with
  | 0x30 :: x :: _ :: _ => x = 0x78 || x = 0x58
  | _ => false

private def hexadecimalValue (digits : Bytes) : Nat :=
  (digits.drop 2).foldl (fun value digit => value * 16 + Bytes.hexDigitValue digit) 0

/-- An integer literal, perhaps after a minus sign. Decimal digits that are too many
for an integer make a real. -/
private def integerLiteral (negative : Bool) (digits : Bytes) : Compile Value := do
  if isHexadecimal digits then
    let value := hexadecimalValue digits
    if 0xFFFFFFFFFFFFFFFF < value ∨ (negative ∧ value = 0x8000000000000000) then
      refuseNamed (if negative then "hex literal too big: -" else "hex literal too big: ")
        digits ""
    else
      let word := Int64.ofInt value
      return .integer (if negative then -word else word)
  else
    let magnitude := Numeral.ofDigits digits
    if magnitude < 0x8000000000000000 ∨ (negative ∧ magnitude = 0x8000000000000000) then
      return .integer (Int64.ofInt (if negative then -magnitude else magnitude))
    else
      let value := (Numeral.readReal digits).value
      return .real (if negative then value.negate else value)

private def realLiteral (negative : Bool) (digits : Bytes) : Value :=
  let value := (Numeral.readReal digits).value
  .real (if negative then value.negate else value)

/-! ## Names -/

private def columnTerm (depth source column : Nat) (info : ColumnInfo) : Term where
  evaluate environment := .ok ((environment.tuple depth source).value column)
  affinity := info.affinity
  collation := some info.collation

private def rowidTerm (depth source : Nat) : Term where
  evaluate environment := .ok (environment.tuple depth source).rowid
  affinity := some .integer
  collation := some .binary

private def outward (depth : Nat) (term : Term) : Term :=
  { term with
    evaluate := fun environment =>
      term.evaluate { environment with frames := environment.frames.drop depth } }

private def reference : Reference → Compile Term
  | .column depth source column info => pure (columnTerm depth source column info)
  | .rowid depth source _ => pure (rowidTerm depth source)
  | .result depth expression => do
      let scopes := context.scopes.drop depth
      let hidden := scopes.modify 0 fun scope => { scope with aliases := [] }
      let term ← inner.expression { context with scopes := hidden } expression
      pure (outward depth term)

private def isWord (name : Bytes) (word : String) : Bool :=
  Bytes.sameName name (Bytes.ofAscii word)

private def truthWord? (name : Bytes) : Option Bool :=
  if isWord name "true" then some true
  else if isWord name "false" then some false
  else none

/-- A name without a table. Quoted ones that stand for nothing are strings, and the
words for truth values are values. -/
private def bareName (name : Bytes) (quoted : Bool) : Compile Term := do
  match Scope.lookUp context.scopes none name with
  | .found found => reference inner context found
  | .ambiguous => refuseNamed "ambiguous column name: " name ""
  | .missing =>
      if quoted then pure (.constant (.text name))
      else
        match truthWord? name with
        | some value => pure (.constant (.ofBool value))
        | none => refuseNamed "no such column: " name ""

private def qualifiedName (database : Option Bytes) (table name : Bytes) : Compile Term := do
  let written := (database.map (· ++ [0x2E])).getD [] ++ table ++ [0x2E] ++ name
  match Scope.lookUp context.scopes (some table) name with
  | .found found => reference inner context found
  | .ambiguous => refuseNamed "ambiguous column name: " written ""
  | .missing => refuseNamed "no such column: " written ""

/-! ## Operators -/

private def isBareTruthWord (expression : Sql.Expression) : Option Bool :=
  match expression with
  | .name name false =>
      match Scope.lookUp context.scopes none name with
      | .missing => truthWord? name
      | _ => none
  | _ => none

private def truthTest (operand : Term) (wanted negated : Bool) : Term :=
  operand.map fun value => .ofBool (decide (value.truth? = some wanted) != negated)

private def binary (operator : Sql.BinaryOperator) (left right : Term) : Term :=
  match operator with
  | .or => .or left right
  | .and => .and left right
  | .equal => .compare (· = .eq) left right
  | .notEqual => .compare (· ≠ .eq) left right
  | .is => .isSame false left right
  | .isNot => .isSame true left right
  | .less => .compare (· = .lt) left right
  | .lessOrEqual => .compare (· ≠ .gt) left right
  | .greater => .compare (· = .gt) left right
  | .greaterOrEqual => .compare (· ≠ .lt) left right
  | .bitAnd => .map₂ Value.bitAnd left right
  | .bitOr => .map₂ Value.bitOr left right
  | .shiftLeft => .map₂ Value.shiftLeft left right
  | .shiftRight => .map₂ Value.shiftRight left right
  | .add => .map₂ Value.add left right
  | .subtract => .map₂ Value.subtract left right
  | .multiply => .map₂ Value.multiply left right
  | .divide => .map₂ Value.divide left right
  | .remainder => .map₂ Value.remainder left right
  | .concatenate => .map₂ Value.concatenate left right

private def binaryExpression (operator : Sql.BinaryOperator) (left right : Sql.Expression) :
    Compile Term := do
  let leftTerm ← inner.expression context left
  match operator, isBareTruthWord context right with
  | .is, some wanted => pure (truthTest leftTerm wanted false)
  | .isNot, some wanted => pure (truthTest leftTerm wanted true)
  | _, _ => pure (binary operator leftTerm (← inner.expression context right))

private def negation (operand : Sql.Expression) : Compile Term := do
  match operand with
  | .integer digits => pure (.constant (← integerLiteral true digits))
  | .real digits => pure (.constant (realLiteral true digits))
  | operand => pure (Term.map Value.negate (← inner.expression context operand))

private def unaryExpression (operator : Sql.UnaryOperator) (operand : Sql.Expression) :
    Compile Term := do
  match operator with
  | .negate => negation inner context operand
  | .plus =>
      let term ← inner.expression context operand
      pure { term with affinity := none }
  | .bitNot => pure (Term.map Value.bitNot (← inner.expression context operand))
  | .not => pure (Term.map Value.not (← inner.expression context operand))

private def between (operand low high : Sql.Expression) (negated : Bool) : Compile Term := do
  let operand ← inner.expression context operand
  let low ← inner.expression context low
  let high ← inner.expression context high
  let inside :=
    Term.and (.compare (· ≠ .lt) operand low) (.compare (· ≠ .gt) operand high)
  pure (if negated then .map Value.not inside else inside)

private def matchTerm (operator : Sql.MatchOperator) (operand pattern : Term)
    (escape : Option Term) : Compile Term :=
  match operator with
  | .like =>
      pure (.apply (pattern :: operand :: escape.toList) fun _ values =>
        Function.like (values.headD .null) (values[1]?.getD .null) values[2]?)
  | .glob =>
      pure (.apply [pattern, operand] fun _ values =>
        Function.glob (values.headD .null) (values[1]?.getD .null))
  | .regexp => refuse "no such function: REGEXP"
  | .match => refuse "unable to use function MATCH in the requested context"

private def collated (operand : Sql.Expression) (name : Bytes) : Compile Term := do
  let term ← inner.expression context operand
  match Collation.ofName? name with
  | some collation => pure { term with collation := some collation, isExplicit := true }
  | none => refuseNamed "no such collation sequence: " name ""

private def cases (operand : Option Sql.Expression)
    (branches : List (Sql.Expression × Sql.Expression)) (otherwise : Option Sql.Expression) :
    Compile Term := do
  let operand ← operand.mapM (inner.expression context)
  let branches : List (Term × Term) ← branches.mapM fun (condition, result) => do
    let condition ← inner.expression context condition
    let condition : Term :=
      match operand with
      | some operand => .compare (· = .eq) operand condition
      | none => condition
    pure (condition, ← inner.expression context result)
  let otherwise ← otherwise.mapM (inner.expression context)
  pure
    { evaluate := fun environment => do
        for (condition, result) in branches do
          if ← condition.isTrue environment then return ← result.evaluate environment
        match otherwise with
        | some otherwise => otherwise.evaluate environment
        | none => return .null }

/-! ## Membership and queries -/

private def isInList (operand : Sql.Expression) (list : List Sql.Expression) (negated : Bool) :
    Compile Term := do
  let operand ← inner.expression context operand
  let list ← list.mapM (inner.expression context)
  let plain (term : Term) : Term := { term with affinity := none, isExplicit := false }
  pure
    { evaluate := fun environment => do
        if list.isEmpty then return .ofBool negated
        let value ← operand.evaluate environment
        let others ← Term.evaluateAll environment list
        return Term.membership
          (fun value other =>
            Term.order operand (plain default) environment value other = .eq)
          negated value others }

private def singleColumn (query : Query) : Compile OutputColumn :=
  match query.columns with
  | [column] => pure column
  | columns => refuse s!"sub-select returns {columns.length} columns - expected 1"

private def isInQuery (operand : Sql.Expression) (query : Sql.Select) (negated : Bool) :
    Compile Term := do
  let operand ← inner.expression context operand
  let query ← inner.select context query
  let column ← singleColumn query
  let other : Term :=
    { evaluate := fun _ => .ok .null, affinity := column.affinity,
      collation := column.collation, isExplicit := column.isExplicit }
  pure
    { evaluate := fun environment => do
        let value ← operand.evaluate environment
        let rows ← (query.rows environment).toExcept
        let others := rows.map fun row => row.headD .null
        return Term.membership
          (fun left right => Term.order operand other environment left right = .eq)
          negated value others }

private def tableQuery (name : Sql.ObjectName) : Sql.Select where
  first := { columns := [{ body := .star }], sources := [{ body := .table name }] }

private def scalarQuery (query : Sql.Select) : Compile Term := do
  let query ← inner.select context query
  let column ← singleColumn query
  pure
    { evaluate := fun environment => do
        match ← (query.rows environment).first? with
        | some row => return row.headD .null
        | none => return .null
      affinity := column.affinity
      collation := column.collation
      isExplicit := column.isExplicit }

private def existence (query : Sql.Select) : Compile Term := do
  let query ← inner.select context query
  pure
    { evaluate := fun environment => do
        return .ofBool (← (query.rows environment).first?).isSome }

/-! ## Calls -/

private def callContext (environment : Environment) (collation : Collation) :
    Function.CallContext where
  encoding := environment.database.encoding
  collation := collation
  counters := environment.counters

private def firstCollation (arguments : List Term) : Collation :=
  (arguments.findSome? (·.collation)).getD .binary

private def wrongCount {α : Type} (name : Bytes) : Compile α :=
  refuseNamed "wrong number of arguments to function " name "()"

private def coalesce (arguments : List Term) : Term where
  evaluate environment := do
    for argument in arguments do
      let value ← argument.evaluate environment
      if value ≠ .null then return value
    return .null

private def lazyCall (name : Bytes) (arguments : List Sql.Expression) : Compile Term := do
  let isChoice := isWord name "iif"
  let allowed :=
    if isChoice then arguments.length = 3
    else if isWord name "ifnull" then arguments.length = 2
    else 2 ≤ arguments.length
  unless allowed do wrongCount name
  let terms ← arguments.mapM (inner.expression context)
  if isChoice then
    let condition := terms[0]?.getD default
    let positive := terms[1]?.getD default
    let negative := terms[2]?.getD default
    pure
      { evaluate := fun environment => do
          if ← condition.isTrue environment then positive.evaluate environment
          else negative.evaluate environment }
  else pure (coalesce terms)

private def aggregateCall (name : Bytes) (function : Function.Aggregate) (distinct : Bool)
    (arguments : List Sql.Expression) (filter : Option Sql.Expression) : Compile Term := do
  unless function.accepts arguments.length do wrongCount name
  unless context.allowsAggregates do
    refuseNamed "misuse of aggregate function " name "()"
  if distinct && arguments.length ≠ 1 then
    refuse "DISTINCT aggregates must have exactly one argument"
  let plain := { context with allowsAggregates := false }
  let terms ← arguments.mapM (inner.expression plain)
  let filter ← filter.mapM (inner.expression plain)
  let place := (← get).length
  modify fun calls =>
    calls ++ [{ function, arguments := terms, filter, distinct, collation := firstCollation terms }]
  pure { evaluate := fun environment => .ok (environment.aggregates[place]?.getD .null) }

private def scalarCall (name : Bytes) (function : Function.Scalar)
    (arguments : List Sql.Expression) (filter : Option Sql.Expression) : Compile Term := do
  unless function.accepts arguments.length do wrongCount name
  if filter.isSome then
    refuseNamed "FILTER may not be used with non-aggregate " name "()"
  let terms ← arguments.mapM (inner.expression context)
  let collation := firstCollation terms
  pure (.apply terms fun environment values =>
    function.apply (callContext environment collation) values)

private def call (name : Bytes) (distinct : Bool) (arguments : List Sql.Expression)
    (filter : Option Sql.Expression) : Compile Term := do
  if Function.isLazy name then lazyCall inner context name arguments
  else
    match Function.scalar? name, Function.aggregate? name with
    | some scalar, none => scalarCall inner context name scalar arguments filter
    | none, some aggregate =>
        aggregateCall inner context name aggregate distinct arguments filter
    | some scalar, some aggregate =>
        if scalar.accepts arguments.length then
          scalarCall inner context name scalar arguments filter
        else aggregateCall inner context name aggregate distinct arguments filter
    | none, none => refuseNamed "no such function: " name ""

private def callStar (name : Bytes) (filter : Option Sql.Expression) : Compile Term := do
  if isWord name "count" then call inner context name false [] filter
  else
    match Function.scalar? name, Function.aggregate? name with
    | none, none => refuseNamed "no such function: " name ""
    | some scalar, none =>
        if scalar.accepts 0 then scalarCall inner context name scalar [] filter
        else wrongCount name
    | _, _ => wrongCount name

private def raise (resolution : Sql.Resolution) (message : Bytes) : Compile Term := do
  unless context.isInTrigger do refuse "RAISE() may only be used within a trigger-program"
  pure { evaluate := fun _ => .error { code := Status.constraint, message, resolution } }

/-! ## All expressions -/

def compileExpression (expression : Sql.Expression) : Compile Term := do
  match expression with
  | .null => pure (.constant .null)
  | .integer digits => pure (.constant (← integerLiteral false digits))
  | .real digits => pure (.constant (realLiteral false digits))
  | .string bytes => pure (.constant (.text bytes))
  | .blob bytes => pure (.constant (.blob bytes))
  | .parameter number => pure { evaluate := fun environment => .ok (environment.parameter number) }
  | .name name quoted => bareName inner context name quoted
  | .column database table name => qualifiedName inner context database table name
  | .unary operator operand => unaryExpression inner context operator operand
  | .binary operator left right => binaryExpression inner context operator left right
  | .isNull operand negated =>
      pure (Term.map (fun value => .ofBool (decide (value = .null) != negated))
        (← inner.expression context operand))
  | .isIn operand list negated => isInList inner context operand list negated
  | .isInQuery operand query negated => isInQuery inner context operand query negated
  | .isInTable operand table negated =>
      isInQuery inner context operand (tableQuery table) negated
  | .between operand low high negated => between inner context operand low high negated
  | .matches operator operand pattern escape negated =>
      let operand ← inner.expression context operand
      let pattern ← inner.expression context pattern
      let escape ← escape.mapM (inner.expression context)
      let term ← matchTerm operator operand pattern escape
      pure (if negated then .map Value.not term else term)
  | .collate operand collation => collated inner context operand collation
  | .cast operand type =>
      let term ← inner.expression context operand
      let affinity := if type.isEmpty then .numeric else Affinity.ofType type
      pure
        { term with
          evaluate := fun environment =>
            (term.evaluate environment).map (·.cast affinity)
          affinity := some affinity }
  | .call name distinct arguments filter => call inner context name distinct arguments filter
  | .callStar name filter => callStar inner context name filter
  | .case operand branches otherwise => cases inner context operand branches otherwise
  | .exists query => existence inner context query
  | .scalar query => scalarQuery inner context query
  | .row _ => refuse "row value misused"
  | .raise resolution message => raise context resolution message

end EmbeddedSql.Plan
