import EmbeddedSql.Text.Bytes

/-! SQL expressions and queries as they are written. Names stay unresolved and
numbers keep their digits. -/

namespace EmbeddedSql.Sql

inductive UnaryOperator where
  | negate
  | plus
  | bitNot
  | not
deriving DecidableEq, Repr

inductive BinaryOperator where
  | or
  | and
  | equal
  | notEqual
  | is
  | isNot
  | less
  | lessOrEqual
  | greater
  | greaterOrEqual
  | bitAnd
  | bitOr
  | shiftLeft
  | shiftRight
  | add
  | subtract
  | multiply
  | divide
  | remainder
  | concatenate
deriving DecidableEq, Repr

inductive MatchOperator where
  | like
  | glob
  | regexp
  | match
deriving DecidableEq, Repr

inductive Resolution where
  | rollback
  | abort
  | fail
  | ignore
  | replace
deriving DecidableEq, Repr

inductive CompoundOperator where
  | union
  | unionAll
  | except
  | intersect
deriving DecidableEq, Repr

structure JoinKind where
  natural : Bool := false
  keepsLeft : Bool := false
  keepsRight : Bool := false
deriving DecidableEq, Repr

structure ObjectName where
  database : Option Bytes := none
  name : Bytes
deriving DecidableEq, Repr

mutual
inductive Expression where
  | null
  | integer (digits : Bytes)
  | real (digits : Bytes)
  | string (bytes : Bytes)
  | blob (bytes : Bytes)
  | parameter (number : Nat)
  /-- A column or an alias; in double quotes it may turn out to be a string. -/
  | name (name : Bytes) (quoted : Bool)
  | column (database : Option Bytes) (table name : Bytes)
  | unary (operator : UnaryOperator) (operand : Expression)
  | binary (operator : BinaryOperator) (left right : Expression)
  | isNull (operand : Expression) (negated : Bool)
  | isIn (operand : Expression) (list : List Expression) (negated : Bool)
  | isInQuery (operand : Expression) (query : Select) (negated : Bool)
  | isInTable (operand : Expression) (table : ObjectName) (negated : Bool)
  | between (operand low high : Expression) (negated : Bool)
  | matches (operator : MatchOperator) (operand pattern : Expression)
      (escape : Option Expression) (negated : Bool)
  | collate (operand : Expression) (collation : Bytes)
  | cast (operand : Expression) (type : Bytes)
  | call (function : Bytes) (distinct : Bool) (arguments : List Expression)
      (filter : Option Expression)
  | callStar (function : Bytes) (filter : Option Expression)
  | case (operand : Option Expression) (branches : List (Expression × Expression))
      (otherwise : Option Expression)
  | exists (query : Select)
  | scalar (query : Select)
  | row (elements : List Expression)
  | raise (resolution : Resolution) (message : Bytes)

structure ResultColumn where
  body : ResultBody
  aliasName : Option Bytes := none
  /-- The text of the expression, which names a column without an alias. -/
  written : Bytes := []

inductive ResultBody where
  | star
  | tableStar (table : Bytes)
  | expression (expression : Expression)

structure OrderTerm where
  expression : Expression
  descending : Bool := false
  nullsFirst : Option Bool := none

structure Source where
  join : JoinKind := {}
  body : SourceBody
  aliasName : Option Bytes := none
  on : Option Expression := none
  shared : List Bytes := []

inductive SourceBody where
  | table (name : ObjectName)
  | query (query : Select)
  | group (sources : List Source)

structure SelectCore where
  distinct : Bool := false
  columns : List ResultColumn
  sources : List Source := []
  filter : Option Expression := none
  groupBy : List Expression := []
  having : Option Expression := none
  /-- The rows of a `VALUES` clause, which then has no columns of its own. -/
  rows : List (List Expression) := []

structure CommonTable where
  name : Bytes
  columns : List Bytes := []
  query : Select

structure Select where
  commonTables : List CommonTable := []
  first : SelectCore
  rest : List (CompoundOperator × SelectCore) := []
  orderBy : List OrderTerm := []
  limit : Option Expression := none
  offset : Option Expression := none
end

instance : Inhabited Expression := ⟨.null⟩

namespace Select

def cores (select : Select) : List SelectCore :=
  select.first :: select.rest.map (·.2)

end Select

end EmbeddedSql.Sql
