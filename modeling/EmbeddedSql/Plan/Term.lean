import EmbeddedSql.Plan.Environment
import EmbeddedSql.Value.Arithmetic

/-! What expressions mean: functions from environments to values. With the meaning go
the affinity and the collation that comparisons take from it. -/

namespace EmbeddedSql.Plan

structure Term where
  evaluate : Environment → Except Fault Value
  affinity : Option Affinity := none
  collation : Option Collation := none
  isExplicit : Bool := false

instance : Inhabited Term := ⟨{ evaluate := fun _ => .ok .null }⟩

namespace Term

def constant (value : Value) : Term where
  evaluate _ := .ok value

/-- An explicit collation somewhere in the operands counts for the whole. -/
private def inherited (operands : List Term) : Option Collation × Bool :=
  match operands.find? (·.isExplicit) with
  | some operand => (operand.collation, true)
  | none => (none, false)

def evaluateAll (environment : Environment) (terms : List Term) :
    Except Fault (List Value) :=
  terms.mapM (·.evaluate environment)

def apply (operands : List Term)
    (function : Environment → List Value → Except Fault Value) : Term :=
  let (collation, isExplicit) := inherited operands
  { evaluate := fun environment => do
      function environment (← evaluateAll environment operands)
    collation, isExplicit }

def map (function : Value → Value) (operand : Term) : Term :=
  let (collation, isExplicit) := inherited [operand]
  { evaluate := fun environment => (operand.evaluate environment).map function
    collation, isExplicit }

def map₂ (function : Value → Value → Value) (left right : Term) : Term :=
  let (collation, isExplicit) := inherited [left, right]
  { evaluate := fun environment => do
      let left ← left.evaluate environment
      let right ← right.evaluate environment
      return function left right
    collation, isExplicit }

def isTrue (term : Term) (environment : Environment) : Except Fault Bool :=
  (term.evaluate environment).map Value.isTrue

/-! ## Comparing -/

def sharedAffinity (left right : Option Affinity) : Affinity :=
  match left, right with
  | some left, some right => if left.isNumeric || right.isNumeric then .numeric else .blob
  | some left, none => left
  | none, some right => right
  | none, none => .blob

def sharedCollation (left right : Term) : Collation :=
  let chosen :=
    if left.isExplicit then left.collation
    else if right.isExplicit then right.collation
    else left.collation <|> right.collation
  chosen.getD .binary

def order (left right : Term) (environment : Environment) (leftValue rightValue : Value) :
    Ordering :=
  let (leftValue, rightValue) :=
    Value.aligned (sharedAffinity left.affinity right.affinity) leftValue rightValue
  Value.compare environment.database.encoding (sharedCollation left right) leftValue rightValue

def compare (holds : Ordering → Bool) (left right : Term) : Term where
  evaluate environment := do
    let leftValue ← left.evaluate environment
    let rightValue ← right.evaluate environment
    return if leftValue = .null ∨ rightValue = .null then .null
      else .ofBool (holds (order left right environment leftValue rightValue))

def isSame (negated : Bool) (left right : Term) : Term where
  evaluate environment := do
    let leftValue ← left.evaluate environment
    let rightValue ← right.evaluate environment
    let same :=
      if leftValue = .null ∨ rightValue = .null then decide (leftValue = rightValue)
      else decide (order left right environment leftValue rightValue = .eq)
    return .ofBool (same != negated)

/-! ## Logic

The right operand is not looked at if the left one decides. -/

def and (left right : Term) : Term where
  evaluate environment := do
    let left ← left.evaluate environment
    if left.truth? = some false then return .ofBool false
    return Value.and left (← right.evaluate environment)

def or (left right : Term) : Term where
  evaluate environment := do
    let left ← left.evaluate environment
    if left.truth? = some true then return .ofBool true
    return Value.or left (← right.evaluate environment)

/-! ## Membership -/

/-- Whether a value is among others; null if only a null could be the one. -/
def membership (holds : Value → Value → Bool) (negated : Bool) (value : Value)
    (others : List Value) : Value :=
  if others.isEmpty then .ofBool negated
  else if value = .null then .null
  else if others.any (fun other => other ≠ .null && holds value other) then
    .ofBool (!negated)
  else if others.contains .null then .null
  else .ofBool negated

end Term

end EmbeddedSql.Plan
