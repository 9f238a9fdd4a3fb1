import EmbeddedSql.Plan.Expression
import EmbeddedSql.Plan.Order

/-! Groups of rows, for which aggregates are evaluated. -/

namespace EmbeddedSql.Plan

namespace AggregateCall

private def argumentsOf (call : AggregateCall) (environment : Environment) :
    Except Fault (Option (List Value)) := do
  let counts ←
    match call.filter with
    | some filter => filter.isTrue environment
    | none => pure true
  if counts then return some (← Term.evaluateAll environment call.arguments)
  else return none

private def context (call : AggregateCall) (environment : Environment) :
    Function.CallContext where
  encoding := environment.database.encoding
  collation := call.collation
  counters := environment.counters

def result (call : AggregateCall) (environment : Environment)
    (group : List (List Tuple)) : Except Fault Value := do
  let rows ← group.filterMapM fun tuples => call.argumentsOf (environment.push tuples)
  let encoding := environment.database.encoding
  let rows :=
    if call.distinct then
      distinctByKeys encoding [{ collation := call.collation }] id rows
    else rows
  call.function.apply (call.context environment) rows

/-- The row that an aggregate picks. Before there is a value every row does. -/
private def picked (call : AggregateCall) (wanted : Ordering) (environment : Environment)
    (group : List (List Tuple)) : Except Fault (Option (List Tuple)) := do
  let encoding := environment.database.encoding
  let chosen ← group.foldlM (fun (best, chosen) tuples => do
    match ← call.argumentsOf (environment.push tuples) with
    | none => return (best, chosen)
    | some arguments =>
        let value := arguments.headD .null
        if best = .null then return (value, some tuples)
        else if value ≠ .null ∧
            Value.compare encoding call.collation value best = wanted then
          return (value, some tuples)
        else return (best, chosen))
    ((Value.null, none) : Value × Option (List Tuple))
  return chosen.2

end AggregateCall

/-- The row that stands for a group where a column is not in an aggregate: the one
that the last aggregate that picks a row picks, or else the first. -/
private def representative (calls : List AggregateCall) (environment : Environment)
    (missing : List Tuple) (group : List (List Tuple)) : Except Fault (List Tuple) := do
  let picking := calls.filterMap fun call => call.function.picks.map fun wanted => (call, wanted)
  match picking.getLast? with
  | some (call, wanted) => return (← call.picked wanted environment group).getD missing
  | none => return group.headD missing

def groupEnvironment (calls : List AggregateCall) (environment : Environment)
    (missing : List Tuple) (group : List (List Tuple)) : Except Fault Environment := do
  let tuples ← representative calls environment missing group
  let aggregates ← calls.mapM fun call => call.result environment group
  return { environment.push tuples with aggregates }

end EmbeddedSql.Plan
