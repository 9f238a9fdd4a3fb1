import EmbeddedSql.Plan.Delete
import EmbeddedSql.Plan.Insert

/-! All statements that change rows, with the triggers that they set off. -/

namespace EmbeddedSql.Plan

variable (inner : Compilers)

/-- Compiles the steps of triggers; triggers can set off others, but none of those that
are under way. The fuel bounds how many are under way at once. -/
private def compileStep : (fuel : Nat) → ChangeContext → Sql.TriggerStep →
    Except Failure (Frames → Effect Unit)
  | 0, _, _ => .error (Failure.ofText "too many levels of trigger recursion")
  | fuel + 1, context, step =>
      match step with
      | .select query => do
          let query ← inner.select context.plan query
          return fun frames => do
            let _ ← Effect.read fun work => (query.rows (work.environment frames)).toExcept
      | .insert insert => do
          return (← compileInsert inner (compileStep fuel) context insert).run
      | .update update => do
          return (← compileUpdate inner (compileStep fuel) context update).run
      | .delete delete => do
          return (← compileDelete inner (compileStep fuel) context delete).run

private def keepingReferences (context : Context) (change : Change) : Change :=
  { change with
    run := fun frames => do
      let before := (← get).database
      change.run frames
      let after := (← get).database
      if context.foreignKeys ∧ before.brokenReferences false < after.brokenReferences false then
        Effect.violate .abort brokenReference }

def changeStep (context : Context) : ChangeContext → Sql.TriggerStep →
    Except Failure (Frames → Effect Unit) :=
  compileStep inner (context.database.triggers.length + 1)

def Change.ofInsert (context : Context) (insert : Sql.Insert) : Except Failure Change := do
  return keepingReferences context
    (← compileInsert inner (changeStep inner context) { plan := context } insert)

def Change.ofUpdate (context : Context) (update : Sql.Update) : Except Failure Change := do
  return keepingReferences context
    (← compileUpdate inner (changeStep inner context) { plan := context } update)

def Change.ofDelete (context : Context) (delete : Sql.Delete) : Except Failure Change := do
  return keepingReferences context
    (← compileDelete inner (changeStep inner context) { plan := context } delete)

end EmbeddedSql.Plan
