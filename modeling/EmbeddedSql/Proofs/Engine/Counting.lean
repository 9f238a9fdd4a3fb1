import EmbeddedSql.Proofs.Connection.Run
import EmbeddedSql.Proofs.Engine.Rewinding

/-! The rows that a database counts. There is one count for all of its statements, and only those
that change rows set it. -/

namespace EmbeddedSql

variable {σ : Type}

/-- Assumed of SQLite: a statement that inserts, updates or deletes has the count of its database
say how many rows it has changed, once it is done. No other statement touches the count. -/
structure Counting (engine : Engine σ) extends Rewinding engine where
  /-- Whether the statement of a text inserts, updates or deletes. -/
  changesRows : Text → Bool
  counts : σ → StatementHandle → Bool
  /-- The rows that a statement changes if it is run from here. -/
  affected : σ → StatementHandle → Nat
  begin_changesNone : changesRows (.ofString "BEGIN IMMEDIATE") = false
  commit_changesNone : changesRows (.ofString "COMMIT") = false

  -- Before a statement takes a step

  prepared_changes : ∀ {state database sql other}, Valid state →
    (handles state).isOpen database = true →
      engine.changes other (engine.prepare database sql state).2 = engine.changes other state
  prepared_counts : ∀ {state database sql statement}, Valid state →
    (handles state).isOpen database = true →
      (engine.prepare database sql state).1.2 = some statement →
        counts (engine.prepare database sql state).2 statement = changesRows sql
  bound_changes : ∀ {state statement index argument other}, Valid state →
    (handles state).InUse statement →
      engine.changes other (engine.bind statement index argument state).2 =
        engine.changes other state
  bound_counts : ∀ {state statement index argument}, Valid state →
    (handles state).InUse statement →
      counts (engine.bind statement index argument state).2 statement = counts state statement

  -- Runs

  runs_changes : ∀ {state after statement code other}, Valid state →
    (handles state).InUse statement → IsReset state statement → counts state statement = false →
      engine.Runs statement state code after →
        engine.changes other after = engine.changes other state
  done_changes : ∀ {state after statement database}, Valid state →
    (handles state).owner? statement = some database → IsReset state statement →
      counts state statement = true → engine.Runs statement state Status.done after →
        engine.changes database after = affected state statement

  -- Afterwards

  reset_changes : ∀ {state statement other}, Valid state → (handles state).InUse statement →
    (engine.step statement state).1 ≠ Status.row →
      engine.changes other (engine.reset statement (engine.step statement state).2).2 =
        engine.changes other (engine.step statement state).2
  finalized_changes : ∀ {state statement other}, Valid state →
    (handles state).InUse statement → IsReset state statement →
      engine.changes other (engine.finalize statement state).2 = engine.changes other state

namespace Counting

variable {engine : Engine σ} (laws : Counting engine) {state after : σ}
  {statement : StatementHandle}

theorem reset_of_runs {code : Int} (valid : laws.Valid state)
    (inUse : (laws.handles state).InUse statement) (runs : engine.Runs statement state code after)
    (other : DatabaseHandle) :
    engine.changes other (engine.reset statement after).2 = engine.changes other after := by
  induction runs with
  | last isNoRow => exact laws.reset_changes valid inUse isNoRow
  | more _ _ induction =>
      have shows := laws.stepped valid inUse
      exact induction shows.1 (shows.2 ▸ inUse)

end Counting

end EmbeddedSql
