import EmbeddedSql.Proofs.Engine.Binding
import EmbeddedSql.Proofs.Engine.Isolation
import Mathlib.Logic.Embedding.Basic

/-! Requests that fail. All that an engine keeps of one is what it says about it, and that it may
give other numbers to the databases that are opened later. -/

namespace EmbeddedSql

variable {σ : Type}

/-- Assumed of SQLite: a database that fails to open is forgotten once it is let go of, and
states that cannot be told apart stay so. Nothing is assumed to be forgotten of a text that does
not compile: some pragmas are carried out as soon as they are read. -/
structure Recovering (engine : Engine σ) extends Binding engine where
  /-- Apart from the numbers of databases and from diagnostics, the two states cannot be told
  apart. -/
  Resembles : (DatabaseHandle ↪ DatabaseHandle) → σ → σ → Prop
  resembles_itself : ∀ state, Resembles (.refl _) state state

  -- The same is asked in both

  resembles_opened : ∀ {rename state image} (path : Bytes) (mode : OpenMode),
    Resembles rename state image →
      let first := engine.openDatabase path mode state
      let second := engine.openDatabase path mode image
      second.1 = (first.1.1.map rename, first.1.2) ∧ Resembles rename first.2 second.2
  resembles_closed : ∀ {rename state image} (database : DatabaseHandle),
    Resembles rename state image →
      Agree (Resembles rename) (engine.closeDatabase database state)
        (engine.closeDatabase (rename database) image)
  resembles_prepared : ∀ {rename state image} (database : DatabaseHandle) (sql : Text),
    Resembles rename state image →
      Agree (Resembles rename) (engine.prepare database sql state)
        (engine.prepare (rename database) sql image)
  resembles_asked : ∀ {rename state image action} (statement : StatementHandle),
    engine.Asks action → Resembles rename state image →
      Agree (Resembles rename) (action statement state) (action statement image)
  resembles_finalized : ∀ {rename state image} (statement : StatementHandle),
    Resembles rename state image →
      Agree (Resembles rename) (engine.finalize statement state)
        (engine.finalize statement image)

  -- What is seen of both

  resembles_statements : ∀ {rename state image} (database : DatabaseHandle),
    Resembles rename state image →
      engine.statements (rename database) image = engine.statements database state
  resembles_changes : ∀ {rename state image} (database : DatabaseHandle),
    Resembles rename state image →
      engine.changes (rename database) image = engine.changes database state
  resembles_lastInsertRowid : ∀ {rename state image} (database : DatabaseHandle),
    Resembles rename state image →
      engine.lastInsertRowid (rename database) image = engine.lastInsertRowid database state
  resembles_sqlText : ∀ {rename state image} (statement : StatementHandle),
    Resembles rename state image → engine.sqlText statement image = engine.sqlText statement state
  resembles_parameterCount : ∀ {rename state image} (statement : StatementHandle),
    Resembles rename state image →
      engine.parameterCount statement image = engine.parameterCount statement state
  resembles_parameterIndex : ∀ {rename state image} (statement : StatementHandle) (name : Bytes),
    Resembles rename state image →
      engine.parameterIndex statement name image = engine.parameterIndex statement name state
  resembles_parameterName? : ∀ {rename state image} (statement : StatementHandle) (index : Int),
    Resembles rename state image →
      engine.parameterName? statement index image = engine.parameterName? statement index state
  resembles_slots : ∀ {rename state image} (statement : StatementHandle),
    Resembles rename state image → slots image statement = slots state statement
  resembles_columnNames : ∀ {rename state image} (statement : StatementHandle),
    Resembles rename state image →
      engine.columnNames statement image = engine.columnNames statement state
  resembles_row : ∀ {rename state image} (statement : StatementHandle),
    Resembles rename state image → engine.row statement image = engine.row statement state

  -- Something fails in the second state only

  forgets_unopened : ∀ {state path mode}, Valid state →
    (engine.openDatabase path mode state).1.1 = none →
      ∃ rename, (∀ other, (handles state).isOpen other = true → rename other = other) ∧
        Resembles rename state (engine.openDatabase path mode state).2
  forgets_opened : ∀ {state path mode database}, Valid state →
    (engine.openDatabase path mode state).1.1 = some database →
      (engine.openDatabase path mode state).1.2 ≠ Status.ok →
        ∃ rename, (∀ other, (handles state).isOpen other = true → rename other = other) ∧
          Resembles rename state
            (engine.closeDatabase database (engine.openDatabase path mode state).2).2

  -- Rows that were found before

  prepared_row : ∀ {state database sql} (statement : StatementHandle), Valid state →
    (engine.prepare database sql state).1.2 = none →
      engine.row statement (engine.prepare database sql state).2 = engine.row statement state
  opened_row : ∀ {state path mode} (statement : StatementHandle), Valid state →
    engine.row statement (engine.openDatabase path mode state).2 = engine.row statement state

end EmbeddedSql
