import EmbeddedSql.Proofs.Query.Binding
import EmbeddedSql.Proofs.Query.Fetching
import EmbeddedSql.Proofs.Query.Transactions

/-! Values by their position. As many as there are slots are taken, and a query that has more of
them never comes to a step of its statement. -/

namespace EmbeddedSql

open Query
open EmbeddedSql.Call (StepsFirst TakesNoStep)

variable {σ C : Type} {backend : Backend σ}

/-! ## Slots that values fill -/

namespace Binding

variable {laws : Binding backend.engine} {watch : Watch laws.toCustody} {link : Link σ}
  {statement : StatementHandle}

end Binding

/-! ## Queries and their values -/

namespace Query

def executeBound (backend : Backend σ) (command : Command) : Call σ WriteResult := do
  let _ ← command.dropOnError backend (Call.ofConnection (command.executeNonQuery backend))
  Call.ofConnection do
    command.finalize backend
    let changes ← Connection.changes backend.engine backend.growth
    let rowid ← Connection.lastInsertRowid backend.engine backend.growth
    pure ⟨changes.toUInt64, rowid⟩

def fetchBound (backend : Backend σ) (limit : Option Nat) (command : Command) :
    Call σ (List Row) := do
  let rows ← command.dropOnError backend (readRows backend limit command)
  Call.ofConnection (command.finalize backend)
  pure rows.reverse

def onlyRow : List Row → Call σ (Option Row)
  | [] => pure none
  | [row] => pure (some row)
  | rows => throw (.multipleRowsReturned rows.length)

variable (backend) (sql : Text) (values : List Json)

variable {backend} (command : Command)

end Query

/-! ## Preparing -/

variable {link : Link σ} {sql : Text} {values : List Json}

/-- A query that fails before its statement is run leaves the database as it was once it was
open, unless compiling its text has changed it. -/
theorem Transactions.prepare_standing (laws : Transactions backend.engine C)
    (valid : laws.Valid link.engine)
    (isOpen : ∀ {database}, link.connection.lifecycle = .opened database →
      (laws.handles link.engine).isOpen database = true) {opened last : Link σ}
    (opens : Connection.ensureOpen backend.engine backend.growth link = (.ok (), opened))
    {database : DatabaseHandle} (isOpened : opened.connection.lifecycle = .opened database)
    {error : Query.Error} (fails : Query.prepare backend sql values link = (.error error, last)) :
    laws.Compiles sql (laws.standing opened.engine database)
      (laws.standing last.engine database) := by
  obtain ⟨placed, -⟩ := laws.placed_of_opens valid isOpen opens isOpened
  have prepares := placed.prepareQuery sql values
  rw [← Query.prepare_of_opens sql values opens (placed.ensureOpen backend.growth), fails] at prepares
  obtain ⟨compiled, compiles, after⟩ := prepares
  have isCompiled : laws.standing last.engine database = compiled := after.standing
  rwa [isCompiled]

end EmbeddedSql
