import EmbeddedSql.Connection.Command
import EmbeddedSql.Query.Binding
import EmbeddedSql.Query.Row
import EmbeddedSql.Json.Record

/-! Whole queries: compile, bind, run and let go. -/

namespace EmbeddedSql.Query

structure WriteResult where
  rowsAffected : UInt64
  lastInsertId : Int64
deriving DecidableEq, Repr

namespace WriteResult

def format : Json.RecordFormat WriteResult where
  fields :=
    [{ key := "rows_affected"
       read := fun tree result =>
         tree.uint64?.map fun value => { result with rowsAffected := value } },
      { key := "last_insert_id"
        read := fun tree result =>
          tree.int64?.map fun value => { result with lastInsertId := value } }]
  initial := ⟨0, 0⟩
  hasDefaults := false

def toJson (result : WriteResult) : Json :=
  .object
    [("rows_affected", .integer result.rowsAffected.toNat),
      ("last_insert_id", .integer result.lastInsertId.toInt)]

end WriteResult

variable {σ : Type} (backend : Backend σ)

def prepare (sql : Text) (values : List Json) : Call σ Command := do
  let command ← Call.ofConnection (Connection.createCommand backend sql)
  command.dropOnError backend
    (bindValues backend.engine backend.growth command.statement values)
  pure command

/-- Runs a statement to its end and reports the connection's counters. -/
def execute (sql : Text) (values : List Json) : Call σ WriteResult := do
  let command ← prepare backend sql values
  let _ ← command.dropOnError backend (Call.ofConnection (command.executeNonQuery backend))
  Call.ofConnection do
    command.finalize backend
    let changes ← Connection.changes backend.engine backend.growth
    let rowid ← Connection.lastInsertRowid backend.engine backend.growth
    pure ⟨changes.toUInt64, rowid⟩

def fetch (sql : Text) (values : List Json) (limit : Option Nat) :
    Call σ (List Row) := do
  let command ← prepare backend sql values
  let wanted (rows : List Row) : Bool :=
    match limit with
    | some limit => rows.length < limit
    | none => true
  let take (reader : Reader) (link : Link σ) (rows : List Row) : Except Error (List Row) :=
    (decodeRow backend.engine reader link).map (· :: rows)
  let rows ← command.dropOnError backend do
    let reader ← Call.ofConnection command.executeReader
    fun link =>
      let ((rows, reader), link) := reader.gather backend wanted take .connection [] link
      (rows, reader.dispose backend.engine link)
  Call.ofConnection (command.finalize backend)
  pure rows.reverse

def fetchAll (sql : Text) (values : List Json) : Call σ (List Row) :=
  fetch backend sql values none

/-- Two rows are one too many, and no more are looked at. -/
def fetchOne (sql : Text) (values : List Json) : Call σ (Option Row) := do
  match ← fetch backend sql values (some 2) with
  | [] => pure none
  | [row] => pure (some row)
  | rows => throw (.multipleRowsReturned rows.length)

end EmbeddedSql.Query
