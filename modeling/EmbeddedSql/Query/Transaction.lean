import EmbeddedSql.Query.Execution

/-! Several statements that take effect together or not at all. -/

namespace EmbeddedSql.Query

variable {σ : Type} (backend : Backend σ)

def control (sql : String) : Call σ Unit := do
  let _ ← Call.ofConnection (Connection.executeNonQuery backend (.ofString sql))

def executeEach : List (Text × List Json) → Call σ (List WriteResult)
  | [] => pure []
  | (sql, values) :: rest => do
      let result ← execute backend sql values
      let results ← executeEach rest
      pure (result :: results)

/-- Rolls back after an error; only a failing rollback hides that error. -/
def rollback (error : Error) : Call σ (List WriteResult) := fun link =>
  match control backend "ROLLBACK" link with
  | (.ok _, link) => (.error error, link)
  | (.error rollbackError, link) =>
      (.error (.rollbackFailed error.message rollbackError.message), link)

def executeTransaction (statements : List (Text × List Json)) :
    Call σ (List WriteResult) := do
  control backend "BEGIN IMMEDIATE"
  tryCatch
    (do
      let results ← executeEach backend statements
      control backend "COMMIT"
      pure results)
    (rollback backend)

end EmbeddedSql.Query
