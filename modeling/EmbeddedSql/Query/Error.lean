import EmbeddedSql.Error

/-! What can go wrong with a query: the connection's errors, and those of
queries themselves. -/

namespace EmbeddedSql.Query

inductive Error where
  | connection (error : EmbeddedSql.Error)
  | tooManyValues (count : Nat)
  | multipleRowsReturned (count : Nat)
  | rollbackFailed (transactionError rollbackError : String)
  | other (message : String)
deriving DecidableEq, Repr

namespace Error

def message : Error → String
  | .connection error => error.message
  | .tooManyValues count =>
      s!"{count} values supplied, more than any statement can bind"
  | .multipleRowsReturned count =>
      s!"fetch_one() query returned {count} rows, expected 0 or 1"
  | .rollbackFailed transactionError rollbackError =>
      s!"transaction failed: {transactionError}; rollback also failed: {rollbackError}"
  | .other message => message

def code : Error → String
  | .connection .useAfterDispose => "USE_AFTER_DISPOSE"
  | .connection .emptyStatement => "EMPTY_STATEMENT"
  | .connection error =>
      match error.code? with
      | some code => s!"SQLITE_{code}"
      | none => "DRIVER_ERROR"
  | .tooManyValues _ => "TOO_MANY_VALUES"
  | .multipleRowsReturned _ => "MULTIPLE_ROWS_RETURNED"
  | .rollbackFailed _ _ => "TRANSACTION_ROLLBACK_FAILED"
  | .other _ => "ERROR"

end Error

end EmbeddedSql.Query
