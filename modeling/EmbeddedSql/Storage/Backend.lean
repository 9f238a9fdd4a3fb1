import EmbeddedSql.Connection.Command
import EmbeddedSql.Storage.Access

/-! The store as an engine that connections can use. -/

namespace EmbeddedSql.Storage

def engine : Engine Store where
  openDatabase := Store.openDatabase
  closeDatabase handle store := (Status.ok, store.closeDatabase handle)
  errorMessage handle store := ((store.client? handle).map (·.message)).getD []
  codeMessage code := Bytes.ofAscii (Status.text code)
  changes handle store := ((store.client? handle).map (·.counters.changes)).getD 0
  lastInsertRowid handle store :=
    ((store.client? handle).map (·.counters.lastInsertRowid)).getD 0
  statements handle store := ((store.statementsOf handle).map (·.handle)).reverse
  prepare := Store.prepare
  step handle store := store.step handle
  reset := Store.reset
  finalize := Store.finalize
  sqlText handle store := ((store.statement? handle).map (·.parsed.written)).getD []
  parameterCount handle store :=
    ((store.statement? handle).map (·.parsed.parameters.count)).getD 0
  parameterIndex handle name store :=
    ((store.statement? handle).bind (·.parsed.parameters.number? name)).elim 0 Int.ofNat
  parameterName? handle index store :=
    (store.statement? handle).bind fun statement =>
      if index < 1 then none else statement.parsed.parameters.name? index.toNat
  bind := Store.bind
  clearBindings handle store := (Status.ok, store.clearBindings handle)
  columnNames handle store :=
    ((store.statement? handle).map fun statement =>
      statement.program.columns.map (·.name)).getD []
  row := Store.row

def backend : Backend Store where
  engine := engine
  rows :=
    { remaining := fun handle store => store.remaining handle
      remaining_step := fun _ _ isRow => Store.remaining_step isRow }

end EmbeddedSql.Storage
