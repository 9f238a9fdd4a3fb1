import EmbeddedSql.Connection.Command
import EmbeddedSql.Proofs.Engine.Binding

/-! What is seen of a statement while it is run, and engines for which that is up to the text
of the statement, its values and the database. -/

namespace EmbeddedSql

@[ext]
structure Execution where
  rows : List (List Cell × Int32)
  code : Int
  diagnostic : Bytes
deriving DecidableEq, Repr

variable {σ : Type}

/-- What the steps of a statement come to up to the first that gives no row. -/
def Backend.execution (backend : Backend σ) (database : DatabaseHandle)
    (statement : StatementHandle) (state : σ) : Execution :=
  let stepped := backend.engine.step statement state
  if _isRow : stepped.1 = Status.row then
    let rest := backend.execution database statement stepped.2
    let row :=
      (backend.engine.row statement stepped.2, backend.engine.columnCount statement stepped.2)
    { rest with rows := row :: rest.rows }
  else
    { rows := [], code := stepped.1
      diagnostic := backend.engine.errorMessage database stepped.2 }
termination_by backend.rows.remaining statement state
decreasing_by exact backend.rows.remaining_step statement state _isRow

namespace Backend

variable {backend : Backend σ} {database image : DatabaseHandle} {statement other : StatementHandle}
  {state otherState : σ}

theorem execution_of_row (isRow : (backend.engine.step statement state).1 = Status.row) :
    backend.execution database statement state =
      let after := (backend.engine.step statement state).2
      let rest := backend.execution database statement after
      { rest with
        rows :=
          (backend.engine.row statement after, backend.engine.columnCount statement after) ::
            rest.rows } := by
  rw [execution]
  exact dif_pos isRow

theorem execution_of_end (isEnd : (backend.engine.step statement state).1 ≠ Status.row) :
    backend.execution database statement state =
      { rows := [], code := (backend.engine.step statement state).1
        diagnostic :=
          backend.engine.errorMessage database (backend.engine.step statement state).2 } := by
  rw [execution]
  exact dif_neg isEnd

/-- Two statements whose executions are the same step to the same. -/
theorem step_of_execution (same : backend.execution image other otherState =
      backend.execution database statement state) :
    let first := backend.engine.step statement state
    let second := backend.engine.step other otherState
    second.1 = first.1 ∧
      (first.1 = Status.row →
        backend.engine.row other second.2 = backend.engine.row statement first.2 ∧
          backend.engine.columnCount other second.2 =
            backend.engine.columnCount statement first.2 ∧
          backend.execution image other second.2 = backend.execution database statement first.2) ∧
      (first.1 ≠ Status.row →
        backend.engine.errorMessage image second.2 =
          backend.engine.errorMessage database first.2) := by
  dsimp only
  by_cases isRow : (backend.engine.step statement state).1 = Status.row <;>
    by_cases isOtherRow : (backend.engine.step other otherState).1 = Status.row
  · rw [execution_of_row isRow, execution_of_row isOtherRow] at same
    obtain ⟨sameRows, sameCode, sameDiagnostic⟩ := Execution.mk.inj same
    obtain ⟨sameRow, sameRest⟩ := List.cons.inj sameRows
    obtain ⟨sameValues, sameCount⟩ := Prod.mk.inj sameRow
    exact ⟨isOtherRow.trans isRow.symm,
      fun _ => ⟨sameValues, sameCount, Execution.ext sameRest sameCode sameDiagnostic⟩,
      absurd isRow⟩
  · rw [execution_of_row isRow, execution_of_end isOtherRow] at same
    cases (Execution.mk.inj same).1
  · rw [execution_of_end isRow, execution_of_row isOtherRow] at same
    cases (Execution.mk.inj same).1
  · rw [execution_of_end isRow, execution_of_end isOtherRow] at same
    obtain ⟨-, sameCode, sameDiagnostic⟩ := Execution.mk.inj same
    exact ⟨sameCode, fun is => absurd is isRow, fun _ => sameDiagnostic⟩

end Backend

/-- Assumed of the engine for one text: what a reset statement of it does is a function of the
values in its slots and of the database as its connection sees it. -/
structure Repeating (backend : Backend σ) (sql : Text) extends Binding backend.engine where
  IsOf : σ → StatementHandle → Prop
  Snapshot : Type
  snapshot : DatabaseHandle → σ → Snapshot
  spares_isOf : toCustody.Spares IsOf
  endures_isOf : toCustody.Endures IsOf
  prepared_isOf : ∀ {state database statement}, Valid state →
    (handles state).isOpen database = true →
      (backend.engine.prepare database sql state).1.2 = some statement →
        IsOf (backend.engine.prepare database sql state).2 statement
  repeats : ∀ {state otherState database image statement other}, Valid state →
    Valid otherState → (handles state).owner? statement = some database →
      (handles otherState).owner? other = some image → IsReset state statement →
        IsReset otherState other → IsOf state statement → IsOf otherState other →
          slots otherState other = slots state statement →
            snapshot image otherState = snapshot database state →
              backend.execution image other otherState =
                backend.execution database statement state

end EmbeddedSql
