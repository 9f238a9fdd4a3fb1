import EmbeddedSql.Proofs.Connection.Lifecycle

/-! Whole queries and the life of their connection: they open it at most, and a
disposed connection refuses them before anything else about them is looked at. -/

namespace EmbeddedSql.Query

open EmbeddedSql.Call (Advances Refuses bind_apply)

variable {σ : Type}

/-! ## Parameters -/

section
variable (engine : Engine σ) (growth : Scratch.Growth) (statement : StatementHandle)

theorem bindValue_advances (index : Int32) (value : Json) :
    Advances (bindValue engine growth statement index value) :=
  .ofConnection (Parameter.bind_advances engine growth statement _ _)

theorem bindValue_refuses (index : Int32) (value : Json) :
    Refuses (.connection .useAfterDispose) (bindValue engine growth statement index value) :=
  .ofConnection (Parameter.bind_refuses engine growth statement _ _)

theorem bindFrom_advances (count position : Nat) (values : List Json) :
    Advances (bindFrom engine growth statement count position values) := by
  induction values generalizing position with
  | nil => exact .pure _
  | cons value rest induction =>
      unfold bindFrom
      split
      · exact (Advances.throw _).bind fun _ =>
          (bindValue_advances engine growth statement _ _).bind fun _ => induction _
      · exact (Advances.pure _).bind fun _ =>
          (bindValue_advances engine growth statement _ _).bind fun _ => induction _

theorem bindValues_advances (values : List Json) :
    Advances (bindValues engine growth statement values) :=
  bindFrom_advances engine growth statement _ _ values

theorem bindValues_refuses {values : List Json} (isNonempty : values ≠ []) :
    Refuses (.connection .useAfterDispose) (bindValues engine growth statement values) := by
  cases values with
  | nil => exact absurd rfl isNonempty
  | cons value rest => exact (bindValue_refuses engine growth statement _ _).bind _

end

/-! ## Rows -/

section
variable (engine : Engine σ) (reader : Reader) {link : Link σ}
  (isDisposed : link.connection.lifecycle = .disposed)
include isDisposed

theorem columnJson_of_disposed (column : Nat) :
    columnJson engine reader column link = .error (.connection .useAfterDispose) := by
  rw [columnJson, Reader.cell_of_disposed engine reader column isDisposed]

theorem decodeRow_of_disposed :
    decodeRow engine reader link = .error (.connection .useAfterDispose) := by
  rw [decodeRow, Reader.columnCount_of_disposed engine reader isDisposed]

end

/-! ## Queries -/

variable (backend : Backend σ) (sql : Text) (values : List Json)

theorem prepare_advances : Advances (prepare backend sql values) :=
  (Advances.ofConnection (Connection.createCommand_advances backend sql)).bind fun command =>
    (command.dropOnError_advances backend
      (bindValues_advances backend.engine backend.growth command.statement values)).bind
        fun _ => .pure _

theorem prepare_refuses : Refuses (.connection .useAfterDispose) (prepare backend sql values) :=
  (Refuses.ofConnection (Connection.createCommand_refuses backend sql)).bind _

theorem execute_advances : Advances (execute backend sql values) := by
  refine (prepare_advances backend sql values).bind fun command =>
    (command.dropOnError_advances backend
      (.ofConnection (command.executeNonQuery_advances backend))).bind fun _ =>
        .ofConnection ?_
  exact (command.finalize_advances backend).bind fun _ =>
    (Connection.changes_advances backend.engine backend.growth).bind fun _ =>
      (Connection.lastInsertRowid_advances backend.engine backend.growth).bind fun _ => .pure _

theorem execute_refuses : Refuses (.connection .useAfterDispose) (execute backend sql values) :=
  (prepare_refuses backend sql values).bind _

theorem fetch_advances (limit : Option Nat) : Advances (fetch backend sql values limit) := by
  refine (prepare_advances backend sql values).bind fun command =>
    Advances.bind (command.dropOnError_advances backend ?_) fun _ =>
      (Advances.ofConnection (command.finalize_advances backend)).bind fun _ => .pure _
  refine (Advances.ofConnection command.executeReader_advances).bind fun reader link => ?_
  dsimp only
  rw [Reader.dispose_connection, Reader.gather_connection]
  exact .refl _

theorem fetch_refuses (limit : Option Nat) :
    Refuses (.connection .useAfterDispose) (fetch backend sql values limit) :=
  (prepare_refuses backend sql values).bind _

theorem fetchAll_advances : Advances (fetchAll backend sql values) :=
  fetch_advances backend sql values none

theorem fetchAll_refuses : Refuses (.connection .useAfterDispose) (fetchAll backend sql values) :=
  fetch_refuses backend sql values none

theorem fetchOne_advances : Advances (fetchOne backend sql values) := by
  refine (fetch_advances backend sql values _).bind fun rows => ?_
  split
  · exact .pure _
  · exact .pure _
  · exact .throw _

theorem fetchOne_refuses : Refuses (.connection .useAfterDispose) (fetchOne backend sql values) :=
  (fetch_refuses backend sql values _).bind _

/-! ## Transactions -/

theorem control_advances (text : String) : Advances (control backend text) :=
  (Advances.ofConnection (Connection.executeNonQuery_advances backend _)).bind fun _ => .pure _

theorem control_refuses (text : String) :
    Refuses (.connection .useAfterDispose) (control backend text) :=
  (Refuses.ofConnection (Connection.executeNonQuery_refuses backend _)).bind _

variable (statements : List (Text × List Json))

theorem executeEach_advances : Advances (executeEach backend statements) := by
  induction statements with
  | nil => exact .pure _
  | cons statement rest induction =>
      exact (execute_advances backend _ _).bind fun _ => induction.bind fun _ => .pure _

theorem rollback_advances (error : Error) : Advances (rollback backend error) := by
  intro link
  have here := control_advances backend "ROLLBACK" link
  unfold rollback
  rcases outcome : control backend "ROLLBACK" link with ⟨error | answer, after⟩ <;>
    rw [outcome] at here <;> exact here

theorem executeTransaction_advances : Advances (executeTransaction backend statements) :=
  (control_advances backend _).bind fun _ =>
    ((executeEach_advances backend statements).bind fun _ =>
      (control_advances backend _).bind fun _ => .pure _).tryCatch (rollback_advances backend)

theorem executeTransaction_refuses :
    Refuses (.connection .useAfterDispose) (executeTransaction backend statements) :=
  (control_refuses backend _).bind _

end EmbeddedSql.Query
