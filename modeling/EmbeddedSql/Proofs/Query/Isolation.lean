import EmbeddedSql.Proofs.Connection.Isolation
import EmbeddedSql.Query.Transaction

/-! Of the same query, connections to private databases that go together make the same. -/

namespace EmbeddedSql.Isolation

open Query

variable {σ : Type} {backend : Backend σ} (laws : Isolation backend.engine) {bond : Bond}

/-! ## Rows -/

section
variable {laws} {reader : Reader} {image : StatementHandle} {link other : Link σ}
  (tied : laws.Tied bond link other) (uses : bond.Uses reader.statement image)
include tied uses

theorem Tied.columnJson (column : Nat) :
    columnJson backend.engine (reader.withStatement image) column other =
      columnJson backend.engine reader column link := by
  rw [Query.columnJson, Query.columnJson, tied.cell uses]

theorem Tied.decodeFrom (left column : Nat) (row : Row) :
    decodeFrom backend.engine (reader.withStatement image) other left column row =
      decodeFrom backend.engine reader link left column row := by
  induction left generalizing column row with
  | zero => rfl
  | succ left induction =>
      simp only [Query.decodeFrom, Reader.nameString, tied.name uses, tied.columnJson uses,
        induction]

theorem Tied.decodeRow :
    decodeRow backend.engine (reader.withStatement image) other =
      decodeRow backend.engine reader link := by
  simp only [Query.decodeRow, tied.columnCount uses, tied.decodeFrom uses]

end

/-! ## Parameters -/

section
variable {statement image : StatementHandle} (uses : bond.Uses statement image)
include uses

theorem keeps_bindValue (index : Int32) (value : Json) :
    laws.Keeps bond (bindValue backend.engine backend.growth statement index value)
      (bindValue backend.engine backend.growth image index value) :=
  .ofConnection (laws.keeps_bind backend.growth uses _ _)

theorem keeps_bindFrom (count position : Nat) (values : List Json) :
    laws.Keeps bond (bindFrom backend.engine backend.growth statement count position values)
      (bindFrom backend.engine backend.growth image count position values) := by
  induction values generalizing position with
  | nil => exact .pure ⟨rfl, rfl⟩
  | cons value rest induction =>
      have binds := laws.keeps_bindValue uses (Int32.ofNat position) value
      unfold bindFrom
      split
      · exact .bind (.throw rfl) fun _ _ _ => id
      · refine binds.bind ?_
        rintro _ _ _ ⟨-, rfl⟩
        exact induction _

theorem keeps_bindValues (values : List Json) :
    laws.Keeps bond (bindValues backend.engine backend.growth statement values)
      (bindValues backend.engine backend.growth image values) :=
  laws.keeps_bindFrom uses _ _ values

end

/-! ## Queries -/

section
variable (sql : Text) (values : List Json)

theorem runs_prepareQuery :
    laws.Runs bond (Query.prepare backend sql values) (Query.prepare backend sql values)
      bond.Follows fun command other => bond.Lends command.statement other.statement := by
  refine (Runs.ofConnection (laws.runs_createCommand sql)).bind ?_
  intro command other lent lends
  have binds := laws.keeps_bindValues lends.uses values
  refine ((laws.runs_dropOnError lends.uses binds).mono
    (fun _ isLeft => isLeft ▸ lends.follows) fun _ _ _ => id).bind ?_
  rintro _ _ _ ⟨-, rfl⟩
  exact .pure lends

theorem opens_execute :
    laws.Opens bond (execute backend sql values) (execute backend sql values) := by
  refine laws.opens_borrowing (laws.runs_prepareQuery sql values) fun command other lent uses => ?_
  have counts := Runs.ofConnection (laws.keeps_executeCommand uses)
  refine ((laws.runs_dropOnError uses counts).mono
    (fun _ isLeft => isLeft ▸ .refl _) fun _ _ _ => id).bind ?_
  rintro _ _ _ ⟨-, rfl⟩
  refine .ofConnection (((laws.runs_finalizeCommand uses).mono
    (fun _ isLeft => isLeft ▸ .refl _) fun _ _ _ => id).bind ?_)
  rintro _ _ _ ⟨-, rfl⟩
  exact (laws.opens_changes backend.growth).andThen fun changes between =>
    (laws.opens_lastInsertRowid backend.growth).andThen fun rowid last => .pure ⟨rfl, .refl _⟩

theorem opens_fetch (limit : Option Nat) :
    laws.Opens bond (fetch backend sql values limit) (fetch backend sql values limit) := by
  refine laws.opens_borrowing (laws.runs_prepareQuery sql values) fun command other lent uses => ?_
  refine Runs.bind ((laws.runs_dropOnError uses ?reads).mono
    (fun _ isLeft => isLeft ▸ .refl _) fun _ _ _ => id) ?_
  case reads =>
    refine (Runs.ofConnection laws.runs_commandReader).bind ?_
    rintro _ _ _ ⟨rfl, rfl, rfl⟩
    refine laws.keeps_gather uses fun rows isStatement tied => ?_
    rw [tied.decodeRow (isStatement ▸ uses)]
  rintro rows _ _ ⟨rfl, rfl⟩
  refine ((Runs.ofConnection (laws.runs_finalizeCommand uses)).mono
    (fun _ isLeft => isLeft ▸ .refl _) fun _ _ _ => id).bind ?_
  rintro _ _ _ ⟨-, rfl⟩
  exact .pure ⟨rfl, .refl _⟩

theorem opens_fetchAll :
    laws.Opens bond (fetchAll backend sql values) (fetchAll backend sql values) :=
  laws.opens_fetch sql values none

theorem opens_fetchOne :
    laws.Opens bond (fetchOne backend sql values) (fetchOne backend sql values) := by
  refine Runs.andThen (laws.opens_fetch sql values _) fun rows between => ?_
  rcases rows with _ | ⟨row, _ | _⟩
  · exact .pure ⟨rfl, .refl _⟩
  · exact .pure ⟨rfl, .refl _⟩
  · exact .throw (.refl _)

end

/-! ## Transactions -/

theorem opens_control (text : String) :
    laws.Opens bond (control backend text) (control backend text) := by
  exact Runs.andThen (.ofConnection (laws.opens_executeNonQuery (.ofString text)))
    fun _ _ => .pure ⟨rfl, .refl _⟩

theorem opens_executeEach (statements : List (Text × List Json)) (bond : Bond) :
    laws.Opens bond (executeEach backend statements) (executeEach backend statements) := by
  induction statements generalizing bond with
  | nil => exact .pure ⟨rfl, .refl _⟩
  | cons statement rest induction =>
      exact (laws.opens_execute _ _).andThen fun result between =>
        (induction between).andThen fun results last => .pure ⟨rfl, .refl _⟩

theorem opens_rollback (error : Query.Error) :
    laws.Opens bond (rollback backend error) (rollback backend error) := by
  intro link other tied
  have ends := laws.opens_control "ROLLBACK" link other tied
  unfold rollback
  rcases outcome : control backend "ROLLBACK" link with ⟨failure | answer, last⟩ <;>
    rcases otherOutcome : control backend "ROLLBACK" other with
      ⟨otherFailure | otherAnswer, otherLast⟩ <;>
    rw [outcome, otherOutcome] at ends
  · obtain ⟨rfl, next⟩ := ends
    exact ⟨rfl, next⟩
  · exact ends.elim
  · exact ends.elim
  · obtain ⟨next, ⟨-, follows⟩, tied⟩ := ends
    exact ⟨rfl, next, follows, tied⟩

theorem opens_executeTransaction (statements : List (Text × List Json)) :
    laws.Opens bond (executeTransaction backend statements)
      (executeTransaction backend statements) := by
  refine (laws.opens_control _).andThen fun _ begun => ?_
  have attempts : laws.Opens begun
      (executeEach backend statements >>= fun results => do control backend "COMMIT"; pure results)
      (executeEach backend statements >>= fun results => do
        control backend "COMMIT"; pure results) :=
    (laws.opens_executeEach statements begun).andThen fun results between =>
      (laws.opens_control _).andThen fun _ last => .pure ⟨rfl, .refl _⟩
  refine attempts.tryCatch fun error between follows => ?_
  exact (laws.opens_rollback error).mono (fun _ => follows.trans) fun _ _ _ ⟨same, further⟩ =>
    ⟨same, follows.trans further⟩

end EmbeddedSql.Isolation
