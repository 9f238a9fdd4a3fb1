import EmbeddedSql.Proofs.Connection.Rewinding
import EmbeddedSql.Proofs.Query.Lifecycle
import EmbeddedSql.Proofs.Query.Decoding

/-! Whole queries finalize only statements that are reset. -/

namespace EmbeddedSql

def Query.Error.IsNoFinalize (error : Query.Error) : Prop :=
  ∀ code, error ≠ .connection (.finalizeFailed code)

theorem Error.IsNoFinalize.ofConnection {error : Error} (isNoFinalize : error.IsNoFinalize) :
    (Query.Error.connection error).IsNoFinalize := by
  intro code isFinalize
  exact isNoFinalize code (Query.Error.connection.inj isFinalize)

namespace Rewinding

open Query

variable {σ α : Type} {backend : Backend σ} {laws : Rewinding backend.engine}
  {watch : Watch laws.toCustody} {link : Link σ} {statement : StatementHandle}

/-- A query has failed for another reason than that of finalizing a statement. -/
def LeavesQuery (laws : Rewinding backend.engine) (watch : Watch laws.toCustody)
    (error : Query.Error) (link : Link σ) : Prop :=
  error.IsNoFinalize ∧ laws.Sits watch link

def RefusesQuery (laws : Rewinding backend.engine) (watch : Watch laws.toCustody)
    (statement : StatementHandle) (error : Query.Error) (link : Link σ) : Prop :=
  error.IsNoFinalize ∧ laws.Rests watch statement link

theorem ofRefuses {call : EmbeddedSql.Call σ α} {answered : α → Link σ → Prop}
    (ends : EmbeddedSql.Call.Ends (call link) (laws.Refuses watch statement) answered) :
    EmbeddedSql.Call.Ends (Call.ofConnection call link) (laws.RefusesQuery watch statement)
      answered :=
  .ofConnection (ends.mono (fun _ _ left => ⟨left.1.ofConnection, left.2⟩) fun _ _ => id)

theorem ofLeaves {call : EmbeddedSql.Call σ α} {answered : α → Link σ → Prop}
    (ends : EmbeddedSql.Call.Ends (call link) (laws.Leaves watch) answered) :
    EmbeddedSql.Call.Ends (Call.ofConnection call link) (laws.LeavesQuery watch) answered :=
  .ofConnection (ends.mono (fun _ _ left => ⟨left.1.ofConnection, left.2⟩) fun _ _ => id)

/-! ## Values -/

section
variable (rests : laws.Rests watch statement link)
include rests

theorem Rests.bindValue (index : Int32) (value : Json) :
    EmbeddedSql.Call.Ends
      (Query.bindValue backend.engine backend.growth statement index value link)
      (laws.RefusesQuery watch statement) fun _ => laws.Rests watch statement :=
  ofRefuses (rests.bindParameter _ _ _)

theorem Rests.bindFrom (count position : Nat) (values : List Json) :
    EmbeddedSql.Call.Ends
      (Query.bindFrom backend.engine backend.growth statement count position values link)
      (laws.RefusesQuery watch statement) fun _ => laws.Rests watch statement := by
  induction values generalizing position link with
  | nil => exact rests
  | cons value rest induction =>
      unfold Query.bindFrom
      split
      · refine ⟨?_, rests⟩
        rintro _ ⟨⟩
      · exact (rests.bindValue _ value).bind fun _ _ rests => induction rests _

theorem Rests.bindValues (values : List Json) :
    EmbeddedSql.Call.Ends
      (Query.bindValues backend.engine backend.growth statement values link)
      (laws.RefusesQuery watch statement) fun _ => laws.Rests watch statement :=
  rests.bindFrom _ _ values

end

theorem dropOnError_leaves {command : Command} {use : Query.Call σ α}
    {answered : α → Link σ → Prop} (isUnwatched : ¬watch.watched command.statement)
    (ends : EmbeddedSql.Call.Ends (use link) (laws.RefusesQuery watch command.statement)
      answered) :
    EmbeddedSql.Call.Ends (command.dropOnError backend use link) (laws.LeavesQuery watch)
      answered :=
  .dropOnError ends fun _ _ left => ⟨left.1, left.2.toUses.drop isUnwatched⟩

/-! ## Queries -/

section
variable (sits : laws.Sits watch link) (sql : Text) (values : List Json)
include sits

theorem Sits.prepareQuery :
    EmbeddedSql.Call.Ends (Query.prepare backend sql values link) (laws.LeavesQuery watch)
      fun command last => laws.Rests watch command.statement last ∧
        ¬watch.watched command.statement :=
  (ofLeaves (sits.createCommand sql)).bind fun _ _ ⟨rests, isUnwatched⟩ =>
    (dropOnError_leaves isUnwatched (rests.bindValues values)).bind
      fun _ _ rests => ⟨rests, isUnwatched⟩

theorem Sits.execute :
    EmbeddedSql.Call.Ends (Query.execute backend sql values link) (laws.LeavesQuery watch)
      fun _ => laws.Sits watch := by
  refine (sits.prepareQuery sql values).bind fun command _ ⟨rests, isUnwatched⟩ => ?_
  refine (dropOnError_leaves isUnwatched (ofRefuses rests.executeNonQuery)).bind fun rows _ rests => ?_
  refine ofLeaves ?_
  obtain ⟨last, finalizes, sits⟩ := rests.finalizeCommand isUnwatched
  rw [EmbeddedSql.Call.bind_of_ok _ finalizes]
  exact (sits.changes backend.growth).bind fun _ _ sits =>
    (sits.lastInsertRowid backend.growth).bind fun _ _ sits => sits

end

theorem columnJson_isNoFinalize {reader : Reader} {column : Nat} {error : Query.Error}
    (isError : columnJson backend.engine reader column link = .error error) :
    error.IsNoFinalize := by
  unfold columnJson at isError
  split at isError
  · cases isError
  · rename_i failure isCell
    cases isError
    exact (cell_isNoFinalize isCell).ofConnection

theorem decodeRow_isNoFinalize {reader : Reader} {error : Query.Error}
    (isError : decodeRow backend.engine reader link = .error error) : error.IsNoFinalize := by
  have decodes (left column : Nat) (row : Row)
      (isError : decodeFrom backend.engine reader link left column row = .error error) :
      error.IsNoFinalize := by
    induction left generalizing column row with
    | zero => cases isError
    | succ left induction =>
        unfold decodeFrom at isError
        split at isError
        · rename_i failure isName
          cases isError
          rcases isBytes : reader.name backend.engine column link with failure | bytes <;>
            rw [Reader.nameString, isBytes] at isName <;> cases isName
          exact (name_isNoFinalize isBytes).ofConnection
        · split at isError
          · rename_i isColumn
            cases isError
            exact columnJson_isNoFinalize isColumn
          · exact induction _ _ isError
  unfold decodeRow Reader.columnCount at isError
  split at isError
  · rename_i isCount
    split at isCount <;> cases isCount
    cases isError
    exact nofun
  · exact decodes _ _ _ isError

theorem Rests.readRows {command : Command} (rests : laws.Rests watch command.statement link)
    (limit : Option Nat) :
    EmbeddedSql.Call.Ends (Query.readRows backend limit command link)
      (laws.RefusesQuery watch command.statement) fun _ => laws.Rests watch command.statement := by
  unfold Query.readRows Command.executeReader
  rw [EmbeddedSql.Call.bind_apply, Call.ofConnection,
    EmbeddedSql.Call.bind_of_ok _ rests.ensureNotDisposed]
  refine rests.gather _ (fun {reader last rows error} isError => ?_)
    (fun isNoFinalize => isNoFinalize.ofConnection) []
  rcases isRow : decodeRow backend.engine reader last with failure | row <;>
    rw [takeRow, isRow] at isError <;> cases isError
  exact decodeRow_isNoFinalize isRow

theorem Rests.fetch_of_prepared {command : Command} {between : Link σ} {sql : Text}
    {values : List Json}
    (prepares : Query.prepare backend sql values link = (.ok command, between))
    (rests : laws.Rests watch command.statement between)
    (isUnwatched : ¬watch.watched command.statement) (limit : Option Nat) :
    let reads := Query.readRows backend limit command between
    ∃ last, Query.fetch backend sql values limit link = (reads.1.map List.reverse, last) ∧
      (last = command.drop backend reads.2 ∨
        command.finalize backend reads.2 = (.ok (), last)) := by
  dsimp only
  have ends := rests.readRows limit
  rw [fetch_eq, EmbeddedSql.Call.bind_of_ok _ prepares, EmbeddedSql.Call.bind_apply,
    Command.dropOnError]
  rcases outcome : Query.readRows backend limit command between with ⟨error | rows, after⟩ <;>
    rw [outcome] at ends
  · exact ⟨_, rfl, .inl rfl⟩
  · obtain ⟨last, finalizes, -⟩ := ends.finalizeCommand isUnwatched
    refine ⟨last, ?_, .inr finalizes⟩
    dsimp only
    rw [EmbeddedSql.Call.bind_apply, Call.ofConnection, finalizes]
    rfl

section
variable (sits : laws.Sits watch link) (sql : Text) (values : List Json)
include sits

theorem Sits.fetch (limit : Option Nat) :
    EmbeddedSql.Call.Ends (Query.fetch backend sql values limit link) (laws.LeavesQuery watch)
      fun _ => laws.Sits watch := by
  refine (sits.prepareQuery sql values).bind fun command between held => ?_
  obtain ⟨rests, isUnwatched⟩ := held
  refine (dropOnError_leaves isUnwatched (rests.readRows limit)).bind
    fun rows between (rests : laws.Rests watch command.statement between) => ?_
  obtain ⟨last, finalizes, sits⟩ := rests.finalizeCommand isUnwatched
  rw [EmbeddedSql.Call.bind_apply, Call.ofConnection, finalizes]
  exact sits

theorem Sits.fetchAll :
    EmbeddedSql.Call.Ends (Query.fetchAll backend sql values link) (laws.LeavesQuery watch)
      fun _ => laws.Sits watch :=
  sits.fetch sql values none

theorem Sits.fetchOne :
    EmbeddedSql.Call.Ends (Query.fetchOne backend sql values link) (laws.LeavesQuery watch)
      fun _ => laws.Sits watch := by
  refine (sits.fetch sql values (some 2)).bind fun rows between sits => ?_
  rcases rows with _ | ⟨row, _ | _⟩
  · exact sits
  · exact sits
  · exact ⟨nofun, sits⟩

end

/-! ## Transactions -/

theorem Sits.control (sits : laws.Sits watch link) (text : String) :
    EmbeddedSql.Call.Ends (Query.control backend text link) (laws.LeavesQuery watch)
      fun _ => laws.Sits watch :=
  (ofLeaves (sits.executeNonQuery _)).bind fun _ _ sits => sits

theorem Sits.executeEach (sits : laws.Sits watch link) (statements : List (Text × List Json)) :
    EmbeddedSql.Call.Ends (Query.executeEach backend statements link) (laws.LeavesQuery watch)
      fun _ => laws.Sits watch := by
  induction statements generalizing link with
  | nil => exact sits
  | cons statement rest induction =>
      exact (sits.execute _ _).bind fun _ _ sits => (induction sits).bind fun _ _ sits => sits

theorem Sits.rollback (sits : laws.Sits watch link) {error : Query.Error}
    (isNoFinalize : error.IsNoFinalize) :
    EmbeddedSql.Call.Ends (Query.rollback backend error link) (laws.LeavesQuery watch)
      fun _ => laws.Sits watch := by
  have controls := sits.control "ROLLBACK"
  unfold Query.rollback
  rcases outcome : Query.control backend "ROLLBACK" link with ⟨failure | _, last⟩ <;>
    rw [outcome] at controls
  · exact ⟨nofun, controls.2⟩
  · exact ⟨isNoFinalize, controls⟩

theorem Sits.executeTransaction (sits : laws.Sits watch link)
    (statements : List (Text × List Json)) :
    EmbeddedSql.Call.Ends (Query.executeTransaction backend statements link)
      (laws.LeavesQuery watch) fun _ => laws.Sits watch := by
  refine (sits.control _).bind fun _ between sits => ?_
  have issues : EmbeddedSql.Call.Ends
      ((do
        let results ← Query.executeEach backend statements
        Query.control backend "COMMIT"
        pure results : Query.Call σ (List WriteResult)) between)
      (laws.LeavesQuery watch) fun _ => laws.Sits watch :=
    (sits.executeEach statements).bind fun results between sits =>
      (sits.control _).bind fun _ _ sits => sits
  exact issues.tryCatch fun error between left => left.2.rollback left.1

end Rewinding

end EmbeddedSql
