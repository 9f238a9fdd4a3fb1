import EmbeddedSql.Proofs.Engine.Rewinding

/-! What an engine promises about transactions to the connection that makes them. -/

namespace EmbeddedSql

/-! ## Statements and what they do to a transaction -/

/-- All statements but ordinary ones control transactions. -/
inductive StatementKind where
  | begin
  | commit
  | rollback
  | savepoint
  | ordinary
deriving DecidableEq, Repr

/-- How a database stands for a connection: whether the connection has begun a transaction,
what it sees, and what is left if it undoes its changes. -/
structure Standing (C : Type) where
  isExplicit : Bool
  content : C
  committed : C
deriving DecidableEq, Repr

namespace Standing

variable {C : Type}

def begun (standing : Standing C) : Standing C :=
  { standing with isExplicit := true }

def kept (standing : Standing C) : Standing C where
  isExplicit := false
  content := standing.content
  committed := standing.content

def undone (standing : Standing C) : Standing C where
  isExplicit := false
  content := standing.committed
  committed := standing.committed

theorem undone_eq {standing : Standing C} (isOutside : standing.isExplicit = false)
    (isCommitted : standing.content = standing.committed) : standing.undone = standing := by
  cases standing
  cases isOutside
  cases isCommitted
  rfl

/-- In a transaction that was begun where the database stood like this. -/
def IsWithin (standing before : Standing C) : Prop :=
  standing.isExplicit = true ∧ standing.committed = before.committed

/-- Undoing a transaction leads back to where it was begun. -/
theorem IsWithin.undone_eq {standing before : Standing C} (isWithin : standing.IsWithin before) :
    standing.undone = before.undone := by
  rw [undone, undone, isWithin.2]

def Proceeds (before after : Standing C) : Prop :=
  if before.isExplicit then after.IsWithin before else after.isExplicit = false

theorem Proceeds.refl (standing : Standing C) : standing.Proceeds standing := by
  unfold Proceeds
  split
  · rename_i isExplicit
    exact ⟨isExplicit, rfl⟩
  · rename_i isOutside
    simpa using isOutside

theorem Proceeds.trans {first second third : Standing C} (proceeds : first.Proceeds second)
    (goesOn : second.Proceeds third) : first.Proceeds third := by
  unfold Proceeds at proceeds goesOn ⊢
  split
  · rename_i isExplicit
    rw [if_pos isExplicit] at proceeds
    rw [if_pos proceeds.1] at goesOn
    exact ⟨goesOn.1, goesOn.2.trans proceeds.2⟩
  · rename_i isOutside
    rw [if_neg isOutside] at proceeds
    rwa [if_neg (by simp [proceeds])] at goesOn

theorem Proceeds.of_outside {before after : Standing C} (isOutside : before.isExplicit = false)
    (isOutsideAfter : after.isExplicit = false) : before.Proceeds after := by
  rwa [Proceeds, if_neg (by simp [isOutside])]

/-- What a step of a statement may come to, by the code that it is answered with. -/
def Steps (before : Standing C) (code : Int) (after : Standing C) : StatementKind → Prop
  | .begin =>
      code = Status.done ∧ before.isExplicit = false ∧ after = before.begun ∨
        code ≠ Status.done ∧ code ≠ Status.row ∧
          (after = before ∨ before.isExplicit = false ∧ after = before.undone)
  | .commit =>
      code = Status.done ∧ before.isExplicit = true ∧ after = before.kept ∨
        code ≠ Status.done ∧ code ≠ Status.row ∧ (after = before ∨ after = before.undone) ∧
          (before.isExplicit = false → code = Status.error)
  | .rollback =>
      code = Status.done ∧ before.isExplicit = true ∧ after = before.undone ∨
        code = Status.error ∧ before.isExplicit = false ∧ (after = before ∨ after = before.undone)
  | .savepoint => True
  | .ordinary =>
      before.Proceeds after ∨
        before.isExplicit = true ∧ code ≠ Status.row ∧ code ≠ Status.done ∧ after = before.undone

/-- Steps up to the first that is not answered with a row. Once there has been a row, all
statements are ordinary. -/
inductive Runs : StatementKind → Standing C → Int → Standing C → Prop
  | last {kind : StatementKind} {before after : Standing C} {code : Int} : code ≠ Status.row →
      before.Steps code after kind → Runs kind before code after
  | more {kind : StatementKind} {before between after : Standing C} {code : Int} :
      before.Steps Status.row between kind → Runs .ordinary between code after →
        Runs kind before code after

theorem Steps.kind_of_row {kind : StatementKind} {before after : Standing C}
    (steps : before.Steps Status.row after kind) : kind = .ordinary ∨ kind = .savepoint := by
  cases kind with
  | ordinary => exact .inl rfl
  | savepoint => exact .inr rfl
  | begin =>
      rcases steps with ⟨isDone, -⟩ | ⟨-, isNoRow, -⟩
      · cases isDone
      · exact absurd rfl isNoRow
  | commit =>
      rcases steps with ⟨isDone, -⟩ | ⟨-, isNoRow, -⟩
      · cases isDone
      · exact absurd rfl isNoRow
  | rollback =>
      rcases steps with ⟨isDone, -⟩ | ⟨isError, -⟩
      · cases isDone
      · cases isError

theorem Runs.steps {kind : StatementKind} {before after : Standing C} {code : Int}
    (runs : Runs kind before code after) (isNotOrdinary : kind ≠ .ordinary)
    (isNotSavepoint : kind ≠ .savepoint) : before.Steps code after kind := by
  cases runs with
  | last _ steps => exact steps
  | more first _ =>
      rcases first.kind_of_row with isOrdinary | isSavepoint
      · exact absurd isOrdinary isNotOrdinary
      · exact absurd isSavepoint isNotSavepoint

/-- An ordinary statement either stays in the transaction or undoes all of it. -/
theorem Runs.inTransaction {before after : Standing C} {code : Int}
    (runs : Runs .ordinary before code after) (isExplicit : before.isExplicit = true) :
    after.IsWithin before ∨ code ≠ Status.done ∧ after = before.undone := by
  generalize isOrdinary : StatementKind.ordinary = kind at runs
  induction runs with
  | @last kind before after code _ steps =>
      subst isOrdinary
      rcases steps with proceeds | ⟨-, -, isNotDone, isUndone⟩
      · rw [Proceeds, if_pos isExplicit] at proceeds
        exact .inl proceeds
      · exact .inr ⟨isNotDone, isUndone⟩
  | @more kind before between after code first _ induction =>
      subst isOrdinary
      rcases first with proceeds | ⟨-, isNoRow, -⟩
      · rw [Proceeds, if_pos isExplicit] at proceeds
        rcases induction proceeds.1 rfl with isWithin | ⟨isNotDone, isUndone⟩
        · exact .inl ⟨isWithin.1, isWithin.2.trans proceeds.2⟩
        · exact .inr ⟨isNotDone, isUndone.trans proceeds.undone_eq⟩
      · exact absurd rfl isNoRow

end Standing

/-! ## Promises -/

/-- Assumed of SQLite: what the statements of a connection do to its transaction. Some pragmas are
carried out as soon as they are compiled, but none of them changes the tables of a connection that
has begun a transaction. How a database encodes its text is no part of how it stands. -/
structure Transactions {σ : Type} (engine : Engine σ) (C : Type) extends Rewinding engine where
  standing : σ → DatabaseHandle → Standing C
  kindOf : σ → StatementHandle → StatementKind
  /-- What kind of statement a text starts with. -/
  kind : Text → StatementKind
  kind_begin : kind (.ofString "BEGIN IMMEDIATE") = .begin
  kind_commit : kind (.ofString "COMMIT") = .commit
  kind_rollback : kind (.ofString "ROLLBACK") = .rollback
  /-- Whether a text is that of a pragma, also with `EXPLAIN` before it. -/
  isPragma : Text → Bool
  ordinary_pragma : ∀ {sql}, isPragma sql = true → kind sql = .ordinary

  -- Before a statement takes a step

  opened_outside : ∀ {state path mode database}, Valid state →
    (engine.openDatabase path mode state).1.1 = some database →
      (standing (engine.openDatabase path mode state).2 database).isExplicit = false
  prepared_standing : ∀ {state database sql}, Valid state →
    (handles state).isOpen database = true →
      isPragma sql = false ∨ (standing state database).isExplicit = true →
        standing (engine.prepare database sql state).2 database = standing state database
  prepared_outside : ∀ {state database sql}, Valid state →
    (handles state).isOpen database = true → (standing state database).isExplicit = false →
      (standing (engine.prepare database sql state).2 database).isExplicit = false
  prepared_kind : ∀ {state database sql statement}, Valid state →
    (handles state).isOpen database = true →
      (engine.prepare database sql state).1.2 = some statement →
        kindOf (engine.prepare database sql state).2 statement = kind sql
  compiles_rollback : ∀ {state database}, Valid state →
    (handles state).isOpen database = true →
      (engine.prepare database (.ofString "ROLLBACK") state).1.2 ≠ none
  bound_standing : ∀ {state statement database index argument}, Valid state →
    (handles state).owner? statement = some database →
      standing (engine.bind statement index argument state).2 database = standing state database
  bound_kind : ∀ {state statement index argument}, Valid state →
    (handles state).InUse statement →
      kindOf (engine.bind statement index argument state).2 statement = kindOf state statement

  -- Steps

  stepped_first : ∀ {state statement database}, Valid state →
    (handles state).owner? statement = some database → IsReset state statement →
      (standing state database).Steps (engine.step statement state).1
        (standing (engine.step statement state).2 database) (kindOf state statement)
  stepped_again : ∀ {state statement database}, Valid state →
    (handles state).owner? statement = some database →
      (engine.step statement state).1 = Status.row →
        (standing (engine.step statement state).2 database).Steps
          (engine.step statement (engine.step statement state).2).1
          (standing (engine.step statement (engine.step statement state).2).2 database) .ordinary

  -- Afterwards

  reset_standing : ∀ {state statement database}, Valid state →
    (handles state).owner? statement = some database →
      (engine.step statement state).1 ≠ Status.row →
        standing (engine.reset statement (engine.step statement state).2).2 database =
          standing (engine.step statement state).2 database
  finalized_standing : ∀ {state statement database}, Valid state →
    (handles state).owner? statement = some database → IsReset state statement →
      standing (engine.finalize statement state).2 database = standing state database

end EmbeddedSql
