import EmbeddedSql.Proofs.Connection.Transactions
import EmbeddedSql.Proofs.Query.Lifecycle

/-! What queries make of a transaction: a query is not run at all, or changes how the
database stands by one run of its statement. -/

namespace EmbeddedSql

open Query

variable {σ C α β : Type}

/-! ## Rearranging calls -/

namespace Query.Call

theorem ofConnection_pure (answer : α) :
    ofConnection (pure answer : EmbeddedSql.Call σ α) = pure answer := rfl

theorem ofConnection_bind (call : EmbeddedSql.Call σ α) (next : α → EmbeddedSql.Call σ β) :
    ofConnection (call >>= next) = ofConnection call >>= fun answer => ofConnection (next answer) := by
  funext link
  rw [EmbeddedSql.Call.bind_apply, ofConnection, EmbeddedSql.Call.bind_apply, ofConnection]
  rcases call link with ⟨error | answer, after⟩ <;> rfl

theorem ofConnection_dropOnError (backend : Backend σ) (command : Command)
    (use : EmbeddedSql.Call σ α) :
    ofConnection (command.dropOnError backend use) =
      command.dropOnError backend (ofConnection use) := by
  funext link
  unfold ofConnection Command.dropOnError
  dsimp only
  rcases use link with ⟨error | answer, after⟩ <;> rfl

end Query.Call

theorem Query.prepare_nil (backend : Backend σ) (sql : Text) :
    Query.prepare backend sql [] = Call.ofConnection (Connection.createCommand backend sql) := by
  funext link
  unfold Query.prepare
  rw [EmbeddedSql.Call.bind_apply]
  rcases Call.ofConnection (Connection.createCommand backend sql) link with
    ⟨error | answer, after⟩ <;> rfl

theorem Query.control_eq (backend : Backend σ) (text : String) :
    Query.control backend text =
      Query.prepare backend (.ofString text) [] >>= fun command =>
        command.dropOnError backend (Call.ofConnection (command.executeNonQuery backend)) >>=
          fun _ => Call.ofConnection (command.finalize backend) := by
  unfold Query.control Connection.executeNonQuery
  simp only [Call.ofConnection_bind, Call.ofConnection_dropOnError, Call.ofConnection_pure,
    Query.prepare_nil, bind_assoc, pure_bind, bind_pure_unit]

section
variable {backend : Backend σ} {link opened : Link σ} (sql : Text) (values : List Json)

theorem Query.prepare_of_opens
    (opens : Connection.ensureOpen backend.engine backend.growth link = (.ok (), opened))
    (again : Connection.ensureOpen backend.engine backend.growth opened = (.ok (), opened)) :
    Query.prepare backend sql values link = Query.prepare backend sql values opened := by
  unfold Query.prepare Call.ofConnection Connection.createCommand
  simp only [EmbeddedSql.Call.bind_apply, Transactions.prepare_of_opens _ opens again]

theorem Query.prepare_of_unopened {error : EmbeddedSql.Error}
    (fails : Connection.ensureOpen backend.engine backend.growth link = (.error error, opened)) :
    Query.prepare backend sql values link = (.error (.connection error), opened) := by
  unfold Query.prepare Call.ofConnection Connection.createCommand
  simp only [EmbeddedSql.Call.bind_apply, Transactions.prepare_of_unopened _ fails]

end

/-! ## Runs of queries -/

/-- Whether a query comes to running its statement, and the code that its run ends with. -/
def Query.EndsWith (backend : Backend σ) (sql : Text) (values : List Json) (link : Link σ)
    (code : Int) : Prop :=
  ∃ command bound state, Query.prepare backend sql values link = (.ok command, bound) ∧
    backend.engine.Runs command.statement bound.engine code state

namespace Transactions

variable {backend : Backend σ} (laws : Transactions backend.engine C)

/-- What is left of a query that is made where a connection stands somehow. -/
inductive Issues (position : Position C) (sql : Text) (values : List Json) (link : Link σ) :
    Except Query.Error α × Link σ → Prop
  | refused {error : Query.Error} {after : Link σ} {compiled : Standing C} :
      (Query.prepare backend sql values link).1.isOk = false →
        laws.Compiles sql position.standing compiled →
          laws.Placed (position.reaching compiled) after →
            Issues position sql values link (.error error, after)
  | ran {result : Except Query.Error α} {after : Link σ} {code : Int}
      {compiled standing : Standing C} :
      EndsWith backend sql values link code →
        laws.Compiles sql position.standing compiled →
          compiled.Runs (laws.kind sql) code standing →
            laws.Placed (position.reaching standing) after →
              (result.isOk = true ↔ position.connection.config.Accepts code) →
                Issues position sql values link (result, after)

variable {laws} {position : Position C} {kind : StatementKind} {link : Link σ}

theorem Issued.bindFrom {statement : StatementHandle}
    (issued : laws.Issued position statement kind link) (count first : Nat) (values : List Json) :
    Call.Ends (Query.bindFrom backend.engine backend.growth statement count first values link)
      (fun _ => laws.Issued position statement kind)
      fun _ => laws.Issued position statement kind := by
  induction values generalizing first link with
  | nil => exact issued
  | cons value rest induction =>
      unfold Query.bindFrom
      split
      · exact issued
      · exact (Call.Ends.ofConnection (issued.bindIndex backend.growth _ _)).bind
          fun _ _ binds => induction binds _

variable (sql : Text) (values : List Json)

theorem Placed.prepareQuery (placed : laws.Placed position link) :
    Call.Ends (Query.prepare backend sql values link)
      (fun _ after => ∃ compiled, laws.Compiles sql position.standing compiled ∧
        laws.Placed (position.reaching compiled) after)
      fun command after => ∃ compiled, laws.Compiles sql position.standing compiled ∧
        laws.Issued (position.reaching compiled) command.statement (laws.kind sql) after := by
  have creates : Call.Ends (Call.ofConnection (Connection.createCommand backend sql) link)
      (fun _ after => ∃ compiled, laws.Compiles sql position.standing compiled ∧
        laws.Placed (position.reaching compiled) after)
      fun command after => ∃ compiled, laws.Compiles sql position.standing compiled ∧
        laws.Issued (position.reaching compiled) command.statement (laws.kind sql) after :=
    .ofConnection ((placed.prepare backend.growth sql).bind fun _ _ issued => issued)
  refine creates.bind fun command between ⟨compiled, compiles, issued⟩ => ?_
  refine Call.Ends.bind (.dropOnError (issued.bindFrom _ _ values)
    fun _ _ held => ⟨compiled, compiles, held.toHolds.drop⟩)
    fun _ _ issued => ⟨compiled, compiles, issued⟩

theorem Placed.issues (placed : laws.Placed position link) {next : Command → Nat → Query.Call σ α}
    (completes : ∀ {command link position} rows,
      laws.Holds position command.statement link →
        ∃ answer after, next command rows link = (.ok answer, after) ∧
          laws.Placed position after) :
    laws.Issues position sql values link
      ((do
        let command ← Query.prepare backend sql values
        let rows ← command.dropOnError backend
          (Call.ofConnection (command.executeNonQuery backend))
        next command rows) link) := by
  have prepares := placed.prepareQuery sql values
  rw [EmbeddedSql.Call.bind_apply]
  rcases isPrepared : Query.prepare backend sql values link with ⟨error | command, bound⟩ <;>
    rw [isPrepared] at prepares
  · obtain ⟨compiled, compiles, placed⟩ := prepares
    exact .refused (by rw [isPrepared]; rfl) compiles placed
  obtain ⟨compiled, compiles, issued⟩ := prepares
  obtain ⟨code, state, standing, runs, changes, holds, answers⟩ := issued.executeNonQuery
  have endsWith : EndsWith backend sql values link code := ⟨command, bound, state, isPrepared, runs⟩
  dsimp only
  rw [EmbeddedSql.Call.bind_apply]
  unfold Command.dropOnError Call.ofConnection
  rcases executes : command.executeNonQuery backend bound with ⟨error | rows, after⟩ <;>
    rw [executes] at holds answers
  · exact .ran endsWith compiles changes holds.drop answers
  · obtain ⟨answer, last, isDone, placed⟩ := completes rows holds
    dsimp only at isDone ⊢
    rw [isDone]
    exact .ran endsWith compiles changes placed answers

theorem Placed.execute (placed : laws.Placed position link) :
    laws.Issues position sql values link (Query.execute backend sql values link) := by
  unfold Query.execute
  refine placed.issues sql values fun {command link position} rows holds => ?_
  obtain ⟨after, finalizes, placed⟩ := holds.finalize
  let result : WriteResult :=
    ⟨(backend.engine.changes position.database after.engine).toUInt64,
      backend.engine.lastInsertRowid position.database after.engine⟩
  refine ⟨result, after, ?_, placed⟩
  unfold Call.ofConnection
  rw [EmbeddedSql.Call.bind_of_ok _ finalizes,
    EmbeddedSql.Call.bind_of_ok _ (placed.changes backend.growth),
    EmbeddedSql.Call.bind_of_ok _ (placed.lastInsertRowid backend.growth)]
  rfl

theorem Placed.control (placed : laws.Placed position link) (text : String) :
    laws.Issues position (.ofString text) [] link (Query.control backend text link) := by
  rw [Query.control_eq]
  refine placed.issues _ _ fun {command link position} rows holds => ?_
  obtain ⟨after, finalizes, placed⟩ := holds.finalize
  exact ⟨(), after, by rw [Call.ofConnection, finalizes], placed⟩

theorem Placed.rollback (placed : laws.Placed position link) :
    ∃ code standing, EndsWith backend (.ofString "ROLLBACK") [] link code ∧
      position.standing.Runs .rollback code standing ∧
        laws.Placed (position.reaching standing) (Query.control backend "ROLLBACK" link).2 ∧
          ((Query.control backend "ROLLBACK" link).1.isOk = true ↔
            position.connection.config.Accepts code) := by
  have prepares := placed.prepare_ok backend.growth (by decide)
    (laws.compiles_rollback placed.valid placed.isOpen)
  have issues := placed.control "ROLLBACK"
  rcases outcome : Query.control backend "ROLLBACK" link with ⟨result, after⟩
  rw [outcome] at issues
  cases issues with
  | ran endsWith compiles changes placed answers =>
      rw [laws.kind_rollback, compiles.of_control (by simp [laws.kind_rollback])] at changes
      exact ⟨_, _, endsWith, changes, placed, answers⟩
  | refused isRefused _ _ =>
      rw [Query.prepare_nil, Call.ofConnection, Connection.createCommand,
        EmbeddedSql.Call.bind_apply] at isRefused
      rcases isPrepared : Connection.prepare backend.engine backend.growth (.ofString "ROLLBACK")
        link with ⟨error | statement, between⟩ <;> rw [isPrepared] at isRefused prepares
      · cases prepares
      · cases isRefused

end Transactions

end EmbeddedSql
