import EmbeddedSql.Proofs.Connection.Run
import EmbeddedSql.Proofs.Session.Link
import EmbeddedSql.Proofs.Session.Lifecycle
import EmbeddedSql.Proofs.Session.Observing
import EmbeddedSql.Storage.Backend

/-! Main result: of a text that is executed, the first statement is run to its end, and what stands
behind it makes no difference to anything. -/

namespace EmbeddedSql

variable {σ ε α β : Type}

/-- Assumed of SQLite: it compiles a text as far as its first statement goes. That is what this
text begins with. -/
structure Engine.Heads (engine : Engine σ) (first text : Text) : Prop where
  prepare : ∀ database state,
    engine.prepare database text state = engine.prepare database first state
  length : first.byteLength ≤ text.byteLength

theorem Call.bind_inv {call : ExceptT ε (StateM (Link σ)) α}
    {next : α → ExceptT ε (StateM (Link σ)) β} {link last : Link σ} {answer : β}
    (isOk : (call >>= next) link = (.ok answer, last)) :
    ∃ first between,
      call link = (.ok first, between) ∧ next first between = (.ok answer, last) := by
  rw [Call.bind_apply] at isOk
  rcases outcome : call link with ⟨error | first, between⟩
  · rw [outcome] at isOk
    cases isOk
  · rw [outcome] at isOk
    exact ⟨first, between, rfl, isOk⟩

theorem Call.ofConnection_inv {call : Call σ α} {link last : Link σ} {answer : α}
    (isOk : Query.Call.ofConnection call link = (.ok answer, last)) :
    call link = (.ok answer, last) := by
  unfold Query.Call.ofConnection at isOk
  rcases outcome : call link with ⟨error | found, after⟩ <;> rw [outcome] at isOk <;> cases isOk
  rfl

theorem Command.dropOnError_inv {backend : Backend σ} {command : Command}
    {use : ExceptT ε (StateM (Link σ)) α} {link last : Link σ} {answer : α}
    (isOk : command.dropOnError backend use link = (.ok answer, last)) :
    use link = (.ok answer, last) := by
  unfold Command.dropOnError at isOk
  rcases outcome : use link with ⟨error | found, after⟩ <;> rw [outcome] at isOk <;> cases isOk
  rfl

/-! ## Compiling -/

section
variable {backend : Backend σ} {first text : Text} (heads : backend.engine.Heads first text)
  (fits : text.byteLength ≤ Engine.maxLength)
include heads fits

theorem Connection.prepare_of_heads :
    prepare backend.engine backend.growth text = prepare backend.engine backend.growth first := by
  funext link
  unfold prepare
  simp only [Call.bind_apply]
  rcases database backend.engine backend.growth link with ⟨error | database, between⟩
  · rfl
  · simp only [ensureFits_of_le _ fits, ensureFits_of_le _ (Nat.le_trans heads.length fits),
      Call.request_apply, heads.prepare database between.engine]

theorem Connection.createCommand_of_heads :
    createCommand backend text = createCommand backend first := by
  simp only [createCommand, prepare_of_heads heads fits]

theorem Query.prepare_of_heads (values : List Json) :
    prepare backend text values = prepare backend first values := by
  simp only [prepare, Connection.createCommand_of_heads heads fits]

end

/-! ## Running -/

/-- From here the statement has been stepped until it was done, or failed with a code that the
connection hides, and it was finalized then. Nothing else has been asked of the engine. -/
def HasRun (engine : Engine σ) (statement : StatementHandle) (link last : Link σ) : Prop :=
  ∃ code stopped, engine.Runs statement link.engine code stopped ∧
    link.connection.config.Accepts code ∧
      last = { link with
        engine := (engine.finalize statement (engine.reset statement stopped).2).2 }

section
variable {backend : Backend σ} {command : Command} {link last : Link σ}

theorem Command.isLive_of_executes {rows : Nat}
    (executes : command.executeNonQuery backend link = (.ok rows, last)) :
    link.connection.isDisposed = false := by
  by_contra isDisposed
  rw [Bool.not_eq_false, Connection.isDisposed_iff] at isDisposed
  have refused := command.executeNonQuery_refuses backend link isDisposed
  rw [executes] at refused
  cases refused

theorem Command.finalize_inv (finalizes : command.finalize backend link = (.ok (), last)) :
    last = { link with engine := (backend.engine.finalize command.statement link.engine).2 } := by
  unfold Command.finalize at finalizes
  rcases Call.bind_inv finalizes with ⟨_, live, isLive, finalizes⟩
  rcases Call.bind_inv finalizes with ⟨code, after, isAsked, isOk⟩
  rw [Connection.ensureNotDisposed_apply] at isLive
  rw [Call.request_apply] at isAsked
  split at isLive <;> cases isLive
  cases isAsked
  split at isOk <;> cases isOk
  rfl

theorem Command.hasRun {executed : Link σ} {rows : Nat}
    (executes : command.executeNonQuery backend link = (.ok rows, executed))
    (finalizes : command.finalize backend executed = (.ok (), last)) :
    HasRun backend.engine command.statement link last := by
  rcases command.executeNonQuery_runs backend (isLive_of_executes executes) with
    ⟨code, stopped, runs, leaves, accepts⟩
  rw [executes] at leaves accepts
  refine ⟨code, stopped, runs, accepts.mp rfl, ?_⟩
  rw [finalize_inv finalizes, show executed = _ from leaves]

end

variable {backend : Backend σ} {link last : Link σ}

theorem Connection.executeNonQuery_inv {sql : Text} {rows : Nat}
    (isOk : executeNonQuery backend sql link = (.ok rows, last)) :
    ∃ command compiled, createCommand backend sql link = (.ok command, compiled) ∧
      HasRun backend.engine command.statement compiled last := by
  unfold executeNonQuery at isOk
  rcases Call.bind_inv isOk with ⟨command, compiled, isCompiled, isOk⟩
  rcases Call.bind_inv isOk with ⟨count, executed, executes, isOk⟩
  rcases Call.bind_inv isOk with ⟨_, finalized, finalizes, isOk⟩
  cases isOk
  exact ⟨command, compiled, isCompiled, Command.hasRun (Command.dropOnError_inv executes) finalizes⟩

/-- The counters of a connection that is open are had without the engine's doing anything. -/
theorem Connection.counters_inv {database : DatabaseHandle} {result : Query.WriteResult}
    (isOpened : link.connection.lifecycle = .opened database)
    (isOk : (do
      let changes ← changes backend.engine backend.growth
      let rowid ← lastInsertRowid backend.engine backend.growth
      pure ⟨changes.toUInt64, rowid⟩ : Call σ Query.WriteResult) link = (.ok result, last)) :
    last = link := by
  simp only [changes, lastInsertRowid, Call.bind_apply,
    database_of_opened backend.engine backend.growth isOpened, Call.observe_apply,
    Call.pure_apply] at isOk
  cases isOk
  rfl

theorem Connection.createCommand_opened {sql : Text} {command : Command}
    (isOk : createCommand backend sql link = (.ok command, last)) :
    (∃ database, last.connection.lifecycle = .opened database) ∧
      sql.byteLength ≤ Engine.maxLength := by
  rcases Call.bind_inv isOk with ⟨statement, compiled, isCompiled, isOk⟩
  cases isOk
  rcases Call.bind_inv isCompiled with ⟨database, opened, isOpened, isCompiled⟩
  rcases Call.bind_inv isCompiled with ⟨_, measured, isMeasured, isCompiled⟩
  rcases Call.bind_inv isCompiled with ⟨prepared, asked, isAsked, isCompiled⟩
  rw [ensureFits_apply] at isMeasured
  split at isMeasured <;> cases isMeasured
  rename_i fits
  refine ⟨?_, Nat.le_of_not_lt fits⟩
  rcases Call.bind_inv isOpened with ⟨_, ensured, -, isOpened⟩
  rw [Call.bind_apply, Call.get_apply] at isOpened
  rw [Call.request_apply] at isAsked
  cases isAsked
  have same : last = { opened with
      engine := (backend.engine.prepare database sql opened.engine).2 } := by
    dsimp only at isCompiled
    split at isCompiled
    · rw [Call.bind_apply, Call.observe_apply] at isCompiled
      cases isCompiled
    · cases isThere : (backend.engine.prepare database sql opened.engine).1.2 with
      | none =>
          simp only [isThere] at isCompiled
          cases isCompiled
      | some found =>
          simp only [isThere] at isCompiled
          cases isCompiled
          rfl
  cases isLifecycle : ensured.connection.lifecycle with
  | opened database =>
      simp only [isLifecycle] at isOpened
      cases isOpened
      exact ⟨database, by rw [same]; exact isLifecycle⟩
  | _ =>
      simp only [isLifecycle] at isOpened
      cases isOpened

theorem Query.prepare_opened {sql : Text} {values : List Json} {command : Command}
    (isOk : prepare backend sql values link = (.ok command, last)) :
    ∃ database, last.connection.lifecycle = .opened database := by
  rcases EmbeddedSql.Call.bind_inv isOk with ⟨made, compiled, isCompiled, isOk⟩
  rcases EmbeddedSql.Call.bind_inv isOk with ⟨_, bound, binds, isOk⟩
  cases isOk
  rcases (Connection.createCommand_opened (EmbeddedSql.Call.ofConnection_inv isCompiled)).1 with
    ⟨database, isOpened⟩
  have advances :=
    bindValues_advances backend.engine backend.growth command.statement values compiled
  rw [Command.dropOnError_inv binds] at advances
  have continues : Lifecycle.Continues _ last.connection.lifecycle := advances.lifecycle
  rw [isOpened] at continues
  use database
  generalize last.connection.lifecycle = lifecycle at continues
  cases continues
  rfl

theorem Query.fits_of_prepare {sql : Text} {values : List Json} {command : Command}
    (isOk : prepare backend sql values link = (.ok command, last)) :
    sql.byteLength ≤ Engine.maxLength := by
  rcases EmbeddedSql.Call.bind_inv isOk with ⟨made, compiled, isCompiled, -⟩
  exact (Connection.createCommand_opened (EmbeddedSql.Call.ofConnection_inv isCompiled)).2

theorem Query.execute_inv {sql : Text} {values : List Json} {result : WriteResult}
    (isOk : execute backend sql values link = (.ok result, last)) :
    ∃ command bound, prepare backend sql values link = (.ok command, bound) ∧
      HasRun backend.engine command.statement bound last := by
  rcases EmbeddedSql.Call.bind_inv isOk with ⟨command, bound, isPrepared, isOk⟩
  rcases EmbeddedSql.Call.bind_inv isOk with ⟨rows, executed, executes, isOk⟩
  rcases EmbeddedSql.Call.bind_inv (EmbeddedSql.Call.ofConnection_inv isOk) with
    ⟨_, finalized, finalizes, isOk⟩
  have hasRun : HasRun backend.engine command.statement bound finalized := Command.hasRun
    (EmbeddedSql.Call.ofConnection_inv (Command.dropOnError_inv executes)) finalizes
  rcases prepare_opened isPrepared with ⟨database, isOpened⟩
  have staysOpened : finalized.connection.lifecycle = .opened database := by
    rcases hasRun with ⟨_, _, -, -, rfl⟩
    exact isOpened
  rw [Connection.counters_inv staysOpened isOk]
  exact ⟨command, bound, isPrepared, hasRun⟩

/-! ## Sessions -/

namespace Session

theorem onConnection_inv {session after : Session σ} {name : String}
    {call : ExceptT ε (StateM (Link σ)) α} {answer : α}
    (isOk : session.onConnection name call = (.ok answer, after)) :
    ∃ link last, session.link? name = some link ∧ call link = (.ok answer, last) ∧
      after = session.setLink name last := by
  cases isLink : session.link? name with
  | none =>
      rw [onConnection_of_missing isLink] at isOk
      cases isOk
  | some link =>
      rw [onConnection_of_link isLink] at isOk
      rcases outcome : call link with ⟨error | found, last⟩ <;> rw [outcome] at isOk <;> cases isOk
      exact ⟨link, last, rfl, outcome, rfl⟩

/-- Whatever follows the first statement of a text that is executed, with values or without: neither
the answer nor the session shows anything of it, unless the text is too long to be compiled. If the
answer is a success, the first statement has been run until the engine said that it was done, or
failed with a code that a lenient connection hides, and the engine has done nothing after that but
finalize it. -/
theorem first_statement_run {backend : Backend σ} {first text : Text}
    (heads : backend.engine.Heads first text) (session : Session σ) (name : String) :
    (text.byteLength ≤ Engine.maxLength →
      perform backend session (.connection name (.executeNonQuery text)) =
          perform backend session (.connection name (.executeNonQuery first)) ∧
        ∀ values, perform backend session (.query (.execute name text values)) =
          perform backend session (.query (.execute name first values))) ∧
      (∀ answer, (perform backend session (.connection name (.executeNonQuery text))).1 =
          .plain (.ok answer) →
        ∃ link command compiled last, session.link? name = some link ∧
          Connection.createCommand backend first link = (.ok command, compiled) ∧
          HasRun backend.engine command.statement compiled last ∧
          (perform backend session (.connection name (.executeNonQuery text))).2 =
            session.setLink name last) ∧
      ∀ values answer, (perform backend session (.query (.execute name text values))).1 =
          .query (.ok answer) →
        ∃ link command bound last, session.link? name = some link ∧
          Query.prepare backend first values link = (.ok command, bound) ∧
          HasRun backend.engine command.statement bound last ∧
          (perform backend session (.query (.execute name text values))).2 =
            session.setLink name last := by
  refine ⟨fun fits => ⟨?_, fun values => ?_⟩, fun answer isOk => ?_, fun values answer isOk => ?_⟩
  · have same : Connection.executeNonQuery backend text =
        Connection.executeNonQuery backend first := by
      simp only [Connection.executeNonQuery, Connection.createCommand_of_heads heads fits]
    simp only [perform, performConnection, same]
  · have same : Query.execute backend text values = Query.execute backend first values := by
      simp only [Query.execute, Query.prepare_of_heads heads fits]
    simp only [perform, performQuery, same]
  · rcases outcome : session.onConnection name (Connection.executeNonQuery backend text) with
      ⟨refusal | rows, after⟩
    · simp [perform, performConnection, answering, outcome, Except.map] at isOk
    · rcases onConnection_inv outcome with ⟨link, last, isLink, executes, rfl⟩
      rcases Connection.executeNonQuery_inv executes with ⟨command, compiled, isCompiled, hasRun⟩
      have fits := (Connection.createCommand_opened isCompiled).2
      rw [Connection.createCommand_of_heads heads fits] at isCompiled
      refine ⟨link, command, compiled, last, isLink, isCompiled, hasRun, ?_⟩
      simp [perform, performConnection, answering, outcome]
  · rcases outcome : session.onConnection name (Query.execute backend text values) with
      ⟨refusal | result, after⟩
    · simp [perform, performQuery, replying, outcome, Except.map] at isOk
    · rcases onConnection_inv outcome with ⟨link, last, isLink, executes, rfl⟩
      rcases Query.execute_inv executes with ⟨command, bound, isPrepared, hasRun⟩
      have fits := Query.fits_of_prepare isPrepared
      rw [Query.prepare_of_heads heads fits] at isPrepared
      refine ⟨link, command, bound, last, isLink, isPrepared, hasRun, ?_⟩
      simp [perform, performQuery, replying, outcome]

/-! ## A batch -/

def isBegin (parsed : Sql.Parsed) : Bool :=
  match parsed with
  | { statement := some (.begin .deferred), parameters, sources := [], written } =>
      parameters = {} && written = Utf8.ofString "BEGIN;"
  | _ => false

theorem parse_of_isBegin (text : Text)
    (isRead : (Storage.Store.parse text).toOption.any isBegin) :
    Storage.Store.parse text = .ok ⟨some (.begin .deferred), {}, [], Utf8.ofString "BEGIN;"⟩ := by
  cases isParsed : Storage.Store.parse text with
  | error failure => simp [isParsed, Except.toOption] at isRead
  | ok parsed =>
      have isBegin : isBegin parsed = true := by simpa [isParsed, Except.toOption] using isRead
      unfold Session.isBegin at isBegin
      split at isBegin
      · simp only [Bool.and_eq_true, decide_eq_true_eq] at isBegin
        rw [isBegin.1, isBegin.2]
      · cases isBegin

theorem first_statement_run_batch :
    let batch : Text := .ofString "BEGIN; INSERT INTO t VALUES(1); COMMIT"
    let session := (run Storage.backend { engine := {} }
      [.connection "c" (.connect none none none),
        .connection "c" (.executeNonQuery (.ofString "CREATE TABLE t(a)"))]).2
    let execute (session : Session Storage.Store) (sql : Text) :=
      perform Storage.backend session (.connection "c" (.executeNonQuery sql))
    execute session batch = execute session (.ofString "BEGIN;") ∧
      (execute session batch).1 = .plain (.ok (.number 0)) ∧
      (execute (execute session batch).2 (.ofString "SELECT a FROM t")).1 =
        .plain (.ok (.number 0)) := by
  intro batch session execute
  have heads : Storage.backend.engine.Heads (.ofString "BEGIN;") batch := by
    refine ⟨fun database state => ?_, by decide⟩
    show Storage.Store.prepare database batch state =
      Storage.Store.prepare database (.ofString "BEGIN;") state
    simp only [Storage.Store.prepare, parse_of_isBegin batch (by decide +kernel),
      parse_of_isBegin (.ofString "BEGIN;") (by decide +kernel)]
  have fits : batch.byteLength ≤ Engine.maxLength := by decide
  have runs := first_statement_run heads session "c"
  refine ⟨(runs.1 fits).1, Response.of_answer? ?_, Response.of_answer? ?_⟩
  · decide +kernel
  · decide +kernel

end Session

end EmbeddedSql
