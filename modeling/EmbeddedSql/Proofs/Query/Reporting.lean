import EmbeddedSql.Proofs.Query.Atomicity

/-! What a transaction that has failed reports: the error that has broken it, unless the engine
has undone the transaction by itself, so that undoing it fails, too. -/

namespace EmbeddedSql

open Query

variable {σ C : Type} {backend : Backend σ}

theorem eq_of_isOk {ε state : Type} {outcome : Except ε Unit × state}
    (isOk : outcome.1.isOk = true) : outcome = (.ok (), outcome.2) := by
  rcases outcome with ⟨error | ⟨⟩, last⟩
  · cases isOk
  · rfl

namespace Query

/-! ## Errors of statements -/

def Error.IsOwn (error : Error) : Prop :=
  ∀ failure refusal, error ≠ .rollbackFailed failure refusal

theorem Error.isOwn_connection (error : EmbeddedSql.Error) : (Error.connection error).IsOwn :=
  nofun

theorem Error.IsOwn.code_ne {error : Error} (isOwn : error.IsOwn) :
    error.code ≠ "TRANSACTION_ROLLBACK_FAILED" := by
  have begins (code : Int) : "SQLITE_" ++ toString code ≠ "TRANSACTION_ROLLBACK_FAILED" := by
    intro isSame
    have sameFirst := congrArg (fun text => text.toList.head?) isSame
    simp at sameFirst
  unfold code
  split
  · decide
  · decide
  · split
    · exact begins _
    · decide
  · decide
  · decide
  · exact absurd rfl (isOwn _ _)
  · decide

def code? {α : Type} : Except Error α → Option String
  | .error error => some error.code
  | .ok _ => none

theorem error_of_code? {α : Type} {answer : Except Error α} {code : String}
    (isCode : code? answer = some code) :
    ∃ error, answer = .error error ∧ error.code = code := by
  rcases answer with error | answer
  · exact ⟨error, rfl, Option.some.inj isCode⟩
  · cases isCode

section
variable (backend) {α : Type} {link : Link σ}

theorem ofConnection_isOwn (call : EmbeddedSql.Call σ α) (link : Link σ) :
    EmbeddedSql.Call.Ends (Call.ofConnection call link) (fun error _ => error.IsOwn)
      fun _ _ => True := by
  refine .ofConnection ?_
  rcases call link with ⟨error | answer, last⟩
  · exact Error.isOwn_connection error
  · trivial

theorem bindFrom_isOwn (statement : StatementHandle) (count position : Nat) (values : List Json)
    (link : Link σ) :
    EmbeddedSql.Call.Ends
      (bindFrom backend.engine backend.growth statement count position values link)
      (fun error _ => error.IsOwn) fun _ _ => True := by
  induction values generalizing position link with
  | nil => trivial
  | cons value rest induction =>
      unfold bindFrom
      split
      · intro failure refusal isSame
        cases isSame
      · exact (ofConnection_isOwn _ link).bind fun _ between _ => induction _ between

theorem dropOnError_isOwn {command : Command} {use : Call σ α}
    (ends : EmbeddedSql.Call.Ends (use link) (fun error _ => error.IsOwn) fun _ _ => True) :
    EmbeddedSql.Call.Ends (command.dropOnError backend use link) (fun error _ => error.IsOwn)
      fun _ _ => True :=
  .dropOnError ends fun _ _ isOwn => isOwn

theorem execute_isOwn (sql : Text) (values : List Json) (link : Link σ) :
    EmbeddedSql.Call.Ends (execute backend sql values link) (fun error _ => error.IsOwn)
      fun _ _ => True := by
  have prepares : EmbeddedSql.Call.Ends (prepare backend sql values link)
      (fun error _ => error.IsOwn) fun _ _ => True :=
    (ofConnection_isOwn _ link).bind fun command between _ =>
      (dropOnError_isOwn backend (bindFrom_isOwn backend command.statement _ 1 values between)).bind
        fun _ _ _ => trivial
  exact prepares.bind fun command bound _ =>
    (dropOnError_isOwn backend (ofConnection_isOwn _ bound)).bind
      fun _ between _ => ofConnection_isOwn _ between

theorem control_isOwn (text : String) (link : Link σ) :
    EmbeddedSql.Call.Ends (control backend text link) (fun error _ => error.IsOwn)
      fun _ _ => True :=
  (ofConnection_isOwn _ link).bind fun _ _ _ => trivial

end

/-! ## What breaks a transaction -/

/-- The first statement that fails breaks a transaction, or else the commit does. -/
inductive Breaks (backend : Backend σ) (statements : List (Text × List Json)) (begun : Link σ) :
    Error → Link σ → Prop
  | statement {cause : Error} {failed : Link σ} :
      Fails backend statements begun cause failed → Breaks backend statements begun cause failed
  | commit {ended failed : Link σ} {results : List WriteResult} {cause : Error} :
      Executes backend statements begun results ended →
        control backend "COMMIT" ended = (.error cause, failed) →
          Breaks backend statements begun cause failed

variable {statements : List (Text × List Json)} {link begun failed last : Link σ} {cause error : Error}

theorem Fails.isOwn (fails : Fails backend statements link cause failed) : cause.IsOwn := by
  induction fails with
  | @first sql values _ link _ _ executed =>
      have isOwn := execute_isOwn backend sql values link
      rw [executed] at isOwn
      exact isOwn
  | later _ _ induction => exact induction

theorem Breaks.isOwn (breaks : Breaks backend statements begun cause failed) : cause.IsOwn := by
  cases breaks with
  | statement fails => exact fails.isOwn
  | @commit ended _ _ _ _ commits =>
      have isOwn := control_isOwn backend "COMMIT" ended
      rw [commits] at isOwn
      exact isOwn

theorem fails_of_error (isError : (executeEach backend statements begun).1 = .error cause) :
    Fails backend statements begun cause (executeEach backend statements begun).2 := by
  rcases @executeEach_cases _ backend statements begun with
    ⟨results, ended, isOk, -⟩ | ⟨first, failed, isFirst, fails⟩
  · rw [isOk] at isError
    cases isError
  · rw [isFirst] at isError ⊢
    cases isError
    exact fails

/-- Once it has begun, a call that fails undoes what has been broken. -/
theorem Transacts.of_error (begins : control backend "BEGIN IMMEDIATE" link = (.ok (), begun))
    (transacts : Transacts backend statements link (.error error, last)) :
    ∃ cause failed, Breaks backend statements begun cause failed ∧
      rollback backend cause failed = (.error error, last) := by
  generalize isOutcome : (Except.error error, last) = outcome at transacts
  cases transacts with
  | refused refuses => cases begins.symm.trans refuses
  | finished _ _ _ => cases isOutcome
  | broken begins' fails =>
      cases begins.symm.trans begins'
      exact ⟨_, _, .statement fails, rfl⟩
  | unfinished begins' executes commits =>
      cases begins.symm.trans begins'
      exact ⟨_, _, .commit executes commits, rfl⟩

end Query

/-! ## What is reported -/

namespace Transactions

variable {laws : Transactions backend.engine C} {position : Position C} {link : Link σ}

theorem Placed.untouched (placed : laws.Placed position link)
    (isStrict : position.connection.config.lenientStepStatus = false)
    (isOutside : position.standing.isExplicit = false)
    (isCommitted : position.standing.content = position.standing.committed)
    {statements : List (Text × List Json)}
    (areOrdinary : ∀ statement ∈ statements, laws.kind statement.1 = .ordinary)
    {error : Query.Error}
    (fails : (Query.executeTransaction backend statements link).1 = .error error) :
    laws.standing (Query.executeTransaction backend statements link).2.engine position.database =
      position.standing := by
  obtain ⟨standing, atEnd, -, atomic⟩ :=
    placed.transacts isStrict isOutside (@executeTransaction_transacts _ backend statements link)
  have isBefore : laws.standing link.engine position.database = position.standing := placed.standing
  have stays := (atomic areOrdinary).untouched (Prod.ext fails rfl)
  rw [isBefore] at stays
  exact stays isCommitted

/-- An open transaction is undone, and what has broken it is reported. Where there is none any
more, undoing it fails, and both failures are reported. -/
theorem Placed.rollback_reports (placed : laws.Placed position link) (cause : Query.Error) :
    (position.standing.isExplicit = true ∧
        (Query.rollback backend cause link).1 = .error cause) ∨
      position.standing.isExplicit = false ∧
        EndsWith backend (.ofString "ROLLBACK") [] link Status.error ∧
          ∃ refusal, (Query.control backend "ROLLBACK" link).1 = .error refusal ∧
            (Query.rollback backend cause link).1 =
              .error (.rollbackFailed cause.message refusal.message) := by
  obtain ⟨code, standing, endsWith, runs, -, answers⟩ := placed.rollback
  unfold Query.rollback
  rcases runs.steps nofun nofun with ⟨rfl, isExplicit, -⟩ | ⟨rfl, isOutside, -⟩
  · have isOk := answers.mpr (.inl rfl)
    rcases undoes : Query.control backend "ROLLBACK" link with ⟨refusal | ⟨⟩, last⟩
    · rw [undoes] at isOk
      cases isOk
    · exact .inl ⟨isExplicit, rfl⟩
  · rcases undoes : Query.control backend "ROLLBACK" link with ⟨refusal | ⟨⟩, last⟩
    · exact .inr ⟨isOutside, endsWith, refusal, rfl, rfl⟩
    · have accepts := answers.mp (by rw [undoes]; rfl)
      exact absurd rfl accepts.ne_error

theorem Placed.breaksWithin (placed : laws.Placed position link)
    (isStrict : position.connection.config.lenientStepStatus = false) {before : Standing C}
    (isWithin : position.standing.IsWithin before) {statements : List (Text × List Json)}
    (areOrdinary : ∀ statement ∈ statements, laws.kind statement.1 = .ordinary)
    {cause : Query.Error} {failed : Link σ}
    (breaks : Breaks backend statements link cause failed) :
    ∃ standing, laws.Placed (position.reaching standing) failed ∧
      (standing.IsWithin before ∨ standing = before.undone) := by
  cases breaks with
  | statement fails => exact placed.failsWithin isStrict isWithin areOrdinary fails
  | commit executes commits =>
      obtain ⟨standing, atEnd, isWithin⟩ :=
        placed.executesWithin isStrict isWithin areOrdinary executes
      obtain ⟨after, atFailure, same⟩ := atEnd.commits_error commits
      refine ⟨after, atFailure, ?_⟩
      rcases same with rfl | isUndone
      · exact .inl isWithin
      · exact .inr (isUndone.trans isWithin.undone_eq)

end Transactions

/-! ## Main result -/

/-- A transaction that is begun and fails is undone, whatever has broken it. It reports the
error of the first statement that failed, or of the commit, if the transaction was still open
there. If the engine had undone it by itself, it reports that error together with the one of
the rollback, for which nothing was left to do. -/
theorem executeTransaction_reports (laws : Transactions backend.engine C)
    {link opened begun last : Link σ} (valid : laws.Valid link.engine)
    (isOpen : ∀ {database}, link.connection.lifecycle = .opened database →
      (laws.handles link.engine).isOpen database = true)
    (isStrict : link.connection.config.lenientStepStatus = false)
    {statements : List (Text × List Json)}
    (areOrdinary : ∀ statement ∈ statements, laws.kind statement.1 = .ordinary)
    (opens : Connection.ensureOpen backend.engine backend.growth link = (.ok (), opened))
    {database : DatabaseHandle} (isOpened : opened.connection.lifecycle = .opened database)
    (isOutside : (laws.standing opened.engine database).isExplicit = false)
    (begins : Query.control backend "BEGIN IMMEDIATE" opened = (.ok (), begun))
    {error : Query.Error}
    (fails : Query.executeTransaction backend statements link = (.error error, last)) :
    let before := laws.standing opened.engine database
    let after := laws.standing last.engine database
    after = before.undone ∧ (before.content = before.committed → after = before) ∧
      ∃ cause failed, Breaks backend statements begun cause failed ∧ cause.IsOwn ∧
        ((laws.standing failed.engine database).IsWithin before ∧ error = cause ∨
          laws.standing failed.engine database = before.undone ∧
            EndsWith backend (.ofString "ROLLBACK") [] failed Status.error ∧
              ∃ refusal, Query.control backend "ROLLBACK" failed = (.error refusal, last) ∧
                error = .rollbackFailed cause.message refusal.message) := by
  intro before after
  obtain ⟨placed, sameConfig⟩ := laws.placed_of_opens valid isOpen opens isOpened
  have isStrictThere : opened.connection.config.lenientStepStatus = false := by
    rw [sameConfig, isStrict]
  rw [executeTransaction_of_opens opens (placed.ensureOpen backend.growth) statements] at fails
  have transacts := @executeTransaction_transacts _ backend statements opened
  rw [fails] at transacts
  obtain ⟨cause, failed, breaks, undoes⟩ := transacts.of_error begins
  have inside := (placed.begins isStrictThere begins).2
  have isBegun : before.begun.IsWithin before := ⟨rfl, rfl⟩
  obtain ⟨standing, atFailure, stands⟩ :=
    inside.breaksWithin isStrictThere isBegun areOrdinary breaks
  have isLast : (Query.control backend "ROLLBACK" failed).2 = last := by
    obtain ⟨shown, rollsBack⟩ := @rollback_eq _ backend cause failed
    exact congrArg Prod.snd (rollsBack.symm.trans undoes)
  have isThere : laws.standing failed.engine database = standing := atFailure.reached
  have isUndone : after = before.undone := by
    have undone := (atFailure.undoWithin stands).reached
    rwa [isLast] at undone
  refine ⟨isUndone, fun isCommitted => isUndone.trans (Standing.undone_eq isOutside isCommitted),
    cause, failed, breaks, breaks.isOwn, ?_⟩
  have reports := atFailure.rollback_reports cause
  rw [undoes] at reports
  rw [isThere]
  rcases reports with ⟨isExplicit, isCause⟩ | ⟨isUndone, endsWith, refusal, refuses, both⟩
  · refine .inl ⟨stands.resolve_right ?_, Except.error.inj isCause⟩
    rintro rfl
    cases isExplicit
  · refine .inr ⟨stands.resolve_left ?_, endsWith, refusal, Prod.ext refuses isLast,
      Except.error.inj both⟩
    exact fun isWithin => nomatch isWithin.1.symm.trans isUndone

/-- The last statement makes the engine undo the transaction by itself. -/
def undoneByConflict : List (Text × List Json) :=
  [(.ofString "CREATE TABLE t(a INTEGER PRIMARY KEY)", []),
    (.ofString "INSERT INTO t VALUES(1)", []),
    (.ofString "INSERT OR ROLLBACK INTO t VALUES(1)", [])]

theorem undoneByConflict_areOrdinary : ∀ statement ∈ undoneByConflict,
    Storage.transactions.kind statement.1 = .ordinary := by
  decide +kernel

theorem executeTransaction_reports_conflict :
    let link : Link Storage.Store := ⟨{}, {}, {}⟩
    let opened := (Connection.ensureOpen Storage.backend.engine Storage.backend.growth link).2
    let begun := (Query.control Storage.backend "BEGIN IMMEDIATE" opened).2
    let outcome := Query.executeTransaction Storage.backend undoneByConflict link
    Storage.transactions.standing outcome.2.engine ⟨0⟩ =
        Storage.transactions.standing opened.engine ⟨0⟩ ∧
      ∃ cause failed refusal, Breaks Storage.backend undoneByConflict begun cause failed ∧
        EndsWith Storage.backend (.ofString "ROLLBACK") [] failed Status.error ∧
          outcome.1 = .error (.rollbackFailed cause.message refusal) := by
  intro link opened begun outcome
  have valid : Storage.transactions.Valid link.engine := Storage.custody_empty.1
  have runs : (Connection.ensureOpen Storage.backend.engine Storage.backend.growth
        link).1.isOk = true ∧
      opened.connection.lifecycle = .opened ⟨0⟩ ∧
        (Storage.transactions.standing opened.engine ⟨0⟩).isExplicit = false ∧
          (Query.control Storage.backend "BEGIN IMMEDIATE" opened).1.isOk = true ∧
            code? outcome.1 = some "TRANSACTION_ROLLBACK_FAILED" := by
    decide +kernel
  obtain ⟨isThere, isOpened, isOutside, isBegun, isBoth⟩ := runs
  have isClean : opened.engine.IsClean ⟨0⟩ := Storage.Store.isClean_of_all (by decide +kernel)
  have isUnopened {database : DatabaseHandle}
      (isOpened : link.connection.lifecycle = .opened database) :
      (Storage.transactions.handles link.engine).isOpen database = true := by cases isOpened
  rcases isOutcome : outcome with ⟨error | results, last⟩
  · rw [isOutcome] at isBoth
    obtain ⟨-, same, cause, failed, breaks, isOwn, ⟨-, rfl⟩ | ⟨-, endsWith, refusal, -, rfl⟩⟩ :=
      executeTransaction_reports Storage.transactions valid isUnopened rfl
        undoneByConflict_areOrdinary (eq_of_isOk isThere) isOpened isOutside (eq_of_isOk isBegun)
        isOutcome
    · exact absurd (Option.some.inj isBoth) (Error.IsOwn.code_ne isOwn)
    · exact ⟨same isClean.content_eq, cause, failed, _, breaks, endsWith, rfl⟩
  · rw [isOutcome] at isBoth
    cases isBoth

/-- The engine has undone the transaction, and nothing of it is left, but what is reported is
not the error of the statement that failed. -/
theorem executeTransaction_of_conflict :
    let link : Link Storage.Store := ⟨{}, {}, {}⟩
    let opened := (Connection.ensureOpen Storage.backend.engine Storage.backend.growth link).2
    let begun := (Query.control Storage.backend "BEGIN IMMEDIATE" opened).2
    let outcome := Query.executeTransaction Storage.backend undoneByConflict link
    let standing (link : Link Storage.Store) := Storage.transactions.standing link.engine ⟨0⟩
    link.connection.config.lenientStepStatus = false ∧
      opened.connection.lifecycle = .opened ⟨0⟩ ∧ (standing opened).isExplicit = false ∧
        (∀ statement ∈ undoneByConflict,
          Storage.transactions.kind statement.1 = .ordinary) ∧
          (Query.control Storage.backend "BEGIN IMMEDIATE" opened).1.isOk = true ∧
            (standing outcome.2).isExplicit = false ∧ standing outcome.2 = standing opened ∧
              ∃ cause failed error, Fails Storage.backend undoneByConflict begun cause failed ∧
                cause.code = "SQLITE_19" ∧ outcome.1 = .error error ∧
                  error.code = "TRANSACTION_ROLLBACK_FAILED" := by
  intro link opened begun outcome standing
  have runs : opened.connection.lifecycle = .opened ⟨0⟩ ∧
      (standing opened).isExplicit = false ∧
        (Query.control Storage.backend "BEGIN IMMEDIATE" opened).1.isOk = true ∧
          code? (executeEach Storage.backend undoneByConflict begun).1 = some "SQLITE_19" ∧
            code? outcome.1 = some "TRANSACTION_ROLLBACK_FAILED" := by
    decide +kernel
  obtain ⟨isOpened, isOutside, isBegun, isBroken, isReported⟩ := runs
  have opens : Connection.ensureOpen Storage.backend.engine Storage.backend.growth link =
      (.ok (), opened) :=
    eq_of_isOk (by decide +kernel)
  have isClean : opened.engine.IsClean ⟨0⟩ := Storage.Store.isClean_of_all (by decide +kernel)
  have valid : Storage.transactions.Valid link.engine := Storage.custody_empty.1
  obtain ⟨error, isError, isFailure⟩ := error_of_code? isReported
  obtain ⟨cause, isCause, isConflict⟩ := error_of_code? isBroken
  -- From here on it is no matter what the calls compute.
  clear_value opened
  obtain ⟨placed, sameConfig⟩ :=
    Storage.transactions.placed_of_opens valid nofun opens isOpened
  have isOutcome : outcome = Query.executeTransaction Storage.backend undoneByConflict opened :=
    executeTransaction_of_opens opens (placed.ensureOpen Storage.backend.growth) _
  have isStrict : opened.connection.config.lenientStepStatus = false := by rw [sameConfig]
  have isCommitted : (standing opened).content = (standing opened).committed := isClean.content_eq
  have same : standing outcome.2 = standing opened := by
    rw [isOutcome] at isError ⊢
    exact placed.untouched isStrict isOutside isCommitted undoneByConflict_areOrdinary isError
  have isOutsideAgain : (standing outcome.2).isExplicit = false := by rw [same, isOutside]
  refine ⟨rfl, isOpened, isOutside, undoneByConflict_areOrdinary, isBegun, isOutsideAgain, same,
    cause, _, error, fails_of_error isCause, isConflict, ?_, isFailure⟩
  exact isError

end EmbeddedSql
