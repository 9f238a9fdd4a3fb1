import EmbeddedSql.Proofs.Connection.Recovering
import EmbeddedSql.Proofs.Connection.Transactions
import EmbeddedSql.Proofs.Connection.Ways

/-! Calls that open the database of a connection, and what comes of it when it does not open or a
text does not compile. -/

namespace EmbeddedSql

variable {σ ε α β : Type}

/-! ## Databases that do not open -/

def Engine.openError? (engine : Engine σ) (connection : Connection) (state : σ) : Option Error :=
  let path := Utf8.ofString connection.path
  if path.contains 0 then
    some (.openFailed Status.cannotOpen connection.path "path contains an interior NUL byte")
  else
    let ((database?, code), after) := engine.openDatabase path connection.config.openMode state
    match database? with
    | none =>
        let code := if code = Status.ok then Status.noMemory else code
        some (.openFailed code connection.path (Utf8.toString (engine.codeMessage code)))
    | some database =>
        if code = Status.ok then none
        else
          let message := engine.errorMessage database after
          some (.openFailed code connection.path (Utf8.toString message))

/-- The code that comes with the reason. The engine's own is passed on, unless it has neither a
database nor an error. -/
def Engine.refusalCode (engine : Engine σ) (connection : Connection) (state : σ) : Int :=
  let path := Utf8.ofString connection.path
  if path.contains 0 then Status.cannotOpen
  else
    let code := (engine.openDatabase path connection.config.openMode state).1.2
    if code = Status.ok then Status.noMemory else code

theorem Engine.refusalCode_ne_ok (engine : Engine σ) (connection : Connection) (state : σ) :
    engine.refusalCode connection state ≠ Status.ok := by
  unfold refusalCode
  dsimp only
  split
  · decide
  · split
    · decide
    · assumption

theorem Engine.code_of_openError {engine : Engine σ} {connection : Connection} {state : σ}
    {error : Error} (isError : engine.openError? connection state = some error) :
    ∃ message,
      error = .openFailed (engine.refusalCode connection state) connection.path message := by
  unfold openError? at isError
  unfold refusalCode
  dsimp only at isError ⊢
  by_cases hasNul : (Utf8.ofString connection.path).contains 0 = true
  · rw [if_pos hasNul] at isError ⊢
    cases isError
    exact ⟨_, rfl⟩
  rw [if_neg hasNul] at isError ⊢
  generalize engine.openDatabase _ _ _ = outcome at isError ⊢
  rcases outcome with ⟨⟨_ | database, code⟩, after⟩
  · cases isError
    exact ⟨_, rfl⟩
  · dsimp only at isError ⊢
    by_cases isOk : code = Status.ok
    · rw [if_pos isOk] at isError
      cases isError
    · rw [if_neg isOk] at isError ⊢
      cases isError
      exact ⟨_, rfl⟩

/-- The pool after a path has been in one of its buffers, which is given back. -/
def Scratch.Pool.afterPath (growth : Growth) (path : String) (pool : Pool) : Pool :=
  let (encoded, pool) := Encoded.ofUtf8Terminated growth (Utf8.ofString path) pool
  pool.giveBack encoded.buffer

section
variable {engine : Engine σ} (laws : Recovering engine) (growth : Scratch.Growth) {link : Link σ}
  (isUnopened : link.connection.lifecycle = .unopened)
include isUnopened

theorem Connection.ensureOpen_of_unopened (engine : Engine σ) (growth : Scratch.Growth) :
    ∃ pool encoded, (encoded : Scratch.Encoded).cString? =
        (if (Utf8.ofString link.connection.path).contains 0 then none
        else some (Utf8.ofString link.connection.path)) ∧
      Connection.ensureOpen engine growth link =
        ((Connection.openPath engine encoded { link with pool }).1,
          { (Connection.openPath engine encoded { link with pool }).2 with
            pool := (Connection.openPath engine encoded { link with pool }).2.pool.giveBack
              encoded.buffer }) ∧
      pool.giveBack encoded.buffer = link.pool.afterPath growth link.connection.path := by
  refine ⟨_, _, Scratch.Encoded.cString?_of_bytes rfl (Scratch.Encoded.ofUtf8Terminated_bytes
    growth (Utf8.ofString link.connection.path) link.pool), ?_, rfl⟩
  unfold Connection.ensureOpen
  rw [Call.bind_apply, Call.get_apply]
  dsimp only
  rw [isUnopened]
  rfl

/-- Nothing is left of an attempt but what the engine said. -/
theorem Connection.ensureOpen_of_openError (valid : laws.Valid link.engine) {error : Error}
    (isError : engine.openError? link.connection link.engine = some error) :
    ∃ state rename,
      Connection.ensureOpen engine growth link =
          (.error error,
            { link with
              engine := state
              pool := link.pool.afterPath growth link.connection.path }) ∧
        laws.Shows state (laws.handles link.engine) ∧
          (∀ other, (laws.handles link.engine).isOpen other = true → rename other = other) ∧
            laws.Resembles rename link.engine state := by
  obtain ⟨pool, encoded, isPath, opens, isGivenBack⟩ :=
    Connection.ensureOpen_of_unopened isUnopened engine growth
  rw [opens, ← isGivenBack]
  unfold Engine.openError? at isError
  unfold Connection.openPath
  rw [Call.bind_apply, Call.get_apply]
  dsimp only at isError ⊢
  rw [isPath]
  by_cases hasNul : (Utf8.ofString link.connection.path).contains 0 = true
  · rw [if_pos hasNul] at isError ⊢
    cases isError
    exact ⟨link.engine, .refl _, rfl, ⟨valid, rfl⟩, fun _ _ => rfl, laws.resembles_itself _⟩
  rw [if_neg hasNul] at isError ⊢
  dsimp only
  rw [Call.bind_apply, Call.request_apply]
  dsimp only
  have isUnopened := @laws.unopened link.engine (Utf8.ofString link.connection.path)
    link.connection.config.openMode valid
  have isOpened := @laws.opened link.engine (Utf8.ofString link.connection.path)
    link.connection.config.openMode
  have forgetsNone := @laws.forgets_unopened link.engine (Utf8.ofString link.connection.path)
    link.connection.config.openMode valid
  have forgetsSome := @laws.forgets_opened link.engine (Utf8.ofString link.connection.path)
    link.connection.config.openMode
  rcases opens : engine.openDatabase (Utf8.ofString link.connection.path)
    link.connection.config.openMode link.engine with ⟨⟨_ | database, code⟩, after⟩ <;>
    rw [opens] at isError isUnopened isOpened forgetsNone forgetsSome <;> dsimp only at isError
  case none =>
    cases isError
    obtain ⟨rename, fixes, resembles⟩ := forgetsNone rfl
    exact ⟨after, rename, rfl, isUnopened rfl, fixes, resembles⟩
  case some =>
    by_cases isOk : code = Status.ok
    · rw [if_pos isOk] at isError
      cases isError
    rw [if_neg isOk] at isError
    cases isError
    obtain ⟨rename, fixes, resembles⟩ := forgetsSome valid rfl isOk
    obtain ⟨isClosed, validAfter, shows⟩ := isOpened valid rfl
    have isIdle : (laws.handles after).IsIdle database := by
      intro statement isOwner
      rw [shows, Handles.opening_owner?] at isOwner
      rw [laws.isOpen_of_owner valid isOwner] at isClosed
      cases isClosed
    have closes := laws.closed validAfter (shows ▸ Handles.opening_isOpen_self _ _) isIdle
    rw [shows, Handles.closing_opening isClosed] at closes
    dsimp only
    rw [if_neg isOk]
    exact ⟨_, rename, rfl, closes, fixes, resembles⟩

theorem Connection.ensureOpen_of_opens
    (isOpened : engine.openError? link.connection link.engine = none) :
    ∃ database,
      (engine.openDatabase (Utf8.ofString link.connection.path) link.connection.config.openMode
          link.engine).1 = (some database, Status.ok) ∧
        Connection.ensureOpen engine growth link =
          (.ok (),
            { connection := { link.connection with lifecycle := .opened database }
              pool := link.pool.afterPath growth link.connection.path
              engine := (engine.openDatabase (Utf8.ofString link.connection.path)
                link.connection.config.openMode link.engine).2 }) := by
  obtain ⟨pool, encoded, isPath, opens, isGivenBack⟩ :=
    Connection.ensureOpen_of_unopened isUnopened engine growth
  rw [opens, ← isGivenBack]
  unfold Engine.openError? at isOpened
  unfold Connection.openPath
  rw [Call.bind_apply, Call.get_apply]
  dsimp only at isOpened ⊢
  rw [isPath]
  by_cases hasNul : (Utf8.ofString link.connection.path).contains 0 = true
  · rw [if_pos hasNul] at isOpened
    cases isOpened
  rw [if_neg hasNul] at isOpened ⊢
  dsimp only
  rw [Call.bind_apply, Call.request_apply]
  dsimp only
  rcases outcome : engine.openDatabase (Utf8.ofString link.connection.path)
    link.connection.config.openMode link.engine with ⟨⟨_ | database, code⟩, after⟩ <;>
    rw [outcome] at isOpened <;> dsimp only at isOpened
  · cases isOpened
  · by_cases isOk : code = Status.ok
    · dsimp only
      rw [if_pos isOk, isOk]
      exact ⟨database, rfl, rfl⟩
    · rw [if_neg isOk] at isOpened
      cases isOpened

end

/-- What opening comes to, by where the connection is in its life. -/
inductive Connection.Opening {engine : Engine σ} (laws : Recovering engine)
    (growth : Scratch.Growth) (link : Link σ) : Except Error Unit × Link σ → Prop
  | refused : link.connection.lifecycle = .disposed →
      Opening laws growth link (.error .useAfterDispose, link)
  | already {database : DatabaseHandle} : link.connection.lifecycle = .opened database →
      Opening laws growth link (.ok (), link)
  | failed {error : Error} {state : σ} : link.connection.lifecycle = .unopened →
      engine.openError? link.connection link.engine = some error →
        Opening laws growth link
          (.error error,
            { link with
              engine := state
              pool := link.pool.afterPath growth link.connection.path })
  | opened {database : DatabaseHandle} : link.connection.lifecycle = .unopened →
      (engine.openDatabase (Utf8.ofString link.connection.path) link.connection.config.openMode
          link.engine).1 = (some database, Status.ok) →
        Opening laws growth link
          (.ok (),
            { connection := { link.connection with lifecycle := .opened database }
              pool := link.pool.afterPath growth link.connection.path
              engine := (engine.openDatabase (Utf8.ofString link.connection.path)
                link.connection.config.openMode link.engine).2 })

theorem Connection.ensureOpen_opening {engine : Engine σ} (laws : Recovering engine)
    (growth : Scratch.Growth) {link : Link σ} (valid : laws.Valid link.engine) :
    Opening laws growth link (ensureOpen engine growth link) := by
  cases isLifecycle : link.connection.lifecycle with
  | disposed =>
      rw [ensureOpen_refuses engine growth link isLifecycle]
      exact .refused isLifecycle
  | opened database =>
      rw [ensureOpen_of_opened engine growth isLifecycle]
      exact .already isLifecycle
  | unopened =>
      cases isError : engine.openError? link.connection link.engine with
      | some error =>
          obtain ⟨state, rename, fails, -⟩ :=
            ensureOpen_of_openError laws growth isLifecycle valid isError
          rw [fails]
          exact .failed isLifecycle isError
      | none =>
          obtain ⟨database, isOpened, opens⟩ := ensureOpen_of_opens growth isLifecycle isError
          rw [opens]
          exact .opened isLifecycle isOpened

/-! ## Texts that do not compile -/

theorem Engine.prepare_of_compileError {engine : Engine σ} (custody : Custody engine)
    {state : σ} {database : DatabaseHandle} {sql : Text} {error : Error}
    (valid : custody.Valid state) (isOpen : (custody.handles state).isOpen database = true)
    (fits : sql.byteLength ≤ maxLength)
    (isError : engine.compileError? database sql state = some error) :
    (engine.prepare database sql state).1.2 = none := by
  have isOk {statement : StatementHandle} :
      (engine.prepare database sql state).1.2 = some statement →
        (engine.prepare database sql state).1.1 = Status.ok :=
    fun isPrepared => (custody.prepared valid isOpen isPrepared).1
  unfold compileError? at isError
  rw [if_neg (Nat.not_lt.mpr fits)] at isError
  generalize engine.prepare database sql state = outcome at isOk isError ⊢
  rcases outcome with ⟨⟨code, _ | statement⟩, after⟩
  · rfl
  · have sameCode : code = Status.ok := isOk rfl
    simp [sameCode] at isError

/-! ## Calls that need the database -/

/-- The call opens the database first, and then compiles the text, if there is one. -/
structure Call.NeedsDatabase (backend : Backend σ) (sql? : Option Text) (wrap : Error → ε)
    (call : ExceptT ε (StateM (Link σ)) α) : Prop where
  unopened : ∀ {link last error},
    Connection.ensureOpen backend.engine backend.growth link = (.error error, last) →
      call link = (.error (wrap error), last)
  opened : ∀ {link opened},
    Connection.ensureOpen backend.engine backend.growth link = (.ok (), opened) →
      Connection.ensureOpen backend.engine backend.growth opened = (.ok (), opened) →
        call link = call opened
  unprepared : ∀ {sql link last error}, sql? = some sql →
    Connection.prepare backend.engine backend.growth sql link = (.error error, last) →
      call link = (.error (wrap error), last)

namespace Call.NeedsDatabase

variable {backend : Backend σ} {sql? : Option Text} {wrap : Error → ε}

theorem bind {call : ExceptT ε (StateM (Link σ)) α} (needs : NeedsDatabase backend sql? wrap call)
    (next : α → ExceptT ε (StateM (Link σ)) β) :
    NeedsDatabase backend sql? wrap (call >>= next) where
  unopened fails := Call.bind_of_error next (needs.unopened fails)
  opened opens again := by rw [Call.bind_apply, Call.bind_apply, needs.opened opens again]
  unprepared isText fails := Call.bind_of_error next (needs.unprepared isText fails)

theorem ofConnection {call : Call σ α} (needs : NeedsDatabase backend sql? id call) :
    NeedsDatabase backend sql? Query.Error.connection (Query.Call.ofConnection call) where
  unopened fails := by
    unfold Query.Call.ofConnection
    rw [needs.unopened fails]
    rfl
  opened opens again := by
    unfold Query.Call.ofConnection
    rw [needs.opened opens again]
  unprepared isText fails := by
    unfold Query.Call.ofConnection
    rw [needs.unprepared isText fails]
    rfl

theorem withoutText {call : ExceptT ε (StateM (Link σ)) α}
    (needs : NeedsDatabase backend sql? wrap call) : NeedsDatabase backend none wrap call where
  unopened := needs.unopened
  opened := needs.opened
  unprepared isText := by cases isText

variable (backend)

theorem ensureOpen :
    NeedsDatabase backend none id (Connection.ensureOpen backend.engine backend.growth) where
  unopened fails := fails
  opened opens again := opens.trans again.symm
  unprepared isText := by cases isText

theorem changes : NeedsDatabase backend none id (Connection.changes backend.engine backend.growth) :=
  ((ensureOpen backend).bind _).bind _

theorem lastInsertRowid :
    NeedsDatabase backend none id (Connection.lastInsertRowid backend.engine backend.growth) :=
  ((ensureOpen backend).bind _).bind _

variable (sql : Text) (values : List Json)

theorem prepare :
    NeedsDatabase backend (some sql) id (Connection.prepare backend.engine backend.growth sql) where
  unopened fails := Transactions.prepare_of_unopened _ fails sql
  opened opens again := Transactions.prepare_of_opens _ opens again sql
  unprepared isText fails := by
    obtain rfl := Option.some.inj isText
    exact fails

theorem createCommand :
    NeedsDatabase backend (some sql) id (Connection.createCommand backend sql) :=
  (prepare backend sql).bind _

theorem executeReader :
    NeedsDatabase backend (some sql) id (Connection.executeReader backend sql) :=
  (prepare backend sql).bind _

theorem executeNonQuery :
    NeedsDatabase backend (some sql) id (Connection.executeNonQuery backend sql) :=
  (createCommand backend sql).bind _

theorem prepareQuery :
    NeedsDatabase backend (some sql) Query.Error.connection (Query.prepare backend sql values) :=
  (createCommand backend sql).ofConnection.bind _

theorem execute :
    NeedsDatabase backend (some sql) Query.Error.connection (Query.execute backend sql values) :=
  (prepareQuery backend sql values).bind _

theorem fetchAll :
    NeedsDatabase backend (some sql) Query.Error.connection (Query.fetchAll backend sql values) :=
  (prepareQuery backend sql values).bind _

theorem fetchOne :
    NeedsDatabase backend (some sql) Query.Error.connection (Query.fetchOne backend sql values) :=
  ((prepareQuery backend sql values).bind _).bind _

theorem executeTransaction (statements : List (Text × List Json)) :
    NeedsDatabase backend none Query.Error.connection
      (Query.executeTransaction backend statements) :=
  (((executeNonQuery backend _).ofConnection.bind _).bind _).withoutText

end Call.NeedsDatabase

end EmbeddedSql
