import EmbeddedSql.Proofs.Call
import EmbeddedSql.Proofs.Connection.Columns

/-! The life of a connection. No call takes it back, only `dispose` ends it, and all
that it is made for is refused once it is disposed. -/

namespace EmbeddedSql

/-! ## The order of the lifecycle -/

/-- What a lifecycle can become as long as nobody disposes of the connection. -/
inductive Lifecycle.Continues : Lifecycle → Lifecycle → Prop
  | refl (lifecycle) : Continues lifecycle lifecycle
  | opening (database) : Continues .unopened (.opened database)

theorem Lifecycle.Continues.trans {first second third : Lifecycle}
    (earlier : first.Continues second) (later : second.Continues third) :
    first.Continues third := by
  cases later with
  | refl => exact earlier
  | opening =>
      cases earlier
      exact .opening _

structure Connection.Continues (before after : Connection) : Prop where
  path : after.path = before.path
  config : after.config = before.config
  lifecycle : before.lifecycle.Continues after.lifecycle

theorem Connection.Continues.isLive {before after : Connection} (continues : before.Continues after)
    (isLive : before.lifecycle ≠ .disposed) : after.lifecycle ≠ .disposed := by
  have continued := continues.lifecycle
  generalize after.lifecycle = later at continued ⊢
  generalize before.lifecycle = earlier at continued isLive
  cases continued with
  | refl => exact isLive
  | opening database => exact nofun

theorem Connection.Continues.refl (connection : Connection) :
    connection.Continues connection :=
  ⟨rfl, rfl, .refl _⟩

theorem Connection.Continues.trans {first second third : Connection}
    (earlier : first.Continues second) (later : second.Continues third) :
    first.Continues third :=
  ⟨later.path.trans earlier.path, later.config.trans earlier.config,
    earlier.lifecycle.trans later.lifecycle⟩

variable {σ ε α β : Type}

/-! ## Calls that leave a connection in use -/

namespace Call

def Advances (call : ExceptT ε (StateM (Link σ)) α) : Prop :=
  ∀ link : Link σ, link.connection.Continues (call link).2.connection

namespace Advances

theorem pure (answer : α) : Advances (σ := σ) (ε := ε) (Pure.pure answer) :=
  fun _ => .refl _

theorem throw (error : ε) : Advances (MonadExcept.throw error : ExceptT ε (StateM (Link σ)) α) :=
  fun _ => .refl _

theorem get : Advances (σ := σ) (ε := ε) MonadState.get :=
  fun _ => .refl _

theorem request (action : StateM σ α) : Advances (Call.request action) :=
  fun _ => .refl _

theorem observe (view : σ → α) : Advances (Call.observe view) :=
  fun _ => .refl _

theorem bind {call : ExceptT ε (StateM (Link σ)) α}
    {next : α → ExceptT ε (StateM (Link σ)) β}
    (first : Advances call) (rest : ∀ answer, Advances (next answer)) :
    Advances (call >>= next) := by
  intro link
  have here := first link
  rw [bind_apply]
  rcases outcome : call link with ⟨error | answer, after⟩ <;> rw [outcome] at here
  · exact here
  · exact here.trans (rest _ _)

theorem tryCatch {call : ExceptT ε (StateM (Link σ)) α}
    {handle : ε → ExceptT ε (StateM (Link σ)) α}
    (first : Advances call) (rest : ∀ error, Advances (handle error)) :
    Advances (MonadExcept.tryCatch call handle) := by
  intro link
  have here := first link
  rw [tryCatch_apply]
  rcases outcome : call link with ⟨error | answer, after⟩ <;> rw [outcome] at here
  · exact here.trans (rest _ _)
  · exact here

theorem withScratch {encode : Scratch.Pool → Scratch.Encoded × Scratch.Pool}
    {use : Scratch.Encoded → Call σ α} (inner : ∀ encoded, Advances (use encoded)) :
    Advances (Call.withScratch encode use) :=
  fun link => inner (encode link.pool).1 { link with pool := (encode link.pool).2 }

theorem ofConnection {call : Call σ α} (inner : Advances call) :
    Advances (Query.Call.ofConnection call) := by
  intro link
  have here := inner link
  unfold Query.Call.ofConnection
  rcases outcome : call link with ⟨error | answer, after⟩ <;> rw [outcome] at here <;> exact here

end Advances

/-! ## Calls that a disposed connection refuses -/

def Refuses (error : ε) (call : ExceptT ε (StateM (Link σ)) α) : Prop :=
  ∀ link : Link σ, link.connection.lifecycle = .disposed → call link = (.error error, link)

namespace Refuses

variable {error : ε}

theorem bind {call : ExceptT ε (StateM (Link σ)) α} (first : Refuses error call)
    (next : α → ExceptT ε (StateM (Link σ)) β) : Refuses error (call >>= next) :=
  fun link isDisposed => bind_of_error next (first link isDisposed)

theorem ofConnection {error : Error} {call : Call σ α} (inner : Refuses error call) :
    Refuses (.connection error) (Query.Call.ofConnection call) := by
  intro link isDisposed
  rw [Query.Call.ofConnection, inner link isDisposed]

end Refuses

end Call

/-! ## Opening, disposing and counters -/

namespace Connection

open Call

variable (engine : Engine σ) (growth : Scratch.Growth)

theorem isDisposed_iff (connection : Connection) :
    connection.isDisposed = true ↔ connection.lifecycle = .disposed := by
  simp [isDisposed]

theorem ensureNotDisposed_apply (link : Link σ) :
    ensureNotDisposed link =
      if link.connection.isDisposed then (.error .useAfterDispose, link) else (.ok (), link) := by
  unfold ensureNotDisposed
  rw [bind_apply, get_apply]
  dsimp only
  split <;> rfl

theorem ensureNotDisposed_of_live {link : Link σ} (isLive : link.connection.isDisposed = false) :
    ensureNotDisposed link = (.ok (), link) := by
  rw [ensureNotDisposed_apply, if_neg (by simp [isLive])]

theorem ensureNotDisposed_advances : Advances (ensureNotDisposed (σ := σ)) := by
  intro link
  rw [ensureNotDisposed_apply]
  split <;> exact .refl _

theorem ensureNotDisposed_refuses : Refuses .useAfterDispose (ensureNotDisposed (σ := σ)) := by
  intro link isDisposed
  rw [ensureNotDisposed_apply, if_pos ((isDisposed_iff _).mpr isDisposed)]

theorem openPath_continues (path : Scratch.Encoded) (link : Link σ)
    (isUnopened : link.connection.lifecycle = .unopened) :
    link.connection.Continues (openPath engine path link).2.connection := by
  unfold openPath
  rw [bind_apply, get_apply]
  dsimp only
  cases path.cString? with
  | none => exact .refl _
  | some bytes =>
      dsimp only
      rw [bind_apply, request_apply]
      dsimp only
      rcases (engine.openDatabase bytes link.connection.config.openMode link.engine).1 with
        ⟨_ | database, code⟩
      · exact .refl _
      · by_cases isOk : code = Status.ok
        · simp only [isOk, if_true]
          exact ⟨rfl, rfl, isUnopened ▸ .opening database⟩
        · simp only [isOk, if_false]
          exact .refl _

theorem ensureOpen_advances : Advances (ensureOpen engine growth) := by
  intro link
  unfold ensureOpen
  rw [bind_apply, get_apply]
  dsimp only
  cases isLifecycle : link.connection.lifecycle with
  | disposed => exact .refl _
  | opened database => exact .refl _
  | unopened =>
      let rented := Scratch.Encoded.ofUtf8Terminated growth
        (Utf8.ofString link.connection.path) link.pool
      exact openPath_continues engine rented.1 { link with pool := rented.2 } isLifecycle

theorem ensureOpen_refuses : Refuses .useAfterDispose (ensureOpen engine growth) := by
  intro link isDisposed
  unfold ensureOpen
  rw [bind_apply, get_apply]
  simp only [isDisposed]
  rfl

theorem ensureOpen_of_opened {link : Link σ} {handle : DatabaseHandle}
    (isOpened : link.connection.lifecycle = .opened handle) :
    ensureOpen engine growth link = (.ok (), link) := by
  unfold ensureOpen
  rw [bind_apply, get_apply]
  simp only [isOpened]
  rfl

theorem database_of_opened {link : Link σ} {handle : DatabaseHandle}
    (isOpened : link.connection.lifecycle = .opened handle) :
    database engine growth link = (.ok handle, link) := by
  unfold database
  rw [bind_of_ok _ (ensureOpen_of_opened engine growth isOpened), bind_apply, get_apply]
  simp only [isOpened]
  rfl

theorem database_advances : Advances (database engine growth) := by
  refine (ensureOpen_advances engine growth).bind fun _ => Advances.get.bind fun link => ?_
  split
  · exact .pure _
  · exact .throw _

theorem database_refuses : Refuses .useAfterDispose (database engine growth) :=
  (ensureOpen_refuses engine growth).bind _

theorem finalizeListed_apply (database : DatabaseHandle) (limit : Nat) (link : Link σ) :
    ∃ state, finalizeListed engine database limit link = (.ok (), { link with engine := state }) := by
  induction limit generalizing link with
  | zero => exact ⟨link.engine, rfl⟩
  | succ limit induction =>
      unfold finalizeListed
      rw [bind_apply, observe_apply]
      dsimp only
      cases (engine.statements database link.engine).head? with
      | none => exact ⟨link.engine, rfl⟩
      | some statement =>
          dsimp only
          rw [bind_apply, request_apply]
          exact induction _

theorem dispose_of_live {link : Link σ} (isLive : link.connection.lifecycle ≠ .disposed) :
    ∃ state, dispose engine link =
      (.ok (), { link with
        connection := { link.connection with lifecycle := .disposed }, engine := state }) := by
  unfold dispose setLifecycle
  rw [bind_apply, get_apply]
  dsimp only
  rw [bind_apply, modify_apply]
  dsimp only
  cases isLifecycle : link.connection.lifecycle with
  | disposed => exact absurd isLifecycle isLive
  | unopened => exact ⟨link.engine, rfl⟩
  | opened database =>
      dsimp only
      rw [bind_apply, observe_apply]
      dsimp only
      rw [bind_apply]
      rcases finalizeListed_apply engine database
        (engine.statements database link.engine).length
        { link with connection := { link.connection with lifecycle := .disposed } }
        with ⟨state, swept⟩
      rw [swept]
      exact ⟨_, rfl⟩

theorem dispose_refuses : Refuses .useAfterDispose (dispose engine) := by
  intro link isDisposed
  rcases link with ⟨⟨path, config, lifecycle⟩, pool, state⟩
  subst isDisposed
  rfl

theorem ensureFits_apply (sql : Text) (link : Link σ) :
    ensureFits engine sql link =
      if Engine.maxLength < sql.byteLength then (.error (tooLong engine), link)
      else (.ok (), link) := by
  unfold ensureFits
  split <;> rfl

theorem ensureFits_of_le {sql : Text} (fits : sql.byteLength ≤ Engine.maxLength)
    (link : Link σ) : ensureFits engine sql link = (.ok (), link) := by
  rw [ensureFits_apply, if_neg (Nat.not_lt.mpr fits)]

theorem ensureFits_ends {sql : Text} {next : Unit → Call σ α} {link : Link σ}
    {failed : Error → Link σ → Prop} {answered : α → Link σ → Prop}
    (refused : failed (tooLong engine) link) (rest : Ends (next () link) failed answered) :
    Ends ((ensureFits engine sql >>= next) link) failed answered := by
  rw [bind_apply, ensureFits_apply]
  by_cases isLong : Engine.maxLength < sql.byteLength
  · rw [if_pos isLong]
    exact refused
  · rw [if_neg isLong]
    exact rest

theorem ensureFits_advances (sql : Text) : Advances (ensureFits engine sql) := by
  intro link
  rw [ensureFits_apply]
  split <;> exact .refl _

theorem prepare_advances (sql : Text) : Advances (prepare engine growth sql) := by
  refine (database_advances engine growth).bind fun database =>
    (ensureFits_advances engine sql).bind fun _ =>
      (Advances.request _).bind fun ⟨code, statement?⟩ => ?_
  dsimp only
  split
  · refine (Advances.observe _).bind fun message => (Advances.throw _).bind fun _ => ?_
    split
    · exact .pure _
    · exact .throw _
  · split
    · exact .pure _
    · exact .throw _

theorem prepare_refuses (sql : Text) : Refuses .useAfterDispose (prepare engine growth sql) :=
  (database_refuses engine growth).bind _

theorem changes_advances : Advances (changes engine growth) :=
  (database_advances engine growth).bind fun _ => .observe _

theorem changes_refuses : Refuses .useAfterDispose (changes engine growth) :=
  (database_refuses engine growth).bind _

theorem lastInsertRowid_advances : Advances (lastInsertRowid engine growth) :=
  (database_advances engine growth).bind fun _ => .observe _

theorem lastInsertRowid_refuses : Refuses .useAfterDispose (lastInsertRowid engine growth) :=
  (database_refuses engine growth).bind _

theorem pendingStatements_advances : Advances (pendingStatements engine) := by
  refine Advances.get.bind fun link => ?_
  split
  · exact .throw _
  · exact .pure _
  · exact (Advances.observe _).bind fun _ => .pure _

theorem pendingStatements_apply (link : Link σ) :
    pendingStatements engine link =
      (match link.connection.lifecycle with
        | .disposed => .error .useAfterDispose
        | .unopened => .ok 0
        | .opened database => .ok (engine.statements database link.engine).length, link) := by
  unfold pendingStatements
  rw [bind_apply, get_apply]
  dsimp only
  cases link.connection.lifecycle <;> rfl

theorem pendingStatements_refuses : Refuses .useAfterDispose (pendingStatements engine) := by
  intro link isDisposed
  rw [pendingStatements_apply, isDisposed]

end Connection

/-! ## Parameters -/

namespace Parameter

open Call Connection

variable (engine : Engine σ) (growth : Scratch.Growth) (statement : StatementHandle)

theorem count_advances : Advances (count engine statement) :=
  ensureNotDisposed_advances.bind fun _ => .observe _

theorem count_refuses : Refuses .useAfterDispose (count engine statement) :=
  ensureNotDisposed_refuses.bind _

theorem check_advances (code : Int) : Advances (check (σ := σ) code) := by
  unfold check
  split
  · exact .pure _
  · exact .throw _

theorem clear_advances : Advances (clear engine statement) :=
  ensureNotDisposed_advances.bind fun _ => (Advances.request _).bind check_advances

theorem clear_refuses : Refuses .useAfterDispose (clear engine statement) :=
  ensureNotDisposed_refuses.bind _

theorem nameOf_advances (index : Int32) : Advances (nameOf engine statement index) :=
  ensureNotDisposed_advances.bind fun _ => (Advances.observe _).bind fun _ => .pure _

theorem nameOf_refuses (index : Int32) :
    Refuses .useAfterDispose (nameOf engine statement index) :=
  ensureNotDisposed_refuses.bind _

theorem lookUp_advances (name : Scratch.Encoded) : Advances (lookUp engine statement name) := by
  unfold lookUp
  split
  · exact .observe _
  · exact .pure _

theorem resolve_advances (parameter : Parameter) :
    Advances (resolve engine growth statement parameter) := by
  refine ensureNotDisposed_advances.bind fun _ => ?_
  split
  · exact .pure _
  · exact .withScratch (lookUp_advances engine statement)
  · exact .withScratch (lookUp_advances engine statement)

theorem resolve_refuses (parameter : Parameter) :
    Refuses .useAfterDispose (resolve engine growth statement parameter) :=
  ensureNotDisposed_refuses.bind _

theorem bind_advances (parameter : Parameter) (argument : Argument) :
    Advances (bind engine growth statement parameter argument) :=
  (resolve_advances engine growth statement parameter).bind fun _ =>
    (Advances.request _).bind check_advances

theorem bind_refuses (parameter : Parameter) (argument : Argument) :
    Refuses .useAfterDispose (bind engine growth statement parameter argument) :=
  (resolve_refuses engine growth statement parameter).bind _

theorem bindText_advances (parameter : Parameter) (text : Text) :
    Advances (bindText engine growth statement parameter text) := by
  refine (resolve_advances engine growth statement parameter).bind fun _ => ?_
  split
  · exact (Advances.request _).bind check_advances
  · exact .withScratch fun _ => (Advances.request _).bind check_advances

theorem bindText_refuses (parameter : Parameter) (text : Text) :
    Refuses .useAfterDispose (bindText engine growth statement parameter text) :=
  (resolve_refuses engine growth statement parameter).bind _

end Parameter

/-! ## Readers -/

namespace Reader

variable (engine : Engine σ) (reader : Reader)

theorem read_connection (link : Link σ) :
    (reader.read engine link).2.connection = link.connection := by
  unfold read
  split
  · rfl
  split <;> rfl

theorem read_of_disposed {link : Link σ} (isDisposed : link.connection.lifecycle = .disposed) :
    reader.read engine link = ((.error .useAfterDispose, reader), link) := by
  rw [read, if_pos ((Connection.isDisposed_iff _).mpr isDisposed)]

theorem dispose_connection (link : Link σ) :
    (reader.dispose engine link).connection = link.connection := by
  unfold dispose
  split
  · rfl
  split <;> rfl

theorem gather_keeps {backend : Backend σ} {wanted : β → Bool}
    {take : Reader → Link σ → β → Except ε β} {lift : Error → ε}
    {Holds : Reader → Link σ → Prop} {reader : Reader} {gathered : β} {link : Link σ}
    (step : ∀ reader link, Holds reader link →
      Holds (reader.read backend.engine link).1.2 (reader.read backend.engine link).2)
    (holds : Holds reader link) :
    Holds (reader.gather backend wanted take lift gathered link).1.2
      (reader.gather backend wanted take lift gathered link).2 := by
  fun_induction Reader.gather with
  | case1 reader gathered link _ error next after outcome =>
      have here := step reader link holds
      rwa [outcome] at here
  | case2 reader gathered link _ next after outcome =>
      have here := step reader link holds
      rwa [outcome] at here
  | case3 reader gathered link _ next after outcome =>
      have here := step reader link holds
      rwa [outcome] at here
  | case4 reader gathered link _ next after outcome more _ induction =>
      have here := step reader link holds
      rw [outcome] at here
      exact induction here
  | case5 => exact holds

theorem gather_connection (backend : Backend σ) (wanted : β → Bool)
    (take : Reader → Link σ → β → Except ε β) (lift : Error → ε) (gathered : β)
    (link : Link σ) :
    (reader.gather backend wanted take lift gathered link).2.connection = link.connection := by
  let holds (_ : Reader) (after : Link σ) : Prop := after.connection = link.connection
  have start : holds reader link := rfl
  exact gather_keeps (fun reader after (same : holds reader after) =>
    (reader.read_connection backend.engine after).trans same) start

theorem gather_reader (backend : Backend σ) (wanted : β → Bool)
    (take : Reader → Link σ → β → Except ε β) (lift : Error → ε) (gathered : β)
    (link : Link σ) :
    (reader.gather backend wanted take lift gathered link).1.2.statement = reader.statement ∧
      (reader.gather backend wanted take lift gathered link).1.2.release = reader.release := by
  let holds (next : Reader) (_ : Link σ) : Prop :=
    next.statement = reader.statement ∧ next.release = reader.release
  have start : holds reader link := ⟨rfl, rfl⟩
  exact gather_keeps (fun next after (same : holds next after) =>
    ⟨(next.read_statement backend.engine after).trans same.1,
      (next.read_release backend.engine after).trans same.2⟩) start

end Reader

/-! ## Columns

Whatever is asked of a reader of a disposed connection, the answer is the same. -/

namespace Reader

variable (engine : Engine σ) (reader : Reader) (column : Nat) {link : Link σ}

section
variable (isDisposed : link.connection.lifecycle = .disposed)
include isDisposed

theorem columnCount_of_disposed :
    reader.columnCount engine link = .error .useAfterDispose := by
  rw [columnCount, if_pos ((Connection.isDisposed_iff _).mpr isDisposed)]

theorem columnIndex_of_disposed :
    reader.columnIndex engine column link = .error .useAfterDispose := by
  rw [columnIndex, if_pos ((Connection.isDisposed_iff _).mpr isDisposed)]

theorem name_of_disposed : reader.name engine column link = .error .useAfterDispose := by
  rw [name, columnIndex_of_disposed engine reader column isDisposed]
  rfl

theorem cell_of_disposed : reader.cell engine column link = .error .useAfterDispose := by
  rw [cell, rowColumn, if_pos ((Connection.isDisposed_iff _).mpr isDisposed)]
  rfl

end

end Reader

/-! ## Commands -/

namespace Command

open Call Connection

variable (backend : Backend σ) (command : Command)

theorem executeReader_advances : Advances (command.executeReader (σ := σ)) :=
  ensureNotDisposed_advances.bind fun _ => .pure _

theorem executeReader_link (link : Link σ) : (command.executeReader link).2 = link := by
  unfold executeReader
  rw [bind_apply, ensureNotDisposed_apply]
  by_cases isDisposed : link.connection.isDisposed = true
  · rw [if_pos isDisposed]
  · rw [if_neg isDisposed]
    rfl

theorem executeReader_refuses :
    Refuses .useAfterDispose (command.executeReader (σ := σ)) :=
  ensureNotDisposed_refuses.bind _

theorem executeNonQuery_advances : Advances (command.executeNonQuery backend) := by
  refine command.executeReader_advances.bind fun reader link => ?_
  have same := (reader.gather backend (fun _ => true) (fun _ _ count => .ok (count + 1)) id 0
    link).1.2.dispose_connection backend.engine
      (reader.gather backend (fun _ => true) (fun _ _ count => .ok (count + 1)) id 0 link).2
  rw [Reader.gather_connection] at same
  exact same ▸ .refl _

theorem executeNonQuery_refuses : Refuses .useAfterDispose (command.executeNonQuery backend) :=
  command.executeReader_refuses.bind _

theorem sql_advances : Advances (command.sql backend) :=
  ensureNotDisposed_advances.bind fun _ => (Advances.observe _).bind fun _ => .pure _

theorem sql_refuses : Refuses .useAfterDispose (command.sql backend) :=
  ensureNotDisposed_refuses.bind _

theorem finalize_advances : Advances (command.finalize backend) := by
  refine ensureNotDisposed_advances.bind fun _ => (Advances.request _).bind fun _ => ?_
  split
  · exact .throw _
  · exact .pure _

theorem finalize_refuses : Refuses .useAfterDispose (command.finalize backend) :=
  ensureNotDisposed_refuses.bind _

theorem drop_connection (link : Link σ) :
    (command.drop backend link).connection = link.connection := by
  unfold drop
  split <;> rfl

theorem dropOnError_advances {use : ExceptT ε (StateM (Link σ)) α} (inner : Advances use) :
    Advances (command.dropOnError backend use) := by
  intro link
  have here := inner link
  unfold dropOnError
  rcases outcome : use link with ⟨error | answer, after⟩ <;> rw [outcome] at here
  · exact (command.drop_connection backend after) ▸ here
  · exact here

end Command

namespace Connection

open Call

variable (backend : Backend σ)

theorem createCommand_advances (sql : Text) : Advances (createCommand backend sql) :=
  (prepare_advances backend.engine backend.growth sql).bind fun _ => .pure _

theorem createCommand_refuses (sql : Text) :
    Refuses .useAfterDispose (createCommand backend sql) :=
  (prepare_refuses backend.engine backend.growth sql).bind _

theorem executeNonQuery_advances (sql : Text) : Advances (executeNonQuery backend sql) :=
  (createCommand_advances backend sql).bind fun command =>
    (command.dropOnError_advances backend (command.executeNonQuery_advances backend)).bind
      fun _ => (command.finalize_advances backend).bind fun _ => .pure _

theorem executeNonQuery_refuses (sql : Text) :
    Refuses .useAfterDispose (executeNonQuery backend sql) :=
  (createCommand_refuses backend sql).bind _

theorem executeReader_advances (sql : Text) : Advances (executeReader backend sql) :=
  (prepare_advances backend.engine backend.growth sql).bind fun _ => .pure _

theorem executeReader_refuses (sql : Text) :
    Refuses .useAfterDispose (executeReader backend sql) :=
  (prepare_refuses backend.engine backend.growth sql).bind _

end Connection

end EmbeddedSql
