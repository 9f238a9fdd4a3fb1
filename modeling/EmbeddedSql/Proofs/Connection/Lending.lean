import EmbeddedSql.Proofs.Connection.Opening
import EmbeddedSql.Proofs.Query.Lifecycle
import EmbeddedSql.Proofs.Scratch.Pool

/-! The buffers that a call needs for the texts that it passes on: a path, the name of a parameter,
a wide value. All the others leave the pool alone. -/

namespace EmbeddedSql

variable {σ ε α β : Type}

/-! ## Calls that need no buffers -/

theorem Command.drop_pool (backend : Backend σ) (command : Command) (link : Link σ) :
    (command.drop backend link).pool = link.pool := by
  simp only [drop]
  split <;> rfl

namespace Call

/-- The pool is as it was, and the connection is where it may be. -/
structure Left (Allowed : Lifecycle → Prop) (link last : Link σ) : Prop where
  pool : last.pool = link.pool
  allowed : Allowed last.connection.lifecycle

/-- A connection that is where it may be stays there, and the call leaves the pool alone. -/
def LeavesPool (Allowed : Lifecycle → Prop) (call : ExceptT ε (StateM (Link σ)) α) : Prop :=
  ∀ link, Allowed link.connection.lifecycle →
    Ends (call link) (fun _ => Left Allowed link) fun _ => Left Allowed link

namespace LeavesPool

variable {Allowed : Lifecycle → Prop} {call : ExceptT ε (StateM (Link σ)) α}

theorem left (leaves : LeavesPool Allowed call) {link : Link σ}
    (allowed : Allowed link.connection.lifecycle) : Left Allowed link (call link).2 := by
  have ends := leaves link allowed
  rcases outcome : call link with ⟨error | answer, last⟩ <;> rw [outcome] at ends <;> exact ends

theorem pure (answer : α) : LeavesPool (σ := σ) (ε := ε) Allowed (Pure.pure answer) :=
  fun _ allowed => ⟨rfl, allowed⟩

theorem throw (error : ε) :
    LeavesPool Allowed (MonadExcept.throw error : ExceptT ε (StateM (Link σ)) α) :=
  fun _ allowed => ⟨rfl, allowed⟩

theorem request (action : StateM σ α) : LeavesPool Allowed (Call.request action) :=
  fun _ allowed => ⟨rfl, allowed⟩

theorem observe (view : σ → α) : LeavesPool Allowed (Call.observe view) :=
  fun _ allowed => ⟨rfl, allowed⟩

theorem bind {next : α → ExceptT ε (StateM (Link σ)) β} (first : LeavesPool Allowed call)
    (rest : ∀ answer, LeavesPool Allowed (next answer)) : LeavesPool Allowed (call >>= next) := by
  intro link allowed
  apply (first link allowed).bind
  intro answer between here
  have later := rest answer between here.allowed
  exact later.mono (fun _ _ left => ⟨left.pool.trans here.pool, left.allowed⟩)
    fun _ _ left => ⟨left.pool.trans here.pool, left.allowed⟩

theorem get {next : Link σ → ExceptT ε (StateM (Link σ)) β}
    (rest : ∀ link, LeavesPool Allowed (next link)) : LeavesPool Allowed (MonadState.get >>= next) :=
  bind (fun _ allowed => ⟨rfl, allowed⟩) rest

theorem tryCatch {handle : ε → ExceptT ε (StateM (Link σ)) α} (first : LeavesPool Allowed call)
    (rest : ∀ error, LeavesPool Allowed (handle error)) :
    LeavesPool Allowed (MonadExcept.tryCatch call handle) := by
  intro link allowed
  apply (first link allowed).tryCatch
  intro error between here
  have later := rest error between here.allowed
  exact later.mono (fun _ _ left => ⟨left.pool.trans here.pool, left.allowed⟩)
    fun _ _ left => ⟨left.pool.trans here.pool, left.allowed⟩

theorem ofConnection {call : Call σ α} (inner : LeavesPool Allowed call) :
    LeavesPool Allowed (Query.Call.ofConnection call) :=
  fun link allowed => (inner link allowed).ofConnection

theorem dropOnError (inner : LeavesPool Allowed call) (backend : Backend σ) (command : Command) :
    LeavesPool Allowed (command.dropOnError backend call) := by
  intro link allowed
  apply (inner link allowed).dropOnError
  intro error last left
  have sameConnection := command.drop_connection backend last
  exact ⟨(command.drop_pool backend last).trans left.pool, sameConnection ▸ left.allowed⟩

theorem ensureNotDisposed : LeavesPool (σ := σ) Allowed Connection.ensureNotDisposed := by
  apply get
  intro link
  split
  · exact throw _
  · exact pure _

end LeavesPool

end Call

open Call (LeavesPool)

/-! ## Readers and commands -/

section
variable {Allowed : Lifecycle → Prop}

theorem Reader.dispose_pool (engine : Engine σ) (reader : Reader) (link : Link σ) :
    (reader.dispose engine link).pool = link.pool := by
  simp only [dispose]
  repeat' split
  all_goals rfl

theorem Reader.read_pool (engine : Engine σ) (reader : Reader) (link : Link σ) :
    (reader.read engine link).2.pool = link.pool := by
  rw [reader.read_link engine link]

theorem Reader.gather_pool (backend : Backend σ) (reader : Reader) (wanted : β → Bool)
    (take : Reader → Link σ → β → Except ε β) (lift : Error → ε) (gathered : β) (link : Link σ) :
    (reader.gather backend wanted take lift gathered link).2.pool = link.pool := by
  let holds (_ : Reader) (after : Link σ) : Prop := after.pool = link.pool
  have start : holds reader link := rfl
  exact Reader.gather_keeps (fun reader after (same : holds reader after) =>
    (reader.read_pool backend.engine after).trans same) start

theorem Reader.gather_leaves (backend : Backend σ) (reader : Reader) (wanted : β → Bool)
    (take : Reader → Link σ → β → Except ε β) (lift : Error → ε) (gathered : β) :
    LeavesPool Allowed (fun link =>
      let ((result, reader), link) := reader.gather backend wanted take lift gathered link
      (result, reader.dispose backend.engine link)) := by
  intro link allowed
  have samePool := reader.gather_pool backend wanted take lift gathered link
  have sameConnection := reader.gather_connection backend wanted take lift gathered link
  rcases outcome : reader.gather backend wanted take lift gathered link with
    ⟨⟨error | answer, next⟩, last⟩ <;> rw [outcome] at samePool sameConnection
  all_goals
    simp only [outcome, Call.Ends]
    constructor
    · rw [Reader.dispose_pool, samePool]
    · rwa [Reader.dispose_connection, sameConnection]

namespace Command

variable (backend : Backend σ) (command : Command)

theorem executeReader_leaves : LeavesPool (σ := σ) Allowed command.executeReader :=
  LeavesPool.ensureNotDisposed.bind fun _ => .pure _

theorem executeNonQuery_leaves : LeavesPool Allowed (command.executeNonQuery backend) :=
  command.executeReader_leaves.bind fun reader => reader.gather_leaves backend _ _ _ _

theorem sql_leaves : LeavesPool Allowed (command.sql backend) :=
  LeavesPool.ensureNotDisposed.bind fun _ => (LeavesPool.observe _).bind fun _ => .pure _

theorem finalize_leaves : LeavesPool Allowed (command.finalize backend) := by
  refine LeavesPool.ensureNotDisposed.bind fun _ => (LeavesPool.request _).bind fun _ => ?_
  split
  · exact .throw _
  · exact .pure _

theorem drop_leaves : LeavesPool (ε := Error) Allowed
    fun link => (.ok (), command.drop backend link) := by
  intro link allowed
  exact ⟨command.drop_pool backend link, command.drop_connection backend link ▸ allowed⟩

end Command

namespace Parameter

variable (engine : Engine σ) (growth : Scratch.Growth) (statement : StatementHandle)

theorem count_leaves : LeavesPool Allowed (count engine statement) :=
  LeavesPool.ensureNotDisposed.bind fun _ => .observe _

theorem check_leaves (code : Int) : LeavesPool (σ := σ) Allowed (check code) := by
  simp only [check]
  split
  · exact .pure _
  · exact .throw _

theorem check_request_leaves (action : StateM σ Int) :
    LeavesPool Allowed (Call.request action >>= check) :=
  (LeavesPool.request _).bind check_leaves

theorem clear_leaves : LeavesPool Allowed (clear engine statement) :=
  LeavesPool.ensureNotDisposed.bind fun _ => check_request_leaves _

theorem nameOf_leaves (index : Int32) : LeavesPool Allowed (nameOf engine statement index) :=
  LeavesPool.ensureNotDisposed.bind fun _ => (LeavesPool.observe _).bind fun _ => .pure _

theorem lookUp_leaves (name : Scratch.Encoded) :
    LeavesPool Allowed (lookUp engine statement name) := by
  simp only [lookUp]
  split
  · exact .observe _
  · exact .pure _

theorem bindIndex_leaves (position : Int32) (argument : Argument) :
    LeavesPool Allowed (bind engine growth statement (.index position) argument) := by
  have resolves : LeavesPool Allowed (resolve engine growth statement (.index position)) :=
    LeavesPool.ensureNotDisposed.bind fun _ => .pure _
  exact resolves.bind fun _ => check_request_leaves _

end Parameter

theorem Query.bindFrom_leaves (engine : Engine σ) (growth : Scratch.Growth)
    (statement : StatementHandle) (count position : Nat) (values : List Json) :
    LeavesPool Allowed (bindFrom engine growth statement count position values) := by
  induction values generalizing position with
  | nil => exact .pure _
  | cons value rest induction =>
      have bindsValue : LeavesPool Allowed
          (bindValue engine growth statement (Int32.ofNat position) value) :=
        (Parameter.bindIndex_leaves engine growth statement _ _).ofConnection
      have binds := bindsValue.bind fun _ => induction (position + 1)
      simp only [bindFrom]
      split
      · exact (LeavesPool.throw _).bind fun _ => binds
      · exact binds

theorem Connection.pendingStatements_leaves (engine : Engine σ) :
    LeavesPool Allowed (pendingStatements engine) := by
  apply LeavesPool.get
  intro link
  split
  · exact .throw _
  · exact .pure _
  · exact (LeavesPool.observe _).bind fun _ => .pure _

end

/-! ## Connections that are not unopened -/

namespace Connection

variable (engine : Engine σ) (growth : Scratch.Growth) (backend : Backend σ)

theorem openPath_leaves (path : Scratch.Encoded) :
    LeavesPool (fun _ => True) (openPath engine path) := by
  apply LeavesPool.get
  intro link
  split
  · exact .throw _
  · apply (LeavesPool.request _).bind
    intro ⟨database?, code⟩
    dsimp only
    split
    · exact .throw _
    · split
      · exact fun _ _ => ⟨rfl, trivial⟩
      · exact (LeavesPool.observe _).bind fun _ => (LeavesPool.request _).bind fun _ => .throw _

theorem dispose_leaves : LeavesPool (fun _ => True) (dispose engine) := by
  intro link _
  by_cases isDisposed : link.connection.lifecycle = .disposed
  · rw [dispose_refuses engine link isDisposed]
    exact ⟨rfl, trivial⟩
  · rcases dispose_of_live engine isDisposed with ⟨state, disposes⟩
    rw [disposes]
    exact ⟨rfl, trivial⟩

theorem ensureOpen_leaves : LeavesPool (· ≠ .unopened) (ensureOpen engine growth) := by
  intro link notUnopened
  cases isLifecycle : link.connection.lifecycle with
  | unopened => exact absurd isLifecycle notUnopened
  | opened database =>
      rw [ensureOpen_of_opened engine growth isLifecycle]
      exact ⟨rfl, notUnopened⟩
  | disposed =>
      rw [ensureOpen_refuses engine growth link isLifecycle]
      exact ⟨rfl, notUnopened⟩

theorem database_leaves : LeavesPool (· ≠ .unopened) (database engine growth) := by
  apply (ensureOpen_leaves engine growth).bind
  intro _
  apply LeavesPool.get
  intro link
  split
  · exact .pure _
  · exact .throw _

theorem ensureFits_leaves {Allowed : Lifecycle → Prop} (sql : Text) :
    LeavesPool Allowed (ensureFits engine sql) := by
  unfold ensureFits
  split
  · exact .throw _
  · exact .pure _

theorem prepare_leaves (sql : Text) : LeavesPool (· ≠ .unopened) (prepare engine growth sql) := by
  apply (database_leaves engine growth).bind
  intro database
  apply (ensureFits_leaves engine sql).bind
  intro _
  apply (LeavesPool.request _).bind
  intro ⟨code, statement?⟩
  dsimp only
  split
  · apply (LeavesPool.observe _).bind
    intro message
    apply (LeavesPool.throw _).bind
    intro _
    split
    · exact .pure _
    · exact .throw _
  · split
    · exact .pure _
    · exact .throw _

theorem changes_leaves : LeavesPool (· ≠ .unopened) (changes engine growth) :=
  (database_leaves engine growth).bind fun _ => .observe _

theorem lastInsertRowid_leaves : LeavesPool (· ≠ .unopened) (lastInsertRowid engine growth) :=
  (database_leaves engine growth).bind fun _ => .observe _

theorem createCommand_leaves (sql : Text) :
    LeavesPool (· ≠ .unopened) (createCommand backend sql) :=
  (prepare_leaves backend.engine backend.growth sql).bind fun _ => .pure _

theorem executeReader_leaves (sql : Text) :
    LeavesPool (· ≠ .unopened) (executeReader backend sql) :=
  (prepare_leaves backend.engine backend.growth sql).bind fun _ => .pure _

theorem executeNonQuery_leaves (sql : Text) :
    LeavesPool (· ≠ .unopened) (executeNonQuery backend sql) :=
  (createCommand_leaves backend sql).bind fun command =>
    ((command.executeNonQuery_leaves backend).dropOnError backend command).bind
      fun _ => (command.finalize_leaves backend).bind fun _ => .pure _

end Connection

namespace Query

variable (backend : Backend σ) (sql : Text) (values : List Json)

theorem prepare_leaves : LeavesPool (· ≠ .unopened) (prepare backend sql values) :=
  (Connection.createCommand_leaves backend sql).ofConnection.bind fun command =>
    ((bindFrom_leaves backend.engine backend.growth command.statement _ _ values).dropOnError
      backend command).bind fun _ => .pure _

theorem execute_leaves : LeavesPool (· ≠ .unopened) (execute backend sql values) := by
  apply (prepare_leaves backend sql values).bind
  intro command
  apply ((command.executeNonQuery_leaves backend).ofConnection.dropOnError backend command).bind
  intro _
  apply LeavesPool.ofConnection
  exact (command.finalize_leaves backend).bind fun _ =>
    (Connection.changes_leaves backend.engine backend.growth).bind fun _ =>
      (Connection.lastInsertRowid_leaves backend.engine backend.growth).bind fun _ => .pure _

theorem fetch_leaves (limit : Option Nat) :
    LeavesPool (· ≠ .unopened) (fetch backend sql values limit) := by
  apply (prepare_leaves backend sql values).bind
  intro command
  apply LeavesPool.bind
  · apply LeavesPool.dropOnError
    exact command.executeReader_leaves.ofConnection.bind fun reader =>
      reader.gather_leaves backend _ _ _ _
  · intro rows
    exact (command.finalize_leaves backend).ofConnection.bind fun _ => .pure _

theorem fetchOne_leaves : LeavesPool (· ≠ .unopened) (fetchOne backend sql values) := by
  apply (fetch_leaves backend sql values (some 2)).bind
  intro rows
  split
  · exact .pure _
  · exact .pure _
  · exact .throw _

theorem control_leaves (text : String) : LeavesPool (· ≠ .unopened) (control backend text) :=
  (Connection.executeNonQuery_leaves backend _).ofConnection.bind fun _ => .pure _

theorem executeEach_leaves (statements : List (Text × List Json)) :
    LeavesPool (· ≠ .unopened) (executeEach backend statements) := by
  induction statements with
  | nil => exact .pure _
  | cons statement rest induction =>
      exact (execute_leaves backend _ _).bind fun _ => induction.bind fun _ => .pure _

theorem rollback_leaves (error : Error) :
    LeavesPool (· ≠ .unopened) (rollback backend error) := by
  intro link notUnopened
  have here := control_leaves backend "ROLLBACK" link notUnopened
  simp only [rollback]
  rcases outcome : control backend "ROLLBACK" link with ⟨failure | answer, last⟩ <;>
    rw [outcome] at here <;> exact here

theorem executeTransaction_leaves (statements : List (Text × List Json)) :
    LeavesPool (· ≠ .unopened) (executeTransaction backend statements) :=
  (control_leaves backend _).bind fun _ =>
    LeavesPool.tryCatch ((executeEach_leaves backend statements).bind fun _ =>
      (control_leaves backend _).bind fun _ => .pure _) (rollback_leaves backend)

end Query

/-! ## Calls that need buffers -/

open Scratch (Growth Pool)

/-- The buffers that the call rents, by the connection that it is made on. -/
def Call.Rents (growth : Growth) (rooms : Connection → List Nat)
    (call : ExceptT ε (StateM (Link σ)) α) : Prop :=
  ∀ link : Link σ, Pool.Lends growth (rooms link.connection) link.pool (call link).2.pool

def Connection.pathRooms (connection : Connection) : List Nat :=
  match connection.lifecycle with
  | .unopened => [(Utf8.ofString connection.path).length + 1]
  | _ => []

def Text.nameRoom : Text → Nat
  | .utf8 bytes => bytes.length + 1
  | .utf16 units => 3 * units.length + 1

def Text.valueRooms : Text → List Nat
  | .utf8 _ => []
  | .utf16 units => [3 * units.length]

def Parameter.rooms : Parameter → List Nat
  | .index _ => []
  | .name text => [text.nameRoom]

def Connection.roomsWhileLive (rooms : List Nat) (connection : Connection) : List Nat :=
  if connection.isDisposed then [] else rooms

namespace Call

variable {growth : Growth} {rooms : List Nat}

theorem LeavesPool.rents {call : ExceptT ε (StateM (Link σ)) α}
    (leaves : LeavesPool (fun _ => True) call) : Rents growth (fun _ => []) call := by
  intro link
  rw [(leaves.left trivial).pool]
  exact .nothing _

theorem Rents.andThen {rooms : Connection → List Nat} {call : ExceptT ε (StateM (Link σ)) α}
    {next : α → ExceptT ε (StateM (Link σ)) β} (rents : Rents growth rooms call)
    (leaves : ∀ answer, LeavesPool (fun _ => True) (next answer)) :
    Rents growth rooms (call >>= next) := by
  intro link
  have here := rents link
  rw [bind_apply]
  rcases outcome : call link with ⟨error | answer, last⟩ <;> rw [outcome] at here
  · exact here
  · dsimp only
    rw [((leaves answer).left trivial).pool]
    exact here

/-- The buffer of an encoded text comes back whatever the text is used for. -/
theorem withScratch_lends {encode : Pool → Scratch.Encoded × Pool}
    {use : Scratch.Encoded → Call σ α} (link : Link σ) {room minimum : Nat}
    (lends : Pool.LendsBuffer growth room minimum link.pool (encode link.pool).2
      (encode link.pool).1.buffer)
    (leaves : ∀ encoded, LeavesPool (fun _ => True) (use encoded)) :
    Pool.Lends growth [room] link.pool (withScratch encode use link).2.pool := by
  have samePool :
      (use (encode link.pool).1 { link with pool := (encode link.pool).2 }).2.pool =
        (encode link.pool).2 :=
    ((leaves _).left trivial).pool
  have isGivenBack : (withScratch encode use link).2.pool =
      (encode link.pool).2.giveBack (encode link.pool).1.buffer := by
    rw [← samePool]
    rfl
  rw [isGivenBack]
  exact .one lends

theorem NeedsDatabase.rents {backend : Backend σ} {sql? : Option Text} {wrap : Error → ε}
    {call : ExceptT ε (StateM (Link σ)) α} (needs : NeedsDatabase backend sql? wrap call)
    (leaves : LeavesPool (· ≠ .unopened) call) :
    Rents backend.growth Connection.pathRooms call := by
  intro link
  by_cases isUnopened : link.connection.lifecycle = .unopened
  · have opening : Pool.Lends backend.growth link.connection.pathRooms link.pool
        (Connection.ensureOpen backend.engine backend.growth link).2.pool := by
      simp only [Connection.ensureOpen, Connection.pathRooms, isUnopened, bind_apply, get_apply]
      exact withScratch_lends link (.ofUtf8Terminated ..)
        (Connection.openPath_leaves backend.engine)
    rcases opens : Connection.ensureOpen backend.engine backend.growth link with
      ⟨error | ⟨⟩, opened⟩ <;> rw [opens] at opening
    · rwa [needs.unopened opens]
    · rcases Connection.opened_of_ensureOpen opens with ⟨database, isOpened⟩
      have again := Connection.ensureOpen_of_opened backend.engine backend.growth isOpened
      have notUnopened : opened.connection.lifecycle ≠ .unopened := by simp [isOpened]
      rwa [needs.opened opens again, (leaves.left notUnopened).pool]
  · have noRooms : link.connection.pathRooms = [] := by
      simp only [Connection.pathRooms]
    rw [noRooms, (leaves.left isUnopened).pool]
    exact .nothing _

end Call

namespace Parameter

variable (engine : Engine σ) (growth : Growth) (statement : StatementHandle)
  (parameter : Parameter)

theorem resolve_rents : Call.Rents growth (Connection.roomsWhileLive parameter.rooms)
    (resolve engine growth statement parameter) := by
  intro link
  cases isDisposed : link.connection.isDisposed with
  | true =>
      rw [resolve_refuses engine growth statement parameter link
        ((Connection.isDisposed_iff _).mp isDisposed)]
      simp only [Connection.roomsWhileLive, isDisposed, if_true]
      exact .nothing _
  | false =>
      simp only [Connection.roomsWhileLive, isDisposed, resolve]
      rw [Call.bind_of_ok _ (Connection.ensureNotDisposed_of_live isDisposed)]
      cases parameter with
      | index position => exact .nothing _
      | name text =>
          cases text with
          | utf8 bytes =>
              exact Call.withScratch_lends link (.ofUtf8Terminated ..)
                (lookUp_leaves engine statement)
          | utf16 units =>
              exact Call.withScratch_lends link (.ofUtf16Terminated ..)
                (lookUp_leaves engine statement)

theorem bind_rents (argument : Argument) :
    Call.Rents growth (Connection.roomsWhileLive parameter.rooms)
      (bind engine growth statement parameter argument) :=
  (resolve_rents engine growth statement parameter).andThen fun _ => check_request_leaves _

theorem bindText_rents (text : Text) :
    Call.Rents growth (Connection.roomsWhileLive (parameter.rooms ++ text.valueRooms))
      (bindText engine growth statement parameter text) := by
  intro link
  have resolving := resolve_rents engine growth statement parameter link
  cases isDisposed : link.connection.isDisposed with
  | true =>
      rw [bindText_refuses engine growth statement parameter text link
        ((Connection.isDisposed_iff _).mp isDisposed)]
      simp only [Connection.roomsWhileLive, isDisposed, if_true]
      exact .nothing _
  | false =>
      rcases resolve_eq engine growth statement parameter isDisposed with ⟨pool, resolves⟩
      rw [resolves] at resolving
      simp only [Connection.roomsWhileLive, isDisposed, bindText] at resolving ⊢
      rw [Call.bind_of_ok _ resolves]
      apply Pool.Lends.trans resolving
      cases text with
      | utf8 bytes => exact (check_request_leaves _).rents { link with pool }
      | utf16 units =>
          exact Call.withScratch_lends { link with pool } (.ofUtf16 ..)
            fun _ => check_request_leaves _

end Parameter

end EmbeddedSql
