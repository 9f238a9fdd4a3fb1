import EmbeddedSql.Proofs.Call
import EmbeddedSql.Proofs.Connection.Reading
import EmbeddedSql.Proofs.Engine.Rows

/-! The steps that calls have the engine take, and the rows that come of them. Only reading a row
makes it take one. -/

namespace EmbeddedSql

variable {σ ε α β : Type}

/-- The steps that the engine has taken so far, the latest one first. -/
def Link.steps (link : Link (Recorded σ)) : EngineRecord :=
  link.engine.record.steps

def Link.rows (link : Link (Recorded σ)) : Nat :=
  link.engine.record.rows

theorem Link.rows_of_steps {link last : Link (Recorded σ)} (same : last.steps = link.steps) :
    last.rows = link.rows := by
  have sameSteps : last.engine.record.steps = link.engine.record.steps := same
  rw [rows, rows, EngineRecord.rows_eq, EngineRecord.rows_eq, sameSteps]

/-! ## Calls that read no rows -/

namespace Call

def TakesNoStep (call : ExceptT ε (StateM (Link (Recorded σ))) α) : Prop :=
  ∀ link : Link (Recorded σ), (call link).2.steps = link.steps

def GivesNoRow (call : ExceptT ε (StateM (Link (Recorded σ))) α) : Prop :=
  ∀ link : Link (Recorded σ), (call link).2.rows = link.rows

namespace TakesNoStep

theorem givesNoRow {call : ExceptT ε (StateM (Link (Recorded σ))) α} (takes : TakesNoStep call) :
    GivesNoRow call :=
  fun link => Link.rows_of_steps (takes link)

theorem pure (answer : α) : TakesNoStep (σ := σ) (ε := ε) (Pure.pure answer) :=
  fun _ => rfl

theorem throw (error : ε) :
    TakesNoStep (MonadExcept.throw error : ExceptT ε (StateM (Link (Recorded σ))) α) :=
  fun _ => rfl

theorem get : TakesNoStep (σ := σ) (ε := ε) MonadState.get :=
  fun _ => rfl

theorem observe (view : Recorded σ → α) : TakesNoStep (Call.observe view) :=
  fun _ => rfl

theorem request {action : StateM (Recorded σ) α}
    (same : ∀ recorded, (action recorded).2.record.steps = recorded.record.steps) :
    TakesNoStep (Call.request action) :=
  fun link => same link.engine

theorem bind {call : ExceptT ε (StateM (Link (Recorded σ))) α}
    {next : α → ExceptT ε (StateM (Link (Recorded σ))) β}
    (first : TakesNoStep call) (rest : ∀ answer, TakesNoStep (next answer)) :
    TakesNoStep (call >>= next) := by
  intro link
  have here := first link
  rw [bind_apply]
  rcases outcome : call link with ⟨error | answer, after⟩ <;> rw [outcome] at here
  · exact here
  · exact (rest answer after).trans here

theorem withScratch {encode : Scratch.Pool → Scratch.Encoded × Scratch.Pool}
    {use : Scratch.Encoded → Call (Recorded σ) α} (inner : ∀ encoded, TakesNoStep (use encoded)) :
    TakesNoStep (Call.withScratch encode use) :=
  fun link => inner (encode link.pool).1 { link with pool := (encode link.pool).2 }

theorem ofConnection {call : Call (Recorded σ) α} (inner : TakesNoStep call) :
    TakesNoStep (Query.Call.ofConnection call) := by
  intro link
  have here := inner link
  unfold Query.Call.ofConnection
  rcases outcome : call link with ⟨error | answer, after⟩ <;> rw [outcome] at here <;> exact here

end TakesNoStep

end Call

open Call

variable (engine : Engine σ) (growth : Scratch.Growth)

namespace Connection

theorem ensureNotDisposed_takesNoStep : TakesNoStep (ensureNotDisposed (σ := Recorded σ)) := by
  intro link
  rw [ensureNotDisposed_apply]
  split <;> rfl

theorem openPath_takesNoStep (path : Scratch.Encoded) :
    TakesNoStep (openPath engine.recording path) := by
  refine TakesNoStep.get.bind fun link => ?_
  dsimp only
  split
  · exact .throw _
  · refine (TakesNoStep.request fun _ => rfl).bind fun ⟨database?, code⟩ => ?_
    split
    · exact .throw _
    · split
      · exact fun _ => rfl
      · exact (TakesNoStep.observe _).bind fun _ =>
          (TakesNoStep.request fun _ => rfl).bind fun _ => .throw _

theorem database_takesNoStep : TakesNoStep (database engine.recording growth) := by
  have opens : TakesNoStep (ensureOpen engine.recording growth) := by
    refine TakesNoStep.get.bind fun link => ?_
    dsimp only
    split
    · exact .throw _
    · exact .pure _
    · exact .withScratch (openPath_takesNoStep engine)
  refine opens.bind fun _ => TakesNoStep.get.bind fun link => ?_
  split
  · exact .pure _
  · exact .throw _

theorem ensureFits_takesNoStep (sql : Text) : TakesNoStep (ensureFits engine.recording sql) := by
  intro link
  rw [ensureFits_apply]
  split <;> rfl

theorem prepare_takesNoStep (sql : Text) : TakesNoStep (prepare engine.recording growth sql) := by
  refine (database_takesNoStep engine growth).bind fun database =>
    (ensureFits_takesNoStep engine sql).bind fun _ =>
      (TakesNoStep.request fun _ => rfl).bind fun ⟨code, statement?⟩ => ?_
  dsimp only
  split
  · refine (TakesNoStep.observe _).bind fun message => (TakesNoStep.throw _).bind fun _ => ?_
    split
    · exact .pure _
    · exact .throw _
  · split
    · exact .pure _
    · exact .throw _

theorem createCommand_takesNoStep (backend : Backend σ) (sql : Text) :
    TakesNoStep (createCommand backend.recording sql) :=
  (prepare_takesNoStep backend.engine backend.growth sql).bind fun _ => .pure _

end Connection

namespace Parameter

variable (statement : StatementHandle)

theorem resolve_takesNoStep (parameter : Parameter) :
    TakesNoStep (resolve engine.recording growth statement parameter) := by
  have looks (name : Scratch.Encoded) : TakesNoStep (lookUp engine.recording statement name) := by
    unfold lookUp
    split
    · exact .observe _
    · exact .pure _
  refine Connection.ensureNotDisposed_takesNoStep.bind fun _ => ?_
  split
  · exact .pure _
  · exact .withScratch looks
  · exact .withScratch looks

theorem bind_takesNoStep (parameter : Parameter) (argument : Argument) :
    TakesNoStep (bind engine.recording growth statement parameter argument) := by
  have gives (index : Int) (recorded : Recorded σ) :
      (engine.recording.give statement index argument recorded).2.record.steps =
        recorded.record.steps := by
    unfold Engine.give
    split <;> rfl
  refine (resolve_takesNoStep engine growth statement parameter).bind fun index =>
    (TakesNoStep.request (gives index)).bind fun code => ?_
  unfold check
  split
  · exact .pure _
  · exact .throw _

end Parameter

namespace Command

variable (backend : Backend σ) (command : Command)

theorem finalize_takesNoStep : TakesNoStep (command.finalize backend.recording) := by
  refine Connection.ensureNotDisposed_takesNoStep.bind fun _ =>
    (TakesNoStep.request fun _ => rfl).bind fun code => ?_
  split
  · exact .throw _
  · exact .pure _

theorem drop_steps (link : Link (Recorded σ)) :
    (command.drop backend.recording link).steps = link.steps := by
  unfold drop
  split <;> rfl

variable {command} in
theorem dropOnError_takesNoStep {use : ExceptT ε (StateM (Link (Recorded σ))) α}
    (inner : TakesNoStep use) : TakesNoStep (command.dropOnError backend.recording use) := by
  intro link
  have here := inner link
  unfold dropOnError
  rcases outcome : use link with ⟨error | answer, after⟩ <;> rw [outcome] at here
  · exact (command.drop_steps backend after).trans here
  · exact here

end Command

/-! ## Reading -/

namespace Reader

variable {backend : Backend σ} {reader next : Reader} {link after : Link (Recorded σ)}

theorem dispose_steps (reader : Reader) (link : Link (Recorded σ)) :
    (reader.dispose backend.recording.engine link).steps = link.steps := by
  unfold dispose
  split
  · rfl
  split <;> rfl

theorem rows_of_row
    (reads : reader.read backend.recording.engine link = ((.ok true, next), after)) :
    after.rows = link.rows + 1 := by
  have stepped := step_of_read backend.recording.engine (congrArg (·.1.1) reads)
  rw [reads] at stepped
  rw [Link.rows, stepped.2, backend.step_rows, if_pos stepped.1]
  rfl

theorem rows_of_end {answer : Except Error Bool} (isNoRow : answer ≠ .ok true)
    (reads : reader.read backend.recording.engine link = ((answer, next), after)) :
    after.rows = link.rows := by
  unfold read at reads
  split at reads
  · cases reads
    rfl
  split at reads
  · cases reads
    rfl
  dsimp only at reads
  have isEnd : (backend.recording.engine.step reader.statement link.engine).1 ≠ Status.row := by
    intro isRow
    rw [isRow] at reads
    exact isNoRow ((congrArg (·.1.1) reads).symm.trans (settle_of_row ..).1)
  have stepped : _ = after.engine := congrArg (·.2.engine) reads
  rw [Link.rows, ← stepped, backend.step_rows, if_neg isEnd]
  rfl

end Reader

/-! ## Calls that begin with a step -/

/-- What the record of a link comes to when a statement takes a step. -/
def Link.stepsWith (backend : Backend σ) (statement : StatementHandle) (link : Link (Recorded σ)) :
    EngineRecord :=
  .stepped statement (backend.engine.step statement link.engine.state).1 :: link.steps

/-- Of all steps that a call has the engine take the first is one of a statement, from the state
where the call is made. -/
def Call.StepsFirst (backend : Backend σ) (statement : StatementHandle)
    (call : ExceptT ε (StateM (Link (Recorded σ))) α) : Prop :=
  ∀ link : Link (Recorded σ), link.connection.isDisposed = false →
    link.stepsWith backend statement <:+ (call link).2.steps

section
variable {backend : Backend σ}

namespace Call.StepsFirst

variable {statement : StatementHandle}

theorem bind {call : ExceptT ε (StateM (Link (Recorded σ))) α}
    {next : α → ExceptT ε (StateM (Link (Recorded σ))) β}
    (first : StepsFirst backend statement call) (rest : ∀ answer, TakesNoStep (next answer)) :
    StepsFirst backend statement (call >>= next) := by
  intro link isLive
  have here := first link isLive
  rw [bind_apply]
  rcases outcome : call link with ⟨error | answer, after⟩ <;> rw [outcome] at here
  · exact here
  · exact (rest answer after).symm ▸ here

theorem ofConnection {call : Call (Recorded σ) α} (inner : StepsFirst backend statement call) :
    StepsFirst backend statement (Query.Call.ofConnection call) := by
  intro link isLive
  have here := inner link isLive
  unfold Query.Call.ofConnection
  rcases outcome : call link with ⟨error | answer, after⟩ <;> rw [outcome] at here <;> exact here

theorem dropOnError {command : Command} {use : ExceptT ε (StateM (Link (Recorded σ))) α}
    (inner : StepsFirst backend statement use) :
    StepsFirst backend statement (command.dropOnError backend.recording use) := by
  intro link isLive
  have here := inner link isLive
  unfold Command.dropOnError
  rcases outcome : use link with ⟨error | answer, after⟩ <;> rw [outcome] at here
  · exact (command.drop_steps backend after).symm ▸ here
  · exact here

end Call.StepsFirst

end

end EmbeddedSql
