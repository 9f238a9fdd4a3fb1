import EmbeddedSql.Proofs.Connection.Lifecycle

/-! What running a command to its end comes to: the code that its last step is answered
with, and whether the connection takes that for an error. -/

namespace EmbeddedSql

variable {σ ε β : Type}

/-! ## Runs and their codes -/

/-- A statement is stepped as long as it gives rows. The code is that of the last step. -/
inductive Engine.Runs (engine : Engine σ) (statement : StatementHandle) : σ → Int → σ → Prop
  | last {state : σ} : (engine.step statement state).1 ≠ Status.row →
      engine.Runs statement state (engine.step statement state).1
        (engine.step statement state).2
  | more {state after : σ} {code : Int} : (engine.step statement state).1 = Status.row →
      engine.Runs statement (engine.step statement state).2 code after →
        engine.Runs statement state code after

namespace ConnectionConfig

variable {config : ConnectionConfig} {code : Int}

/-- Whether a code is a failure that the connection passes off as the end of the rows. -/
def Hides (config : ConnectionConfig) (code : Int) : Prop :=
  config.lenientStepStatus = true ∧ code ≠ Status.row ∧ code ≠ Status.done ∧
    code ≠ Status.misuse ∧ code ≠ Status.error

def Accepts (config : ConnectionConfig) (code : Int) : Prop :=
  code = Status.done ∨ config.Hides code

theorem Accepts.isDone (accepts : config.Accepts code)
    (isStrict : config.lenientStepStatus = false) : code = Status.done := by
  rcases accepts with isDone | ⟨isLenient, -⟩
  · exact isDone
  · cases isStrict.symm.trans isLenient

theorem Accepts.ne_error (accepts : config.Accepts code) : code ≠ Status.error := by
  rcases accepts with rfl | ⟨-, -, -, -, isOther⟩
  · decide
  · exact isOther

end ConnectionConfig

/-! ## Readers -/

namespace Reader

variable (reader : Reader) (link : Link σ)

theorem settle_of_row (engine : Engine σ) :
    (reader.settle engine Status.row link).1 = .ok true ∧
      (reader.settle engine Status.row link).2.cursor = .onRow := by
  simp [settle]

theorem settle_of_end (engine : Engine σ) {code : Int} (isNoRow : code ≠ Status.row) :
    (reader.settle engine code link).1 = .ok false ∧ link.connection.config.Accepts code ∨
      (∃ error, (reader.settle engine code link).1 = .error error) ∧
        ¬link.connection.config.Accepts code := by
  unfold settle ConnectionConfig.Accepts ConnectionConfig.Hides
  dsimp only
  rw [if_neg isNoRow]
  split
  · rename_i isDone
    exact .inl ⟨rfl, .inl isDone⟩
  rename_i isNotDone
  split
  · rename_i isMisuse
    refine .inr ⟨⟨_, rfl⟩, fun accepts => ?_⟩
    rcases accepts with isDone | ⟨-, -, -, isOther, -⟩
    · exact isNotDone isDone
    · exact isOther isMisuse
  rename_i isNoMisuse
  split
  · rename_i isHidden
    exact .inl ⟨rfl, .inr ⟨isHidden.2, isNoRow, isNotDone, isNoMisuse, isHidden.1⟩⟩
  · rename_i isShown
    refine .inr ⟨⟨_, rfl⟩, fun accepts => ?_⟩
    rcases accepts with isDone | ⟨isLenient, -, -, -, isNoError⟩
    · exact isNotDone isDone
    · exact isShown ⟨isNoError, isLenient⟩

variable {reader link}

theorem read_of_live (engine : Engine σ) (isLive : link.connection.isDisposed = false)
    (isOpen : reader.cursor ≠ .done) :
    reader.read engine link =
      (reader.settle engine (engine.step reader.statement link.engine).1
          { link with engine := (engine.step reader.statement link.engine).2 },
        { link with engine := (engine.step reader.statement link.engine).2 }) := by
  rw [read, if_neg (by simp [isLive]), if_neg isOpen]

variable (reader link) (backend : Backend σ) {wanted : β → Bool}
  {take : Reader → Link σ → β → Except ε β} (lift : Error → ε)

/-- What gathering all rows comes to is decided by the last step. -/
theorem gather_runs (isWanted : ∀ gathered, wanted gathered = true)
    (takes : ∀ reader link gathered, ∃ more, take reader link gathered = .ok more)
    (isLive : link.connection.isDisposed = false) (isOpen : reader.cursor ≠ .done)
    (gathered : β) :
    ∃ code state result next,
      backend.engine.Runs reader.statement link.engine code state ∧
        reader.gather backend wanted take lift gathered link =
            ((result, next), { link with engine := state }) ∧
          next.statement = reader.statement ∧ next.release = reader.release ∧
            (result.isOk = true ↔ link.connection.config.Accepts code) := by
  -- The rows that are left bound the induction, as they do the loop.
  induction left : backend.rows.remaining reader.statement link.engine
    using Nat.strongRecOn generalizing reader link gathered with
  | _ bound induction =>
      let stepped := backend.engine.step reader.statement link.engine
      let settled := reader.settle backend.engine stepped.1 { link with engine := stepped.2 }
      have reads : reader.read backend.engine link = (settled, { link with engine := stepped.2 }) :=
        reader.read_of_live backend.engine isLive isOpen
      have sameStatement : settled.2.statement = reader.statement :=
        reader.settle_statement backend.engine ..
      have sameRelease : settled.2.release = reader.release :=
        reader.settle_release backend.engine ..
      by_cases isRow : stepped.1 = Status.row
      · have rowRead : settled.1 = .ok true ∧ settled.2.cursor = .onRow := by
          simp only [settled, isRow]
          exact settle_of_row _ _ backend.engine
        rcases takes settled.2 { link with engine := stepped.2 } gathered with ⟨more, taken⟩
        have isLess : backend.rows.remaining settled.2.statement stepped.2 < bound := by
          rw [sameStatement, ← left]
          exact backend.rows.remaining_step _ _ isRow
        rcases induction _ isLess settled.2 { link with engine := stepped.2 } isLive
          (by simp [rowRead.2]) more rfl with
          ⟨code, state, result, next, runs, gathers, nextStatement, nextRelease, answers⟩
        rw [sameStatement] at runs nextStatement
        refine ⟨code, state, result, next, .more isRow runs, ?_, nextStatement,
          nextRelease.trans sameRelease, answers⟩
        rw [gather_of_row (isWanted gathered)
          (reads.trans (by rw [← rowRead.1])), taken]
        exact gathers
      · rcases reader.settle_of_end { link with engine := stepped.2 } backend.engine isRow with
          ⟨isEnd, accepts⟩ | ⟨⟨error, failed⟩, refuses⟩
        · refine ⟨stepped.1, stepped.2, .ok gathered, settled.2, .last isRow, ?_,
            sameStatement, sameRelease, iff_of_true rfl accepts⟩
          exact gather_of_end (isWanted gathered) (reads.trans (by rw [← isEnd]))
        · refine ⟨stepped.1, stepped.2, .error (lift error), settled.2, .last isRow, ?_,
            sameStatement, sameRelease, iff_of_false nofun refuses⟩
          exact gather_of_error (isWanted gathered) (reads.trans (by rw [← failed]))

end Reader

/-! ## Commands -/

namespace Command

variable (backend : Backend σ) {link : Link σ}

theorem executeNonQuery_runs (command : Command)
    (isLive : link.connection.isDisposed = false) :
    ∃ code state, backend.engine.Runs command.statement link.engine code state ∧
      (command.executeNonQuery backend link).2 =
          { link with engine := (backend.engine.reset command.statement state).2 } ∧
        ((command.executeNonQuery backend link).1.isOk = true ↔
          link.connection.config.Accepts code) := by
  let take (_ : Reader) (_ : Link σ) (count : Nat) : Except Error Nat := .ok (count + 1)
  have takes (reader : Reader) (link : Link σ) (count : Nat) :
      ∃ more, take reader link count = .ok more := ⟨count + 1, rfl⟩
  rcases command.reader.gather_runs link backend id (fun _ => rfl) takes isLive nofun 0 with
    ⟨code, state, result, next, runs, gathers, nextStatement, nextRelease, answers⟩
  have disposes : next.dispose backend.engine { link with engine := state } =
      { link with engine := (backend.engine.reset command.statement state).2 } := by
    rw [Reader.dispose, if_neg (by simp [isLive]), nextRelease, nextStatement]
    rfl
  have executes : command.executeNonQuery backend link =
      (result, next.dispose backend.engine { link with engine := state }) := by
    unfold executeNonQuery executeReader
    rw [Call.bind_apply, Call.bind_apply, Connection.ensureNotDisposed_apply,
      if_neg (by simp [isLive])]
    dsimp only [Call.pure_apply]
    rw [gathers]
  refine ⟨code, state, runs, ?_, ?_⟩
  · rw [executes, disposes]
  · rw [executes]
    exact answers

end Command

end EmbeddedSql
