import EmbeddedSql.Proofs.Connection.Columns
import EmbeddedSql.Proofs.Connection.Reading
import EmbeddedSql.Proofs.Connection.Rewinding

/-! The ways of running a text on a connection. What its rows are counted to, or what the count
fails with, is what a reader of it comes to that is read to its end. -/

namespace EmbeddedSql

variable {σ ε α : Type}

namespace Reader

variable (engine : Engine σ) {reader next : Reader} {link last : Link σ}

/-! ## What a read depends on -/

def withRelease (reader : Reader) (release : Release) : Reader :=
  { reader with release }

theorem settle_withRelease (reader : Reader) (release : Release) (code : Int) (link : Link σ) :
    (reader.withRelease release).settle engine code link =
      ((reader.settle engine code link).1, (reader.settle engine code link).2.withRelease release)
      := by
  by_cases isRow : code = Status.row
  · rw [isRow, settle_row, settle_row]
    rfl
  · rw [settle_verdict isRow, settle_verdict isRow]
    rfl

theorem read_withRelease (reader : Reader) (release : Release) (link : Link σ) :
    (reader.withRelease release).read engine link =
      (((reader.read engine link).1.1, (reader.read engine link).1.2.withRelease release),
        (reader.read engine link).2) := by
  have sameCursor : (reader.withRelease release).cursor = reader.cursor := rfl
  unfold read
  rw [sameCursor]
  split
  · rfl
  split
  · rfl
  · exact congrArg (·, _) (settle_withRelease engine reader release _ _)

theorem take_withRelease (accessor : Cell → α × Cell) (reader : Reader) (release : Release)
    (column : Nat) (link : Link σ) :
    (reader.withRelease release).take engine accessor column link =
      ((reader.take engine accessor column link).1,
        (reader.take engine accessor column link).2.withRelease release) := by
  have sameCell : (reader.withRelease release).cell engine column link =
      reader.cell engine column link := rfl
  rw [take_eq, take_eq, sameCell]
  cases reader.cell engine column link <;> rfl

theorem read_withPool (reader : Reader) (link : Link σ) (pool : Scratch.Pool) :
    reader.read engine { link with pool } =
      ((reader.read engine link).1, { (reader.read engine link).2 with pool }) := by
  unfold read
  dsimp only
  repeat' split
  all_goals rfl

theorem read_link (reader : Reader) (link : Link σ) :
    (reader.read engine link).2 = { link with engine := (reader.read engine link).2.engine } := by
  unfold read
  repeat' split
  all_goals rfl

theorem read_withCells (reader : Reader) (cells : List Cell) (link : Link σ) :
    let other := { reader with cells }.read engine link
    other.1.1 = (reader.read engine link).1.1 ∧ other.2 = (reader.read engine link).2 ∧
      ((reader.read engine link).1.1 = .ok true → other.1.2 = (reader.read engine link).1.2) := by
  intro other
  simp only [other]
  unfold read
  split
  · exact ⟨rfl, rfl, nofun⟩
  split
  · exact ⟨rfl, rfl, nofun⟩
  · exact ⟨rfl, rfl, fun _ => rfl⟩

/-! ## Reading to the end -/

variable {backend : Backend σ} {engine : Engine σ} {count : Nat} {result : Except Error Bool}

/-- Read to its end, the reader finds so many rows and then comes to the result, which is no row. -/
inductive RunsOut (engine : Engine σ) :
    Reader → Link σ → Nat → Except Error Bool → Link σ → Prop
  | ended {reader next : Reader} {link last : Link σ} {result : Except Error Bool} :
      reader.read engine link = ((result, next), last) → result ≠ .ok true →
        RunsOut engine reader link 0 result last
  | row {reader next : Reader} {link after last : Link σ} {count : Nat}
      {result : Except Error Bool} :
      reader.read engine link = ((.ok true, next), after) →
        RunsOut engine next after count result last →
          RunsOut engine reader link (count + 1) result last

/-- There are only so many rows. -/
theorem exists_runsOut (backend : Backend σ) (reader : Reader) (link : Link σ) :
    ∃ count result last, reader.RunsOut backend.engine link count result last := by
  let take (_ : Reader) (_ : Link σ) (count : Nat) : Except Error Nat := .ok (count + 1)
  have exists_last :
      ∃ last, Stage.Goes backend.engine (fun _ => true) take ⟨reader, 0, link⟩ last ∧ _ :=
    Stage.exists_last (fun count _ => ⟨count + 1, rfl⟩) (fun _ => true) ⟨reader, 0, link⟩
  obtain ⟨stage, goes, isLast⟩ := exists_last
  have isOver : ∃ result next last,
      stage.reader.read backend.engine stage.link = ((result, next), last) ∧ result ≠ .ok true := by
    rcases isLast with isUnwanted | ⟨-, isOver⟩
    · cases isUnwanted
    · exact isOver
  suffices runs : ∀ start : Stage σ Nat, start.Goes backend.engine (fun _ => true) take stage →
      ∃ count result last, start.reader.RunsOut backend.engine start.link count result last from
    runs ⟨reader, 0, link⟩ goes
  intro start goes
  induction goes with
  | here stage =>
      obtain ⟨result, next, last, reads, isNoRow⟩ := isOver
      exact ⟨0, result, last, .ended reads isNoRow⟩
  | row _ reads _ _ induction =>
      obtain ⟨count, result, last, runs⟩ := induction goes isLast isOver
      exact ⟨count + 1, result, last, .row reads runs⟩

namespace RunsOut

section
variable (runs : reader.RunsOut engine link count result last)
include runs

theorem isOver : result ≠ .ok true := by
  induction runs with
  | ended _ isOver => exact isOver
  | row _ _ induction => exact induction

theorem unique {otherCount : Nat} {otherResult : Except Error Bool} {otherLast : Link σ}
    (other : reader.RunsOut engine link otherCount otherResult otherLast) :
    otherCount = count ∧ otherResult = result ∧ otherLast = last := by
  induction runs generalizing otherCount with
  | ended reads isOver =>
      cases other with
      | ended otherReads _ =>
          cases reads.symm.trans otherReads
          exact ⟨rfl, rfl, rfl⟩
      | row otherReads _ =>
          cases reads.symm.trans otherReads
          exact absurd rfl isOver
  | row reads _ induction =>
      cases other with
      | ended otherReads isOver =>
          cases reads.symm.trans otherReads
          exact absurd rfl isOver
      | row otherReads others =>
          cases reads.symm.trans otherReads
          obtain ⟨sameCount, same⟩ := induction others
          exact ⟨congrArg (· + 1) sameCount, same⟩

theorem link_eq : last = { link with engine := last.engine } := by
  induction runs with
  | @ended reader next link last result reads _ =>
      have same := reader.read_link engine link
      rwa [reads] at same
  | @row reader next link after last count result reads _ induction =>
      have same := reader.read_link engine link
      rw [reads] at same
      have same : after = { link with engine := after.engine } := same
      rw [induction, same]

theorem withRelease (release : Release) :
    (reader.withRelease release).RunsOut engine link count result last := by
  induction runs with
  | @ended reader next link last result reads isOver =>
      have same := reader.read_withRelease engine release link
      rw [reads] at same
      exact .ended same isOver
  | @row reader next link after last count result reads _ induction =>
      have same := reader.read_withRelease engine release link
      rw [reads] at same
      exact .row same induction

theorem withPool (pool : Scratch.Pool) :
    reader.RunsOut engine { link with pool } count result { last with pool } := by
  induction runs with
  | @ended reader next link last result reads isOver =>
      have same := reader.read_withPool engine link pool
      rw [reads] at same
      exact .ended same isOver
  | @row reader next link after last count result reads _ induction =>
      have same := reader.read_withPool engine link pool
      rw [reads] at same
      exact .row same induction

theorem withCells (cells : List Cell) :
    { reader with cells }.RunsOut engine link count result last := by
  cases runs with
  | ended reads isOver =>
      have same := reader.read_withCells engine cells link
      rw [reads] at same
      have sameEnd : ({ reader with cells }.read engine link).1.1 = result := same.1
      exact .ended (Prod.ext (Prod.ext sameEnd rfl) same.2.1) isOver
  | row reads runs =>
      have same := reader.read_withCells engine cells link
      rw [reads] at same
      exact .row (Prod.ext (Prod.ext same.1 (same.2.2 rfl)) same.2.1) runs

variable (isLive : link.connection.isDisposed = false)
include isLive

theorem of_done (isDone : reader.cursor = .done) : last = link := by
  have reads : reader.read engine link = ((.ok false, reader), link) :=
    read_of_done isLive isDone
  exact (runs.unique (.ended reads nofun)).2.2.symm

theorem read :
    ∃ count result, (reader.read engine link).1.2.RunsOut engine
      (reader.read engine link).2 count result last := by
  cases runs with
  | row reads runs =>
      rw [reads]
      exact ⟨_, _, runs⟩
  | @ended _ next _ _ _ reads isOver =>
      have isLiveAfter : last.connection.isDisposed = false := by
        have same := reader.read_link engine link
        rw [reads] at same
        have same : last = { link with engine := last.engine } := same
        rw [same]
        exact isLive
      have isDone : next.cursor = .done := by
        by_cases isDone : reader.cursor = .done
        · rw [read_of_done isLive isDone] at reads
          cases reads
          exact isDone
        · rw [read_of_live engine isLive isDone] at reads
          by_cases isRow : (engine.step reader.statement link.engine).1 = Status.row
          · rw [isRow, settle_row] at reads
            cases reads
            exact absurd rfl isOver
          · rw [settle_verdict isRow] at reads
            cases reads
            rfl
      rw [reads]
      exact ⟨0, .ok false, .ended (read_of_done isLiveAfter isDone) nofun⟩

end

theorem gather (runs : reader.RunsOut backend.engine link count result last) (lift : Error → ε)
    (gathered : Nat) :
    ∃ next : Reader, next.statement = reader.statement ∧ next.release = reader.release ∧
      reader.gather backend (fun _ => true) (fun _ _ count => .ok (count + 1)) lift gathered link =
        (((result.mapError lift).map fun _ => gathered + count, next), last) := by
  induction runs generalizing gathered with
  | @ended reader next link last result reads isOver =>
      have isStatement := reader.read_statement backend.engine link
      have isRelease := reader.read_release backend.engine link
      rw [reads] at isStatement isRelease
      refine ⟨next, isStatement, isRelease, ?_⟩
      rcases result with error | (_ | _)
      · exact gather_of_error rfl reads
      · exact gather_of_end rfl reads
      · exact absurd rfl isOver
  | @row reader between link after last count result reads _ induction =>
      have isStatement := reader.read_statement backend.engine link
      have isRelease := reader.read_release backend.engine link
      rw [reads] at isStatement isRelease
      obtain ⟨next, isNext, isNextRelease, gathers⟩ := induction (gathered + 1)
      refine ⟨next, isNext.trans isStatement, isNextRelease.trans isRelease, ?_⟩
      rw [gather_of_row rfl reads]
      dsimp only
      rw [gathers, Nat.add_right_comm, Nat.add_assoc]

theorem uses {laws : Rewinding engine} {watch : Watch laws.toCustody}
    (runs : reader.RunsOut engine link count result last)
    (uses : laws.Uses watch reader.statement link) : laws.Uses watch reader.statement last := by
  induction runs with
  | @ended reader next link last result reads isOver =>
      have after := uses.read
      rwa [reader.read_statement, reads] at after
  | @row reader next link after last count result reads _ induction =>
      have isStatement := reader.read_statement engine link
      have after := uses.read
      rw [reads] at isStatement after
      exact isStatement ▸ induction after

end RunsOut

end Reader

/-! ## Counting rows -/

section
variable {backend : Backend σ} {link last : Link σ} {count : Nat} {result : Except Error Bool}

theorem Command.executeNonQuery_of_runsOut (command : Command)
    (isLive : link.connection.isDisposed = false)
    (runs : command.reader.RunsOut backend.engine link count result last) :
    command.executeNonQuery backend link =
      (result.map fun _ => count,
        { last with engine := (backend.engine.reset command.statement last.engine).2 }) := by
  obtain ⟨next, isStatement, isRelease, gathers⟩ := runs.gather id 0
  have isStillLive : last.connection.isDisposed = false := runs.link_eq ▸ isLive
  have disposes : next.dispose backend.engine last =
      { last with engine := (backend.engine.reset command.statement last.engine).2 } := by
    rw [Reader.dispose, if_neg (by simp [isStillLive]), isRelease, isStatement]
    rfl
  unfold Command.executeNonQuery Command.executeReader
  rw [Call.bind_apply, Call.bind_of_ok _ (Connection.ensureNotDisposed_of_live isLive),
    Call.pure_apply]
  dsimp only
  rw [gathers, disposes, Nat.zero_add]
  cases result <;> rfl

theorem Connection.executeNonQuery_of_runsOut {laws : Releasing backend.engine}
    {watch : Watch laws.toCustody} {sql : Text} {start : Link σ} {statement : StatementHandle}
    (prepares : prepare backend.engine backend.growth sql start = (.ok statement, link))
    (uses : laws.Uses watch statement link)
    (runs : (Command.mk statement).reader.RunsOut backend.engine link count result last) :
    executeNonQuery backend sql start =
      (result.map fun _ => count,
        { last with engine := (backend.engine.finalize statement last.engine).2 }) := by
  have usesLast : laws.Uses watch statement last := runs.uses uses
  have rests := usesLast.reset
  have counts := Command.executeNonQuery_of_runsOut ⟨statement⟩ uses.isLive runs
  have sameEnd := laws.finalized_reset usesLast.valid usesLast.inUse
  have finalizes : (Command.mk statement).finalize backend _ = (.ok (), _) :=
    Rewinding.Rests.finalizeCommand_eq rests
  have creates : createCommand backend sql start = (.ok ⟨statement⟩, link) := by
    unfold createCommand
    rw [Call.bind_of_ok _ prepares]
    rfl
  unfold executeNonQuery
  rw [Call.bind_of_ok _ creates, Call.bind_apply, Command.dropOnError, counts]
  cases result with
  | error error =>
      dsimp only [Except.map]
      rw [Command.drop, if_neg (by simp [usesLast.isLive])]
      dsimp only
      rw [sameEnd]
  | ok found =>
      dsimp only [Except.map]
      rw [Call.bind_of_ok _ finalizes]
      dsimp only
      rw [sameEnd]
      rfl

end

/-! ## Texts that do not become statements -/

def Engine.compileError? (engine : Engine σ) (database : DatabaseHandle) (sql : Text)
    (state : σ) : Option Error :=
  if maxLength < sql.byteLength then some (Connection.tooLong engine)
  else
    let ((code, statement?), after) := engine.prepare database sql state
    if code ≠ Status.ok then
      some (.prepareFailed code (Utf8.toString (engine.errorMessage database after)))
    else if statement?.isNone then some .emptyStatement
    else none

/-- What is left of the engine then. A text that is too long is not handed over to it. -/
def Engine.afterCompiling (engine : Engine σ) (database : DatabaseHandle) (sql : Text)
    (state : σ) : σ :=
  if maxLength < sql.byteLength then state else (engine.prepare database sql state).2

namespace Connection

variable {engine : Engine σ} {growth : Scratch.Growth} {sql : Text} {link opened : Link σ}

theorem opened_of_ensureOpen (opens : ensureOpen engine growth link = (.ok (), opened)) :
    ∃ database, opened.connection.lifecycle = .opened database := by
  have openPath_opened (path : Scratch.Encoded) (link : Link σ) :
      Call.Ends (openPath engine path link) (fun _ _ => True) fun _ last =>
        ∃ database, last.connection.lifecycle = .opened database := by
    unfold openPath
    rw [Call.bind_apply, Call.get_apply]
    dsimp only
    cases path.cString? with
    | none => trivial
    | some bytes =>
        dsimp only
        rw [Call.bind_apply, Call.request_apply]
        dsimp only
        rcases (engine.openDatabase bytes link.connection.config.openMode link.engine).1 with
          ⟨_ | database, code⟩
        · trivial
        · by_cases isOk : code = Status.ok
          · simp only [isOk, if_true]
            exact ⟨database, rfl⟩
          · simp only [isOk, if_false]
            trivial
  have ends : Call.Ends (ensureOpen engine growth link) (fun _ _ => True) fun _ last =>
      ∃ database, last.connection.lifecycle = .opened database := by
    unfold ensureOpen
    rw [Call.bind_apply, Call.get_apply]
    dsimp only
    cases isLifecycle : link.connection.lifecycle with
    | disposed => trivial
    | opened database => exact ⟨database, isLifecycle⟩
    | unopened => exact .withScratch (openPath_opened _ _) (fun _ _ _ _ => trivial) fun _ _ _ => id
  rwa [opens] at ends

theorem prepare_of_opened (engine : Engine σ) (growth : Scratch.Growth) {database : DatabaseHandle}
    (isOpened : link.connection.lifecycle = .opened database) (sql : Text) :
    ∃ result, prepare engine growth sql link =
        (result, { link with engine := engine.afterCompiling database sql link.engine }) ∧
      match engine.compileError? database sql link.engine with
      | some error => result = .error error
      | none => ∃ statement, result = .ok statement := by
  unfold prepare Engine.compileError? Engine.afterCompiling
  rw [Call.bind_of_ok _ (database_of_opened engine growth isOpened), Call.bind_apply,
    ensureFits_apply]
  by_cases isLong : Engine.maxLength < sql.byteLength
  · rw [if_pos isLong, if_pos isLong, if_pos isLong]
    exact ⟨_, rfl, rfl⟩
  rw [if_neg isLong, if_neg isLong, if_neg isLong]
  dsimp only
  rw [Call.bind_apply, Call.request_apply]
  dsimp only
  rcases engine.prepare database sql link.engine with ⟨⟨code, statement?⟩, state⟩
  by_cases isOk : code = Status.ok
  case neg =>
    simp only [ne_eq, isOk, not_false_eq_true, if_true]
    exact ⟨_, rfl, rfl⟩
  subst isOk
  cases statement? with
  | none => exact ⟨_, rfl, rfl⟩
  | some statement => exact ⟨_, rfl, statement, rfl⟩

end Connection

end EmbeddedSql
