import EmbeddedSql.Proofs.Connection.Reading
import EmbeddedSql.Proofs.Engine.Repeating
import EmbeddedSql.Proofs.Session.Accessors

/-! Readers of two statements whose executions are the same. They read the same rows, and come
to the same end. -/

namespace EmbeddedSql

variable {σ : Type} {backend : Backend σ} {statement image : StatementHandle} {link other : Link σ}

/-- Two connections that are open, with the same configuration. -/
structure AreOpen (link other : Link σ) : Prop where
  isOpened : ∃ database, link.connection.lifecycle = .opened database
  isOtherOpened : ∃ database, other.connection.lifecycle = .opened database
  config : other.connection.config = link.connection.config

theorem AreOpen.isLive (areOpen : AreOpen link other) :
    link.connection.isDisposed = false ∧ other.connection.isDisposed = false := by
  obtain ⟨⟨database, isOpened⟩, ⟨otherDatabase, isOtherOpened⟩, -⟩ := areOpen
  simp [Connection.isDisposed, isOpened, isOtherOpened]

structure ExecuteAlike (backend : Backend σ) (statement image : StatementHandle)
    (link other : Link σ) : Prop extends AreOpen link other where
  execution : ∀ {database otherDatabase}, link.connection.lifecycle = .opened database →
    other.connection.lifecycle = .opened otherDatabase →
      backend.execution otherDatabase image other.engine =
        backend.execution database statement link.engine

/-- A reset statement of the text with these values in its slots, on a connection that is set up
like this and sees this of its database. -/
structure Repeating.Stands {sql : Text} (laws : Repeating backend sql) (slots : Slots)
    (config : ConnectionConfig) (snapshot : laws.Snapshot) (statement : StatementHandle)
    (link : Link σ) : Prop where
  valid : laws.Valid link.engine
  isOpened : ∃ database, link.connection.lifecycle = .opened database ∧
    (laws.handles link.engine).owner? statement = some database ∧
      laws.snapshot database link.engine = snapshot
  config : link.connection.config = config
  isReset : laws.IsReset link.engine statement
  isOf : laws.IsOf link.engine statement
  slots : laws.slots link.engine statement = slots

theorem Repeating.Stands.alike {sql : Text} {laws : Repeating backend sql} {slots : Slots}
    {config : ConnectionConfig} {snapshot : laws.Snapshot}
    (stands : laws.Stands slots config snapshot statement link)
    (otherStands : laws.Stands slots config snapshot image other) :
    ExecuteAlike backend statement image link other := by
  obtain ⟨database, isOpened, isOwner, isSnapshot⟩ := stands.isOpened
  obtain ⟨otherDatabase, isOtherOpened, isOtherOwner, isOtherSnapshot⟩ := otherStands.isOpened
  have areOpen : AreOpen link other :=
    ⟨⟨database, isOpened⟩, ⟨otherDatabase, isOtherOpened⟩,
      otherStands.config.trans stands.config.symm⟩
  have same := laws.repeats stands.valid otherStands.valid isOwner isOtherOwner stands.isReset
    otherStands.isReset stands.isOf otherStands.isOf (otherStands.slots.trans stands.slots.symm)
    (isOtherSnapshot.trans isSnapshot.symm)
  refine ⟨areOpen, fun isFirst isSecond => ?_⟩
  cases isOpened.symm.trans isFirst
  cases isOtherOpened.symm.trans isSecond
  exact same

/-! ## Reading -/

namespace Reader

/-- Two readers in the same place of executions that are the same from here on. -/
structure GoesAlong (backend : Backend σ) (reader : Reader) (image : StatementHandle)
    (link other : Link σ) : Prop extends AreOpen link other where
  executes : reader.cursor ≠ .done → ExecuteAlike backend reader.statement image link other
  columnCount : reader.cursor = .onRow →
    backend.engine.columnCount image other.engine =
      backend.engine.columnCount reader.statement link.engine

variable {reader : Reader}

/-- A step of both executions. -/
theorem read_alike (isMore : reader.cursor ≠ .done)
    (alike : ExecuteAlike backend reader.statement image link other) :
    let first := reader.read backend.engine link
    let second := (reader.withStatement image).read backend.engine other
    second.1 = (first.1.1, first.1.2.withStatement image) ∧
      first.1.2.GoesAlong backend image first.2 second.2 := by
  obtain ⟨isLive, isOtherLive⟩ := alike.isLive
  obtain ⟨database, isOpened⟩ := alike.isOpened
  obtain ⟨otherDatabase, isOtherOpened⟩ := alike.isOtherOpened
  obtain ⟨sameCode, onRow, atEnd⟩ :=
    Backend.step_of_execution (alike.execution isOpened isOtherOpened)
  have same := read_withStatement (isOtherLive.trans isLive.symm) alike.config sameCode
    (fun isRow => (onRow isRow).1) fun isEnd => by
      simp only [Connection.errorMessage, isOpened, isOtherOpened, atEnd isEnd]
  refine ⟨same, ?_⟩
  have isOtherMore : (reader.withStatement image).cursor ≠ .done := isMore
  rw [read_of_live backend.engine isLive isMore, read_of_live backend.engine isOtherLive isOtherMore]
  have areOpen : AreOpen
      { link with engine := (backend.engine.step reader.statement link.engine).2 }
      { other with engine := (backend.engine.step image other.engine).2 } :=
    ⟨alike.isOpened, alike.isOtherOpened, alike.config⟩
  by_cases isRow : (backend.engine.step reader.statement link.engine).1 = Status.row
  · obtain ⟨-, sameCount, sameRest⟩ := onRow isRow
    rw [isRow, settle_row]
    refine ⟨areOpen, fun _ => ⟨areOpen, fun isStill isOtherStill => ?_⟩, fun _ => sameCount⟩
    cases isOpened.symm.trans isStill
    cases isOtherOpened.symm.trans isOtherStill
    exact sameRest
  · rw [settle_verdict isRow]
    exact ⟨areOpen, absurd rfl, nofun⟩

theorem GoesAlong.read (goes : reader.GoesAlong backend image link other) :
    let first := reader.read backend.engine link
    let second := (reader.withStatement image).read backend.engine other
    second.1 = (first.1.1, first.1.2.withStatement image) ∧
      first.1.2.GoesAlong backend image first.2 second.2 := by
  by_cases isDone : reader.cursor = .done
  · have isOtherDone : (reader.withStatement image).cursor = .done := isDone
    rw [read_of_done goes.isLive.1 isDone, read_of_done goes.isLive.2 isOtherDone]
    exact ⟨rfl, goes⟩
  · exact read_alike isDone (goes.executes isDone)

theorem GoesAlong.seesCells (goes : reader.GoesAlong backend image link other) :
    reader.SeesCells backend.engine image link other := by
  obtain ⟨isLive, isOtherLive⟩ := goes.isLive
  have sameRow (column : Nat) : (reader.withStatement image).rowColumn backend.engine column other =
      reader.rowColumn backend.engine column link := by
    unfold Reader.rowColumn
    have sameCursor : (reader.withStatement image).cursor = reader.cursor := rfl
    rw [isLive, isOtherLive, sameCursor]
    by_cases isOnRow : reader.cursor = .onRow
    · have sameCount : (reader.withStatement image).columnCount backend.engine other =
          reader.columnCount backend.engine link := by
        simp only [Reader.columnCount, Reader.count, isLive, isOtherLive, withStatement,
          goes.columnCount isOnRow]
      rw [columnIndex_eq, columnIndex_eq, sameCount]
    · simp [isOnRow]
  intro cells column
  exact congrArg (Except.map _) (sameRow column)

theorem GoesAlong.withCells (goes : reader.GoesAlong backend image link other)
    (cells : List Cell) : { reader with cells }.GoesAlong backend image link other :=
  ⟨goes.toAreOpen, goes.executes, goes.columnCount⟩

theorem GoesAlong.withPools (goes : reader.GoesAlong backend image link other)
    (pool otherPool : Scratch.Pool) :
    reader.GoesAlong backend image { link with pool } { other with pool := otherPool } where
  isOpened := goes.isOpened
  isOtherOpened := goes.isOtherOpened
  config := goes.config
  executes isMore :=
    have alike := goes.executes isMore
    ⟨⟨alike.isOpened, alike.isOtherOpened, alike.config⟩, alike.execution⟩
  columnCount := goes.columnCount

end Reader

/-! ## Executing -/

namespace Command

theorem readAlike : Reader.ReadAlike backend statement image
    (ExecuteAlike backend statement image) AreOpen := by
  rintro reader link other rfl alike
  by_cases isDone : reader.cursor = .done
  · have isOtherDone : (reader.withStatement image).cursor = .done := isDone
    rw [Reader.read_of_done alike.isLive.1 isDone, Reader.read_of_done alike.isLive.2 isOtherDone]
    exact ⟨rfl, nofun, fun _ => alike.toAreOpen⟩
  · obtain ⟨same, goes⟩ := Reader.read_alike isDone alike
    refine ⟨same, fun isTrue => ?_, fun _ => goes.toAreOpen⟩
    have isOnRow := (Reader.read_onRow alike.isLive.1).mpr isTrue
    have executes := goes.executes (by simp [isOnRow])
    rwa [Reader.read_statement] at executes

theorem executeNonQuery_alike {command : Command}
    (alike : ExecuteAlike backend command.statement image link other) :
    ((Command.mk image).executeNonQuery backend other).1 =
      (command.executeNonQuery backend link).1 := by
  obtain ⟨isLive, isOtherLive⟩ := alike.isLive
  let take (_ : Reader) (_ : Link σ) (count : Nat) : Except Error Nat := .ok (count + 1)
  have reads : Reader.ReadAlike backend command.statement image _ _ := readAlike
  have isCommand : command.reader.statement = command.statement := rfl
  have gathers := @Reader.ReadAlike.gather _ _ _ _ _ _ _ _ reads (fun _ => true) take id
    (fun _ _ _ => rfl) _ _ _ 0 isCommand alike
  have executes {command : Command} {link : Link σ} (isLive : link.connection.isDisposed = false) :
      (command.executeNonQuery backend link).1 =
        (command.reader.gather backend (fun _ => true) take id 0 link).1.1 := by
    unfold executeNonQuery executeReader
    rw [Call.bind_apply, Call.bind_of_ok _ (Connection.ensureNotDisposed_of_live isLive)]
    rfl
  have sameCount := congrArg Prod.fst gathers.1
  rw [executes isLive, executes isOtherLive]
  exact sameCount

end Command

end EmbeddedSql
