import EmbeddedSql.Proofs.Connection.Custody
import EmbeddedSql.Proofs.Engine.Rewinding

/-! Whatever is made of a statement on a connection, it is reset again once its rows are
not read any more, and what is made of others is no matter to it. -/

namespace EmbeddedSql

def Error.IsNoFinalize (error : Error) : Prop :=
  ∀ code, error ≠ .finalizeFailed code

variable {σ ε α β : Type}

namespace Rewinding

variable {engine : Engine σ} (laws : Rewinding engine) (watch : Watch laws.toCustody)

/-! ## Links -/

/-- Nothing is missing of what is watched, and an open connection has an open database. -/
structure Sits (link : Link σ) : Prop extends watch.Guards link.engine where
  isOpen : ∀ {database}, link.connection.lifecycle = .opened database →
    (laws.handles link.engine).isOpen database = true

/-- A statement of the open connection. If it is watched, using it makes no difference. -/
structure Uses (statement : StatementHandle) (link : Link σ) : Prop extends
    laws.Sits watch link where
  isUsed : ∃ database, link.connection.lifecycle = .opened database ∧
    (laws.handles link.engine).owner? statement = some database
  mayUse : watch.watched statement → laws.Endures watch.Keeps

structure Rests (statement : StatementHandle) (link : Link σ) : Prop extends
    laws.Uses watch statement link where
  isReset : laws.IsReset link.engine statement

/-- A call has failed for another reason than that of finalizing a statement. -/
def Leaves (error : Error) (link : Link σ) : Prop :=
  error.IsNoFinalize ∧ laws.Sits watch link

variable {laws watch} {link : Link σ} {statement : StatementHandle}

theorem Uses.inUse (uses : laws.Uses watch statement link) :
    (laws.handles link.engine).InUse statement := by
  obtain ⟨database, isOpened, isOwner⟩ := uses.isUsed
  exact ⟨database, isOwner, uses.isOpen isOpened⟩

theorem Uses.isLive (uses : laws.Uses watch statement link) :
    link.connection.isDisposed = false := by
  obtain ⟨database, isOpened, -⟩ := uses.isUsed
  simp [Connection.isDisposed, isOpened]

theorem Sits.request (sits : laws.Sits watch link) {after : σ}
    (shows : laws.Shows after (laws.handles link.engine)) (guards : watch.Guards after) :
    laws.Sits watch { link with engine := after } where
  toGuards := guards
  isOpen isOpened := by
    rw [shows.2]
    exact sits.isOpen isOpened

theorem Uses.request (uses : laws.Uses watch statement link) {after : σ}
    (shows : laws.Shows after (laws.handles link.engine)) (guards : watch.Guards after) :
    laws.Uses watch statement { link with engine := after } where
  toSits := uses.toSits.request shows guards
  isUsed := by
    rw [shows.2]
    exact uses.isUsed
  mayUse := uses.mayUse

theorem Sits.withPool (sits : laws.Sits watch link) (pool : Scratch.Pool) :
    laws.Sits watch { link with pool } :=
  ⟨sits.toGuards, sits.isOpen⟩

theorem Uses.withPool (uses : laws.Uses watch statement link) (pool : Scratch.Pool) :
    laws.Uses watch statement { link with pool } :=
  ⟨uses.toSits.withPool pool, uses.isUsed, uses.mayUse⟩

theorem Rests.withPool (rests : laws.Rests watch statement link) (pool : Scratch.Pool) :
    laws.Rests watch statement { link with pool } :=
  ⟨rests.toUses.withPool pool, rests.isReset⟩

/-! ## Requests -/

theorem Uses.step (uses : laws.Uses watch statement link) :
    laws.Uses watch statement { link with engine := (engine.step statement link.engine).2 } :=
  uses.request (laws.stepped uses.valid uses.inUse)
    (uses.toGuards.step uses.inUse uses.mayUse)

theorem Uses.reset (uses : laws.Uses watch statement link) :
    laws.Rests watch statement { link with engine := (engine.reset statement link.engine).2 } where
  toUses := uses.request (laws.reset uses.valid uses.inUse)
    (uses.toGuards.reset uses.inUse uses.mayUse)
  isReset := laws.reset_isReset uses.valid uses.inUse

theorem Uses.finalize (uses : laws.Uses watch statement link)
    (isUnwatched : ¬watch.watched statement) :
    laws.Sits watch { link with engine := (engine.finalize statement link.engine).2 } where
  toGuards := uses.toGuards.finalize uses.inUse isUnwatched
  isOpen isOpened := by
    rw [(laws.finalized uses.valid uses.inUse).2]
    exact uses.isOpen isOpened

theorem Rests.bind (rests : laws.Rests watch statement link) (index : Int) (argument : Argument) :
    laws.Rests watch statement
      { link with engine := (engine.bind statement index argument link.engine).2 } where
  toUses := rests.request (laws.bound rests.valid rests.inUse)
    (rests.toGuards.bind rests.inUse rests.mayUse index argument)
  isReset := laws.bound_isReset rests.valid rests.inUse rests.isReset

theorem Rests.give (rests : laws.Rests watch statement link) (index : Int) (argument : Argument) :
    laws.Rests watch statement
      { link with engine := (engine.give statement index argument link.engine).2 } := by
  rcases Nat.lt_or_ge Engine.maxLength argument.byteLength with isLong | fits
  · rw [Engine.give_of_long isLong]
    exact rests
  · rw [Engine.give_of_le fits]
    exact rests.bind index argument

theorem Rests.clear (rests : laws.Rests watch statement link) :
    laws.Rests watch statement
      { link with engine := (engine.clearBindings statement link.engine).2 } where
  toUses := rests.request (laws.cleared rests.valid rests.inUse)
    (rests.toGuards.clearBindings rests.inUse rests.mayUse)
  isReset := laws.cleared_isReset rests.valid rests.inUse rests.isReset

/-! ## Opening -/

variable (growth : Scratch.Growth)

theorem Sits.openPath (sits : laws.Sits watch link) (path : Scratch.Encoded)
    (isUnopened : link.connection.lifecycle = .unopened) :
    Call.Ends (Connection.openPath engine path link) (laws.Leaves watch)
      fun _ last => laws.Sits watch last ∧
        ∃ database, last.connection.lifecycle = .opened database := by
  unfold Connection.openPath
  rw [Call.bind_apply, Call.get_apply]
  dsimp only
  cases path.cString? with
  | none => exact ⟨nofun, sits⟩
  | some bytes =>
      dsimp only
      rw [Call.bind_apply, Call.request_apply]
      dsimp only
      have guards := sits.toGuards.openDatabase bytes link.connection.config.openMode
      have stays (state : σ) {database : DatabaseHandle}
          (isOpened : link.connection.lifecycle = .opened database) :
          (laws.handles state).isOpen database = true := nomatch isUnopened.symm.trans isOpened
      rcases opened : (engine.openDatabase bytes link.connection.config.openMode link.engine).1 with
        ⟨_ | database, code⟩
      · exact ⟨nofun, guards, stays _⟩
      · obtain ⟨isClosed, shows⟩ := laws.opened sits.valid (congrArg Prod.fst opened)
        have isOpen : (laws.handles (engine.openDatabase bytes link.connection.config.openMode
            link.engine).2).isOpen database = true := by
          rw [shows.2, Handles.opening_isOpen_self]
        by_cases isOk : code = Status.ok
        · simp only [isOk, if_true]
          refine ⟨⟨guards, fun isOpened => ?_⟩, database, rfl⟩
          exact Lifecycle.opened.inj isOpened ▸ isOpen
        · have isIdle : (laws.handles (engine.openDatabase bytes link.connection.config.openMode
              link.engine).2).IsIdle database := by
            intro statement isOwner
            rw [shows.2, Handles.opening_owner?] at isOwner
            cases isClosed.symm.trans (laws.isOpen_of_owner sits.valid isOwner)
          simp only [isOk, if_false]
          exact ⟨nofun, guards.closeDatabase isOpen isIdle, stays _⟩

theorem Sits.ensureOpen (sits : laws.Sits watch link) :
    Call.Ends (Connection.ensureOpen engine growth link) (laws.Leaves watch)
      fun _ last => laws.Sits watch last ∧
        ∃ database, last.connection.lifecycle = .opened database := by
  unfold Connection.ensureOpen
  rw [Call.bind_apply, Call.get_apply]
  dsimp only
  cases isLifecycle : link.connection.lifecycle with
  | disposed => exact ⟨nofun, sits⟩
  | opened database => exact ⟨sits, database, isLifecycle⟩
  | unopened =>
      dsimp only
      refine .withScratch ((sits.withPool _).openPath _ isLifecycle) ?_ ?_
      · exact fun error last pool left => ⟨left.1, left.2.withPool pool⟩
      · exact fun _ last pool left => ⟨left.1.withPool pool, left.2⟩

theorem Sits.database (sits : laws.Sits watch link) :
    Call.Ends (Connection.database engine growth link) (laws.Leaves watch)
      fun database last => laws.Sits watch last ∧
        last.connection.lifecycle = .opened database := by
  refine (sits.ensureOpen growth).bind fun _ between opened => ?_
  obtain ⟨sits, database, isOpened⟩ := opened
  rw [Call.bind_apply, Call.get_apply]
  simp only [isOpened]
  exact ⟨sits, isOpened⟩

/-! ## Statements and counters -/

theorem Sits.prepare (sits : laws.Sits watch link) (sql : Text) :
    Call.Ends (Connection.prepare engine growth sql link) (laws.Leaves watch)
      fun statement last => laws.Rests watch statement last ∧ ¬watch.watched statement := by
  refine (sits.database growth).bind fun database between opened => ?_
  obtain ⟨sits, isOpened⟩ := opened
  have isOpen := sits.isOpen isOpened
  have guards := sits.toGuards.prepare isOpen sql
  refine Connection.ensureFits_ends engine ⟨nofun, sits⟩ ?_
  rw [Call.bind_apply, Call.request_apply]
  dsimp only
  rcases isPrepared : (engine.prepare database sql between.engine).1.2 with _ | statement
  · have shows := laws.unprepared sits.valid isOpen isPrepared
    have left := sits.request shows guards
    split
    · exact ⟨nofun, left⟩
    · exact ⟨nofun, left⟩
  · obtain ⟨isOk, isFree, shows⟩ := laws.prepared sits.valid isOpen isPrepared
    rw [if_neg (by simp [isOk])]
    have isUnwatched : ¬watch.watched statement := by
      intro isWatched
      obtain ⟨owner, isOwner, -⟩ := sits.areInUse isWatched
      cases isFree.symm.trans isOwner
    refine ⟨⟨⟨⟨guards, fun isOpened => ?_⟩, ⟨database, isOpened, ?_⟩, fun isWatched =>
      absurd isWatched isUnwatched⟩, laws.prepared_isReset sits.valid isOpen isPrepared⟩, isUnwatched⟩
    · rw [shows.2]
      exact sits.isOpen isOpened
    · rw [shows.2]
      exact Handles.preparing_owner?_self _ _ _

theorem Sits.changes (sits : laws.Sits watch link) :
    Call.Ends (Connection.changes engine growth link) (laws.Leaves watch)
      fun _ => laws.Sits watch :=
  (sits.database growth).bind fun _ _ opened => opened.1

theorem Sits.lastInsertRowid (sits : laws.Sits watch link) :
    Call.Ends (Connection.lastInsertRowid engine growth link) (laws.Leaves watch)
      fun _ => laws.Sits watch :=
  (sits.database growth).bind fun _ _ opened => opened.1

/-! ## Disposing -/

theorem guards_finalizeListed (database : DatabaseHandle) (limit : Nat) (link : Link σ)
    (guards : watch.Guards link.engine)
    (isOpen : (laws.handles link.engine).isOpen database = true)
    (isElsewhere : ∀ statement, watch.watched statement →
      (laws.handles link.engine).owner? statement ≠ some database) :
    watch.Guards (Connection.finalizeListed engine database limit link).2.engine := by
  induction limit generalizing link with
  | zero => exact guards
  | succ limit induction =>
      unfold Connection.finalizeListed
      rw [Call.bind_apply, Call.observe_apply]
      dsimp only
      cases isListed : (engine.statements database link.engine).head? with
      | none => exact guards
      | some statement =>
          have isOwner := (laws.mem_statements guards.valid isOpen).mp (List.mem_of_head? isListed)
          have isUnwatched : ¬watch.watched statement := fun isWatched =>
            isElsewhere statement isWatched isOwner
          have inUse : (laws.handles link.engine).InUse statement := ⟨database, isOwner, isOpen⟩
          have finalized := laws.finalized guards.valid inUse
          dsimp only
          rw [Call.bind_apply, Call.request_apply]
          refine induction _ (guards.finalize inUse isUnwatched) ?_ fun other isWatched => ?_
          · rw [finalized.2]
            exact isOpen
          · have isOther : other ≠ statement := by
              rintro rfl
              exact isUnwatched isWatched
            rw [finalized.2]
            simpa [Handles.finalizing, isOther] using isElsewhere other isWatched

theorem Sits.dispose (sits : laws.Sits watch link)
    (isElsewhere : ∀ statement database, watch.watched statement →
      link.connection.lifecycle = .opened database →
        (laws.handles link.engine).owner? statement ≠ some database) :
    laws.Sits watch (Connection.dispose engine link).2 := by
  unfold Connection.dispose Connection.setLifecycle
  rw [Call.bind_apply, Call.get_apply]
  dsimp only
  rw [Call.bind_apply, Call.modify_apply]
  dsimp only
  cases isLifecycle : link.connection.lifecycle with
  | disposed => exact ⟨sits.toGuards, nofun⟩
  | unopened => exact ⟨sits.toGuards, nofun⟩
  | opened database =>
      let disposing : Link σ :=
        { link with connection := { link.connection with lifecycle := .disposed } }
      have isOpen := sits.isOpen isLifecycle
      have swept := guards_finalizeListed database
        (engine.statements database link.engine).length disposing sits.toGuards isOpen
        fun statement isWatched => isElsewhere statement database isWatched isLifecycle
      have sweeps := laws.itself.runs_finalizeListed (laws.itself.situation disposing)
        (engine.statements database link.engine) isOpen (Nat.le_refl _)
        fun statement => laws.mem_statements sits.valid isOpen
      obtain ⟨_, -, -, -, isSwept⟩ := sweeps disposing disposing.engine sits.valid rfl rfl
      have sameHandles : laws.handles (Connection.finalizeListed engine database
          (engine.statements database link.engine).length disposing).2.engine =
            (laws.handles link.engine).sweeping database := congrArg Situation.handles isSwept
      dsimp only
      rw [Call.bind_apply, Call.observe_apply]
      dsimp only
      rw [Call.bind_apply]
      obtain ⟨state, finalizes⟩ := Connection.finalizeListed_apply engine database
        (engine.statements database link.engine).length disposing
      rw [finalizes] at swept sameHandles
      rw [finalizes]
      refine ⟨swept.closeDatabase ?_ ?_, nofun⟩
      · rw [sameHandles]
        exact isOpen
      · rw [sameHandles]
        exact Handles.sweeping_isIdle _ _

/-! ## Parameters

Only a value may be refused, and then the statement stays what it is. -/

section
variable (rests : laws.Rests watch statement link)
include rests

/-- A call of a statement that fails has failed for another reason than its end. -/
def Refuses (laws : Rewinding engine) (watch : Watch laws.toCustody) (statement : StatementHandle)
    (error : Error) (link : Link σ) : Prop :=
  error.IsNoFinalize ∧ laws.Rests watch statement link

theorem Rests.check {code : Int} :
    Call.Ends (Parameter.check code link) (laws.Refuses watch statement)
      fun _ => laws.Rests watch statement := by
  unfold Parameter.check
  split
  · exact rests
  · exact ⟨nofun, rests⟩

theorem Rests.ensureNotDisposed : Connection.ensureNotDisposed link = (.ok (), link) := by
  rw [Connection.ensureNotDisposed_apply, if_neg (by simp [rests.isLive])]

theorem Rests.count :
    Call.Ends (Parameter.count engine statement link) (laws.Refuses watch statement)
      fun _ => laws.Rests watch statement := by
  unfold Parameter.count
  rw [Call.bind_of_ok _ rests.ensureNotDisposed]
  exact rests

theorem Rests.clearParameters :
    Call.Ends (Parameter.clear engine statement link) (laws.Refuses watch statement)
      fun _ => laws.Rests watch statement := by
  unfold Parameter.clear
  rw [Call.bind_of_ok _ rests.ensureNotDisposed, Call.bind_apply, Call.request_apply]
  exact rests.clear.check

theorem Rests.nameOf (index : Int32) :
    Call.Ends (Parameter.nameOf engine statement index link) (laws.Refuses watch statement)
      fun _ => laws.Rests watch statement := by
  unfold Parameter.nameOf
  rw [Call.bind_of_ok _ rests.ensureNotDisposed]
  exact rests

theorem Rests.lookUp (name : Scratch.Encoded) :
    Call.Ends (Parameter.lookUp engine statement name link) (laws.Refuses watch statement)
      fun _ => laws.Rests watch statement := by
  unfold Parameter.lookUp
  cases name.cString? <;> exact rests

theorem Rests.resolve (parameter : Parameter) :
    Call.Ends (Parameter.resolve engine growth statement parameter link)
      (laws.Refuses watch statement) fun _ => laws.Rests watch statement := by
  have looks (encode : Scratch.Pool → Scratch.Encoded × Scratch.Pool) :
      Call.Ends (Call.withScratch encode (Parameter.lookUp engine statement) link)
        (laws.Refuses watch statement) fun _ => laws.Rests watch statement :=
    .withScratch ((rests.withPool _).lookUp _)
      (fun _ _ pool left => ⟨left.1, left.2.withPool pool⟩) fun _ _ pool left => left.withPool pool
  unfold Parameter.resolve
  rw [Call.bind_of_ok _ rests.ensureNotDisposed]
  rcases parameter with position | (bytes | units)
  · exact rests
  · exact looks _
  · exact looks _

theorem Rests.bindParameter (parameter : Parameter) (argument : Argument) :
    Call.Ends (Parameter.bind engine growth statement parameter argument link)
      (laws.Refuses watch statement) fun _ => laws.Rests watch statement := by
  refine (rests.resolve growth parameter).bind fun index between rests => ?_
  rw [Call.bind_apply, Call.request_apply]
  exact (rests.give index argument).check

theorem Rests.bindText (parameter : Parameter) (text : Text) :
    Call.Ends (Parameter.bindText engine growth statement parameter text link)
      (laws.Refuses watch statement) fun _ => laws.Rests watch statement := by
  refine (rests.resolve growth parameter).bind fun index between rests => ?_
  cases text with
  | utf8 bytes =>
      dsimp only
      rw [Call.bind_apply, Call.request_apply]
      exact (rests.give index _).check
  | utf16 units =>
      refine .withScratch ?_ (fun _ _ pool left => ⟨left.1, left.2.withPool pool⟩)
        fun _ _ pool left => left.withPool pool
      rw [Call.bind_apply, Call.request_apply]
      exact ((rests.withPool _).give index _).check

theorem Rests.give_isNoMisuse {index : Int} (isPosition : 1 ≤ index)
    (isInRange : index ≤ engine.parameterCount statement link.engine) (argument : Argument) :
    (engine.give statement index argument link.engine).1 ≠ Status.misuse := by
  rcases Nat.lt_or_ge Engine.maxLength argument.byteLength with isLong | fits
  · rw [Engine.give_of_long isLong]
    exact nofun
  · rw [Engine.give_of_le fits]
    intro isMisuse
    exact (laws.bound_misuse rests.valid rests.inUse isPosition isInRange).mp isMisuse rests.isReset

omit rests in
theorem check_isNoMisuse {code : Int} (isNoMisuse : code ≠ Status.misuse) :
    (Parameter.check code link).1 ≠ .error (.bindFailed Status.misuse) := by
  unfold Parameter.check
  split
  · exact nofun
  · intro isMisuse
    exact isNoMisuse (Error.bindFailed.inj (Except.error.inj isMisuse))

section
variable {position : Int32} (isPosition : 1 ≤ position.toInt)
  (isInRange : position.toInt ≤ engine.parameterCount statement link.engine)
include isPosition isInRange

theorem Rests.bindParameter_isNoMisuse (argument : Argument) :
    (Parameter.bind engine growth statement (.index position) argument link).1 ≠
      .error (.bindFailed Status.misuse) := by
  unfold Parameter.bind Parameter.resolve
  rw [Call.bind_apply, Call.bind_of_ok _ rests.ensureNotDisposed]
  dsimp only [Call.pure_apply]
  rw [Call.bind_apply, Call.request_apply]
  exact check_isNoMisuse (rests.give_isNoMisuse isPosition isInRange argument)

theorem Rests.bindText_isNoMisuse (text : Text) :
    (Parameter.bindText engine growth statement (.index position) text link).1 ≠
      .error (.bindFailed Status.misuse) := by
  unfold Parameter.bindText Parameter.resolve
  rw [Call.bind_apply, Call.bind_of_ok _ rests.ensureNotDisposed]
  dsimp only [Call.pure_apply]
  cases text with
  | utf8 bytes =>
      dsimp only
      rw [Call.bind_apply, Call.request_apply]
      exact check_isNoMisuse (rests.give_isNoMisuse isPosition isInRange _)
  | utf16 units =>
      dsimp only [Call.withScratch]
      rw [Call.bind_apply, Call.request_apply]
      exact check_isNoMisuse (rests.give_isNoMisuse isPosition isInRange _)

end

end

/-! ## Readers -/

variable {reader : Reader}

theorem Uses.read (uses : laws.Uses watch reader.statement link) :
    laws.Uses watch (reader.read engine link).1.2.statement (reader.read engine link).2 := by
  rw [reader.read_statement]
  unfold Reader.read
  rw [if_neg (by simp [uses.isLive])]
  split
  · exact uses
  · exact uses.step

theorem settle_isNoFinalize {code : Int} {error : Error}
    (isError : (reader.settle engine code link).1 = .error error) : error.IsNoFinalize := by
  unfold Reader.settle at isError
  dsimp only at isError
  repeat' split at isError
  all_goals cases isError
  all_goals exact nofun

theorem read_isNoFinalize {error : Error}
    (isError : (reader.read engine link).1.1 = .error error) : error.IsNoFinalize := by
  unfold Reader.read at isError
  split at isError
  · cases isError
    exact nofun
  split at isError
  · cases isError
  · exact settle_isNoFinalize isError

theorem columnIndex_isNoFinalize {column : Nat} {error : Error}
    (isError : reader.columnIndex engine column link = .error error) : error.IsNoFinalize := by
  unfold Reader.columnIndex at isError
  dsimp only at isError
  repeat' split at isError
  all_goals cases isError
  all_goals exact nofun

theorem cell_isNoFinalize {column : Nat} {error : Error}
    (isError : reader.cell engine column link = .error error) : error.IsNoFinalize := by
  unfold Reader.cell at isError
  cases isColumn : reader.rowColumn engine column link with
  | ok index =>
      rw [isColumn] at isError
      cases isError
  | error failure =>
      rw [isColumn] at isError
      cases isError
      unfold Reader.rowColumn at isColumn
      repeat' split at isColumn
      · cases isColumn
        exact nofun
      · cases isColumn
        exact nofun
      · exact columnIndex_isNoFinalize isColumn

theorem name_isNoFinalize {column : Nat} {error : Error}
    (isError : reader.name engine column link = .error error) : error.IsNoFinalize := by
  unfold Reader.name at isError
  cases isColumn : reader.columnIndex engine column link with
  | ok index =>
      rw [isColumn] at isError
      cases isError
  | error failure =>
      rw [isColumn] at isError
      cases isError
      exact columnIndex_isNoFinalize isColumn

theorem Uses.disposeReset (uses : laws.Uses watch reader.statement link)
    (isReset : reader.release = .reset) :
    laws.Rests watch reader.statement (reader.dispose engine link) := by
  rw [Reader.dispose, if_neg (by simp [uses.isLive]), isReset]
  exact uses.reset

theorem Uses.disposeFinalize (uses : laws.Uses watch reader.statement link)
    (isUnwatched : ¬watch.watched reader.statement) (isFinalize : reader.release = .finalize) :
    laws.Sits watch (reader.dispose engine link) := by
  rw [Reader.dispose, if_neg (by simp [uses.isLive]), isFinalize]
  exact uses.finalize isUnwatched

end Rewinding

/-! ## Commands -/

namespace Rewinding

variable {backend : Backend σ} {laws : Rewinding backend.engine} {watch : Watch laws.toCustody}
  {link : Link σ} {command : Command}

theorem gather_isFair {reader : Reader} {wanted : β → Bool}
    {take : Reader → Link σ → β → Except ε β} {lift : Error → ε} {IsFair : ε → Prop}
    {gathered : β} {error : ε}
    (takes : ∀ {reader link gathered error}, take reader link gathered = .error error → IsFair error)
    (lifts : ∀ {error : Error}, error.IsNoFinalize → IsFair (lift error))
    (isError : (reader.gather backend wanted take lift gathered link).1.1 = .error error) :
    IsFair error := by
  fun_induction Reader.gather backend wanted take lift reader gathered link with
  | case1 reader gathered link _ failure next after outcome =>
      cases isError
      exact lifts (read_isNoFinalize (congrArg (·.1.1) outcome))
  | case2 => cases isError
  | case3 reader gathered link _ next after outcome failure refused =>
      cases isError
      exact takes refused
  | case4 reader gathered link _ next after outcome more _ induction => exact induction isError
  | case5 => cases isError

theorem Rests.gather (rests : laws.Rests watch command.statement link) {wanted : β → Bool}
    (take : Reader → Link σ → β → Except ε β) {lift : Error → ε} {IsFair : ε → Prop}
    (takes : ∀ {reader link gathered error}, take reader link gathered = .error error → IsFair error)
    (lifts : ∀ {error : Error}, error.IsNoFinalize → IsFair (lift error)) (gathered : β) :
    Call.Ends
      (let ((result, reader), last) :=
        command.reader.gather backend wanted take lift gathered link
      (result, reader.dispose backend.engine last))
      (fun error last => IsFair error ∧ laws.Rests watch command.statement last)
      fun _ => laws.Rests watch command.statement := by
  let IsOurs (reader : Reader) (last : Link σ) : Prop :=
    laws.Uses watch reader.statement last ∧ reader.statement = command.statement ∧
      reader.release = .reset
  have start : IsOurs command.reader link := ⟨rests.toUses, rfl, rfl⟩
  have reads (reader : Reader) (last : Link σ) (isOurs : IsOurs reader last) :
      IsOurs (reader.read backend.engine last).1.2 (reader.read backend.engine last).2 :=
    ⟨isOurs.1.read, (reader.read_statement ..).trans isOurs.2.1,
      (reader.read_release ..).trans isOurs.2.2⟩
  have ends : IsOurs (command.reader.gather backend wanted take lift gathered link).1.2
      (command.reader.gather backend wanted take lift gathered link).2 :=
    Reader.gather_keeps reads start
  have isFair {error : ε} (isError :
      (command.reader.gather backend wanted take lift gathered link).1.1 = .error error) :=
    gather_isFair takes lifts isError
  rcases outcome : command.reader.gather backend wanted take lift gathered link with
    ⟨⟨error | answer, reader⟩, last⟩ <;> rw [outcome] at ends isFair
  · obtain ⟨uses, sameStatement, isReset⟩ := ends
    exact ⟨isFair rfl, sameStatement ▸ uses.disposeReset isReset⟩
  · obtain ⟨uses, sameStatement, isReset⟩ := ends
    exact sameStatement ▸ uses.disposeReset isReset

theorem Rests.executeNonQuery (rests : laws.Rests watch command.statement link) :
    Call.Ends (command.executeNonQuery backend link) (laws.Refuses watch command.statement)
      fun _ => laws.Rests watch command.statement := by
  unfold Command.executeNonQuery Command.executeReader
  rw [Call.bind_apply, Call.bind_of_ok _ rests.ensureNotDisposed, Call.pure_apply]
  exact rests.gather (fun _ _ count => .ok (count + 1)) nofun id 0

theorem Rests.sql (rests : laws.Rests watch command.statement link) :
    Call.Ends (command.sql backend link) (laws.Refuses watch command.statement)
      fun _ => laws.Rests watch command.statement := by
  unfold Command.sql
  rw [Call.bind_of_ok _ rests.ensureNotDisposed]
  exact rests

theorem Rests.finalizeCommand_eq (rests : laws.Rests watch command.statement link) :
    command.finalize backend link = (.ok (), { link with
      engine := (backend.engine.finalize command.statement link.engine).2 }) := by
  have isOk := laws.finalized_ok rests.valid rests.inUse rests.isReset
  unfold Command.finalize
  rw [Call.bind_of_ok _ rests.ensureNotDisposed, Call.bind_apply, Call.request_apply]
  dsimp only
  rw [if_neg (by simp [isOk])]
  rfl

theorem Rests.finalizeCommand (rests : laws.Rests watch command.statement link)
    (isUnwatched : ¬watch.watched command.statement) :
    ∃ last, command.finalize backend link = (.ok (), last) ∧ laws.Sits watch last :=
  ⟨_, rests.finalizeCommand_eq, rests.toUses.finalize isUnwatched⟩

theorem Uses.drop (uses : laws.Uses watch command.statement link)
    (isUnwatched : ¬watch.watched command.statement) :
    laws.Sits watch (command.drop backend link) := by
  rw [Command.drop, if_neg (by simp [uses.isLive])]
  exact uses.finalize isUnwatched

/-! ## Statements that a call makes for itself -/

variable (sits : laws.Sits watch link) (sql : Text)
include sits

theorem Sits.createCommand :
    Call.Ends (Connection.createCommand backend sql link) (laws.Leaves watch)
      fun command last => laws.Rests watch command.statement last ∧
        ¬watch.watched command.statement :=
  (sits.prepare backend.growth sql).bind fun _ _ rests => rests

theorem Sits.createCommand_holds (Holds : σ → StatementHandle → Prop)
    (prepared : ∀ {state database statement}, laws.Valid state →
      (laws.handles state).isOpen database = true →
        (backend.engine.prepare database sql state).1.2 = some statement →
          Holds (backend.engine.prepare database sql state).2 statement) :
    Call.Ends (Connection.createCommand backend sql link) (fun _ _ => True)
      fun command last => Holds last.engine command.statement := by
  have prepares : Call.Ends (Connection.prepare backend.engine backend.growth sql link)
      (fun _ _ => True) fun statement last => Holds last.engine statement := by
    refine ((sits.database backend.growth).mono (fun _ _ _ => trivial) fun _ _ => id).bind
      fun database between ⟨sits, isOpened⟩ => ?_
    refine Connection.ensureFits_ends backend.engine trivial ?_
    rw [Call.bind_apply, Call.request_apply]
    dsimp only
    rcases isPrepared : (backend.engine.prepare database sql between.engine).1.2 with _ | statement
    · split <;> trivial
    · have isOpen := sits.isOpen isOpened
      obtain ⟨isOk, -, -⟩ := laws.prepared sits.valid isOpen isPrepared
      rw [if_neg (by simp [isOk])]
      exact prepared sits.valid isOpen isPrepared
  exact prepares.bind fun _ _ => id

theorem Sits.executeReader :
    Call.Ends (Connection.executeReader backend sql link) (laws.Leaves watch)
      fun reader last => laws.Rests watch reader.statement last ∧
        ¬watch.watched reader.statement :=
  (sits.prepare backend.growth sql).bind fun _ _ rests => rests

theorem Sits.executeNonQuery :
    Call.Ends (Connection.executeNonQuery backend sql link) (laws.Leaves watch)
      fun _ => laws.Sits watch := by
  refine (sits.createCommand sql).bind fun command between ⟨rests, isUnwatched⟩ => ?_
  have runs : Call.Ends (command.dropOnError backend (command.executeNonQuery backend) between)
      (laws.Leaves watch) fun _ => laws.Rests watch command.statement :=
    .dropOnError rests.executeNonQuery fun _ _ left => ⟨left.1, left.2.toUses.drop isUnwatched⟩
  refine runs.bind fun rows between rests => ?_
  obtain ⟨last, finalizes, sits⟩ := rests.finalizeCommand isUnwatched
  rw [Call.bind_of_ok _ finalizes]
  exact sits

end Rewinding

end EmbeddedSql
