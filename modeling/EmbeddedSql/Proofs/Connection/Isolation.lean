import EmbeddedSql.Proofs.Connection.Binding
import EmbeddedSql.Proofs.Connection.Columns
import EmbeddedSql.Proofs.Twin

/-! Of the same call, connections to private databases that go together make the same. -/

namespace EmbeddedSql

open Call (EndAlike)

variable {σ ε α β : Type}

namespace Isolation

variable {engine : Engine σ} (laws : Isolation engine) {bond : Bond}

/-! ## Opening -/

theorem isIdle_of_closed {state : σ} {database : DatabaseHandle} (valid : laws.Valid state)
    (isClosed : (laws.handles state).isOpen database = false) :
    (laws.handles state).IsIdle database := by
  intro _ isOwner
  cases isClosed.symm.trans (laws.isOpen_of_owner valid isOwner)

theorem valid_of_failed {state : σ} {path : Bytes} {mode : OpenMode} {database : DatabaseHandle}
    (valid : laws.Valid state)
    (isOpened : (engine.openDatabase path mode state).1.1 = some database) :
    laws.Valid (engine.closeDatabase database (engine.openDatabase path mode state).2).2 := by
  obtain ⟨isClosed, valid', handles⟩ := laws.opened valid isOpened
  refine (laws.closed valid' ?_ ?_).1
  · rw [handles, Handles.opening_isOpen_self]
  · rw [handles]
    exact laws.isIdle_of_closed valid isClosed

variable (growth : Scratch.Growth)

theorem runs_openPath {path otherPath : Scratch.Encoded} (isPath : path.cString? = some memoryPath)
    (isOtherPath : otherPath.cString? = some memoryPath) :
    laws.Runs .unopened (Connection.openPath engine path) (Connection.openPath engine otherPath)
      Bond.unopened.Follows fun _ _ next => ∃ parts, next = .opened parts ∧
        Bond.unopened.Follows next := by
  intro link other tied
  cases tied with
  | @unopened config pool otherPool state image valid otherValid =>
      unfold Connection.openPath
      rw [Call.bind_apply, Call.bind_apply, Call.get_apply, Call.get_apply]
      dsimp only
      rw [isPath, isOtherPath]
      dsimp only
      rw [Call.bind_apply, Call.bind_apply, Call.request_apply, Call.request_apply]
      dsimp only
      obtain ⟨sameCode, ⟨isNone, isOtherNone⟩ | ⟨database, otherDatabase, isSome, isOtherSome,
        sameMessage, alike⟩⟩ := laws.alike_opened config.openMode valid otherValid
      · rw [isNone, isOtherNone, sameCode]
        exact ⟨rfl, .unopened, .refl _, .unopened (laws.unopened valid isNone).1
          (laws.unopened otherValid isOtherNone).1⟩
      · rw [isSome, isOtherSome, sameCode]
        dsimp only
        by_cases isOk : (engine.openDatabase memoryPath config.openMode state).1.2 = Status.ok
        · rw [if_pos isOk, if_pos isOk]
          exact ⟨_, ⟨_, rfl, .opening database otherDatabase⟩, .opened (alike isOk)⟩
        · rw [if_neg isOk, if_neg isOk]
          refine ⟨congrArg _ ?_, .unopened, .refl _, .unopened ?_ ?_⟩
          · exact congrArg Utf8.toString sameMessage
          · exact laws.valid_of_failed valid isSome
          · exact laws.valid_of_failed otherValid isOtherSome

theorem memoryPath_cString? {encoded : Scratch.Encoded} (isTerminated : encoded.terminated)
    (isBytes : encoded.bytes = memoryPath) : encoded.cString? = some memoryPath := by
  rw [Scratch.Encoded.cString?_of_bytes isTerminated isBytes, if_neg (by decide)]

theorem runs_ensureOpen :
    laws.Runs bond (Connection.ensureOpen engine growth) (Connection.ensureOpen engine growth)
      bond.Follows fun _ _ next => ∃ parts, next = .opened parts ∧ bond.Follows next := by
  intro link other tied
  cases tied with
  | unopened valid otherValid =>
      have isPath (pool : Scratch.Pool) :
          (Scratch.Encoded.ofUtf8Terminated growth memoryPath pool).1.cString? = some memoryPath :=
        memoryPath_cString? rfl (Scratch.Encoded.ofUtf8Terminated_bytes ..)
      have opens := Runs.withScratch fun pool otherPool =>
        laws.runs_openPath (isPath pool) (isPath otherPool)
      exact opens _ _ (.unopened valid otherValid)
  | opened alike => exact ⟨_, ⟨_, rfl, .refl _⟩, .opened alike⟩
  | disposed => exact ⟨rfl, _, .refl _, .disposed⟩

theorem runs_database :
    laws.Runs bond (Connection.database engine growth) (Connection.database engine growth)
      bond.Follows fun database image next => ∃ parts : Counterparts,
        next = .opened parts ∧ database = parts.database ∧ image = parts.image ∧
          bond.Follows next := by
  refine (laws.runs_ensureOpen growth).bind ?_
  rintro - - _ ⟨parts, rfl, follows⟩ link other tied
  cases tied with
  | opened alike => exact ⟨_, ⟨parts, rfl, rfl, rfl, follows⟩, .opened alike⟩

theorem opens_counter {view : DatabaseHandle → σ → α}
    (agrees : ∀ {parts state image}, laws.Alike parts state image →
      view parts.image image = view parts.database state) :
    laws.Opens bond (do Call.observe (view (← Connection.database engine growth)))
      (do Call.observe (view (← Connection.database engine growth))) := by
  refine (laws.runs_database growth).bind ?_
  rintro _ _ _ ⟨parts, rfl, rfl, rfl, follows⟩
  exact (Runs.observe agrees).mono (fun _ => id) fun _ _ _ ⟨same, isNext⟩ =>
    ⟨same, isNext ▸ follows⟩

theorem opens_changes :
    laws.Opens bond (Connection.changes engine growth) (Connection.changes engine growth) :=
  laws.opens_counter growth laws.alike_changes

theorem opens_lastInsertRowid :
    laws.Opens bond (Connection.lastInsertRowid engine growth)
      (Connection.lastInsertRowid engine growth) :=
  laws.opens_counter growth laws.alike_lastInsertRowid

theorem keeps_pendingStatements :
    laws.Keeps bond (Connection.pendingStatements engine)
      (Connection.pendingStatements engine) := by
  intro link other tied
  cases tied with
  | unopened valid otherValid => exact ⟨_, ⟨rfl, rfl⟩, .unopened valid otherValid⟩
  | opened alike =>
      obtain ⟨areListed, areOtherListed⟩ := laws.alike_statements alike
      refine ⟨_, ⟨?_, rfl⟩, .opened alike⟩
      rw [areListed.length_eq, areOtherListed.length_eq, List.length_map, List.length_map]
  | disposed => exact ⟨rfl, _, rfl, .disposed⟩

theorem runs_dispose :
    laws.Runs bond (Connection.dispose engine) (Connection.dispose engine) (· = .disposed)
      fun _ _ next => next = .disposed := by
  intro link other tied
  by_cases isDisposed : bond = .disposed
  · subst isDisposed
    cases tied
    exact ⟨rfl, _, rfl, .disposed⟩
  · have isLive : link.connection.lifecycle ≠ .disposed ∧ other.connection.lifecycle ≠ .disposed := by
      cases tied with
      | disposed => exact absurd rfl isDisposed
      | _ => exact ⟨nofun, nofun⟩
    obtain ⟨state, disposes⟩ := Connection.dispose_of_live engine isLive.1
    obtain ⟨image, otherDisposes⟩ := Connection.dispose_of_live engine isLive.2
    rw [disposes, otherDisposes]
    cases tied <;> exact ⟨_, rfl, .disposed⟩

/-! ## Statements -/

theorem runs_prepare (sql : Text) :
    laws.Runs bond (Connection.prepare engine growth sql) (Connection.prepare engine growth sql)
      bond.Follows bond.Lends := by
  refine (laws.runs_database growth).bind ?_
  rintro _ _ _ ⟨parts, rfl, rfl, rfl, follows⟩ link other tied
  cases tied with
  | @opened _ config pool otherPool state image alike =>
      by_cases isLong : Engine.maxLength < sql.byteLength
      · rw [Call.bind_apply, Call.bind_apply, Connection.ensureFits_apply,
          Connection.ensureFits_apply, if_pos isLong, if_pos isLong]
        exact ⟨rfl, _, follows, .opened alike⟩
      rw [Call.bind_of_ok _ (Connection.ensureFits_of_le engine (Nat.not_lt.mp isLong) _),
        Call.bind_of_ok _ (Connection.ensureFits_of_le engine (Nat.not_lt.mp isLong) _)]
      obtain ⟨sameCode, ⟨isNone, isOtherNone, alike⟩ | ⟨isOk, statement, otherStatement, isSome,
        isOtherSome, isNew, alike⟩⟩ := laws.alike_prepared sql alike
      all_goals
        rw [Call.bind_apply, Call.bind_apply, Call.request_apply, Call.request_apply]
        dsimp only
        rw [sameCode]
      · by_cases isOk : (engine.prepare parts.database sql state).1.1 = Status.ok
        · rw [if_neg (not_not_intro isOk), if_neg (not_not_intro isOk), isNone, isOtherNone]
          exact ⟨rfl, _, follows, .opened alike⟩
        · rw [if_pos isOk, if_pos isOk]
          refine ⟨congrArg _ ?_, _, follows, .opened alike⟩
          exact congrArg Utf8.toString (laws.alike_errorMessage alike)
      · rw [if_neg (not_not_intro isOk), if_neg (not_not_intro isOk), isSome, isOtherSome]
        exact ⟨_, ⟨parts, follows, isNew, rfl⟩, .opened alike⟩

/-! ## Parameters -/

section
variable {statement image : StatementHandle} (uses : bond.Uses statement image)
include uses

theorem runs_using {call : ExceptT ε (StateM (Link σ)) α} {callImage : ExceptT ε (StateM (Link σ)) β}
    {fails : Bond → Prop} {answers : α → β → Bond → Prop} {error : ε}
    (refuses : Call.Refuses error call) (refusesImage : Call.Refuses error callImage)
    (failed : bond = .disposed → fails .disposed)
    (inner : ∀ {parts}, bond = .opened parts → (statement, image) ∈ parts.statements →
      laws.Runs (.opened parts) call callImage fails answers) :
    laws.Runs bond call callImage fails answers := by
  intro link other tied
  cases bond with
  | unopened => exact uses.elim
  | opened parts => exact inner rfl uses _ _ tied
  | disposed =>
      cases tied
      rw [refuses _ rfl, refusesImage _ rfl]
      exact ⟨rfl, _, failed rfl, .disposed⟩

theorem keeps_using {call callImage : ExceptT ε (StateM (Link σ)) α} {error : ε}
    (refuses : Call.Refuses error call) (refusesImage : Call.Refuses error callImage)
    (inner : ∀ {parts}, (statement, image) ∈ parts.statements →
      laws.Keeps (.opened parts) call callImage) : laws.Keeps bond call callImage :=
  laws.runs_using uses refuses refusesImage (fun isBond => isBond.symm) fun isBond isThere =>
    isBond ▸ inner isThere

omit uses in
theorem Runs.whenLive {laws : Isolation engine} {parts : Counterparts} {call : Call σ α}
    {callImage : Call σ β} {fails : Bond → Prop} {answers : α → β → Bond → Prop}
    (inner : laws.Runs (.opened parts) call callImage fails answers) :
    laws.Runs (.opened parts) (Connection.ensureNotDisposed >>= fun _ => call)
      (Connection.ensureNotDisposed >>= fun _ => callImage) fails answers := by
  intro link other tied
  have here := inner link other tied
  cases tied
  exact here

omit uses in
theorem keeps_check {parts : Counterparts} {action actionImage : StateM σ Int}
    (agrees : ∀ {state image}, laws.Alike parts state image →
      Agree (laws.Alike parts) (action state) (actionImage image)) :
    laws.Keeps (.opened parts) (Call.request action >>= Parameter.check)
      (Call.request actionImage >>= Parameter.check) := by
  intro link other tied
  cases tied with
  | opened alike =>
      obtain ⟨sameCode, alike⟩ := agrees alike
      rw [Parameter.check_request, Parameter.check_request, sameCode]
      exact .ofSame ⟨_, rfl, .opened alike⟩ fun _ => ⟨_, ⟨rfl, rfl⟩, .opened alike⟩

theorem keeps_count :
    laws.Keeps bond (Parameter.count engine statement) (Parameter.count engine image) :=
  laws.keeps_using uses (Parameter.count_refuses _ _) (Parameter.count_refuses _ _)
    fun isThere => .whenLive (.observe (laws.alike_parameterCount · isThere))

theorem keeps_clear :
    laws.Keeps bond (Parameter.clear engine statement) (Parameter.clear engine image) :=
  laws.keeps_using uses (Parameter.clear_refuses _ _) (Parameter.clear_refuses _ _)
    fun isThere => .whenLive (laws.keeps_check (laws.alike_asked .clearBindings · isThere))

theorem keeps_nameOf (index : Int32) :
    laws.Keeps bond (Parameter.nameOf engine statement index)
      (Parameter.nameOf engine image index) := by
  refine laws.keeps_using uses (Parameter.nameOf_refuses _ _ _) (Parameter.nameOf_refuses _ _ _)
    fun isThere => .whenLive ?_
  refine Runs.bind (.observe (laws.alike_parameterName? index.toInt · isThere)) ?_
  rintro name _ _ ⟨rfl, rfl⟩
  exact .pure ⟨rfl, rfl⟩

omit uses in
theorem alike_position {parts : Counterparts} {here there : σ} (parameter : Parameter)
    (alike : laws.Alike parts here there) (isThere : (statement, image) ∈ parts.statements) :
    parameter.position engine image there = parameter.position engine statement here := by
  cases parameter with
  | index position => rfl
  | name text =>
      rw [Parameter.position, Parameter.position, Parameter.positionOf, Parameter.positionOf,
        laws.alike_parameterIndex _ alike isThere]

omit uses in
theorem alike_give {parts : Counterparts} {here there : σ} (index : Int) (argument : Argument)
    (alike : laws.Alike parts here there) (isThere : (statement, image) ∈ parts.statements) :
    Agree (laws.Alike parts) (engine.give statement index argument here)
      (engine.give image index argument there) := by
  rcases Nat.lt_or_ge Engine.maxLength argument.byteLength with isLong | fits
  · rw [Engine.give_of_long isLong, Engine.give_of_long isLong]
    exact ⟨rfl, alike⟩
  · rw [Engine.give_of_le fits, Engine.give_of_le fits]
    exact laws.alike_asked (.bind index argument) alike isThere

theorem keeps_resolve (parameter : Parameter) :
    laws.Keeps bond (parameter.resolve engine growth statement)
      (parameter.resolve engine growth image) := by
  refine laws.keeps_using uses (Parameter.resolve_refuses _ _ _ _)
    (Parameter.resolve_refuses _ _ _ _) fun isThere link other tied => ?_
  obtain ⟨_, resolves⟩ := Parameter.resolve_eq engine growth statement parameter tied.isLive.1
  obtain ⟨_, otherResolves⟩ := Parameter.resolve_eq engine growth image parameter tied.isLive.2
  rw [resolves, otherResolves]
  cases tied with
  | opened alike =>
      exact ⟨_, ⟨laws.alike_position parameter alike isThere, rfl⟩, .opened alike⟩

theorem keeps_bind (parameter : Parameter) (argument : Argument) :
    laws.Keeps bond (parameter.bind engine growth statement argument)
      (parameter.bind engine growth image argument) := by
  refine laws.keeps_using uses (Parameter.bind_refuses _ _ _ _ _)
    (Parameter.bind_refuses _ _ _ _ _) fun isThere link other tied => ?_
  obtain ⟨_, binds⟩ := Parameter.bind_eq engine growth statement parameter argument tied.isLive.1
  obtain ⟨_, otherBinds⟩ := Parameter.bind_eq engine growth image parameter argument tied.isLive.2
  rw [binds, otherBinds]
  cases tied with
  | opened alike =>
      dsimp only
      rw [laws.alike_position parameter alike isThere]
      obtain ⟨sameCode, alike⟩ := laws.alike_give _ argument alike isThere
      rw [sameCode]
      exact .ofSame ⟨_, rfl, .opened alike⟩ fun _ => ⟨_, ⟨rfl, rfl⟩, .opened alike⟩

theorem keeps_bindText (parameter : Parameter) (text : Text) :
    laws.Keeps bond (parameter.bindText engine growth statement text)
      (parameter.bindText engine growth image text) := by
  refine laws.keeps_using uses (Parameter.bindText_refuses _ _ _ _ _)
    (Parameter.bindText_refuses _ _ _ _ _) fun isThere link other tied => ?_
  obtain ⟨_, binds⟩ := Parameter.bindText_eq engine growth statement parameter text tied.isLive.1
  obtain ⟨_, otherBinds⟩ := Parameter.bindText_eq engine growth image parameter text tied.isLive.2
  rw [binds, otherBinds]
  cases tied with
  | opened alike =>
      dsimp only
      rw [laws.alike_position parameter alike isThere]
      obtain ⟨sameCode, alike⟩ := laws.alike_give _ _ alike isThere
      rw [sameCode]
      exact .ofSame ⟨_, rfl, .opened alike⟩ fun _ => ⟨_, ⟨rfl, rfl⟩, .opened alike⟩

end

/-! ## Readers -/

section
variable {laws} {reader : Reader} {image : StatementHandle} {link other : Link σ}

theorem Tied.read (tied : laws.Tied bond link other) (uses : bond.Uses reader.statement image) :
    let first := reader.read engine link
    let second := (reader.withStatement image).read engine other
    second.1 = (first.1.1, first.1.2.withStatement image) ∧ laws.Tied bond first.2 second.2 := by
  cases tied with
  | unopened => exact uses.elim
  | disposed => exact ⟨rfl, .disposed⟩
  | opened alike =>
      obtain ⟨sameCode, stepped⟩ := laws.alike_asked .step alike uses
      refine ⟨Reader.read_withStatement rfl rfl sameCode (fun _ => laws.alike_row stepped uses)
        fun _ => congrArg Utf8.toString (laws.alike_errorMessage stepped), ?_⟩
      by_cases isDone : reader.cursor = .done
      · simp only [Reader.read, Reader.withStatement, isDone, if_true]
        exact .opened alike
      · simp only [Reader.read, Reader.withStatement, isDone, if_false]
        exact .opened stepped

theorem Tied.dispose (tied : laws.Tied bond link other)
    (uses : bond.Uses reader.statement image) :
    laws.Tied
      (if reader.release = .finalize then bond.removing reader.statement image else bond)
      (reader.dispose engine link) ((reader.withStatement image).dispose engine other) := by
  cases tied with
  | unopened => exact uses.elim
  | disposed =>
      have stays : (if reader.release = .finalize then Bond.disposed.removing reader.statement image
          else .disposed) = .disposed := ite_self _
      rw [stays]
      exact .disposed
  | opened alike =>
      cases isRelease : reader.release with
      | finalize =>
          simp only [Reader.dispose, Reader.withStatement, isRelease, if_true]
          exact .opened (laws.alike_finalized alike uses).2
      | reset =>
          simp only [Reader.dispose, Reader.withStatement, isRelease]
          exact .opened (laws.alike_asked .reset alike uses).2

theorem Tied.sameColumns (tied : laws.Tied bond link other)
    (uses : bond.Uses reader.statement image) :
    Reader.SameColumns engine engine reader image link other := by
  cases tied with
  | unopened => exact uses.elim
  | disposed => exact ⟨rfl, fun isLive => absurd rfl isLive⟩
  | opened alike => exact ⟨rfl, fun _ => laws.alike_columnNames alike uses⟩

theorem Tied.columnCount (tied : laws.Tied bond link other)
    (uses : bond.Uses reader.statement image) :
    (reader.withStatement image).columnCount engine other = reader.columnCount engine link :=
  (tied.sameColumns uses).columnCount

theorem Tied.name (tied : laws.Tied bond link other) (uses : bond.Uses reader.statement image)
    (column : Nat) :
    (reader.withStatement image).name engine column other = reader.name engine column link :=
  (tied.sameColumns uses).name column

theorem Tied.cell (tied : laws.Tied bond link other) (uses : bond.Uses reader.statement image)
    (column : Nat) :
    (reader.withStatement image).cell engine column other = reader.cell engine column link :=
  (tied.sameColumns uses).cell column

end

end Isolation

/-! ## Commands -/

namespace Isolation

variable {backend : Backend σ} (laws : Isolation backend.engine) {bond : Bond}

section
variable {command : Command} {image : StatementHandle}

theorem runs_commandReader :
    laws.Runs bond command.executeReader (Command.mk image).executeReader (· = bond)
      fun reader other next => reader = command.reader ∧
        other = command.reader.withStatement image ∧ next = bond := by
  intro link other tied
  cases tied with
  | disposed => exact ⟨rfl, _, rfl, .disposed⟩
  | unopened valid otherValid => exact ⟨_, ⟨rfl, rfl, rfl⟩, .unopened valid otherValid⟩
  | opened alike => exact ⟨_, ⟨rfl, rfl, rfl⟩, .opened alike⟩

variable (uses : bond.Uses command.statement image)
include uses

theorem readAlike :
    Reader.ReadAlike backend command.statement image (laws.Tied bond) (laws.Tied bond) := by
  rintro reader link other isStatement tied
  obtain ⟨same, tied⟩ := tied.read (isStatement ▸ uses)
  exact ⟨same, fun _ => tied, fun _ => tied⟩

theorem keeps_gather {wanted : β → Bool} {take : Reader → Link σ → β → Except ε β}
    {lift : Error → ε} {gathered : β}
    (takes : ∀ {reader : Reader} {link other : Link σ} (gathered : β),
      reader.statement = command.statement → laws.Tied bond link other →
        take (reader.withStatement image) other gathered = take reader link gathered) :
    laws.Keeps bond
      (fun link =>
        let ((result, reader), link) :=
          command.reader.gather backend wanted take lift gathered link
        (result, reader.dispose backend.engine link))
      (fun link =>
        let ((result, reader), link) :=
          (command.reader.withStatement image).gather backend wanted take lift gathered link
        (result, reader.dispose backend.engine link)) := by
  intro link other tied
  have reads : Reader.ReadAlike backend command.statement image _ _ := laws.readAlike uses
  have isCommand : command.reader.statement = command.statement := rfl
  have same := @Reader.ReadAlike.gather _ _ _ _ _ _ _ _ reads wanted take lift takes _ _ _
    gathered isCommand tied
  have keeps := command.reader.gather_reader backend wanted take lift gathered link
  rcases gathers : command.reader.gather backend wanted take lift gathered link with
    ⟨⟨result, reader⟩, last⟩
  rcases images : (command.reader.withStatement image).gather backend wanted take lift gathered other
    with ⟨⟨otherResult, otherReader⟩, otherLast⟩
  rw [gathers] at keeps
  rw [gathers, images] at same
  obtain ⟨statement, release⟩ : reader.statement = command.statement ∧ reader.release = .reset :=
    keeps
  obtain ⟨same, isTied⟩ := same
  obtain ⟨rfl, rfl⟩ : otherResult = result ∧ otherReader = reader.withStatement image :=
    Prod.mk.inj same
  have disposes := (isTied.elim id id).dispose (statement.symm ▸ uses)
  rw [release, if_neg nofun] at disposes
  dsimp only
  rw [gathers, images]
  exact .ofSame ⟨_, rfl, disposes⟩ fun _ => ⟨_, ⟨rfl, rfl⟩, disposes⟩

theorem keeps_executeCommand :
    laws.Keeps bond (command.executeNonQuery backend)
      ((Command.mk image).executeNonQuery backend) := by
  refine laws.runs_commandReader.bind ?_
  rintro _ _ _ ⟨rfl, rfl, rfl⟩
  exact laws.keeps_gather uses fun _ _ _ => rfl

theorem keeps_sql : laws.Keeps bond (command.sql backend) ((Command.mk image).sql backend) := by
  refine laws.keeps_using uses (command.sql_refuses backend) (Command.sql_refuses backend _)
    fun isThere => .whenLive ?_
  refine Runs.bind (.observe (laws.alike_sqlText · isThere)) ?_
  rintro text _ _ ⟨rfl, rfl⟩
  exact .pure ⟨rfl, rfl⟩

theorem runs_finalizeCommand :
    laws.Runs bond (command.finalize backend) ((Command.mk image).finalize backend)
      (· = bond.removing command.statement image)
      fun answer other next => other = answer ∧ next = bond.removing command.statement image := by
  refine laws.runs_using uses (command.finalize_refuses backend)
    (Command.finalize_refuses backend _) ?_ fun isBond isThere => .whenLive ?_
  · rintro rfl
    rfl
  · subst isBond
    refine Runs.bind (.request (laws.alike_finalized · isThere)) ?_
    rintro code _ _ ⟨rfl, rfl⟩
    split
    · exact .throw rfl
    · exact .pure ⟨rfl, rfl⟩

omit uses in
theorem Tied.drop {laws : Isolation backend.engine} {link other : Link σ}
    (tied : laws.Tied bond link other) (uses : bond.Uses command.statement image) :
    laws.Tied (bond.removing command.statement image) (command.drop backend link)
      ((Command.mk image).drop backend other) := by
  -- a reader that owns the statement lets go of it in the same way
  have uses : bond.Uses (Reader.mk command.statement .finalize .beforeFirst []).statement image :=
    uses
  have disposes := tied.dispose uses
  rwa [if_pos rfl] at disposes

theorem runs_dropCommand :
    laws.Runs (ε := ε) bond (fun link => (.ok (), command.drop backend link))
      (fun link => (.ok (), (Command.mk image).drop backend link))
      (· = bond.removing command.statement image)
      fun _ _ next => next = bond.removing command.statement image :=
  fun _ _ tied => ⟨_, rfl, tied.drop uses⟩

theorem runs_dropOnError {use useImage : ExceptT ε (StateM (Link σ)) α}
    (keeps : laws.Keeps bond use useImage) :
    laws.Runs bond (command.dropOnError backend use) ((Command.mk image).dropOnError backend useImage)
      (· = bond.removing command.statement image)
      fun answer other next => other = answer ∧ next = bond := by
  intro link other tied
  have ends := keeps link other tied
  unfold Command.dropOnError
  rcases outcome : use link with ⟨error | answer, last⟩ <;>
    rcases otherOutcome : useImage other with ⟨otherError | otherAnswer, otherLast⟩ <;>
    rw [outcome, otherOutcome] at ends
  · obtain ⟨rfl, _, rfl, last⟩ := ends
    exact ⟨rfl, _, rfl, last.drop uses⟩
  · exact ends.elim
  · exact ends.elim
  · exact ends

end

/-! ## Statements that a call makes for itself -/

theorem runs_createCommand (sql : Text) :
    laws.Runs bond (Connection.createCommand backend sql) (Connection.createCommand backend sql)
      bond.Follows fun command other => bond.Lends command.statement other.statement := by
  refine (laws.runs_prepare backend.growth sql).bind ?_
  rintro statement other next lends
  exact .pure lends

theorem runs_connectionReader (sql : Text) :
    laws.Runs bond (Connection.executeReader backend sql) (Connection.executeReader backend sql)
      bond.Follows fun reader other next => other = reader.withStatement other.statement ∧
        reader.release = .finalize ∧ bond.Lends reader.statement other.statement next := by
  refine (laws.runs_prepare backend.growth sql).bind ?_
  rintro statement other next lends
  exact .pure ⟨rfl, rfl, lends⟩

theorem opens_borrowing {call callImage : ExceptT ε (StateM (Link σ)) Command}
    {next nextImage : Command → ExceptT ε (StateM (Link σ)) α}
    (lends : laws.Runs bond call callImage bond.Follows
      fun command other => bond.Lends command.statement other.statement)
    (rest : ∀ (command other : Command) lent, lent.Uses command.statement other.statement →
      laws.Runs lent (next command) (nextImage other)
        (lent.removing command.statement other.statement).Follows
        fun answer otherAnswer after => otherAnswer = answer ∧
          (lent.removing command.statement other.statement).Follows after) :
    laws.Opens bond (call >>= next) (callImage >>= nextImage) := by
  refine lends.bind fun command other lent isLent => ?_
  exact (rest command other lent isLent.uses).mono (fun _ => isLent.follows.trans)
    fun _ _ _ ⟨same, follows⟩ => ⟨same, isLent.follows.trans follows⟩

theorem opens_executeNonQuery (sql : Text) :
    laws.Opens bond (Connection.executeNonQuery backend sql)
      (Connection.executeNonQuery backend sql) := by
  refine laws.opens_borrowing (laws.runs_createCommand sql) fun command other lent uses => ?_
  refine ((laws.runs_dropOnError uses (laws.keeps_executeCommand uses)).mono
    (fun _ isLeft => isLeft ▸ .refl _) fun _ _ _ => id).bind ?_
  rintro rows _ _ ⟨rfl, rfl⟩
  refine ((laws.runs_finalizeCommand uses).mono
    (fun _ isLeft => isLeft ▸ .refl _) fun _ _ _ => id).bind ?_
  rintro _ _ _ ⟨-, rfl⟩
  exact .pure ⟨rfl, .refl _⟩

end Isolation

end EmbeddedSql
