import EmbeddedSql.Proofs.Connection.Lifecycle
import EmbeddedSql.Proofs.Mirror

/-! Connections, parameters, readers and commands use no handles but those that are in
use, and hand back all that they do not keep. -/

namespace EmbeddedSql.Mirror

variable {σ τ ε α β : Type} {engine : Engine σ} {other : Engine τ}
  (mirror : Mirror engine other)

/-! ## Requests that change no handles -/

section
variable {mirror} {before : Situation} {statement : StatementHandle}
  (inUse : before.handles.InUse statement)
include inUse

theorem keeps_bind (index : Int) (argument : Argument) :
    mirror.Keeps before (Call.request (engine.bind statement index argument))
      (Call.request (other.bind statement index argument)) :=
  .request (fun _ _ valid same isSeen => mirror.same_bind valid same (isSeen ▸ inUse))
    fun _ valid isSeen => ⟨before.handles, isSeen ▸ mirror.bound valid (isSeen ▸ inUse), rfl⟩

theorem keeps_give (index : Int) (argument : Argument) :
    mirror.Keeps before (Call.request (engine.give statement index argument))
      (Call.request (other.give statement index argument)) := by
  rcases Nat.lt_or_ge Engine.maxLength argument.byteLength with isLong | fits
  · rw [Engine.give_of_long isLong, Engine.give_of_long isLong]
    exact .pure rfl
  · rw [Engine.give_of_le fits, Engine.give_of_le fits]
    exact keeps_bind inUse index argument

theorem keeps_clearBindings :
    mirror.Keeps before (Call.request (engine.clearBindings statement))
      (Call.request (other.clearBindings statement)) :=
  .request (fun _ _ valid same isSeen => mirror.same_clearBindings valid same (isSeen ▸ inUse))
    fun _ valid isSeen => ⟨before.handles, isSeen ▸ mirror.cleared valid (isSeen ▸ inUse), rfl⟩

end

/-! ## Opening -/

section
variable {before : Situation}

theorem isIdle_of_closed {state : σ} {database : DatabaseHandle} (valid : mirror.Valid state)
    (isClosed : (mirror.handles state).isOpen database = false) :
    (mirror.handles state).IsIdle database := by
  intro statement isOwner
  have isOpen := mirror.isOpen_of_owner valid isOwner
  rw [isClosed] at isOpen
  cases isOpen

theorem runs_setLifecycle (lifecycle : Lifecycle) :
    mirror.Runs before (Connection.setLifecycle lifecycle) (Connection.setLifecycle lifecycle)
      fun _ next => next = { before with connection := { before.connection with lifecycle } } := by
  rintro link state valid same rfl
  exact ⟨state, rfl, same, valid, rfl⟩

theorem runs_ensureNotDisposed :
    mirror.Runs before Connection.ensureNotDisposed Connection.ensureNotDisposed
      fun result next => next = before ∧
        (result = .ok () ↔ before.connection.lifecycle ≠ .disposed) := by
  refine .get fun link state isSeen => ?_
  have isSame : (link.withEngine state).connection = link.connection := rfl
  rw [isSame, isSeen]
  cases isDisposed : before.connection.isDisposed with
  | true => exact .throw ⟨rfl, by simpa [Connection.isDisposed] using isDisposed⟩
  | false => exact .pure ⟨rfl, by simpa [Connection.isDisposed] using isDisposed⟩

/-- A database is given out before it is known whether it can be used. -/
def HandsOut (before : Situation) :
    Except Error (Option DatabaseHandle × Int) → Situation → Prop
  | .ok (some database, _), next =>
      before.handles.isOpen database = false ∧ before.handles.IsIdle database ∧
        next = { before with handles := before.handles.opening database }
  | _, next => next = before

theorem runs_openDatabase (path : Bytes) (mode : OpenMode) :
    mirror.Runs before (Call.request (engine.openDatabase path mode))
      (Call.request (other.openDatabase path mode)) (HandsOut before) := by
  refine .request (fun _ _ valid same _ => mirror.same_openDatabase valid same) ?_
  intro state valid isSeen
  rcases opened : (engine.openDatabase path mode state).1 with ⟨_ | database, code⟩
  · exact ⟨_, isSeen ▸ mirror.unopened valid (by rw [opened]), rfl⟩
  · rcases mirror.opened valid (by rw [opened]) with ⟨isClosed, shows⟩
    have isIdle := mirror.isIdle_of_closed valid isClosed
    rw [isSeen] at isClosed isIdle shows
    exact ⟨_, shows, isClosed, isIdle, rfl⟩

theorem runs_closeDatabase (before : Situation) {database : DatabaseHandle}
    (isOpen : before.handles.isOpen database = true) (isIdle : before.handles.IsIdle database) :
    mirror.Runs before (Call.request (engine.closeDatabase database))
      (Call.request (other.closeDatabase database))
      fun _ next => next = { before with handles := before.handles.closing database } :=
  .request
    (fun _ _ valid same isSeen =>
      mirror.same_closeDatabase valid same (isSeen ▸ isOpen) (isSeen ▸ isIdle))
    fun _ valid isSeen =>
      ⟨_, isSeen ▸ mirror.closed valid (isSeen ▸ isOpen) (isSeen ▸ isIdle), rfl⟩

theorem keeps_errorMessage {database : DatabaseHandle}
    (isOpen : before.handles.isOpen database = true) :
    mirror.Keeps before (Call.observe (engine.errorMessage database))
      (Call.observe (other.errorMessage database)) :=
  .observe (fun _ _ valid same isSeen => mirror.same_errorMessage valid same (isSeen ▸ isOpen))
    fun _ _ _ => rfl

theorem opens_openPath (path : Scratch.Encoded)
    (isUnopened : before.connection.lifecycle = .unopened) :
    mirror.Runs before (Connection.openPath engine path) (Connection.openPath other path)
      fun result next => before.Continues next ∧
        (result = .ok () → ∃ database, next.connection.lifecycle = .opened database) := by
  refine .get fun link state isSeen => ?_
  have isSame : (link.withEngine state).connection = link.connection := rfl
  dsimp only
  rw [isSame, isSeen]
  cases path.cString? with
  | none => exact .throw ⟨.refl _, fun isOk => nomatch isOk⟩
  | some bytes =>
      refine (mirror.runs_openDatabase bytes _).bind ?rest ?failed
      case failed => exact fun error next isSeen => isSeen ▸ ⟨.refl _, fun isOk => nomatch isOk⟩
      case rest =>
        rintro ⟨_ | database, code⟩ next
        · rintro rfl
          dsimp only
          rw [mirror.same_codeMessage]
          exact .throw ⟨.refl _, fun isOk => nomatch isOk⟩
        · rintro ⟨isClosed, isIdle, rfl⟩
          dsimp only
          split
          · refine (mirror.runs_setLifecycle _).mono fun _ next isNext => ?_
            subst isNext
            exact ⟨.opening database isUnopened isClosed, fun _ => ⟨database, rfl⟩⟩
          · have isOpen := before.handles.opening_isOpen_self database
            refine (mirror.keeps_errorMessage isOpen).bindTotal (fun _ => ⟨_, rfl⟩) ?_
            rintro message _ rfl
            have closes := mirror.runs_closeDatabase
              { before with handles := before.handles.opening database } isOpen isIdle
            refine closes.bindTotal (fun _ => ⟨_, rfl⟩) ?_
            rintro closing _ rfl
            dsimp only
            rw [Handles.closing_opening isClosed]
            exact .throw ⟨.refl _, fun isOk => nomatch isOk⟩

variable (growth : Scratch.Growth)

theorem opens_ensureOpen :
    mirror.Runs before (Connection.ensureOpen engine growth)
      (Connection.ensureOpen other growth)
      fun result next => before.Continues next ∧
        (result = .ok () → ∃ database, next.connection.lifecycle = .opened database) := by
  refine .get fun link state isSeen => ?_
  have isSame : (link.withEngine state).connection = link.connection := rfl
  dsimp only
  rw [isSame, isSeen]
  cases isLifecycle : before.connection.lifecycle with
  | disposed => exact .throw ⟨.refl _, fun isOk => nomatch isOk⟩
  | opened database => exact .pure ⟨.refl _, fun _ => ⟨database, isLifecycle⟩⟩
  | unopened => exact .withScratch fun path => mirror.opens_openPath path isLifecycle

theorem opens_database :
    mirror.Runs before (Connection.database engine growth) (Connection.database other growth)
      fun result next => before.Continues next ∧
        ∀ database, result = .ok database → next.connection.lifecycle = .opened database := by
  refine (mirror.opens_ensureOpen growth).bind ?_
    fun error next isLeft => ⟨isLeft.1, fun database isOk => nomatch isOk⟩
  rintro _ next ⟨continues, isOpened⟩
  refine .get fun link state isSeen => ?_
  have isSame : (link.withEngine state).connection = link.connection := rfl
  rw [isSame, isSeen]
  rcases isOpened rfl with ⟨database, isLifecycle⟩
  rw [isLifecycle]
  refine .pure ⟨continues, fun other isOther => ?_⟩
  rw [isLifecycle, Except.ok.inj isOther]

/-! ## Disposing -/

theorem runs_statements {database : DatabaseHandle}
    (isOpen : before.handles.isOpen database = true) :
    mirror.Runs before (Call.observe (engine.statements database))
      (Call.observe (other.statements database))
      fun result next => next = before ∧ ∀ listed, result = .ok listed → ∀ statement,
        statement ∈ listed ↔ before.handles.owner? statement = some database := by
  refine .observe
    (fun _ _ valid same isSeen => mirror.same_statements valid same (isSeen ▸ isOpen))
    fun state valid isSeen => ⟨rfl, fun listed isListed statement => ?_⟩
  rw [← isSeen, ← Except.ok.inj isListed]
  exact mirror.mem_statements valid (isSeen ▸ isOpen)

theorem runs_finalize {statement : StatementHandle} (inUse : before.handles.InUse statement) :
    mirror.Runs before (Call.request (engine.finalize statement))
      (Call.request (other.finalize statement))
      fun _ next => next = { before with handles := before.handles.finalizing statement } :=
  .request (fun _ _ valid same isSeen => mirror.same_finalize valid same (isSeen ▸ inUse))
    fun _ valid isSeen => ⟨_, isSeen ▸ mirror.finalized valid (isSeen ▸ inUse), rfl⟩

theorem runs_finalizeListed {database : DatabaseHandle} {limit : Nat} (before : Situation)
    (listed : List StatementHandle)
    (isOpen : before.handles.isOpen database = true) (isEnough : listed.length ≤ limit)
    (isListed : ∀ statement,
      statement ∈ listed ↔ before.handles.owner? statement = some database) :
    mirror.Runs before (Connection.finalizeListed engine database limit)
      (Connection.finalizeListed other database limit)
      fun _ next => next = { before with handles := before.handles.sweeping database } := by
  induction limit generalizing before listed with
  | zero =>
      have isEmpty := List.eq_nil_of_length_eq_zero (Nat.le_zero.mp isEnough)
      subst isEmpty
      have isIdle : before.handles.IsIdle database := fun statement isOwner =>
        List.not_mem_nil ((isListed statement).mpr isOwner)
      exact .pure (by rw [Handles.sweeping_of_isIdle isIdle])
  | succ limit induction =>
      refine (mirror.runs_statements isOpen).bindTotal (fun _ => ⟨_, rfl⟩) ?_
      rintro current between ⟨isSame, isCurrent⟩
      rw [isSame]
      have isCurrent := isCurrent current rfl
      cases current with
      | nil =>
          have isIdle : before.handles.IsIdle database := fun statement isOwner =>
            List.not_mem_nil ((isCurrent statement).mpr isOwner)
          exact .pure (by rw [Handles.sweeping_of_isIdle isIdle])
      | cons statement rest =>
          have isOwner := (isCurrent statement).mp List.mem_cons_self
          have inUse : before.handles.InUse statement := ⟨database, isOwner, isOpen⟩
          refine (mirror.runs_finalize inUse).bindTotal (fun _ => ⟨_, rfl⟩) ?_
          rintro code _ rfl
          rw [← Handles.sweeping_finalizing isOwner]
          have isShorter : (listed.filter (· ≠ statement)).length < listed.length :=
            List.length_filter_lt_length_iff_exists.mpr
              ⟨statement, (isListed statement).mpr isOwner, by simp⟩
          refine induction { before with handles := before.handles.finalizing statement }
            (listed.filter (· ≠ statement)) isOpen (by omega) ?_
          intro other
          rw [List.mem_filter, isListed]
          by_cases isSame : other = statement
          · simp [isSame, Handles.finalizing]
          · simp [isSame, Handles.finalizing]

theorem runs_dispose (isSound : before.IsSound) :
    mirror.Runs before (Connection.dispose engine) (Connection.dispose other)
      fun _ next => next = before.disposed := by
  refine .get fun link state isSeen => ?_
  have isSame : (link.withEngine state).connection = link.connection := rfl
  dsimp only
  rw [isSame, isSeen]
  refine (mirror.runs_setLifecycle .disposed).bindTotal (fun _ => ⟨_, rfl⟩) ?_
  rintro _ _ rfl
  cases isLifecycle : before.connection.lifecycle with
  | disposed => exact .throw (by simp [Situation.disposed, isLifecycle])
  | unopened => exact .pure (by simp [Situation.disposed, isLifecycle])
  | opened database =>
      let disposing : Situation :=
        { before with connection := { before.connection with lifecycle := .disposed } }
      have isOpen : disposing.handles.isOpen database = true := isSound database isLifecycle
      have lists : mirror.Runs disposing _ _ _ := mirror.runs_statements isOpen
      refine lists.bindTotal (fun _ => ⟨_, rfl⟩) ?_
      rintro listed between ⟨isSame, isListed⟩
      rw [isSame]
      have sweeps := mirror.runs_finalizeListed disposing listed isOpen (Nat.le_refl _)
        (isListed listed rfl)
      have isTotal (link : Link σ) : ∃ answer,
          (Connection.finalizeListed engine database listed.length link).1 = .ok answer := by
        rcases Connection.finalizeListed_apply engine database listed.length link with ⟨_, isOk⟩
        exact ⟨(), by rw [isOk]⟩
      refine sweeps.bindTotal isTotal ?_
      rintro _ _ rfl
      have closes := mirror.runs_closeDatabase
        { disposing with handles := disposing.handles.sweeping database } isOpen
        (disposing.handles.sweeping_isIdle database)
      refine closes.bindTotal (fun _ => ⟨_, rfl⟩) ?_
      rintro _ _ rfl
      exact .pure (by simp [Situation.disposed, isLifecycle, disposing])

/-! ## Statements and counters -/

def GivesOut (before : Situation) (database : DatabaseHandle) :
    Except Error (Int × Option StatementHandle) → Situation → Prop
  | .ok (code, some statement), next =>
      code = Status.ok ∧ before.handles.owner? statement = none ∧
        next = { before with handles := before.handles.preparing statement database }
  | _, next => next = before

theorem runs_requestPrepare {database : DatabaseHandle}
    (isOpen : before.handles.isOpen database = true) (sql : Text) :
    mirror.Runs before (Call.request (engine.prepare database sql))
      (Call.request (other.prepare database sql)) (GivesOut before database) := by
  refine .request
    (fun _ _ valid same isSeen => mirror.same_prepare valid same (isSeen ▸ isOpen)) ?_
  intro state valid isSeen
  rcases prepared : (engine.prepare database sql state).1 with ⟨code, _ | statement⟩
  · exact ⟨_, isSeen ▸ mirror.unprepared valid (isSeen ▸ isOpen) (by rw [prepared]), rfl⟩
  · rcases mirror.prepared valid (isSeen ▸ isOpen) (by rw [prepared]) with ⟨isOk, isFree, shows⟩
    rw [prepared] at isOk
    rw [isSeen] at isFree shows
    exact ⟨_, shows, isOk, isFree, rfl⟩

theorem keeps_ensureFits (before : Situation) (sql : Text) :
    mirror.Keeps before (Connection.ensureFits engine sql) (Connection.ensureFits other sql) := by
  unfold Connection.ensureFits Connection.tooLong
  rw [mirror.same_codeMessage]
  split
  · exact .throw rfl
  · exact .pure rfl

theorem runs_prepare (isSound : before.IsSound) (sql : Text) :
    mirror.Runs before (Connection.prepare engine growth sql)
      (Connection.prepare other growth sql) (before.Lends id) := by
  refine (mirror.opens_database growth).bind ?_ fun error next isLeft => isLeft.1
  rintro database base ⟨continues, isDatabase⟩
  have isLifecycle := isDatabase database rfl
  have isOpen := continues.isSound isSound database isLifecycle
  refine (mirror.keeps_ensureFits base sql).bind ?_ fun error next isSame => isSame ▸ continues
  rintro ⟨⟩ between isSame
  rw [isSame]
  refine (mirror.runs_requestPrepare isOpen sql).bindTotal (fun _ => ⟨_, rfl⟩) ?_
  rintro ⟨code, statement?⟩ next isGiven
  dsimp only
  split
  · cases statement? with
    | some statement => exact absurd isGiven.1 (by assumption)
    | none =>
        rw [show next = base from isGiven]
        refine (mirror.keeps_errorMessage isOpen).bindTotal (fun _ => ⟨_, rfl⟩) ?_
        rintro message _ rfl
        exact .throwBind continues
  · cases statement? with
    | some statement =>
        rcases isGiven with ⟨-, isFree, rfl⟩
        exact .pure ⟨base, database, continues, isLifecycle, isOpen, isFree, rfl⟩
    | none =>
        rw [show next = base from isGiven]
        exact .throw continues

theorem opens_changes (isSound : before.IsSound) :
    mirror.Opens before (Connection.changes engine growth) (Connection.changes other growth) := by
  refine (mirror.opens_database growth).bind ?_ fun error next isLeft => isLeft.1
  rintro database base ⟨continues, isDatabase⟩
  have isOpen := continues.isSound isSound database (isDatabase database rfl)
  exact .observe (fun _ _ valid same isSeen => mirror.same_changes valid same (isSeen ▸ isOpen))
    fun _ _ _ => continues

theorem opens_lastInsertRowid (isSound : before.IsSound) :
    mirror.Opens before (Connection.lastInsertRowid engine growth)
      (Connection.lastInsertRowid other growth) := by
  refine (mirror.opens_database growth).bind ?_ fun error next isLeft => isLeft.1
  rintro database base ⟨continues, isDatabase⟩
  have isOpen := continues.isSound isSound database (isDatabase database rfl)
  exact .observe
    (fun _ _ valid same isSeen => mirror.same_lastInsertRowid valid same (isSeen ▸ isOpen))
    fun _ _ _ => continues

theorem keeps_pendingStatements (isSound : before.IsSound) :
    mirror.Keeps before (Connection.pendingStatements engine)
      (Connection.pendingStatements other) := by
  refine .get fun link state isSeen => ?_
  have isSame : (link.withEngine state).connection = link.connection := rfl
  rw [isSame, isSeen]
  cases isLifecycle : before.connection.lifecycle with
  | disposed => exact .throw rfl
  | unopened => exact .pure rfl
  | opened database =>
      refine (mirror.runs_statements (isSound database isLifecycle)).bindTotal
        (fun _ => ⟨_, rfl⟩) ?_
      rintro listed between ⟨isSame, -⟩
      exact .pure isSame

end

/-! ## Parameters -/

section
variable {before : Situation} {statement : StatementHandle} (holds : before.Holds statement)

theorem keeps_whenLive {rest : Call σ α} {restImage : Call τ α} (holds : before.Holds statement)
    (live : before.handles.InUse statement → mirror.Keeps before rest restImage) :
    mirror.Keeps before (Connection.ensureNotDisposed >>= fun _ => rest)
      (Connection.ensureNotDisposed >>= fun _ => restImage) := by
  refine mirror.runs_ensureNotDisposed.bind ?_ fun _ _ isLeft => isLeft.1
  rintro ⟨⟩ next ⟨isSame, isLive⟩
  rw [isSame]
  rcases holds with isDisposed | ⟨database, -, isOwner, isOpen⟩
  · exact absurd isDisposed (isLive.mp rfl)
  · exact live ⟨database, isOwner, isOpen⟩

include holds

theorem keeps_count :
    mirror.Keeps before (Parameter.count engine statement) (Parameter.count other statement) :=
  mirror.keeps_whenLive holds fun inUse =>
    .observe (fun _ _ valid same isSeen => mirror.same_parameterCount valid same (isSeen ▸ inUse))
      fun _ _ _ => rfl

omit holds in
theorem keeps_check (code : Int) :
    mirror.Keeps before (Parameter.check code) (Parameter.check code) := by
  unfold Parameter.check
  split
  · exact .pure rfl
  · exact .throw rfl

theorem keeps_clear :
    mirror.Keeps before (Parameter.clear engine statement) (Parameter.clear other statement) :=
  mirror.keeps_whenLive holds fun inUse =>
    (keeps_clearBindings inUse).andThen mirror.keeps_check fun _ => rfl

theorem keeps_nameOf (index : Int32) :
    mirror.Keeps before (Parameter.nameOf engine statement index)
      (Parameter.nameOf other statement index) := by
  refine mirror.keeps_whenLive holds fun inUse => ?_
  have names : mirror.Keeps before (Call.observe (engine.parameterName? statement index.toInt))
      (Call.observe (other.parameterName? statement index.toInt)) :=
    .observe (fun _ _ valid same isSeen => mirror.same_parameterName? valid same (isSeen ▸ inUse))
      fun _ _ _ => rfl
  exact names.andThen (fun _ => .pure rfl) fun _ => rfl

omit holds in
theorem keeps_lookUp (inUse : before.handles.InUse statement) (name : Scratch.Encoded) :
    mirror.Keeps before (Parameter.lookUp engine statement name)
      (Parameter.lookUp other statement name) := by
  unfold Parameter.lookUp
  cases name.cString? with
  | none => exact .pure rfl
  | some bytes =>
      exact .observe
        (fun _ _ valid same isSeen => mirror.same_parameterIndex valid same (isSeen ▸ inUse))
        fun _ _ _ => rfl

variable (growth : Scratch.Growth)

theorem keeps_resolve (parameter : Parameter) :
    mirror.Keeps before (Parameter.resolve engine growth statement parameter)
      (Parameter.resolve other growth statement parameter) := by
  refine mirror.keeps_whenLive holds fun inUse => ?_
  rcases parameter with position | (bytes | units)
  · exact .pure rfl
  · exact .withScratch (mirror.keeps_lookUp inUse)
  · exact .withScratch (mirror.keeps_lookUp inUse)

theorem keeps_ifLive {error : ε} {call : ExceptT ε (StateM (Link σ)) α}
    {image : ExceptT ε (StateM (Link τ)) α} (refuses : Call.Refuses error call)
    (refusesImage : Call.Refuses error image)
    (live : before.handles.InUse statement → mirror.Keeps before call image) :
    mirror.Keeps before call image := by
  rcases holds with isDisposed | ⟨database, -, isOwner, isOpen⟩
  · rintro link state valid same rfl
    rw [refuses link isDisposed, refusesImage (link.withEngine state) isDisposed]
    exact ⟨state, rfl, same, valid, rfl⟩
  · exact live ⟨database, isOwner, isOpen⟩

theorem keeps_bindParameter (parameter : Parameter) (argument : Argument) :
    mirror.Keeps before (Parameter.bind engine growth statement parameter argument)
      (Parameter.bind other growth statement parameter argument) :=
  mirror.keeps_ifLive holds (Parameter.bind_refuses _ _ _ _ _)
    (Parameter.bind_refuses _ _ _ _ _) fun inUse =>
    (mirror.keeps_resolve holds growth parameter).andThen
      (fun index => (keeps_give inUse index argument).andThen mirror.keeps_check fun _ => rfl)
      fun _ => rfl

theorem keeps_bindText (parameter : Parameter) (text : Text) :
    mirror.Keeps before (Parameter.bindText engine growth statement parameter text)
      (Parameter.bindText other growth statement parameter text) := by
  refine mirror.keeps_ifLive holds (Parameter.bindText_refuses _ _ _ _ _)
    (Parameter.bindText_refuses _ _ _ _ _)
    fun inUse => (mirror.keeps_resolve holds growth parameter).andThen (fun index => ?_) fun _ => rfl
  cases text with
  | utf8 bytes => exact (keeps_give inUse index _).andThen mirror.keeps_check fun _ => rfl
  | utf16 units =>
      exact .withScratch fun encoded =>
        (keeps_give inUse index _).andThen mirror.keeps_check fun _ => rfl

end

/-! ## Readers

What a reader answers is a matter of the link alone. -/

/-- The statement may be used on the link, and on its image. -/
structure Suits (statement : StatementHandle) (link : Link σ) (state : τ) : Prop where
  valid : mirror.Valid link.engine
  same : mirror.Same link.engine state
  holds : (mirror.situation link).Holds statement

section
variable {mirror} {reader : Reader} {link : Link σ} {state : τ}
  (suits : mirror.Suits reader.statement link state)
include suits

theorem Suits.inUse (isLive : ¬link.connection.isDisposed = true) :
    (mirror.handles link.engine).InUse reader.statement := by
  rcases suits.holds with isDisposed | ⟨database, -, isOwner, isOpen⟩
  · exact absurd ((Connection.isDisposed_iff _).mpr isDisposed) isLive
  · exact ⟨database, isOwner, isOpen⟩

theorem Suits.columnNames (isLive : ¬link.connection.isDisposed = true) :
    other.columnNames reader.statement state = engine.columnNames reader.statement link.engine :=
  mirror.same_columnNames suits.valid suits.same (suits.inUse isLive)

theorem Suits.sameColumns :
    Reader.SameColumns engine other reader reader.statement link (link.withEngine state) :=
  ⟨rfl, suits.columnNames⟩

theorem Suits.columnCount :
    reader.columnCount other (link.withEngine state) = reader.columnCount engine link :=
  suits.sameColumns.columnCount

theorem Suits.name (column : Nat) :
    reader.name other column (link.withEngine state) = reader.name engine column link :=
  suits.sameColumns.name column

theorem Suits.cell (column : Nat) :
    reader.cell other column (link.withEngine state) = reader.cell engine column link :=
  suits.sameColumns.cell column

theorem Suits.take (accessor : Cell → α × Cell) (column : Nat) :
    reader.take other accessor column (link.withEngine state) =
      reader.take engine accessor column link := by
  rw [Reader.take_eq, Reader.take_eq, suits.cell]

theorem Suits.settle (isLive : ¬link.connection.isDisposed = true) (code : Int) :
    reader.settle other code (link.withEngine state) = reader.settle engine code link := by
  have sameRow := mirror.same_row suits.valid suits.same (suits.inUse isLive)
  have sameMessage : Connection.errorMessage other (link.withEngine state) =
      Connection.errorMessage engine link := by
    unfold Connection.errorMessage
    rcases suits.holds with isDisposed | ⟨database, isLifecycle, isOwner, isOpen⟩
    · exact absurd ((Connection.isDisposed_iff _).mpr isDisposed) isLive
    · have isLifecycle : link.connection.lifecycle = .opened database := isLifecycle
      have sameConnection : (link.withEngine state).connection = link.connection := rfl
      rw [sameConnection, isLifecycle]
      exact congrArg Utf8.toString (mirror.same_errorMessage suits.valid suits.same isOpen)
  have sameEngine : (link.withEngine state).engine = state := rfl
  unfold Reader.settle
  rw [sameEngine, sameRow, sameMessage]
  rfl

theorem Suits.after {next : Link σ} {after : τ} (same : mirror.Same next.engine after)
    (valid : mirror.Valid next.engine)
    (isSame : mirror.situation next = mirror.situation link) :
    mirror.Suits reader.statement next after :=
  ⟨valid, same, isSame ▸ suits.holds⟩

theorem Suits.read :
    mirror.Reaches (reader.read engine link) (reader.read other (link.withEngine state))
      fun _ next => next = mirror.situation link := by
  have sameConnection : (link.withEngine state).connection = link.connection := rfl
  unfold Reader.read
  rw [sameConnection]
  by_cases isDisposed : link.connection.isDisposed = true
  · rw [if_pos isDisposed, if_pos isDisposed]
    exact ⟨state, rfl, suits.same, suits.valid, rfl⟩
  rw [if_neg isDisposed, if_neg isDisposed]
  by_cases isDone : reader.cursor = .done
  · rw [if_pos isDone, if_pos isDone]
    exact ⟨state, rfl, suits.same, suits.valid, rfl⟩
  rw [if_neg isDone, if_neg isDone]
  have inUse := suits.inUse isDisposed
  rcases mirror.stepped suits.valid inUse with ⟨valid, sameHandles⟩
  rcases mirror.same_step suits.valid suits.same inUse with ⟨sameCode, same⟩
  let stepped : Link σ :=
    { link with engine := (engine.step reader.statement link.engine).2 }
  have isSame : mirror.situation stepped = mirror.situation link :=
    Situation.ext rfl sameHandles
  have stays : mirror.Suits reader.statement stepped _ := suits.after same valid isSame
  have settles := stays.settle isDisposed (engine.step reader.statement link.engine).1
  refine ⟨(other.step reader.statement state).2, ?_, same, valid, isSame⟩
  refine Prod.ext ?_ rfl
  have sameEngine : (link.withEngine state).engine = state := rfl
  dsimp only
  rw [sameEngine, sameCode]
  exact settles

theorem Suits.dispose :
    mirror.Reaches ((), reader.dispose engine link) ((), reader.dispose other (link.withEngine state))
      fun _ next => next =
        match reader.release with
        | .finalize => (mirror.situation link).without reader.statement
        | .reset => mirror.situation link := by
  have sameConnection : (link.withEngine state).connection = link.connection := rfl
  have sameEngine : (link.withEngine state).engine = state := rfl
  unfold Reader.dispose Situation.without
  rw [sameConnection]
  by_cases isDisposed : link.connection.isDisposed = true
  · rw [if_pos isDisposed, if_pos isDisposed]
    refine ⟨state, rfl, suits.same, suits.valid, ?_⟩
    have isDisposed : (mirror.situation link).connection.isDisposed = true := isDisposed
    cases reader.release with
    | finalize => simp only [isDisposed]; rfl
    | reset => rfl
  have inUse := suits.inUse isDisposed
  rw [if_neg isDisposed, if_neg isDisposed]
  have isLive : ¬(mirror.situation link).connection.isDisposed = true := isDisposed
  cases reader.release with
  | finalize =>
      rcases mirror.finalized suits.valid inUse with ⟨valid, handles⟩
      rcases mirror.same_finalize suits.valid suits.same inUse with ⟨-, same⟩
      dsimp only
      rw [if_neg isLive]
      exact ⟨_, rfl, same, valid, Situation.ext rfl handles⟩
  | reset =>
      rcases mirror.reset suits.valid inUse with ⟨valid, handles⟩
      rcases mirror.same_reset suits.valid suits.same inUse with ⟨-, same⟩
      exact ⟨_, rfl, same, valid, Situation.ext rfl handles⟩

end

end EmbeddedSql.Mirror

/-! ## Commands -/

namespace EmbeddedSql.Mirror

variable {σ τ ε α β : Type} {backend : Backend σ} {image : Backend τ}

section
variable {mirror : Mirror backend.engine image.engine} {reader : Reader} {link : Link σ}
  {state : τ}

theorem Suits.read_of (suits : mirror.Suits reader.statement link state)
    {result : Except Error Bool} {next : Reader} {after : Link σ}
    (outcome : reader.read backend.engine link = ((result, next), after)) :
    ∃ afterImage,
      reader.read image.engine (link.withEngine state) =
          ((result, next), after.withEngine afterImage) ∧
        mirror.Suits next.statement after afterImage ∧
          mirror.situation after = mirror.situation link ∧
            next.statement = reader.statement ∧ next.release = reader.release := by
  have statement := reader.read_statement backend.engine link
  have release := reader.read_release backend.engine link
  rcases suits.read with ⟨afterImage, images, same, valid, isSame⟩
  rw [outcome] at images same valid isSame statement release
  exact ⟨afterImage, images, statement ▸ suits.after same valid isSame, isSame, statement,
    release⟩

theorem Suits.gather {wanted : β → Bool} {take : Reader → Link σ → β → Except ε β}
    {takeImage : Reader → Link τ → β → Except ε β} {lift : Error → ε} {gathered : β}
    (takes : ∀ reader link state gathered, mirror.Suits reader.statement link state →
      takeImage reader (link.withEngine state) gathered = take reader link gathered)
    (suits : mirror.Suits reader.statement link state) :
    mirror.Reaches (reader.gather backend wanted take lift gathered link)
      (reader.gather image wanted takeImage lift gathered (link.withEngine state))
      fun result next => next = mirror.situation link ∧
        result.2.statement = reader.statement ∧ result.2.release = reader.release := by
  fun_induction Reader.gather backend wanted take lift reader gathered link generalizing state with
  | case1 reader gathered link isWanted error next after outcome =>
      rcases suits.read_of outcome with ⟨afterImage, images, stays, isSame, kept⟩
      rw [Reader.gather_of_error isWanted images]
      exact ⟨afterImage, rfl, stays.same, stays.valid, isSame, kept⟩
  | case2 reader gathered link isWanted next after outcome =>
      rcases suits.read_of outcome with ⟨afterImage, images, stays, isSame, kept⟩
      rw [Reader.gather_of_end isWanted images]
      exact ⟨afterImage, rfl, stays.same, stays.valid, isSame, kept⟩
  | case3 reader gathered link isWanted next after outcome error refused =>
      rcases suits.read_of outcome with ⟨afterImage, images, stays, isSame, kept⟩
      rw [Reader.gather_of_row isWanted images, takes next after afterImage gathered stays, refused]
      exact ⟨afterImage, rfl, stays.same, stays.valid, isSame, kept⟩
  | case4 reader gathered link isWanted next after outcome more taken induction =>
      rcases suits.read_of outcome with ⟨afterImage, images, stays, isSame, statement, release⟩
      rw [Reader.gather_of_row isWanted images, takes next after afterImage gathered stays, taken]
      rcases induction stays with
        ⟨lastImage, images, same, valid, isLast, lastStatement, lastRelease⟩
      exact ⟨lastImage, images, same, valid, isLast.trans isSame, lastStatement.trans statement,
        lastRelease.trans release⟩
  | case5 reader gathered link isWanted =>
      rw [Reader.gather, if_neg isWanted]
      exact ⟨state, rfl, suits.same, suits.valid, rfl, rfl, rfl⟩

end

variable (mirror : Mirror backend.engine image.engine)

section
variable {before : Situation} {command : Command} (holds : before.Holds command.statement)
include holds

omit holds in
theorem runs_commandReader :
    mirror.Runs before command.executeReader command.executeReader
      fun result next => next = before ∧ ∀ reader, result = .ok reader → reader = command.reader := by
  refine mirror.runs_ensureNotDisposed.bind ?_ fun _ _ isLeft => ⟨isLeft.1, nofun⟩
  rintro ⟨⟩ next ⟨isSame, -⟩
  exact .pure ⟨isSame, fun reader isOk => (Except.ok.inj isOk).symm⟩

theorem keeps_gather {wanted : β → Bool} {take : Reader → Link σ → β → Except ε β}
    {takeImage : Reader → Link τ → β → Except ε β} {lift : Error → ε} {gathered : β}
    (takes : ∀ reader link state gathered, mirror.Suits reader.statement link state →
      takeImage reader (link.withEngine state) gathered = take reader link gathered) :
    mirror.Keeps before
      (fun link =>
        let ((result, reader), link) :=
          command.reader.gather backend wanted take lift gathered link
        (result, reader.dispose backend.engine link))
      (fun link =>
        let ((result, reader), link) :=
          command.reader.gather image wanted takeImage lift gathered link
        (result, reader.dispose image.engine link)) := by
  rintro link state valid same rfl
  have suits : mirror.Suits command.reader.statement link state := ⟨valid, same, holds⟩
  rcases suits.gather takes with ⟨afterImage, images, same, valid, isSame, statement, release⟩
  rcases gathers : command.reader.gather backend wanted take lift gathered link with
    ⟨⟨result, reader⟩, after⟩
  rw [gathers] at images same valid isSame statement release
  dsimp only
  rw [images, gathers]
  have stays : mirror.Suits reader.statement after afterImage :=
    ⟨valid, same, by rw [isSame]; exact statement ▸ holds⟩
  rcases stays.dispose with ⟨last, disposes, same, valid, isLast⟩
  have isReset : reader.release = .reset := release
  rw [isReset] at isLast
  exact ⟨last, by rw [(Prod.mk.inj disposes).2], same, valid, isLast.trans isSame⟩

theorem keeps_executeCommand :
    mirror.Keeps before (command.executeNonQuery backend) (command.executeNonQuery image) := by
  refine mirror.runs_commandReader.bind ?_ fun _ _ isLeft => isLeft.1
  rintro reader next ⟨isSame, isReader⟩
  rw [isSame, isReader reader rfl]
  exact mirror.keeps_gather holds fun _ _ _ _ _ => rfl

theorem keeps_sql : mirror.Keeps before (command.sql backend) (command.sql image) := by
  refine mirror.keeps_whenLive holds fun inUse => ?_
  have texts : mirror.Keeps before
      (Call.observe (backend.engine.sqlText command.statement))
      (Call.observe (image.engine.sqlText command.statement)) :=
    .observe (fun _ _ valid same isSeen => mirror.same_sqlText valid same (isSeen ▸ inUse))
      fun _ _ _ => rfl
  exact texts.andThen (fun _ => .pure rfl) fun _ => rfl

theorem runs_finalizeCommand :
    mirror.Runs before (command.finalize backend) (command.finalize image)
      fun _ next => next = before.without command.statement := by
  rcases holds with isDisposed | ⟨database, isLifecycle, isOwner, isOpen⟩
  · rintro link state valid same rfl
    rw [command.finalize_refuses backend link isDisposed,
      command.finalize_refuses image (link.withEngine state) isDisposed]
    refine ⟨state, rfl, same, valid, ?_⟩
    rw [Situation.without, if_pos ((Connection.isDisposed_iff _).mpr isDisposed)]
  · have isLive : before.connection.lifecycle ≠ .disposed := by
      simp [isLifecycle]
    refine mirror.runs_ensureNotDisposed.bind ?_ ?_
    · rintro ⟨⟩ next ⟨isSame, -⟩
      rw [isSame]
      refine (mirror.runs_finalize ⟨database, isOwner, isOpen⟩).bindTotal (fun _ => ⟨_, rfl⟩) ?_
      rintro code _ rfl
      have isLeft : { before with handles := before.handles.finalizing command.statement } =
          before.without command.statement := by
        rw [Situation.without, if_neg fun isDisposed =>
          isLive ((Connection.isDisposed_iff _).mp isDisposed)]
      split
      · exact .throw isLeft
      · exact .pure isLeft
    · rintro error next ⟨-, failsOnly⟩
      cases failsOnly.mpr isLive

omit holds in
theorem Suits.drop {mirror : Mirror backend.engine image.engine} {link : Link σ} {state : τ}
    (suits : mirror.Suits command.statement link state) :
    mirror.Reaches ((), command.drop backend link)
      ((), command.drop image (link.withEngine state))
      fun _ next => next = (mirror.situation link).without command.statement := by
  -- a reader that owns the statement lets go of it in the same way
  let reader : Reader := { statement := command.statement, release := .finalize }
  have suits : mirror.Suits reader.statement link state := suits
  exact suits.dispose

theorem runs_dropCommand :
    mirror.Runs (ε := ε) before (fun link => (.ok (), command.drop backend link))
      (fun link => (.ok (), command.drop image link))
      fun _ next => next = before.without command.statement := by
  rintro link state valid same rfl
  have suits : mirror.Suits command.statement link state := ⟨valid, same, holds⟩
  rcases suits.drop with ⟨next, drops, same, valid, isLeft⟩
  exact ⟨next, Prod.ext rfl (Prod.mk.inj drops).2, same, valid, isLeft⟩

theorem runs_dropOnError {use : ExceptT ε (StateM (Link σ)) α}
    {useImage : ExceptT ε (StateM (Link τ)) α} (keeps : mirror.Keeps before use useImage) :
    mirror.Runs before (command.dropOnError backend use) (command.dropOnError image useImage)
      fun result next =>
        next = if result.isOk then before else before.without command.statement := by
  intro link state valid same isSeen
  rcases keeps link state valid same isSeen with ⟨next, images, same, valid, isSame⟩
  unfold Command.dropOnError
  rw [images]
  rcases outcome : use link with ⟨error | answer, after⟩ <;> rw [outcome] at isSame valid same
  · have suits : mirror.Suits command.statement after next :=
      ⟨valid, same, by rw [isSame]; exact holds⟩
    rcases suits.drop with ⟨last, drops, same, valid, isLast⟩
    refine ⟨last, Prod.ext rfl (Prod.mk.inj drops).2, same, valid, ?_⟩
    rw [isSame] at isLast
    exact isLast
  · exact ⟨next, rfl, same, valid, isSame⟩

end

/-! ## Statements that a call makes for itself -/

section
variable {before : Situation} (isSound : before.IsSound) (sameGrowth : image.growth = backend.growth)
  (sql : Text)
include isSound sameGrowth

theorem runs_createCommand :
    mirror.Runs before (Connection.createCommand backend sql)
      (Connection.createCommand image sql) (before.Lends (·.statement)) := by
  unfold Connection.createCommand
  rw [sameGrowth]
  refine (mirror.runs_prepare backend.growth isSound sql).bind ?_ fun _ _ isLeft => isLeft
  exact fun statement next lends => .pure lends

theorem runs_connectionReader :
    mirror.Runs before (Connection.executeReader backend sql)
      (Connection.executeReader image sql) fun result next =>
        before.Lends (·.statement) result next ∧
          ∀ reader, result = .ok reader → reader.release = .finalize := by
  unfold Connection.executeReader
  rw [sameGrowth]
  refine (mirror.runs_prepare backend.growth isSound sql).bind ?_ fun _ _ isLeft => ⟨isLeft, nofun⟩
  exact fun statement next lends =>
    .pure ⟨lends, fun reader isOk => by rw [← Except.ok.inj isOk]⟩

omit sameGrowth in
theorem opens_borrowing {call : ExceptT ε (StateM (Link σ)) Command}
    {callImage : ExceptT ε (StateM (Link τ)) Command}
    {next : Command → ExceptT ε (StateM (Link σ)) α}
    {nextImage : Command → ExceptT ε (StateM (Link τ)) α}
    (lends : mirror.Runs before call callImage (before.Lends (·.statement)))
    (rest : ∀ command lent, lent.IsSound → lent.Holds command.statement →
      mirror.Runs lent (next command) (nextImage command)
        fun _ after => (lent.without command.statement).Continues after) :
    mirror.Opens before (call >>= next) (callImage >>= nextImage) := by
  refine lends.bind ?_ fun _ _ isLeft => isLeft
  intro command lent isLent
  rcases isLent.ok isSound with ⟨lentIsSound, holds, continues⟩
  exact (rest command lent lentIsSound holds).mono fun _ _ isLeft => continues.trans isLeft

theorem opens_executeNonQuery :
    mirror.Opens before (Connection.executeNonQuery backend sql)
      (Connection.executeNonQuery image sql) := by
  refine mirror.opens_borrowing isSound (mirror.runs_createCommand isSound sameGrowth sql) ?_
  intro command lent _ holds
  refine (mirror.runs_dropOnError holds (mirror.keeps_executeCommand holds)).bind ?_ ?_
  · rintro rows _ rfl
    refine (mirror.runs_finalizeCommand holds).bind ?_ ?_
    · rintro _ _ rfl
      exact .pure (.refl _)
    · rintro _ _ rfl
      exact .refl _
  · rintro _ _ rfl
    exact .refl _

end

end EmbeddedSql.Mirror
