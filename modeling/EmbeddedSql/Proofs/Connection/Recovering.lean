import EmbeddedSql.Proofs.Connection.Binding
import EmbeddedSql.Proofs.Connection.Columns
import EmbeddedSql.Proofs.Engine.Recovering
import EmbeddedSql.Proofs.SideBySide
import EmbeddedSql.Query.Transaction

/-! Calls on connections whose engines resemble each other. They come to the same, apart from the
messages of errors. -/

namespace EmbeddedSql

variable {σ ε α β α' β' : Type}

/-! ## Errors without their messages -/

class Muting (ε : Type) where
  muted : ε → ε

open Muting (muted)

instance : Muting Error where
  muted
    | .openFailed code path _ => .openFailed code path ""
    | .prepareFailed code _ => .prepareFailed code ""
    | .stepFailed code _ => .stepFailed code ""
    | error => error

instance : Muting Query.Error where
  muted
    | .connection error => .connection (muted error)
    | .rollbackFailed _ _ => .rollbackFailed "" ""
    | error => error

/-! ## Connections under other numbers -/

def Lifecycle.renamed (rename : DatabaseHandle ↪ DatabaseHandle) : Lifecycle → Lifecycle
  | .opened database => .opened (rename database)
  | lifecycle => lifecycle

def Connection.renamed (rename : DatabaseHandle ↪ DatabaseHandle) (connection : Connection) :
    Connection :=
  { connection with lifecycle := connection.lifecycle.renamed rename }

@[simp] theorem Connection.renamed_isDisposed (rename : DatabaseHandle ↪ DatabaseHandle)
    (connection : Connection) : (connection.renamed rename).isDisposed = connection.isDisposed := by
  unfold isDisposed renamed
  cases connection.lifecycle <;> simp [Lifecycle.renamed]

namespace Recovering

variable {engine : Engine σ} (laws : Recovering engine)
  (rename : DatabaseHandle ↪ DatabaseHandle)

structure Tied (link other : Link σ) : Prop where
  connection : other.connection = link.connection.renamed rename
  engine : laws.Resembles rename link.engine other.engine

/-- Both are answered, or both fail for the same reason, and the connections are in the same
place again. -/
inductive Comes [Muting ε] (answers : α → β → Prop) :
    Except ε α × Link σ → Except ε β × Link σ → Prop
  | ok {answer : α} {other : β} {last otherLast : Link σ} : answers answer other →
      laws.Tied rename last otherLast → Comes answers (.ok answer, last) (.ok other, otherLast)
  | error {error other : ε} {last otherLast : Link σ} : muted other = muted error →
      laws.Tied rename last otherLast →
        Comes answers (.error error, last) (.error other, otherLast)

/-- Wherever the calls find connections in the same place, they come to the same. -/
def Runs [Muting ε] (answers : α → β → Prop) (call : ExceptT ε (StateM (Link σ)) α)
    (image : ExceptT ε (StateM (Link σ)) β) : Prop :=
  ∀ ⦃link other⦄, laws.Tied rename link other → laws.Comes rename answers (call link) (image other)

abbrev Overlooks [Muting ε] (call : ExceptT ε (StateM (Link σ)) α) : Prop :=
  laws.Runs rename (· = ·) call call

variable {laws rename} {link other : Link σ}

namespace Tied

variable (tied : laws.Tied rename link other)
include tied

theorem withPools (pool otherPool : Scratch.Pool) :
    laws.Tied rename { link with pool } { other with pool := otherPool } :=
  ⟨tied.connection, tied.engine⟩

theorem withEngines {state image : σ} (resembles : laws.Resembles rename state image) :
    laws.Tied rename { link with engine := state } { other with engine := image } :=
  ⟨tied.connection, resembles⟩

theorem path : other.connection.path = link.connection.path := by
  rw [tied.connection]
  rfl

theorem config : other.connection.config = link.connection.config := by
  rw [tied.connection]
  rfl

theorem lifecycle : other.connection.lifecycle = link.connection.lifecycle.renamed rename := by
  rw [tied.connection]
  rfl

theorem isDisposed : other.connection.isDisposed = link.connection.isDisposed := by
  rw [tied.connection, Connection.renamed_isDisposed]

theorem withLifecycle (lifecycle : Lifecycle) :
    laws.Tied rename { link with connection := { link.connection with lifecycle } }
      { other with
        connection := { other.connection with lifecycle := lifecycle.renamed rename } } := by
  refine ⟨?_, tied.engine⟩
  rw [tied.connection]
  rfl

end Tied

namespace Runs

section
variable [Muting ε] {answers : α → β → Prop} {call : ExceptT ε (StateM (Link σ)) α}
  {image : ExceptT ε (StateM (Link σ)) β}

theorem pure {answer : α} {other : β} (answered : answers answer other) :
    laws.Runs (ε := ε) rename answers (Pure.pure answer) (Pure.pure other) :=
  fun _ _ tied => .ok answered tied

theorem throw {error other : ε} (same : muted other = muted error) :
    laws.Runs rename answers (MonadExcept.throw error : ExceptT ε (StateM (Link σ)) α)
      (MonadExcept.throw other : ExceptT ε (StateM (Link σ)) β) :=
  fun _ _ tied => .error same tied

theorem bind {last : α' → β' → Prop} {next : α → ExceptT ε (StateM (Link σ)) α'}
    {nextImage : β → ExceptT ε (StateM (Link σ)) β'} (first : laws.Runs rename answers call image)
    (rest : ∀ answer other, answers answer other →
      laws.Runs rename last (next answer) (nextImage other)) :
    laws.Runs rename last (call >>= next) (image >>= nextImage) := by
  intro link other tied
  have comes := first tied
  rw [Call.bind_apply, Call.bind_apply]
  generalize call link = outcome at comes ⊢
  generalize image other = otherOutcome at comes ⊢
  cases comes with
  | ok answered tied => exact rest _ _ answered tied
  | error same tied => exact .error same tied

theorem tryCatch {handle : ε → ExceptT ε (StateM (Link σ)) α}
    {handleImage : ε → ExceptT ε (StateM (Link σ)) β} (first : laws.Runs rename answers call image)
    (rest : ∀ error other, muted other = muted error →
      laws.Runs rename answers (handle error) (handleImage other)) :
    laws.Runs rename answers (MonadExcept.tryCatch call handle)
      (MonadExcept.tryCatch image handleImage) := by
  intro link other tied
  have comes := first tied
  rw [Call.tryCatch_apply, Call.tryCatch_apply]
  generalize call link = outcome at comes ⊢
  generalize image other = otherOutcome at comes ⊢
  cases comes with
  | ok answered tied => exact .ok answered tied
  | error same tied => exact rest _ _ same tied

end

theorem withScratch {answers : α → β → Prop}
    {encode encodeImage : Scratch.Pool → Scratch.Encoded × Scratch.Pool}
    {use : Scratch.Encoded → Call σ α} {useImage : Scratch.Encoded → Call σ β}
    (inner : ∀ pool otherPool, laws.Runs rename answers (use (encode pool).1)
      (useImage (encodeImage otherPool).1)) :
    laws.Runs rename answers (Call.withScratch encode use)
      (Call.withScratch encodeImage useImage) := by
  intro link other tied
  have comes := inner link.pool other.pool
    (tied.withPools (encode link.pool).2 (encodeImage other.pool).2)
  unfold Call.withScratch
  dsimp only
  generalize use _ _ = outcome at comes ⊢
  generalize useImage _ _ = otherOutcome at comes ⊢
  cases comes with
  | ok answered tied => exact .ok answered (tied.withPools _ _)
  | error same tied => exact .error same (tied.withPools _ _)

theorem ofConnection {answers : α → β → Prop} {call : Call σ α} {image : Call σ β}
    (runs : laws.Runs rename answers call image) :
    laws.Runs rename answers (Query.Call.ofConnection call) (Query.Call.ofConnection image) := by
  intro link other tied
  have comes := runs tied
  unfold Query.Call.ofConnection
  generalize call link = outcome at comes ⊢
  generalize image other = otherOutcome at comes ⊢
  cases comes with
  | ok answered tied => exact .ok answered tied
  | error same tied => exact .error (congrArg Query.Error.connection same) tied

theorem request {action actionImage : StateM σ α}
    (agrees : ∀ {state image}, laws.Resembles rename state image →
      Agree (laws.Resembles rename) (action state) (actionImage image)) :
    laws.Runs rename (· = ·) (Call.request action) (Call.request actionImage) :=
  fun _ _ tied =>
    have ⟨same, resembles⟩ := agrees tied.engine
    .ok same.symm (tied.withEngines resembles)

theorem observe {view viewImage : σ → α}
    (agrees : ∀ {state image}, laws.Resembles rename state image → viewImage image = view state) :
    laws.Runs rename (· = ·) (Call.observe view) (Call.observe viewImage) :=
  fun _ _ tied => .ok (agrees tied.engine).symm tied

end Runs

theorem Overlooks.bind [Muting ε] {call : ExceptT ε (StateM (Link σ)) α}
    {next : α → ExceptT ε (StateM (Link σ)) β} (first : laws.Overlooks rename call)
    (rest : ∀ answer, laws.Overlooks rename (next answer)) :
    laws.Overlooks rename (call >>= next) := by
  refine Runs.bind first ?_
  rintro answer _ rfl
  exact rest answer

/-! ## Opening -/

section
variable (laws rename) (growth : Scratch.Growth)

theorem runs_openPath {path otherPath : Scratch.Encoded} (same : otherPath.cString? = path.cString?) :
    laws.Runs rename (· = ·) (Connection.openPath engine path)
      (Connection.openPath engine otherPath) := by
  intro link other tied
  unfold Connection.openPath
  rw [Call.bind_apply, Call.bind_apply, Call.get_apply, Call.get_apply]
  dsimp only
  rw [same, tied.path, tied.config]
  cases path.cString? with
  | none => exact .error rfl tied
  | some bytes =>
      dsimp only
      rw [Call.bind_apply, Call.bind_apply, Call.request_apply, Call.request_apply]
      dsimp only
      obtain ⟨sameAnswer, resembles⟩ :=
        laws.resembles_opened bytes link.connection.config.openMode tied.engine
      rw [sameAnswer]
      rcases (engine.openDatabase bytes link.connection.config.openMode link.engine).1 with
        ⟨_ | database, code⟩
      · exact .error rfl (tied.withEngines resembles)
      · dsimp only [Option.map_some]
        by_cases isOk : code = Status.ok
        · rw [if_pos isOk, if_pos isOk]
          exact .ok rfl ((tied.withEngines resembles).withLifecycle (.opened database))
        · rw [if_neg isOk, if_neg isOk]
          exact .error rfl (tied.withEngines (laws.resembles_closed database resembles).2)

theorem overlooks_ensureOpen : laws.Overlooks rename (Connection.ensureOpen engine growth) := by
  intro link other tied
  unfold Connection.ensureOpen
  rw [Call.bind_apply, Call.bind_apply, Call.get_apply, Call.get_apply]
  dsimp only
  rw [tied.lifecycle, tied.path]
  have isPath (pool : Scratch.Pool) :
      (Scratch.Encoded.ofUtf8Terminated growth (Utf8.ofString link.connection.path) pool).1.cString?
        = _ :=
    Scratch.Encoded.cString?_of_bytes rfl (Scratch.Encoded.ofUtf8Terminated_bytes ..)
  cases link.connection.lifecycle with
  | disposed => exact .error rfl tied
  | opened database => exact .ok rfl tied
  | unopened =>
      exact Runs.withScratch (fun pool otherPool =>
        laws.runs_openPath rename ((isPath otherPool).trans (isPath pool).symm)) tied

theorem runs_database :
    laws.Runs rename (fun database other => other = rename database)
      (Connection.database engine growth) (Connection.database engine growth) := by
  refine Runs.bind (laws.overlooks_ensureOpen rename growth) ?_
  rintro _ _ rfl link other tied
  rw [Call.bind_apply, Call.bind_apply, Call.get_apply, Call.get_apply]
  dsimp only
  rw [tied.lifecycle]
  cases link.connection.lifecycle with
  | opened database => exact .ok rfl tied
  | _ => exact .error rfl tied

theorem overlooks_counter {view : DatabaseHandle → σ → α}
    (agrees : ∀ {rename state image} (database : DatabaseHandle),
      laws.Resembles rename state image → view (rename database) image = view database state) :
    laws.Overlooks rename (do Call.observe (view (← Connection.database engine growth))) := by
  refine (laws.runs_database rename growth).bind ?_
  rintro database _ rfl
  exact .observe (agrees database)

theorem overlooks_changes : laws.Overlooks rename (Connection.changes engine growth) :=
  laws.overlooks_counter rename growth laws.resembles_changes

theorem overlooks_lastInsertRowid :
    laws.Overlooks rename (Connection.lastInsertRowid engine growth) :=
  laws.overlooks_counter rename growth laws.resembles_lastInsertRowid

theorem overlooks_pendingStatements :
    laws.Overlooks rename (Connection.pendingStatements engine) := by
  intro link other tied
  unfold Connection.pendingStatements
  rw [Call.bind_apply, Call.bind_apply, Call.get_apply, Call.get_apply]
  dsimp only
  rw [tied.lifecycle]
  cases link.connection.lifecycle with
  | disposed => exact .error rfl tied
  | unopened => exact .ok rfl tied
  | opened database =>
      exact .ok (congrArg List.length (laws.resembles_statements database tied.engine).symm) tied

/-! ## Disposing -/

theorem runs_finalizeListed (database : DatabaseHandle) (limit : Nat) :
    laws.Runs rename (· = ·) (Connection.finalizeListed engine database limit)
      (Connection.finalizeListed engine (rename database) limit) := by
  induction limit with
  | zero => exact .pure rfl
  | succ limit induction =>
      refine Runs.bind (.observe (laws.resembles_statements database)) ?_
      rintro statements _ rfl
      cases statements.head? with
      | none => exact .pure rfl
      | some statement =>
          refine Runs.bind (.request (laws.resembles_finalized statement)) ?_
          rintro _ _ rfl
          exact induction

theorem overlooks_dispose : laws.Overlooks rename (Connection.dispose engine) := by
  intro link other tied
  unfold Connection.dispose
  rw [Call.bind_apply, Call.bind_apply, Call.get_apply, Call.get_apply]
  dsimp only
  have isDisposed := tied.withLifecycle .disposed
  rw [tied.lifecycle]
  cases link.connection.lifecycle with
  | disposed => exact .error rfl isDisposed
  | unopened => exact .ok rfl isDisposed
  | opened database =>
      have finalizes : laws.Runs rename (· = ·)
          (do
            let statements ← Call.observe (engine.statements database)
            Connection.finalizeListed engine database statements.length
            let _ ← Call.request (engine.closeDatabase database))
          (do
            let statements ← Call.observe (engine.statements (rename database))
            Connection.finalizeListed engine (rename database) statements.length
            let _ ← Call.request (engine.closeDatabase (rename database))) := by
        refine Runs.bind (.observe (laws.resembles_statements database)) ?_
        rintro statements _ rfl
        refine (laws.runs_finalizeListed rename database _).bind ?_
        rintro _ _ rfl
        refine Runs.bind (.request (laws.resembles_closed database)) ?_
        rintro _ _ rfl
        exact .pure rfl
      exact finalizes isDisposed

/-! ## Statements -/

theorem overlooks_ensureFits (sql : Text) :
    laws.Overlooks rename (Connection.ensureFits engine sql) := by
  unfold Connection.ensureFits
  split
  · exact .throw rfl
  · exact .pure rfl

theorem overlooks_prepare (sql : Text) :
    laws.Overlooks rename (Connection.prepare engine growth sql) := by
  refine (laws.runs_database rename growth).bind ?_
  rintro database _ rfl
  refine Runs.bind (laws.overlooks_ensureFits rename sql) ?_
  rintro _ _ rfl
  refine Runs.bind (.request (laws.resembles_prepared database sql)) ?_
  rintro ⟨code, statement?⟩ _ rfl
  dsimp only
  by_cases isOk : code = Status.ok
  · rw [if_neg (not_not_intro isOk), if_neg (not_not_intro isOk)]
    cases statement? with
    | none => exact .throw rfl
    | some statement => exact .pure rfl
  · rw [if_pos isOk, if_pos isOk]
    exact fun _ _ tied => .error rfl tied

/-! ## Parameters -/

theorem overlooks_ensureNotDisposed :
    laws.Overlooks rename (Connection.ensureNotDisposed (σ := σ)) := by
  intro link other tied
  unfold Connection.ensureNotDisposed
  rw [Call.bind_apply, Call.bind_apply, Call.get_apply, Call.get_apply]
  dsimp only
  rw [tied.isDisposed]
  split
  · exact .error rfl tied
  · exact .ok rfl tied

theorem overlooks_check (code : Int) : laws.Overlooks rename (Parameter.check (σ := σ) code) := by
  unfold Parameter.check
  split
  · exact .pure rfl
  · exact .throw rfl

variable (statement : StatementHandle)

theorem overlooks_count : laws.Overlooks rename (Parameter.count engine statement) :=
  (laws.overlooks_ensureNotDisposed rename).bind fun _ =>
    .observe (laws.resembles_parameterCount statement)

theorem overlooks_clear : laws.Overlooks rename (Parameter.clear engine statement) :=
  (laws.overlooks_ensureNotDisposed rename).bind fun _ =>
    Overlooks.bind (.request (laws.resembles_asked statement .clearBindings))
      (laws.overlooks_check rename)

theorem overlooks_nameOf (index : Int32) :
    laws.Overlooks rename (Parameter.nameOf engine statement index) :=
  (laws.overlooks_ensureNotDisposed rename).bind fun _ =>
    Overlooks.bind (.observe (laws.resembles_parameterName? statement index.toInt)) fun _ =>
      .pure rfl

theorem runs_lookUp {name otherName : Scratch.Encoded} (same : otherName.cString? = name.cString?) :
    laws.Runs rename (· = ·) (Parameter.lookUp engine statement name)
      (Parameter.lookUp engine statement otherName) := by
  unfold Parameter.lookUp
  rw [same]
  cases name.cString? with
  | none => exact .pure rfl
  | some bytes => exact .observe (laws.resembles_parameterIndex statement bytes)

theorem overlooks_resolve (parameter : Parameter) :
    laws.Overlooks rename (parameter.resolve engine growth statement) := by
  refine (laws.overlooks_ensureNotDisposed rename).bind fun _ => ?_
  rcases parameter with position | ⟨bytes | units⟩
  · exact .pure rfl
  · refine Runs.withScratch fun pool otherPool => laws.runs_lookUp rename statement ?_
    rw [Scratch.Encoded.cString?_of_bytes rfl (Scratch.Encoded.ofUtf8Terminated_bytes ..),
      Scratch.Encoded.cString?_of_bytes rfl (Scratch.Encoded.ofUtf8Terminated_bytes ..)]
  · refine Runs.withScratch fun pool otherPool => laws.runs_lookUp rename statement ?_
    rw [Scratch.Encoded.cString?_of_bytes rfl (Scratch.Encoded.ofUtf16Terminated_bytes ..),
      Scratch.Encoded.cString?_of_bytes rfl (Scratch.Encoded.ofUtf16Terminated_bytes ..)]

theorem overlooks_give (index : Int) (argument : Argument) :
    laws.Overlooks rename
      (Call.request (engine.give statement index argument) >>= Parameter.check) := by
  rcases Nat.lt_or_ge Engine.maxLength argument.byteLength with isLong | fits
  · rw [Engine.give_of_long isLong]
    exact laws.overlooks_check rename Status.tooBig
  · rw [Engine.give_of_le fits]
    exact Overlooks.bind (.request (laws.resembles_asked statement (.bind index argument)))
      (laws.overlooks_check rename)

theorem overlooks_bind (parameter : Parameter) (argument : Argument) :
    laws.Overlooks rename (parameter.bind engine growth statement argument) :=
  (laws.overlooks_resolve rename growth statement parameter).bind fun index =>
    laws.overlooks_give rename statement index argument

theorem overlooks_bindText (parameter : Parameter) (text : Text) :
    laws.Overlooks rename (parameter.bindText engine growth statement text) := by
  refine (laws.overlooks_resolve rename growth statement parameter).bind fun index => ?_
  cases text with
  | utf8 bytes => exact laws.overlooks_give rename statement index _
  | utf16 units =>
      refine Runs.withScratch fun pool otherPool => ?_
      rw [Scratch.Encoded.ofUtf16_bytes, Scratch.Encoded.ofUtf16_bytes]
      exact laws.overlooks_give rename statement index _

end

/-! ## Readers -/

section
variable (reader : Reader) (tied : laws.Tied rename link other)
include tied

theorem Tied.sameColumns :
    Reader.SameColumns engine engine reader reader.statement link other :=
  ⟨tied.isDisposed, fun _ => laws.resembles_columnNames reader.statement tied.engine⟩

theorem Tied.read :
    let first := reader.read engine link
    let second := reader.read engine other
    second.1.1.mapError muted = first.1.1.mapError muted ∧ second.1.2 = first.1.2 ∧
      laws.Tied rename first.2 second.2 := by
  intro first second
  simp only [first, second]
  unfold Reader.read
  rw [tied.isDisposed]
  split
  · exact ⟨rfl, rfl, tied⟩
  split
  · exact ⟨rfl, rfl, tied⟩
  · obtain ⟨sameCode, resembles⟩ := laws.resembles_asked reader.statement .step tied.engine
    have sameRow := laws.resembles_row reader.statement resembles
    have sameConfig := tied.config
    dsimp only
    rw [sameCode]
    unfold Reader.settle
    dsimp only
    rw [sameRow, sameConfig]
    refine ⟨?_, ?_, tied.withEngines resembles⟩
    · repeat' split
      all_goals rfl
    · repeat' split
      all_goals rfl

theorem Tied.dispose : laws.Tied rename (reader.dispose engine link) (reader.dispose engine other) := by
  unfold Reader.dispose
  rw [tied.isDisposed]
  split
  · exact tied
  · cases reader.release with
    | finalize => exact tied.withEngines (laws.resembles_finalized reader.statement tied.engine).2
    | reset => exact tied.withEngines (laws.resembles_asked reader.statement .reset tied.engine).2

end

end Recovering

/-! ## Commands -/

namespace Recovering

variable {backend : Backend σ} {laws : Recovering backend.engine}
  {rename : DatabaseHandle ↪ DatabaseHandle} {link other : Link σ}

theorem Tied.gather [Muting ε] {wanted : β → Bool} {take : Reader → Link σ → β → Except ε β}
    {lift : Error → ε}
    (takes : ∀ ⦃reader : Reader⦄ ⦃link other : Link σ⦄ (gathered : β),
      laws.Tied rename link other → take reader other gathered = take reader link gathered)
    (lifts : ∀ {error other : Error}, muted other = muted error →
      muted (lift other) = muted (lift error))
    (reader : Reader) (gathered : β) (tied : laws.Tied rename link other) :
    let first := reader.gather backend wanted take lift gathered link
    let second := reader.gather backend wanted take lift gathered other
    second.1.1.mapError muted = first.1.1.mapError muted ∧ second.1.2 = first.1.2 ∧
      laws.Tied rename first.2 second.2 := by
  fun_induction Reader.gather backend wanted take lift reader gathered link generalizing other with
  | case1 reader gathered link isWanted error next after outcome =>
      obtain ⟨same, sameReader, tied⟩ := tied.read reader
      rw [outcome] at same sameReader tied
      rcases reads : reader.read backend.engine other with ⟨⟨otherError | found, _⟩, otherAfter⟩ <;>
        rw [reads] at same sameReader tied
      · rw [Reader.gather_of_error isWanted reads]
        exact ⟨congrArg Except.error (lifts (Except.error.inj same)), sameReader, tied⟩
      · cases same
  | case2 reader gathered link isWanted next after outcome =>
      obtain ⟨same, sameReader, tied⟩ := tied.read reader
      rw [outcome] at same sameReader tied
      rcases reads : reader.read backend.engine other with ⟨⟨otherError | found, _⟩, otherAfter⟩ <;>
        rw [reads] at same sameReader tied
      · cases same
      · obtain rfl : found = false := Except.ok.inj same
        rw [Reader.gather_of_end isWanted reads]
        exact ⟨rfl, sameReader, tied⟩
  | case3 reader gathered link isWanted next after outcome error refused =>
      obtain ⟨same, sameReader, tied⟩ := tied.read reader
      rw [outcome] at same sameReader tied
      rcases reads : reader.read backend.engine other with ⟨⟨otherError | found, _⟩, otherAfter⟩ <;>
        rw [reads] at same sameReader tied
      · cases same
      · obtain rfl : found = true := Except.ok.inj same
        obtain rfl : _ = next := sameReader
        rw [Reader.gather_of_row isWanted reads, takes gathered tied, refused]
        exact ⟨rfl, rfl, tied⟩
  | case4 reader gathered link isWanted next after outcome more taken induction =>
      obtain ⟨same, sameReader, tied⟩ := tied.read reader
      rw [outcome] at same sameReader tied
      rcases reads : reader.read backend.engine other with ⟨⟨otherError | found, _⟩, otherAfter⟩ <;>
        rw [reads] at same sameReader tied
      · cases same
      · obtain rfl : found = true := Except.ok.inj same
        obtain rfl : _ = next := sameReader
        rw [Reader.gather_of_row isWanted reads, takes gathered tied, taken]
        exact induction tied
  | case5 reader gathered link isWanted =>
      rw [Reader.gather, if_neg isWanted]
      exact ⟨rfl, rfl, tied⟩

theorem Tied.drop (tied : laws.Tied rename link other) (command : Command) :
    laws.Tied rename (command.drop backend link) (command.drop backend other) :=
  -- a reader that owns the statement lets go of it in the same way
  tied.dispose ⟨command.statement, .finalize, .beforeFirst, []⟩

variable (laws rename) (command : Command)

theorem overlooks_gather [Muting ε] {wanted : β → Bool} {take : Reader → Link σ → β → Except ε β}
    {lift : Error → ε} {gathered : β}
    (takes : ∀ ⦃reader : Reader⦄ ⦃link other : Link σ⦄ (gathered : β),
      laws.Tied rename link other → take reader other gathered = take reader link gathered)
    (lifts : ∀ {error other : Error}, muted other = muted error →
      muted (lift other) = muted (lift error)) (reader : Reader) :
    laws.Overlooks rename fun link =>
      let ((result, reader), link) := reader.gather backend wanted take lift gathered link
      (result, reader.dispose backend.engine link) := by
  intro link other tied
  obtain ⟨same, sameReader, tied⟩ := tied.gather takes lifts reader gathered
  dsimp only
  generalize reader.gather backend wanted take lift gathered link = outcome
    at same sameReader tied ⊢
  generalize reader.gather backend wanted take lift gathered other = otherOutcome
    at same sameReader tied ⊢
  rcases outcome with ⟨⟨error | answer, last⟩, after⟩ <;>
    rcases otherOutcome with ⟨⟨otherError | otherAnswer, otherLast⟩, otherAfter⟩
  · obtain rfl : otherLast = last := sameReader
    exact .error (Except.error.inj same) (tied.dispose otherLast)
  · cases same
  · cases same
  · obtain rfl : otherLast = last := sameReader
    exact .ok (Except.ok.inj same).symm (tied.dispose otherLast)

theorem overlooks_commandReader : laws.Overlooks rename (command.executeReader (σ := σ)) :=
  (laws.overlooks_ensureNotDisposed rename).bind fun _ => .pure rfl

theorem overlooks_executeCommand : laws.Overlooks rename (command.executeNonQuery backend) :=
  (laws.overlooks_commandReader rename command).bind fun reader =>
    laws.overlooks_gather rename (fun _ _ _ _ _ => rfl) id reader

theorem overlooks_sql : laws.Overlooks rename (command.sql backend) :=
  (laws.overlooks_ensureNotDisposed rename).bind fun _ =>
    Overlooks.bind (.observe (laws.resembles_sqlText command.statement)) fun _ => .pure rfl

theorem overlooks_finalizeCommand : laws.Overlooks rename (command.finalize backend) := by
  refine (laws.overlooks_ensureNotDisposed rename).bind fun _ =>
    Overlooks.bind (.request (laws.resembles_finalized command.statement)) fun code => ?_
  split
  · exact .throw rfl
  · exact .pure rfl

theorem overlooks_dropCommand [Muting ε] :
    laws.Overlooks (ε := ε) rename fun link => (.ok (), command.drop backend link) :=
  fun _ _ tied => .ok rfl (tied.drop command)

variable {laws rename} in
theorem Overlooks.dropOnError [Muting ε] {use : ExceptT ε (StateM (Link σ)) α}
    (overlooks : laws.Overlooks rename use) :
    laws.Overlooks rename (command.dropOnError backend use) := by
  intro link other tied
  have comes := overlooks tied
  unfold Command.dropOnError
  generalize use link = outcome at comes ⊢
  generalize use other = otherOutcome at comes ⊢
  cases comes with
  | ok same tied => exact .ok same tied
  | error same tied => exact .error same (tied.drop command)

theorem overlooks_createCommand (sql : Text) :
    laws.Overlooks rename (Connection.createCommand backend sql) :=
  (laws.overlooks_prepare rename backend.growth sql).bind fun _ => .pure rfl

theorem overlooks_executeReader (sql : Text) :
    laws.Overlooks rename (Connection.executeReader backend sql) :=
  (laws.overlooks_prepare rename backend.growth sql).bind fun _ => .pure rfl

theorem overlooks_executeNonQuery (sql : Text) :
    laws.Overlooks rename (Connection.executeNonQuery backend sql) :=
  (laws.overlooks_createCommand rename sql).bind fun command =>
    ((laws.overlooks_executeCommand rename command).dropOnError command).bind fun _ =>
      (laws.overlooks_finalizeCommand rename command).bind fun _ => .pure rfl

/-! ## Queries -/

section
variable {laws rename} (tied : laws.Tied rename link other)
include tied

theorem Tied.columnJson (reader : Reader) (column : Nat) :
    Query.columnJson backend.engine reader column other =
      Query.columnJson backend.engine reader column link := by
  have sameCell := (tied.sameColumns reader).cell column
  rw [Query.columnJson, Query.columnJson, ← sameCell]

theorem Tied.decodeFrom (reader : Reader) (left column : Nat) (row : Query.Row) :
    Query.decodeFrom backend.engine reader other left column row =
      Query.decodeFrom backend.engine reader link left column row := by
  induction left generalizing column row with
  | zero => rfl
  | succ left induction =>
      have sameName : reader.nameString backend.engine column other =
          reader.nameString backend.engine column link :=
        congrArg (Except.map Utf8.toString) ((tied.sameColumns reader).name column)
      simp only [Query.decodeFrom, sameName, tied.columnJson, induction]

theorem Tied.decodeRow (reader : Reader) :
    Query.decodeRow backend.engine reader other = Query.decodeRow backend.engine reader link := by
  have sameCount : reader.columnCount backend.engine other =
      reader.columnCount backend.engine link := (tied.sameColumns reader).columnCount
  simp only [Query.decodeRow, sameCount, tied.decodeFrom]

end

section
variable (statement : StatementHandle)

theorem overlooks_bindValue (index : Int32) (value : Json) :
    laws.Overlooks rename
      (Query.bindValue backend.engine backend.growth statement index value) :=
  .ofConnection (laws.overlooks_bind rename backend.growth statement _ _)

theorem overlooks_bindFrom (count position : Nat) (values : List Json) :
    laws.Overlooks rename
      (Query.bindFrom backend.engine backend.growth statement count position values) := by
  induction values generalizing position with
  | nil => exact .pure rfl
  | cons value rest induction =>
      unfold Query.bindFrom
      split
      · exact fun _ _ tied => .error rfl tied
      · exact (laws.overlooks_bindValue rename statement _ value).bind fun _ => induction _

theorem overlooks_bindValues (values : List Json) :
    laws.Overlooks rename
      (Query.bindValues backend.engine backend.growth statement values) :=
  laws.overlooks_bindFrom rename statement _ _ values

end

variable (sql : Text) (values : List Json)

theorem overlooks_prepareQuery : laws.Overlooks rename (Query.prepare backend sql values) :=
  Overlooks.bind (.ofConnection (laws.overlooks_createCommand rename sql)) fun command =>
    ((laws.overlooks_bindValues rename command.statement values).dropOnError command).bind
      fun _ => .pure rfl

theorem overlooks_execute : laws.Overlooks rename (Query.execute backend sql values) :=
  (laws.overlooks_prepareQuery rename sql values).bind fun command =>
    Overlooks.bind
      (Overlooks.dropOnError command (.ofConnection (laws.overlooks_executeCommand rename command)))
      fun _ => .ofConnection <|
        (laws.overlooks_finalizeCommand rename command).bind fun _ =>
          (laws.overlooks_changes rename backend.growth).bind fun _ =>
            (laws.overlooks_lastInsertRowid rename backend.growth).bind fun _ => .pure rfl

theorem overlooks_fetch (limit : Option Nat) :
    laws.Overlooks rename (Query.fetch backend sql values limit) := by
  refine (laws.overlooks_prepareQuery rename sql values).bind fun command => ?_
  refine Overlooks.bind (Overlooks.dropOnError command ?reads) fun rows => ?_
  case reads =>
    refine Overlooks.bind (.ofConnection (laws.overlooks_commandReader rename command))
      fun reader => ?_
    refine laws.overlooks_gather rename (fun _ _ _ rows tied => ?_) (congrArg Query.Error.connection)
      reader
    rw [tied.decodeRow]
  exact Overlooks.bind (.ofConnection (laws.overlooks_finalizeCommand rename command)) fun _ =>
    .pure rfl

theorem overlooks_fetchAll : laws.Overlooks rename (Query.fetchAll backend sql values) :=
  laws.overlooks_fetch rename sql values none

theorem overlooks_fetchOne : laws.Overlooks rename (Query.fetchOne backend sql values) := by
  refine (laws.overlooks_fetch rename sql values (some 2)).bind fun rows => ?_
  rcases rows with _ | ⟨row, _ | _⟩
  · exact .pure rfl
  · exact .pure rfl
  · exact .throw rfl

/-! ## Transactions -/

theorem overlooks_control (text : String) : laws.Overlooks rename (Query.control backend text) :=
  Overlooks.bind (.ofConnection (laws.overlooks_executeNonQuery rename (.ofString text)))
    fun _ => .pure rfl

theorem overlooks_executeEach (statements : List (Text × List Json)) :
    laws.Overlooks rename (Query.executeEach backend statements) := by
  induction statements with
  | nil => exact .pure rfl
  | cons statement rest induction =>
      exact (laws.overlooks_execute rename _ _).bind fun result =>
        Overlooks.bind induction fun results => .pure rfl

theorem runs_rollback {error other : Query.Error} (same : muted other = muted error) :
    laws.Runs rename (· = ·) (Query.rollback backend error) (Query.rollback backend other) := by
  intro link otherLink tied
  have comes := laws.overlooks_control rename "ROLLBACK" tied
  unfold Query.rollback
  generalize Query.control backend "ROLLBACK" link = outcome at comes ⊢
  generalize Query.control backend "ROLLBACK" otherLink = otherOutcome at comes ⊢
  cases comes with
  | ok _ tied => exact .error same tied
  | error _ tied => exact .error rfl tied

theorem overlooks_executeTransaction (statements : List (Text × List Json)) :
    laws.Overlooks rename (Query.executeTransaction backend statements) := by
  refine (laws.overlooks_control rename _).bind fun _ => ?_
  refine Runs.tryCatch ?attempt fun _ _ same => laws.runs_rollback rename same
  exact (laws.overlooks_executeEach rename statements).bind fun results =>
    (laws.overlooks_control rename _).bind fun _ => .pure rfl

end Recovering

end EmbeddedSql
