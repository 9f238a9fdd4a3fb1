import EmbeddedSql.Connection.Command
import Mathlib.Logic.Function.Basic

/-! The handles that an engine has given out and not taken back, and what it promises
to whoever uses no others. -/

namespace EmbeddedSql

/-! ## Handles in use -/

/-- A statement in use has an owner, the database it was compiled for. -/
@[ext]
structure Handles where
  isOpen : DatabaseHandle → Bool
  owner? : StatementHandle → Option DatabaseHandle

namespace Handles

def none : Handles where
  isOpen _ := false
  owner? _ := .none

def opening (handles : Handles) (database : DatabaseHandle) : Handles :=
  { handles with isOpen := Function.update handles.isOpen database true }

def closing (handles : Handles) (database : DatabaseHandle) : Handles :=
  { handles with isOpen := Function.update handles.isOpen database false }

def preparing (handles : Handles) (statement : StatementHandle) (database : DatabaseHandle) :
    Handles :=
  { handles with owner? := Function.update handles.owner? statement (some database) }

def finalizing (handles : Handles) (statement : StatementHandle) : Handles :=
  { handles with owner? := Function.update handles.owner? statement .none }

def sweeping (handles : Handles) (database : DatabaseHandle) : Handles :=
  { handles with
    owner? := fun statement =>
      if handles.owner? statement = some database then .none else handles.owner? statement }

def IsIdle (handles : Handles) (database : DatabaseHandle) : Prop :=
  ∀ statement, handles.owner? statement ≠ some database

def InUse (handles : Handles) (statement : StatementHandle) : Prop :=
  ∃ database, handles.owner? statement = some database ∧ handles.isOpen database = true

@[simp] theorem opening_owner? (handles : Handles) (database : DatabaseHandle) :
    (handles.opening database).owner? = handles.owner? := rfl

@[simp] theorem closing_owner? (handles : Handles) (database : DatabaseHandle) :
    (handles.closing database).owner? = handles.owner? := rfl

@[simp] theorem preparing_isOpen (handles : Handles) (statement : StatementHandle)
    (database : DatabaseHandle) :
    (handles.preparing statement database).isOpen = handles.isOpen := rfl

@[simp] theorem finalizing_isOpen (handles : Handles) (statement : StatementHandle) :
    (handles.finalizing statement).isOpen = handles.isOpen := rfl

@[simp] theorem opening_isOpen_self (handles : Handles) (database : DatabaseHandle) :
    (handles.opening database).isOpen database = true := by
  simp [opening]

theorem InUse.opening {handles : Handles} {statement : StatementHandle}
    (inUse : handles.InUse statement) (database : DatabaseHandle) :
    (handles.opening database).InUse statement := by
  obtain ⟨owner, isOwner, isOpen⟩ := inUse
  refine ⟨owner, isOwner, ?_⟩
  by_cases isSame : owner = database
  · simp [Handles.opening, isSame]
  · simp [Handles.opening, isSame, isOpen]

@[simp] theorem preparing_owner?_self (handles : Handles) (statement : StatementHandle)
    (database : DatabaseHandle) :
    (handles.preparing statement database).owner? statement = some database := by
  simp [preparing]

@[simp] theorem sweeping_isOpen (handles : Handles) (database : DatabaseHandle) :
    (handles.sweeping database).isOpen = handles.isOpen := rfl

theorem sweeping_isIdle (handles : Handles) (database : DatabaseHandle) :
    (handles.sweeping database).IsIdle database := by
  intro statement
  dsimp only [sweeping]
  split
  · exact nofun
  · assumption

theorem sweeping_of_isIdle {handles : Handles} {database : DatabaseHandle}
    (isIdle : handles.IsIdle database) : handles.sweeping database = handles := by
  ext1
  · rfl
  · funext statement
    exact if_neg (isIdle statement)

theorem sweeping_finalizing {handles : Handles} {database : DatabaseHandle}
    {statement : StatementHandle} (isOwner : handles.owner? statement = some database) :
    (handles.finalizing statement).sweeping database = handles.sweeping database := by
  ext1
  · rfl
  · funext other
    by_cases isSame : other = statement
    · subst isSame
      simp [sweeping, finalizing, isOwner]
    · simp [sweeping, finalizing, isSame]

theorem finalizing_preparing {handles : Handles} {statement : StatementHandle}
    (isFree : handles.owner? statement = .none) (database : DatabaseHandle) :
    (handles.preparing statement database).finalizing statement = handles := by
  ext1
  · rfl
  · simp [preparing, finalizing, ← isFree]

theorem closing_opening {handles : Handles} {database : DatabaseHandle}
    (isClosed : handles.isOpen database = false) :
    (handles.opening database).closing database = handles := by
  ext1
  · simp [opening, closing, ← isClosed]
  · rfl

end Handles

/-! ## What an engine promises -/

/-- Which handles are in use in a state, and what else can be relied on in it. -/
structure Ledger (σ : Type) where
  handles : σ → Handles
  Valid : σ → Prop

/-- The state can be relied on, and exactly these handles are in use in it. -/
def Ledger.Shows {σ : Type} (ledger : Ledger σ) (state : σ) (handles : Handles) : Prop :=
  ledger.Valid state ∧ ledger.handles state = handles

/-- Assumed of SQLite: what is in use after a request follows from what was in use before, and
`sqlite3_next_stmt` lists all statements of a connection and no others. -/
structure Custody {σ : Type} (engine : Engine σ) extends Ledger σ where
  isOpen_of_owner : ∀ {state statement database}, Valid state →
    (handles state).owner? statement = some database → (handles state).isOpen database = true

  -- Databases

  /-- A handle is given out whether or not the database is usable. -/
  opened : ∀ {state path mode database}, Valid state →
    (engine.openDatabase path mode state).1.1 = some database →
      (handles state).isOpen database = false ∧
        toLedger.Shows (engine.openDatabase path mode state).2
          ((handles state).opening database)
  unopened : ∀ {state path mode}, Valid state →
    (engine.openDatabase path mode state).1.1 = none →
      toLedger.Shows (engine.openDatabase path mode state).2 (handles state)
  closed : ∀ {state database}, Valid state → (handles state).isOpen database = true →
    (handles state).IsIdle database →
      toLedger.Shows (engine.closeDatabase database state).2 ((handles state).closing database)
  mem_statements : ∀ {state database statement}, Valid state →
    (handles state).isOpen database = true →
      (statement ∈ engine.statements database state ↔
        (handles state).owner? statement = some database)

  -- Statements

  prepared : ∀ {state database sql statement}, Valid state →
    (handles state).isOpen database = true →
      (engine.prepare database sql state).1.2 = some statement →
        (engine.prepare database sql state).1.1 = Status.ok ∧
          (handles state).owner? statement = none ∧
            toLedger.Shows (engine.prepare database sql state).2
              ((handles state).preparing statement database)
  unprepared : ∀ {state database sql}, Valid state → (handles state).isOpen database = true →
    (engine.prepare database sql state).1.2 = none →
      toLedger.Shows (engine.prepare database sql state).2 (handles state)
  /-- A statement is gone whatever is answered to finalizing it. -/
  finalized : ∀ {state statement}, Valid state → (handles state).InUse statement →
    toLedger.Shows (engine.finalize statement state).2 ((handles state).finalizing statement)
  stepped : ∀ {state statement}, Valid state → (handles state).InUse statement →
    toLedger.Shows (engine.step statement state).2 (handles state)
  reset : ∀ {state statement}, Valid state → (handles state).InUse statement →
    toLedger.Shows (engine.reset statement state).2 (handles state)
  bound : ∀ {state statement index argument}, Valid state → (handles state).InUse statement →
    toLedger.Shows (engine.bind statement index argument state).2 (handles state)
  cleared : ∀ {state statement}, Valid state → (handles state).InUse statement →
    toLedger.Shows (engine.clearBindings statement state).2 (handles state)

/-- What holds in all valid states besides, once it holds in one. -/
structure Custody.Keeps {σ : Type} {engine : Engine σ} (custody : Custody engine)
    (Holds : σ → Prop) : Prop where
  openDatabase : ∀ {state path mode}, custody.Valid state → Holds state →
    Holds (engine.openDatabase path mode state).2
  closeDatabase : ∀ {state database}, custody.Valid state → Holds state →
    (custody.handles state).isOpen database = true → (custody.handles state).IsIdle database →
      Holds (engine.closeDatabase database state).2
  prepare : ∀ {state database sql}, custody.Valid state → Holds state →
    (custody.handles state).isOpen database = true → Holds (engine.prepare database sql state).2
  finalize : ∀ {state statement}, custody.Valid state → Holds state →
    (custody.handles state).InUse statement → Holds (engine.finalize statement state).2
  step : ∀ {state statement}, custody.Valid state → Holds state →
    (custody.handles state).InUse statement → Holds (engine.step statement state).2
  reset : ∀ {state statement}, custody.Valid state → Holds state →
    (custody.handles state).InUse statement → Holds (engine.reset statement state).2
  bind : ∀ {state statement index argument}, custody.Valid state → Holds state →
    (custody.handles state).InUse statement → Holds (engine.bind statement index argument state).2
  clearBindings : ∀ {state statement}, custody.Valid state → Holds state →
    (custody.handles state).InUse statement → Holds (engine.clearBindings statement state).2

def Custody.within {σ : Type} {engine : Engine σ} (custody : Custody engine) {Holds : σ → Prop}
    (keeps : custody.Keeps Holds) : Custody engine where
  handles := custody.handles
  Valid state := custody.Valid state ∧ Holds state
  isOpen_of_owner valid := custody.isOpen_of_owner valid.1
  opened valid isOpened :=
    have ⟨isClosed, shows⟩ := custody.opened valid.1 isOpened
    ⟨isClosed, ⟨shows.1, keeps.openDatabase valid.1 valid.2⟩, shows.2⟩
  unopened valid isUnopened :=
    have shows := custody.unopened valid.1 isUnopened
    ⟨⟨shows.1, keeps.openDatabase valid.1 valid.2⟩, shows.2⟩
  closed valid isOpen isIdle :=
    have shows := custody.closed valid.1 isOpen isIdle
    ⟨⟨shows.1, keeps.closeDatabase valid.1 valid.2 isOpen isIdle⟩, shows.2⟩
  mem_statements valid := custody.mem_statements valid.1
  prepared valid isOpen isPrepared :=
    have ⟨isOk, isFree, shows⟩ := custody.prepared valid.1 isOpen isPrepared
    ⟨isOk, isFree, ⟨shows.1, keeps.prepare valid.1 valid.2 isOpen⟩, shows.2⟩
  unprepared valid isOpen isUnprepared :=
    have shows := custody.unprepared valid.1 isOpen isUnprepared
    ⟨⟨shows.1, keeps.prepare valid.1 valid.2 isOpen⟩, shows.2⟩
  finalized valid inUse :=
    have shows := custody.finalized valid.1 inUse
    ⟨⟨shows.1, keeps.finalize valid.1 valid.2 inUse⟩, shows.2⟩
  stepped valid inUse :=
    have shows := custody.stepped valid.1 inUse
    ⟨⟨shows.1, keeps.step valid.1 valid.2 inUse⟩, shows.2⟩
  reset valid inUse :=
    have shows := custody.reset valid.1 inUse
    ⟨⟨shows.1, keeps.reset valid.1 valid.2 inUse⟩, shows.2⟩
  bound valid inUse :=
    have shows := custody.bound valid.1 inUse
    ⟨⟨shows.1, keeps.bind valid.1 valid.2 inUse⟩, shows.2⟩
  cleared valid inUse :=
    have shows := custody.cleared valid.1 inUse
    ⟨⟨shows.1, keeps.clearBindings valid.1 valid.2 inUse⟩, shows.2⟩

namespace Custody.Keeps

variable {σ : Type} {engine : Engine σ} {custody : Custody engine} {Holds More : σ → Prop}
  (keeps : custody.Keeps Holds)
include keeps

theorem within (other : custody.Keeps More) : (custody.within other).Keeps Holds where
  openDatabase valid := keeps.openDatabase valid.1
  closeDatabase valid := keeps.closeDatabase valid.1
  prepare valid := keeps.prepare valid.1
  finalize valid := keeps.finalize valid.1
  step valid := keeps.step valid.1
  reset valid := keeps.reset valid.1
  bind valid := keeps.bind valid.1
  clearBindings valid := keeps.clearBindings valid.1

theorem both (more : (custody.within keeps).Keeps More) :
    custody.Keeps fun state => Holds state ∧ More state where
  openDatabase valid holds :=
    ⟨keeps.openDatabase valid holds.1, more.openDatabase ⟨valid, holds.1⟩ holds.2⟩
  closeDatabase valid holds isOpen isIdle :=
    ⟨keeps.closeDatabase valid holds.1 isOpen isIdle,
      more.closeDatabase ⟨valid, holds.1⟩ holds.2 isOpen isIdle⟩
  prepare valid holds isOpen :=
    ⟨keeps.prepare valid holds.1 isOpen, more.prepare ⟨valid, holds.1⟩ holds.2 isOpen⟩
  finalize valid holds inUse :=
    ⟨keeps.finalize valid holds.1 inUse, more.finalize ⟨valid, holds.1⟩ holds.2 inUse⟩
  step valid holds inUse :=
    ⟨keeps.step valid holds.1 inUse, more.step ⟨valid, holds.1⟩ holds.2 inUse⟩
  reset valid holds inUse :=
    ⟨keeps.reset valid holds.1 inUse, more.reset ⟨valid, holds.1⟩ holds.2 inUse⟩
  bind valid holds inUse :=
    ⟨keeps.bind valid holds.1 inUse, more.bind ⟨valid, holds.1⟩ holds.2 inUse⟩
  clearBindings valid holds inUse :=
    ⟨keeps.clearBindings valid holds.1 inUse, more.clearBindings ⟨valid, holds.1⟩ holds.2 inUse⟩

end Custody.Keeps

/-! ## Engines that cannot be told apart

A second engine need not do the same as the first one with handles that are not in
use, or with a database that still has statements. -/

def Agree {σ τ α : Type} (Same : σ → τ → Prop) (outcome : α × σ) (image : α × τ) : Prop :=
  image.1 = outcome.1 ∧ Same outcome.2 image.2

structure Mirror {σ τ : Type} (engine : Engine σ) (other : Engine τ) extends Custody engine where
  Same : σ → τ → Prop

  -- Databases

  same_openDatabase : ∀ {state image path mode}, Valid state → Same state image →
    Agree Same (engine.openDatabase path mode state) (other.openDatabase path mode image)
  same_closeDatabase : ∀ {state image database}, Valid state → Same state image →
    (handles state).isOpen database = true → (handles state).IsIdle database →
      Agree Same (engine.closeDatabase database state) (other.closeDatabase database image)
  same_codeMessage : other.codeMessage = engine.codeMessage
  same_errorMessage : ∀ {state image database}, Valid state → Same state image →
    (handles state).isOpen database = true →
      other.errorMessage database image = engine.errorMessage database state
  same_changes : ∀ {state image database}, Valid state → Same state image →
    (handles state).isOpen database = true →
      other.changes database image = engine.changes database state
  same_lastInsertRowid : ∀ {state image database}, Valid state → Same state image →
    (handles state).isOpen database = true →
      other.lastInsertRowid database image = engine.lastInsertRowid database state
  same_statements : ∀ {state image database}, Valid state → Same state image →
    (handles state).isOpen database = true →
      other.statements database image = engine.statements database state

  -- Statements

  same_prepare : ∀ {state image database sql}, Valid state → Same state image →
    (handles state).isOpen database = true →
      Agree Same (engine.prepare database sql state) (other.prepare database sql image)
  same_step : ∀ {state image statement}, Valid state → Same state image →
    (handles state).InUse statement →
      Agree Same (engine.step statement state) (other.step statement image)
  same_reset : ∀ {state image statement}, Valid state → Same state image →
    (handles state).InUse statement →
      Agree Same (engine.reset statement state) (other.reset statement image)
  same_finalize : ∀ {state image statement}, Valid state → Same state image →
    (handles state).InUse statement →
      Agree Same (engine.finalize statement state) (other.finalize statement image)
  same_bind : ∀ {state image statement index argument}, Valid state → Same state image →
    (handles state).InUse statement →
      Agree Same (engine.bind statement index argument state)
        (other.bind statement index argument image)
  same_clearBindings : ∀ {state image statement}, Valid state → Same state image →
    (handles state).InUse statement →
      Agree Same (engine.clearBindings statement state) (other.clearBindings statement image)
  same_sqlText : ∀ {state image statement}, Valid state → Same state image →
    (handles state).InUse statement →
      other.sqlText statement image = engine.sqlText statement state

  -- Parameters and columns

  same_parameterCount : ∀ {state image statement}, Valid state → Same state image →
    (handles state).InUse statement →
      other.parameterCount statement image = engine.parameterCount statement state
  same_parameterIndex : ∀ {state image statement name}, Valid state → Same state image →
    (handles state).InUse statement →
      other.parameterIndex statement name image = engine.parameterIndex statement name state
  same_parameterName? : ∀ {state image statement index}, Valid state → Same state image →
    (handles state).InUse statement →
      other.parameterName? statement index image = engine.parameterName? statement index state
  same_columnNames : ∀ {state image statement}, Valid state → Same state image →
    (handles state).InUse statement →
      other.columnNames statement image = engine.columnNames statement state
  same_row : ∀ {state image statement}, Valid state → Same state image →
    (handles state).InUse statement →
      other.row statement image = engine.row statement state

def Custody.itself {σ : Type} {engine : Engine σ} (custody : Custody engine) : Mirror engine engine where
  toCustody := custody
  Same := Eq
  same_openDatabase _ same := same ▸ ⟨rfl, rfl⟩
  same_closeDatabase _ same _ _ := same ▸ ⟨rfl, rfl⟩
  same_codeMessage := rfl
  same_errorMessage _ same _ := same ▸ rfl
  same_changes _ same _ := same ▸ rfl
  same_lastInsertRowid _ same _ := same ▸ rfl
  same_statements _ same _ := same ▸ rfl
  same_prepare _ same _ := same ▸ ⟨rfl, rfl⟩
  same_step _ same _ := same ▸ ⟨rfl, rfl⟩
  same_reset _ same _ := same ▸ ⟨rfl, rfl⟩
  same_finalize _ same _ := same ▸ ⟨rfl, rfl⟩
  same_bind _ same _ := same ▸ ⟨rfl, rfl⟩
  same_clearBindings _ same _ := same ▸ ⟨rfl, rfl⟩
  same_sqlText _ same _ := same ▸ rfl
  same_parameterCount _ same _ := same ▸ rfl
  same_parameterIndex _ same _ := same ▸ rfl
  same_parameterName? _ same _ := same ▸ rfl
  same_columnNames _ same _ := same ▸ rfl
  same_row _ same _ := same ▸ rfl

end EmbeddedSql
