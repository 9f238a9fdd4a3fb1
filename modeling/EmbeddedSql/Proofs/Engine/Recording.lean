import EmbeddedSql.Proofs.Engine.Custody

/-! An engine with a record of its calls, and what the record says about the use of
handles. -/

namespace EmbeddedSql

/-! ## Records -/

/-- What an engine was asked to do to a handle, and which handle it gave out. -/
inductive EngineCall where
  | opened (database? : Option DatabaseHandle)
  | closed (database : DatabaseHandle)
  | prepared (database : DatabaseHandle) (statement? : Option StatementHandle)
  | finalized (statement : StatementHandle)
  | stepped (statement : StatementHandle) (code : Int)
  | reset (statement : StatementHandle)
  | bound (statement : StatementHandle)
  | cleared (statement : StatementHandle)
deriving DecidableEq, Repr

namespace EngineCall

def apply (handles : Handles) : EngineCall → Handles
  | .opened (some database) => handles.opening database
  | .closed database => handles.closing database
  | .prepared database (some statement) => handles.preparing statement database
  | .finalized statement => handles.finalizing statement
  | _ => handles

/-- Only handles in use are used, a database is closed after all of its statements are
finalized, and no handle is given out that is in use. -/
def IsProper (handles : Handles) : EngineCall → Prop
  | .opened none => True
  | .opened (some database) => handles.isOpen database = false
  | .closed database => handles.isOpen database = true ∧ handles.IsIdle database
  | .prepared database none => handles.isOpen database = true
  | .prepared database (some statement) =>
      handles.isOpen database = true ∧ handles.owner? statement = none
  | .finalized statement => handles.InUse statement
  | .stepped statement _ => handles.InUse statement
  | .reset statement => handles.InUse statement
  | .bound statement => handles.InUse statement
  | .cleared statement => handles.InUse statement

def opens (database : DatabaseHandle) (call : EngineCall) : Bool :=
  call = .opened (some database)

def closes (database : DatabaseHandle) (call : EngineCall) : Bool :=
  call = .closed database

def prepares (statement : StatementHandle) : EngineCall → Bool
  | .prepared _ prepared? => prepared? = some statement
  | _ => false

def finalizes (statement : StatementHandle) (call : EngineCall) : Bool :=
  call = .finalized statement

def steps (statement : StatementHandle) : EngineCall → Bool
  | .stepped other _ => other = statement
  | _ => false

end EngineCall

abbrev EngineRecord := List EngineCall

namespace EngineRecord

def handles : EngineRecord → Handles
  | [] => .none
  | call :: earlier => call.apply (handles earlier)

inductive IsProper : EngineRecord → Prop
  | nothing : IsProper []
  | call {earlier : EngineRecord} {latest : EngineCall} : IsProper earlier →
      latest.IsProper (handles earlier) → IsProper (latest :: earlier)

/-- Every database has been closed as often as it was opened, and every statement
finalized as often as it was prepared. -/
structure IsSettled (record : EngineRecord) : Prop where
  closed : ∀ database,
    record.countP (EngineCall.closes database) = record.countP (EngineCall.opens database)
  finalized : ∀ statement,
    record.countP (EngineCall.finalizes statement) = record.countP (EngineCall.prepares statement)

theorem opened_eq {record : EngineRecord} (isProper : record.IsProper)
    (database : DatabaseHandle) :
    record.countP (EngineCall.opens database) =
      record.countP (EngineCall.closes database) + (record.handles.isOpen database).toNat := by
  induction record with
  | nil => rfl
  | cons call earlier induction =>
      rcases isProper with _ | ⟨isProper, isLatest⟩
      have counted := induction isProper
      rw [List.countP_cons, List.countP_cons, counted]
      rcases call with (_ | other) | other | ⟨owner, _ | statement⟩ | _ | _ | _ | _ | _
      case opened.some =>
        have isClosed : (handles earlier).isOpen other = false := isLatest
        by_cases isSame : other = database
        · subst isSame
          simp [EngineCall.opens, EngineCall.closes, handles, EngineCall.apply, isClosed]
        · have isOther : database ≠ other := Ne.symm isSame
          simp [EngineCall.opens, EngineCall.closes, handles, EngineCall.apply, Handles.opening,
            isSame, isOther]
      case closed =>
        have isOpen : (handles earlier).isOpen other = true := isLatest.1
        by_cases isSame : other = database
        · subst isSame
          simp [EngineCall.opens, EngineCall.closes, handles, EngineCall.apply, Handles.closing,
            isOpen]
        · have isOther : database ≠ other := Ne.symm isSame
          simp [EngineCall.opens, EngineCall.closes, handles, EngineCall.apply, Handles.closing,
            isSame, isOther]
      all_goals simp [EngineCall.opens, EngineCall.closes, handles, EngineCall.apply]

theorem prepared_eq {record : EngineRecord} (isProper : record.IsProper)
    (statement : StatementHandle) :
    record.countP (EngineCall.prepares statement) =
      record.countP (EngineCall.finalizes statement) +
        (record.handles.owner? statement).isSome.toNat := by
  induction record with
  | nil => rfl
  | cons call earlier induction =>
      rcases isProper with _ | ⟨isProper, isLatest⟩
      have counted := induction isProper
      rw [List.countP_cons, List.countP_cons, counted]
      rcases call with (_ | database) | database | ⟨owner, _ | other⟩ | other | _ | _ | _ | _
      case prepared.some =>
        have isFree : (handles earlier).owner? other = none := isLatest.2
        by_cases isSame : other = statement
        · subst isSame
          simp [EngineCall.prepares, EngineCall.finalizes, handles, EngineCall.apply, isFree]
        · have isOther : statement ≠ other := Ne.symm isSame
          simp [EngineCall.prepares, EngineCall.finalizes, handles, EngineCall.apply,
            Handles.preparing, isSame, isOther]
      case finalized =>
        rcases isLatest with ⟨database, isOwner, -⟩
        by_cases isSame : other = statement
        · subst isSame
          simp [EngineCall.prepares, EngineCall.finalizes, handles, EngineCall.apply,
            Handles.finalizing, isOwner]
        · have isOther : statement ≠ other := Ne.symm isSame
          simp [EngineCall.prepares, EngineCall.finalizes, handles, EngineCall.apply,
            Handles.finalizing, isSame, isOther]
      all_goals simp [EngineCall.prepares, EngineCall.finalizes, handles, EngineCall.apply]

/-- Once no handle is in use, every one that was given out has been taken back. -/
theorem isSettled_of_unused {record : EngineRecord} (isProper : record.IsProper)
    (isUnused : record.handles = .none) : record.IsSettled where
  closed database := by
    rw [opened_eq isProper, isUnused]
    rfl
  finalized statement := by
    rw [prepared_eq isProper, isUnused]
    rfl

end EngineRecord

/-! ## Recording engines -/

structure Recorded (σ : Type) where
  state : σ
  record : EngineRecord := []

variable {σ α : Type}

def Recorded.note (action : StateM σ α) (call : α → EngineCall) : StateM (Recorded σ) α :=
  fun recorded =>
    let (answer, state) := action recorded.state
    (answer, { state, record := call answer :: recorded.record })

open Recorded in
def Engine.recording (engine : Engine σ) : Engine (Recorded σ) where
  openDatabase path mode := note (engine.openDatabase path mode) fun answer => .opened answer.1
  closeDatabase database := note (engine.closeDatabase database) fun _ => .closed database
  errorMessage database recorded := engine.errorMessage database recorded.state
  codeMessage := engine.codeMessage
  changes database recorded := engine.changes database recorded.state
  lastInsertRowid database recorded := engine.lastInsertRowid database recorded.state
  statements database recorded := engine.statements database recorded.state
  prepare database sql :=
    note (engine.prepare database sql) fun answer => .prepared database answer.2
  step statement := note (engine.step statement) fun code => .stepped statement code
  reset statement := note (engine.reset statement) fun _ => .reset statement
  finalize statement := note (engine.finalize statement) fun _ => .finalized statement
  sqlText statement recorded := engine.sqlText statement recorded.state
  parameterCount statement recorded := engine.parameterCount statement recorded.state
  parameterIndex statement name recorded := engine.parameterIndex statement name recorded.state
  parameterName? statement index recorded := engine.parameterName? statement index recorded.state
  bind statement index argument :=
    note (engine.bind statement index argument) fun _ => .bound statement
  clearBindings statement := note (engine.clearBindings statement) fun _ => .cleared statement
  columnNames statement recorded := engine.columnNames statement recorded.state
  row statement recorded := engine.row statement recorded.state

def Backend.recording (backend : Backend σ) : Backend (Recorded σ) where
  engine := backend.engine.recording
  rows :=
    { remaining := fun statement recorded => backend.rows.remaining statement recorded.state
      remaining_step := fun statement recorded =>
        backend.rows.remaining_step statement recorded.state }
  growth := backend.growth

namespace Custody

variable {engine : Engine σ} (custody : Custody engine)

/-- The record is proper, and the handles in use are those that it says. -/
def recordLedger : Ledger (Recorded σ) where
  handles recorded := custody.handles recorded.state
  Valid recorded := custody.Valid recorded.state ∧ recorded.record.IsProper ∧
    recorded.record.handles = custody.handles recorded.state

theorem note_shows {custody : Custody engine} {action : StateM σ α} {call : α → EngineCall}
    {recorded : Recorded σ} {handles : Handles} (valid : custody.recordLedger.Valid recorded)
    (shows : custody.Shows (action recorded.state).2 handles)
    (isProper : (call (action recorded.state).1).IsProper (custody.handles recorded.state))
    (applies : (call (action recorded.state).1).apply (custody.handles recorded.state) = handles) :
    custody.recordLedger.Shows (Recorded.note action call recorded).2 handles := by
  rcases valid with ⟨-, wasProper, isRecorded⟩
  refine ⟨⟨shows.1, .call wasProper ?_, ?_⟩, shows.2⟩
  · rw [isRecorded]
    exact isProper
  · show (call _).apply recorded.record.handles = _
    rw [isRecorded, applies, ← shows.2]
    rfl

def recording : Custody engine.recording where
  toLedger := custody.recordLedger
  isOpen_of_owner valid := custody.isOpen_of_owner valid.1
  opened {recorded path mode database} valid isOpened := by
    rcases custody.opened valid.1 isOpened with ⟨isClosed, shows⟩
    have isOpened : (engine.openDatabase path mode recorded.state).1.1 = some database := isOpened
    exact ⟨isClosed, note_shows valid shows (by rw [isOpened]; exact isClosed)
      (by rw [isOpened]; rfl)⟩
  unopened {recorded path mode} valid isUnopened := by
    have isUnopened : (engine.openDatabase path mode recorded.state).1.1 = none := isUnopened
    exact note_shows valid (custody.unopened valid.1 isUnopened) (by rw [isUnopened]; trivial)
      (by rw [isUnopened]; rfl)
  closed valid isOpen isIdle :=
    note_shows valid (custody.closed valid.1 isOpen isIdle) ⟨isOpen, isIdle⟩ rfl
  mem_statements valid isOpen := custody.mem_statements valid.1 isOpen
  prepared {recorded database sql statement} valid isOpen isPrepared := by
    rcases custody.prepared valid.1 isOpen isPrepared with ⟨isOk, isFree, shows⟩
    have isPrepared : (engine.prepare database sql recorded.state).1.2 = some statement := isPrepared
    exact ⟨isOk, isFree, note_shows valid shows (by rw [isPrepared]; exact ⟨isOpen, isFree⟩)
      (by rw [isPrepared]; rfl)⟩
  unprepared {recorded database sql} valid isOpen isUnprepared := by
    have isUnprepared : (engine.prepare database sql recorded.state).1.2 = none := isUnprepared
    exact note_shows valid (custody.unprepared valid.1 isOpen isUnprepared)
      (by rw [isUnprepared]; exact isOpen) (by rw [isUnprepared]; rfl)
  finalized valid inUse := note_shows valid (custody.finalized valid.1 inUse) inUse rfl
  stepped valid inUse := note_shows valid (custody.stepped valid.1 inUse) inUse rfl
  reset valid inUse := note_shows valid (custody.reset valid.1 inUse) inUse rfl
  bound valid inUse := note_shows valid (custody.bound valid.1 inUse) inUse rfl
  cleared valid inUse := note_shows valid (custody.cleared valid.1 inUse) inUse rfl

theorem recording_codeMessage : engine.recording.codeMessage = engine.codeMessage := rfl

def unrecorded : Mirror engine.recording engine where
  toCustody := custody.recording
  Same recorded state := state = recorded.state
  same_openDatabase _ same := same ▸ ⟨rfl, rfl⟩
  same_closeDatabase _ same _ _ := same ▸ ⟨rfl, rfl⟩
  same_codeMessage := recording_codeMessage.symm
  same_errorMessage _ same _ := same ▸ rfl
  same_changes _ same _ := same ▸ rfl
  same_lastInsertRowid _ same _ := same ▸ rfl
  same_statements _ same _ := same ▸ rfl
  same_prepare _ same _ := same ▸ ⟨rfl, rfl⟩
  same_step _ same _ := same ▸ ⟨rfl, rfl⟩
  same_reset _ same _ := same ▸ ⟨rfl, rfl⟩
  same_finalize _ same _ := same ▸ ⟨rfl, rfl⟩
  same_bind _ same _ := same ▸ ⟨rfl, rfl⟩
  same_clearBindings _ same _ := same ▸ ⟨rfl, rfl⟩
  same_sqlText _ same _ := same ▸ rfl
  same_parameterCount _ same _ := same ▸ rfl
  same_parameterIndex _ same _ := same ▸ rfl
  same_parameterName? _ same _ := same ▸ rfl
  same_columnNames _ same _ := same ▸ rfl
  same_row _ same _ := same ▸ rfl

end Custody

end EmbeddedSql
