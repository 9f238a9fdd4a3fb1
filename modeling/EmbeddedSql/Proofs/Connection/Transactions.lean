import EmbeddedSql.Proofs.Connection.Run
import EmbeddedSql.Proofs.Engine.Transactions

/-! What the calls on a connection make of a transaction. Only the steps of statements
change how the database stands. -/

namespace EmbeddedSql

variable {σ C ε α : Type}

/-- An open connection, and how its database stands for it. -/
structure Position (C : Type) where
  connection : Connection
  database : DatabaseHandle
  standing : Standing C

def Position.reaching (position : Position C) (standing : Standing C) : Position C :=
  { position with standing }

namespace Transactions

variable {engine : Engine σ} (laws : Transactions engine C)

/-! ## Engine states -/

structure Stands (position : Position C) (state : σ) : Prop where
  valid : laws.Valid state
  isOpen : (laws.handles state).isOpen position.database = true
  standing : laws.standing state position.database = position.standing

structure Waits (position : Position C) (statement : StatementHandle) (state : σ) :
    Prop extends laws.Stands position state where
  owner : (laws.handles state).owner? statement = some position.database
  isReset : laws.IsReset state statement

variable {laws} {position : Position C} {statement : StatementHandle} {state after : σ}

theorem Waits.inUse (waits : laws.Waits position statement state) :
    (laws.handles state).InUse statement :=
  ⟨_, waits.owner, waits.isOpen⟩

theorem Stands.reach (stands : laws.Stands position state)
    (shows : laws.Shows after (laws.handles state)) :
    laws.Stands (position.reaching (laws.standing after position.database)) after where
  valid := shows.1
  isOpen := shows.2 ▸ stands.isOpen
  standing := rfl

theorem Stands.keep (stands : laws.Stands position state)
    (shows : laws.Shows after (laws.handles state))
    (same : laws.standing after position.database = laws.standing state position.database) :
    laws.Stands position after where
  valid := shows.1
  isOpen := shows.2 ▸ stands.isOpen
  standing := same.trans stands.standing

theorem Waits.bind (waits : laws.Waits position statement state) (index : Int)
    (argument : Argument) :
    laws.Waits position statement (engine.bind statement index argument state).2 where
  toStands := waits.toStands.keep (laws.bound waits.valid waits.inUse)
    (laws.bound_standing waits.valid waits.owner)
  owner := (laws.bound waits.valid waits.inUse).2 ▸ waits.owner
  isReset := laws.bound_isReset waits.valid waits.inUse waits.isReset

/-- What compiling a text may come to: only a pragma outside of a transaction changes anything,
and it begins none. -/
def Compiles (laws : Transactions engine C) (sql : Text) (before compiled : Standing C) : Prop :=
  if laws.isPragma sql = false ∨ before.isExplicit = true then compiled = before
  else compiled.isExplicit = false

theorem Compiles.refl (laws : Transactions engine C) (sql : Text) (standing : Standing C) :
    laws.Compiles sql standing standing := by
  unfold Compiles
  split
  · rfl
  · rename_i isChanged
    exact Bool.eq_false_iff.mpr fun isExplicit => isChanged (.inr isExplicit)

section
variable {sql : Text} {before compiled : Standing C} (compiles : laws.Compiles sql before compiled)
include compiles

theorem Compiles.of_explicit (isExplicit : before.isExplicit = true) : compiled = before := by
  rwa [Compiles, if_pos (.inr isExplicit)] at compiles

theorem Compiles.of_text (isNoPragma : laws.isPragma sql = false) : compiled = before := by
  rwa [Compiles, if_pos (.inl isNoPragma)] at compiles

theorem Compiles.of_control (isControl : laws.kind sql ≠ .ordinary) : compiled = before :=
  compiles.of_text (Bool.eq_false_iff.mpr fun isPragma =>
    isControl (laws.ordinary_pragma isPragma))

theorem Compiles.outside (isOutside : before.isExplicit = false) :
    compiled.isExplicit = false := by
  unfold Compiles at compiles
  split at compiles
  · rwa [compiles]
  · exact compiles

end

theorem Stands.compiles (stands : laws.Stands position state) (sql : Text) :
    laws.Compiles sql position.standing
      (laws.standing (engine.prepare position.database sql state).2 position.database) := by
  have kept := @laws.prepared_standing state position.database sql stands.valid stands.isOpen
  have isOutside := @laws.prepared_outside state position.database sql stands.valid stands.isOpen
  rw [stands.standing] at kept isOutside
  unfold Compiles
  split
  · rename_i isKept
    exact kept isKept
  · rename_i isChanged
    exact isOutside (Bool.eq_false_iff.mpr fun isExplicit => isChanged (.inr isExplicit))

/-- What has been found when a run is over: the database stands as its steps say, and a
reset makes no difference to that. -/
structure Ended (laws : Transactions engine C) (position : Position C)
    (statement : StatementHandle) (state : σ) : Prop extends laws.Stands position state where
  owner : (laws.handles state).owner? statement = some position.database
  same : laws.standing (engine.reset statement state).2 position.database =
    laws.standing state position.database

theorem Ended.reset (ended : laws.Ended position statement state) :
    laws.Waits position statement (engine.reset statement state).2 := by
  have inUse : (laws.handles state).InUse statement := ⟨_, ended.owner, ended.isOpen⟩
  have shows := laws.reset ended.valid inUse
  exact ⟨ended.toStands.keep shows ended.same, shows.2 ▸ ended.owner,
    laws.reset_isReset ended.valid inUse⟩

theorem runs_again {database : DatabaseHandle} (valid : laws.Valid state)
    (isOwner : (laws.handles state).owner? statement = some database)
    (isRow : (engine.step statement state).1 = Status.row) {code : Int}
    (runs : engine.Runs statement (engine.step statement state).2 code after) :
    (laws.standing (engine.step statement state).2 database).Runs .ordinary code
        (laws.standing after database) ∧
      laws.Shows after (laws.handles state) ∧
        laws.standing (engine.reset statement after).2 database = laws.standing after database := by
  generalize isFrom : (engine.step statement state).2 = first at runs
  induction runs generalizing state with
  | @last first isNoRow =>
      subst isFrom
      have shows := laws.stepped valid ⟨_, isOwner, laws.isOpen_of_owner valid isOwner⟩
      have isOwnerStill := shows.2 ▸ isOwner
      have inUse : (laws.handles (engine.step statement state).2).InUse statement :=
        ⟨_, isOwnerStill, laws.isOpen_of_owner shows.1 isOwnerStill⟩
      have showsAgain := laws.stepped shows.1 inUse
      exact ⟨.last isNoRow (laws.stepped_again valid isOwner isRow),
        ⟨showsAgain.1, showsAgain.2.trans shows.2⟩,
        laws.reset_standing shows.1 isOwnerStill isNoRow⟩
  | @more first after code isRowAgain _ induction =>
      subst isFrom
      have shows := laws.stepped valid ⟨_, isOwner, laws.isOpen_of_owner valid isOwner⟩
      have rest := induction shows.1 (shows.2 ▸ isOwner) isRowAgain rfl
      have steps := laws.stepped_again valid isOwner isRow
      rw [isRowAgain] at steps
      exact ⟨.more steps rest.1, ⟨rest.2.1.1, rest.2.1.2.trans shows.2⟩, rest.2.2⟩

theorem Waits.runs (waits : laws.Waits position statement state) {code : Int}
    (runs : engine.Runs statement state code after) :
    ∃ standing, position.standing.Runs (laws.kindOf state statement) code standing ∧
      laws.Ended (position.reaching standing) statement after := by
  have first := laws.stepped_first waits.valid waits.owner waits.isReset
  have shows := laws.stepped waits.valid waits.inUse
  rw [waits.standing] at first
  cases runs with
  | last isNoRow =>
      refine ⟨_, .last isNoRow first, ⟨shows.1, shows.2 ▸ waits.isOpen, rfl⟩,
        shows.2 ▸ waits.owner, ?_⟩
      exact laws.reset_standing waits.valid waits.owner isNoRow
  | more isRow rest =>
      rw [isRow] at first
      obtain ⟨again, showsAfter, same⟩ := runs_again waits.valid waits.owner isRow rest
      exact ⟨_, .more first again, ⟨showsAfter.1, showsAfter.2 ▸ waits.isOpen, rfl⟩,
        showsAfter.2 ▸ waits.owner, same⟩

theorem Waits.finalize (waits : laws.Waits position statement state) :
    laws.Stands position (engine.finalize statement state).2 := by
  have shows := laws.finalized waits.valid waits.inUse
  have same := laws.finalized_standing waits.valid waits.owner waits.isReset
  exact ⟨shows.1, shows.2 ▸ waits.isOpen, same.trans waits.standing⟩

/-! ## Open connections -/

structure Placed (laws : Transactions engine C) (position : Position C) (link : Link σ) :
    Prop extends laws.Stands position link.engine where
  connection : link.connection = position.connection
  isOpened : position.connection.lifecycle = .opened position.database

structure Holds (laws : Transactions engine C) (position : Position C)
    (statement : StatementHandle) (link : Link σ) :
    Prop extends laws.Waits position statement link.engine where
  connection : link.connection = position.connection
  isOpened : position.connection.lifecycle = .opened position.database

structure Issued (laws : Transactions engine C) (position : Position C)
    (statement : StatementHandle) (kind : StatementKind) (link : Link σ) :
    Prop extends laws.Holds position statement link where
  kind : laws.kindOf link.engine statement = kind

variable {kind : StatementKind} {link : Link σ}

theorem Placed.isLive (placed : laws.Placed position link) :
    link.connection.isDisposed = false := by
  simp [Connection.isDisposed, placed.connection, placed.isOpened]

theorem Holds.placed (holds : laws.Holds position statement link) : laws.Placed position link :=
  ⟨holds.toStands, holds.connection, holds.isOpened⟩

variable (growth : Scratch.Growth)

theorem Placed.ensureOpen (placed : laws.Placed position link) :
    Connection.ensureOpen engine growth link = (.ok (), link) :=
  Connection.ensureOpen_of_opened engine growth (placed.connection ▸ placed.isOpened)

theorem openPath_placed (link : Link σ) (valid : laws.Valid link.engine) (path : Scratch.Encoded) :
    Call.Ends (Connection.openPath engine path link) (fun _ _ => True) fun _ opened =>
      ∃ position, laws.Placed position opened ∧
        position.connection.config = link.connection.config ∧
          position.standing.isExplicit = false := by
  unfold Connection.openPath
  rw [Call.bind_apply, Call.get_apply]
  dsimp only
  cases path.cString? with
  | none => trivial
  | some bytes =>
      dsimp only
      rw [Call.bind_apply, Call.request_apply]
      dsimp only
      let after := (engine.openDatabase bytes link.connection.config.openMode link.engine).2
      rcases opened : (engine.openDatabase bytes link.connection.config.openMode link.engine).1 with
        ⟨_ | database, code⟩
      · trivial
      · have shows := (laws.opened valid (congrArg Prod.fst opened)).2
        have isOpen : (laws.handles after).isOpen database = true := by
          rw [shows.2, Handles.opening_isOpen_self]
        have isOutside := laws.opened_outside valid (congrArg Prod.fst opened)
        by_cases isOk : code = Status.ok
        · simp only [isOk, if_true]
          exact ⟨⟨{ link.connection with lifecycle := .opened database }, database,
            laws.standing after database⟩, ⟨⟨shows.1, isOpen, rfl⟩, rfl, rfl⟩, rfl, isOutside⟩
        · simp only [isOk, if_false]
          trivial

theorem ensureOpen_placed (valid : laws.Valid link.engine)
    (isOpen : ∀ {database}, link.connection.lifecycle = .opened database →
      (laws.handles link.engine).isOpen database = true) :
    Call.Ends (Connection.ensureOpen engine growth link) (fun _ _ => True) fun _ opened =>
      ∃ position, laws.Placed position opened ∧
        position.connection.config = link.connection.config ∧
          (link.connection.lifecycle = .unopened → position.standing.isExplicit = false) := by
  unfold Connection.ensureOpen
  rw [Call.bind_apply, Call.get_apply]
  dsimp only
  cases isLifecycle : link.connection.lifecycle with
  | disposed => trivial
  | opened database =>
      exact ⟨⟨link.connection, database, laws.standing link.engine database⟩,
        ⟨⟨valid, isOpen isLifecycle, rfl⟩, rfl, isLifecycle⟩, rfl, nofun⟩
  | unopened =>
      dsimp only
      have opens (path : Scratch.Encoded) (pool : Scratch.Pool) :
          Call.Ends (Connection.openPath engine path { link with pool }) (fun _ _ => True)
            fun _ opened => ∃ position, laws.Placed position opened ∧
              position.connection.config = link.connection.config ∧
                (Lifecycle.unopened = .unopened → position.standing.isExplicit = false) := by
        refine Call.Ends.mono (openPath_placed { link with pool } valid path) (fun _ _ => id) ?_
        rintro _ opened ⟨position, placed, sameConfig, isOutside⟩
        exact ⟨position, placed, sameConfig, fun _ => isOutside⟩
      refine .withScratch (opens _ _) (fun _ _ _ _ => trivial) ?_
      rintro _ last pool ⟨position, placed, facts⟩
      exact ⟨position, ⟨placed.toStands, placed.connection, placed.isOpened⟩, facts⟩

theorem placed_of_opens (laws : Transactions engine C) {link opened : Link σ}
    (valid : laws.Valid link.engine)
    (isOpen : ∀ {database}, link.connection.lifecycle = .opened database →
      (laws.handles link.engine).isOpen database = true) {growth : Scratch.Growth}
    (opens : Connection.ensureOpen engine growth link = (.ok (), opened))
    {database : DatabaseHandle} (isOpened : opened.connection.lifecycle = .opened database) :
    laws.Placed ⟨opened.connection, database, laws.standing opened.engine database⟩ opened ∧
      opened.connection.config = link.connection.config := by
  have places := ensureOpen_placed growth valid isOpen
  rw [opens] at places
  obtain ⟨position, placed, sameConfig, -⟩ := places
  obtain rfl : position.database = database :=
    Lifecycle.opened.inj ((placed.connection ▸ placed.isOpened).symm.trans isOpened)
  exact ⟨⟨⟨placed.valid, placed.isOpen, rfl⟩, rfl, isOpened⟩, placed.connection ▸ sameConfig⟩

theorem prepare_of_opens {opened : Link σ}
    (opens : Connection.ensureOpen engine growth link = (.ok (), opened))
    (again : Connection.ensureOpen engine growth opened = (.ok (), opened)) (sql : Text) :
    Connection.prepare engine growth sql link = Connection.prepare engine growth sql opened := by
  have same : Connection.database engine growth link = Connection.database engine growth opened := by
    unfold Connection.database
    rw [Call.bind_of_ok _ opens, Call.bind_of_ok _ again]
  unfold Connection.prepare
  rw [Call.bind_apply, Call.bind_apply, same]

theorem prepare_of_unopened {error : Error} {failed : Link σ}
    (fails : Connection.ensureOpen engine growth link = (.error error, failed)) (sql : Text) :
    Connection.prepare engine growth sql link = (.error error, failed) := by
  unfold Connection.prepare Connection.database
  exact Call.bind_of_error _ (Call.bind_of_error _ fails)

theorem Placed.database (placed : laws.Placed position link) :
    Connection.database engine growth link = (.ok position.database, link) :=
  Connection.database_of_opened engine growth (placed.connection ▸ placed.isOpened)

theorem Placed.prepare (placed : laws.Placed position link) (sql : Text) :
    Call.Ends (Connection.prepare engine growth sql link)
      (fun _ after => ∃ compiled, laws.Compiles sql position.standing compiled ∧
        laws.Placed (position.reaching compiled) after)
      fun statement after => ∃ compiled, laws.Compiles sql position.standing compiled ∧
        laws.Issued (position.reaching compiled) statement (laws.kind sql) after := by
  have compiles := placed.compiles sql
  unfold Connection.prepare
  rw [Call.bind_of_ok _ (placed.database growth)]
  refine Connection.ensureFits_ends engine ⟨_, .refl laws sql position.standing, placed⟩ ?_
  rw [Call.bind_apply, Call.request_apply]
  dsimp only
  rcases isPrepared : (engine.prepare position.database sql link.engine).1.2 with _ | statement
  · have stands := placed.toStands.reach (laws.unprepared placed.valid placed.isOpen isPrepared)
    split <;> exact ⟨_, compiles, stands, placed.connection, placed.isOpened⟩
  · obtain ⟨isOk, -, shows⟩ := laws.prepared placed.valid placed.isOpen isPrepared
    have isReset := laws.prepared_isReset placed.valid placed.isOpen isPrepared
    have isKind := laws.prepared_kind placed.valid placed.isOpen isPrepared
    rw [if_neg (by simp [isOk])]
    refine ⟨_, compiles, ⟨⟨⟨shows.1, ?_, rfl⟩, ?_, isReset⟩, placed.connection,
      placed.isOpened⟩, isKind⟩
    · rw [shows.2]
      exact placed.isOpen
    · rw [shows.2]
      exact (laws.handles link.engine).preparing_owner?_self statement position.database

theorem Placed.prepare_ok (placed : laws.Placed position link) {sql : Text}
    (fits : sql.byteLength ≤ Engine.maxLength)
    (compiles : (engine.prepare position.database sql link.engine).1.2 ≠ none) :
    (Connection.prepare engine growth sql link).1.isOk = true := by
  rcases isPrepared : (engine.prepare position.database sql link.engine).1.2 with _ | statement
  · exact absurd isPrepared compiles
  have isOk := (laws.prepared placed.valid placed.isOpen isPrepared).1
  unfold Connection.prepare
  rw [Call.bind_of_ok _ (placed.database growth),
    Call.bind_of_ok _ (Connection.ensureFits_of_le engine fits link), Call.bind_apply,
    Call.request_apply]
  dsimp only
  rw [if_neg (by simp [isOk]), isPrepared]
  rfl

theorem Placed.changes (placed : laws.Placed position link) :
    Connection.changes engine growth link =
      (.ok (engine.changes position.database link.engine), link) := by
  rw [Connection.changes, Call.bind_of_ok _ (placed.database growth), Call.observe_apply]

theorem Placed.lastInsertRowid (placed : laws.Placed position link) :
    Connection.lastInsertRowid engine growth link =
      (.ok (engine.lastInsertRowid position.database link.engine), link) := by
  rw [Connection.lastInsertRowid, Call.bind_of_ok _ (placed.database growth),
    Call.observe_apply]

theorem Issued.bindIndex (issued : laws.Issued position statement kind link) (index : Int32)
    (argument : Argument) :
    Call.Ends (Parameter.bind engine growth statement (.index index) argument link)
      (fun _ => laws.Issued position statement kind)
      fun _ => laws.Issued position statement kind := by
  have binds : laws.Issued position statement kind
      { link with engine := (engine.give statement index.toInt argument link.engine).2 } := by
    unfold Engine.give
    split
    · exact issued
    · exact ⟨⟨issued.toWaits.bind index.toInt argument, issued.connection, issued.isOpened⟩,
        (laws.bound_kind issued.valid issued.inUse).trans issued.kind⟩
  unfold Parameter.bind Parameter.resolve
  rw [Call.bind_apply, Call.bind_apply, Connection.ensureNotDisposed_apply,
    if_neg (by simp [issued.placed.isLive])]
  dsimp only [Call.pure_apply]
  rw [Call.bind_apply, Call.request_apply]
  dsimp only [Parameter.check]
  split
  · exact binds
  · exact binds

end Transactions

/-! ## Commands -/

namespace Transactions

variable {backend : Backend σ} {laws : Transactions backend.engine C} {position : Position C}
  {kind : StatementKind} {link : Link σ} {command : Command}

theorem Issued.executeNonQuery (issued : laws.Issued position command.statement kind link) :
    ∃ code state standing, backend.engine.Runs command.statement link.engine code state ∧
      position.standing.Runs kind code standing ∧
        laws.Holds (position.reaching standing) command.statement
            (command.executeNonQuery backend link).2 ∧
          ((command.executeNonQuery backend link).1.isOk = true ↔
            position.connection.config.Accepts code) := by
  obtain ⟨code, state, runs, same, answers⟩ :=
    command.executeNonQuery_runs backend issued.placed.isLive
  obtain ⟨standing, changes, ended⟩ := issued.toWaits.runs runs
  rw [issued.kind] at changes
  rw [same, ← issued.connection]
  exact ⟨code, state, standing, runs, changes,
    ⟨ended.reset, issued.connection, issued.isOpened⟩, answers⟩

theorem Holds.finalize (holds : laws.Holds position command.statement link) :
    ∃ after, command.finalize backend link = (.ok (), after) ∧ laws.Placed position after := by
  have isOk := laws.finalized_ok holds.valid holds.inUse holds.isReset
  refine ⟨{ link with
    engine := (backend.engine.finalize command.statement link.engine).2 }, ?_,
    holds.toWaits.finalize, holds.connection, holds.isOpened⟩
  unfold Command.finalize
  rw [Call.bind_apply, Connection.ensureNotDisposed_apply,
    if_neg (by simp [holds.placed.isLive])]
  dsimp only
  rw [Call.bind_apply, Call.request_apply]
  dsimp only
  rw [if_neg (by simp [isOk])]
  rfl

theorem Holds.drop (holds : laws.Holds position command.statement link) :
    laws.Placed position (command.drop backend link) := by
  rw [Command.drop, if_neg (by simp [holds.placed.isLive])]
  exact ⟨holds.toWaits.finalize, holds.connection, holds.isOpened⟩

end Transactions

end EmbeddedSql
