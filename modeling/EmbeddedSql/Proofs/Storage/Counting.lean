import EmbeddedSql.Proofs.Engine.Counting
import EmbeddedSql.Proofs.Storage.Compiled
import EmbeddedSql.Proofs.Storage.Transactions

/-! The store counts the rows that a statement changes when the statement is done, and only
statements that change rows. -/

namespace EmbeddedSql.Storage

open Plan (Fault)

/-! ## Statements that change rows -/

def changesRows : Sql.Statement → Bool
  | .insert _ | .update _ | .delete _ => true
  | _ => false

def textChangesRows (sql : Text) : Bool :=
  match Store.parse sql with
  | .ok parsed => parsed.statement.elim false changesRows
  | .error _ => false

theorem compile_counting {context : Plan.Context} {circumstances : Plan.Circumstances}
    {parsed : Sql.Parsed} {statement : Statement} {body : Sql.Statement} {program : Plan.Program}
    {setting : Option Plan.Setting}
    (compiles : Plan.Program.compile context circumstances parsed body = .ok (program, setting)) :
    (Store.isCounting { statement with program }).isSome = changesRows body := by
  cases body with
  | begin _ | commit | rollback | savepoint _ | release _ | rollbackTo _ | vacuum | maintain =>
      cases compiles
      rfl
  | select _ | insert _ | update _ | delete _ | alter _ _ =>
      obtain ⟨_, -, isProgram⟩ := bind_eq_ok compiles
      cases isProgram
      rfl
  | createTable _ | createIndex _ | createView _ | createTrigger _ | drop _ _ _ =>
      obtain ⟨definition, -, isProgram⟩ := bind_eq_ok compiles
      cases isProgram
      cases definition <;> rfl
  | pragma _ _ _ =>
      obtain ⟨pragma, -, isProgram⟩ := bind_eq_ok compiles
      cases isProgram
      cases pragma <;> rfl

theorem Statement.IsCompiled.counting {statement : Statement} (isCompiled : statement.IsCompiled) :
    (Store.isCounting statement).isSome = changesRows statement.body := by
  obtain ⟨_, _, _, compiles⟩ := isCompiled
  exact compile_counting compiles

namespace Store

/-- The rows that have been changed so far, for a statement that changes rows. -/
def Outcome.changed : Outcome → Option Nat
  | .ok running => running.changed
  | .error (changed, _) => changed

variable {store after : Store} {name : StatementHandle} {database : DatabaseHandle}

/-! ## The count of a client -/

def changes (database : DatabaseHandle) (store : Store) : Nat :=
  ((store.client? database).map (·.counters.changes)).getD 0

theorem changes_frame (database : DatabaseHandle) : Frame (changes database) where
  updateClient {store handle change} keeps counted := by
    have found : (store.updateClient handle change).client? database =
        (store.client? database).map fun client =>
          if client.handle = handle then change client else client := by
      rw [client?, updateClient, List.find?_map, client?]
      congr 2
      funext client
      dsimp only [Function.comp]
      split
      · rw [keeps]
      · rfl
    rw [changes, found, changes, Option.map_map]
    congr 2
    funext client
    dsimp only [Function.comp]
    split
    · exact counted client
    · rfl
  setCommitted := rfl
  loseScans := rfl

theorem changes_count {client : Client} (isClient : store.client? database = some client)
    (changed : Nat) : (store.count database (some changed)).changes database = changed := by
  rw [count, changes, client?_updateClient, isClient]
  · rfl
  · exact fun _ => rfl

theorem changes_overlooks (database : DatabaseHandle) : Overlooks (changes database) none :=
  .inl rfl

theorem client?_of_detail {hidden : Option StatementHandle} {client : Client}
    (same : after.detail hidden = store.detail hidden)
    (isClient : store.client? database = some client) :
    ∃ later, after.client? database = some later :=
  client?_of_sketch (sketch_of_detail same) isClient

theorem finish_changes {statement : Statement} {running : Running} {changed : Nat} {client : Client}
    (isClient : store.client? statement.client = some client)
    (isChanged : running.changed = some changed) (isDone : (store.finish statement running).2 = none) :
    (store.finish statement running).1.changes statement.client = changed := by
  have sameClient : (store.setPhase statement.handle (.halted Status.ok)).client? statement.client =
      some client := isClient
  unfold finish at isDone ⊢
  dsimp only at isDone ⊢
  rw [isChanged] at isDone ⊢
  generalize store.setPhase statement.handle (.halted Status.ok) = halted at sameClient isDone ⊢
  have counted : (halted.settle statement.client (some changed)).2 = none →
      (halted.settle statement.client (some changed)).1.changes statement.client = changed := by
    intro isSettled
    unfold settle at isSettled ⊢
    have commits : (halted.commit statement.client).1.detail none = halted.detail none :=
      (detail_frame none).commit
    split
    · rename_i isLast
      rw [if_pos isLast] at isSettled
      split <;> rename_i committed <;> rw [committed] at commits isSettled
      · obtain ⟨later, isLater⟩ := client?_of_detail
          (((detail_frame none).settleLock).trans commits) sameClient
        exact changes_count isLater changed
      · cases isSettled
    · exact changes_count sameClient changed
  split at isDone <;> rename_i settled <;> rw [settled] at counted
  · exact counted rfl
  · cases isDone

/-! ## Starting -/

theorem withoutRows_changed (outcome : Store × Option Fault) :
    (withoutRows outcome).2.changed = none := by
  rcases outcome with ⟨_, _ | _⟩ <;> rfl

theorem execute_changed (client : Client) (statement : Statement) :
    (store.execute client statement).2.changed.isSome = (isCounting statement).isSome := by
  unfold execute isCounting
  dsimp only
  cases statement.program with
  | query selection reads =>
      dsimp only
      unfold runQuery
      dsimp only
      repeat' split
      all_goals rfl
  | change change =>
      dsimp only
      unfold runChange
      dsimp only
      split <;> rfl
  | define effect drops =>
      dsimp only
      unfold runDefinition
      repeat' split
      all_goals rfl
  | _ =>
      dsimp only
      rw [withoutRows_changed]

theorem recompile_counting {statement recompiled : Statement} (isCompiled : statement.IsCompiled)
    (isOk : store.recompile statement = .ok (after, recompiled)) :
    (isCounting recompiled).isSome = changesRows statement.body := by
  unfold recompile at isOk
  dsimp only at isOk
  repeat' split at isOk
  all_goals cases isOk
  · exact isCompiled.counting
  · rename_i compiles _ _
    exact compile_counting compiles

theorem phase_of_setPhase {phase : Phase} {statement : Statement}
    (isFound : (store.setPhase name phase).statement? name = some statement) :
    statement.phase = phase := by
  rw [setPhase, statement?_updateStatement] at isFound
  · obtain ⟨before, -, rfl⟩ := Option.map_eq_some_iff.mp isFound
    rw [if_pos rfl]
  · exact fun _ => rfl

/-- A statement of a database that is running, and the rows that it has changed. -/
def IsUnderWay (store : Store) (name : StatementHandle) (database : DatabaseHandle)
    (changed : Option Nat) : Prop :=
  ∃ statement running, store.statement? name = some statement ∧ statement.client = database ∧
    statement.phase = .running running ∧ running.changed = changed

section
variable {statement : Statement} (isCompiled : statement.IsCompiled)
include isCompiled

theorem start_changes (changesNothing : changesRows statement.body = false)
    (other : DatabaseHandle) :
    (started (store.start statement)).changes other = store.changes other := by
  have frame := changes_frame other
  have stops {store after : Store} {statement : Statement} {changed : Option Nat} {fault : Fault}
      (isNone : changed = none) (same : after.changes other = store.changes other) :
      (after.fail statement changed fault).changes other = store.changes other :=
    (frame.fail (isNone ▸ changes_overlooks other) fun _ _ => rfl).trans same
  have isNone {changed : Option Nat} (isSome : changed.isSome = changesRows statement.body) :
      changed = none :=
    Option.isNone_iff_eq_none.mp (by rw [← Option.not_isSome, isSome, changesNothing]; rfl)
  unfold start
  dsimp only
  split
  · exact stops (isNone isCompiled.counting) rfl
  rename_i ready recompiled isRecompiled
  have recompiles : ready.changes other = store.changes other :=
    frame.recompile (fun _ _ _ => rfl) isRecompiled
  split
  · exact stops rfl recompiles
  rename_i client _
  have executes : (ready.execute client recompiled).1.changes other = store.changes other :=
    (frame.execute client recompiled).trans recompiles
  have isChanged : (ready.execute client recompiled).2.changed = none :=
    isNone ((execute_changed client recompiled).trans (recompile_counting isCompiled isRecompiled))
  split <;> rename_i executed <;> rw [executed] at executes isChanged
  · exact stops isChanged executes
  · exact executes

/-- Once it is under way, a statement that changes rows has counted them. -/
theorem start_isUnderWay
    (isFound : store.statement? statement.handle = some statement)
    (isOk : store.start statement = .ok after) :
    ∃ changed, after.IsUnderWay statement.handle statement.client changed ∧
      changed.isSome = changesRows statement.body := by
  have keeps : (started (store.start statement)).sketch (some statement.handle) =
      store.sketch (some statement.handle) := start_sketch statement
  rw [isOk] at keeps
  obtain ⟨later, isLater, sameEntry⟩ := statement?_of_sketch keeps isFound
  unfold start at isOk
  dsimp only at isOk
  split at isOk
  · cases isOk
  rename_i ready recompiled isRecompiled
  split at isOk
  · cases isOk
  rename_i client _
  have isChanged := @execute_changed ready client recompiled
  rw [recompile_counting isCompiled isRecompiled] at isChanged
  split at isOk
  · cases isOk
  rename_i executed running isExecuted
  rw [isExecuted] at isChanged
  cases isOk
  have isRunning : later.phase = .running running := by
    rw [recompile_handle isRecompiled] at isLater
    exact phase_of_setPhase isLater
  exact ⟨running.changed, ⟨later, running, isLater, congrArg Entry.client sameEntry, isRunning, rfl⟩,
    isChanged⟩

end

/-! ## Going on -/

/-- What may become of a running statement that goes on. -/
inductive Advances (store : Store) (statement : Statement) (running : Running) :
    Int × Store → Prop
  | row (row : List Cell) (remainder : Remainder) :
      Advances store statement running
        (Status.row, store.setPhase statement.handle (.running { running with remainder, row }))
  | done : (store.finish statement running).2 = none →
      Advances store statement running (Status.done, (store.finish statement running).1)
  | broken {fault : Fault} : (store.finish statement running).2 = some fault →
      Advances store statement running (faultCode fault, (store.finish statement running).1)
  | failed (fault : Fault) :
      Advances store statement running
        (faultCode fault, store.fail statement (running.changed.map fun _ => 0) fault)

theorem advance_advances {statement : Statement} {running : Running} {client : Client}
    (isFound : store.statement? statement.handle = some statement)
    (isRunning : statement.phase = .running running)
    (isClient : store.client? statement.client = some client) :
    Advances store statement running (store.advance statement.handle) := by
  unfold advance
  rw [isFound]
  dsimp only
  split
  · rename_i other there isPhase _
    cases isRunning.symm.trans isPhase
    split
    · exact .row ..
    · split <;> rename_i finished
      · have ends : Advances store statement running _ := .done (congrArg Prod.snd finished)
        rwa [finished] at ends
      · have ends : Advances store statement running _ := .broken (congrArg Prod.snd finished)
        rwa [finished] at ends
    · exact .failed _
  · rename_i isNeither
    exact (isNeither running client isRunning isClient).elim

section
variable {changed : Option Nat} {client : Client}
  (underWay : store.IsUnderWay name database changed)
  (isClient : store.client? database = some client)
include underWay

theorem step_of_underWay : store.step name = store.advance name := by
  obtain ⟨statement, running, isFound, -, isRunning, -⟩ := underWay
  exact step_of_running (by simp [isRunning, isFound, Statement.running?, Store.isRunning])

include isClient

theorem advance_of_row (isRow : (store.advance name).1 = Status.row) :
    (store.advance name).2.IsUnderWay name database changed ∧
      (store.advance name).2.client? database = some client ∧
        ∀ other, (store.advance name).2.changes other = store.changes other := by
  obtain ⟨statement, running, isFound, rfl, isRunning, isChanged⟩ := underWay
  cases handle_of_statement? isFound
  have advances := advance_advances isFound isRunning isClient
  generalize store.advance statement.handle = outcome at advances isRow ⊢
  cases advances with
  | row row remainder =>
      exact ⟨⟨_, _, statement?_setPhase (.running { running with remainder, row }) isFound, rfl, rfl,
        isChanged⟩, isClient, fun _ => rfl⟩
  | done _ => cases isRow
  | broken _ | failed _ => exact absurd isRow (faultCode_ne_row _)

theorem advance_changes (isNone : changed = none) (other : DatabaseHandle) :
    (store.advance name).2.changes other = store.changes other := by
  obtain ⟨statement, running, isFound, rfl, isRunning, isChanged⟩ := underWay
  cases handle_of_statement? isFound
  have frame := changes_frame other
  have overlooks := changes_overlooks other
  have isNone : running.changed = none := isChanged.trans isNone
  have advances := advance_advances isFound isRunning isClient
  generalize store.advance statement.handle = outcome at advances ⊢
  cases advances with
  | row _ _ => rfl
  | done _ | broken _ => exact frame.finish overlooks isNone fun _ _ => rfl
  | failed fault =>
      rw [isNone]
      exact frame.fail overlooks fun _ _ => rfl

theorem advance_counts {count : Nat} (isCount : changed = some count)
    (isDone : (store.advance name).1 = Status.done) :
    (store.advance name).2.changes database = count := by
  obtain ⟨statement, running, isFound, rfl, isRunning, isChanged⟩ := underWay
  cases handle_of_statement? isFound
  have advances := advance_advances isFound isRunning isClient
  generalize store.advance statement.handle = outcome at advances isDone ⊢
  cases advances with
  | row _ _ => cases isDone
  | done finishes => exact finish_changes isClient (isChanged.trans isCount) finishes
  | broken _ | failed _ => exact absurd isDone (faultCode_ne_done _)

/-- What a run has counted once it is over. -/
theorem changes_of_runs {code : Int} (runs : backend.engine.Runs name store code after) :
    (changed = none → ∀ other, after.changes other = store.changes other) ∧
      ∀ count, changed = some count → code = Status.done → after.changes database = count := by
  induction runs with
  | @last store _ =>
      show (changed = none → ∀ other, (store.step name).2.changes other = _) ∧
        ∀ count, _ → (store.step name).1 = _ → (store.step name).2.changes _ = _
      rw [step_of_underWay underWay]
      exact ⟨advance_changes underWay isClient, fun count => advance_counts underWay isClient⟩
  | @more store after code isRow _ induction =>
      change (store.step name).1 = _ at isRow
      change IsUnderWay (store.step name).2 _ _ _ → (store.step name).2.client? _ = _ →
        (_ → ∀ other, _ = (store.step name).2.changes other) ∧ _ at induction
      rw [step_of_underWay underWay] at isRow induction
      obtain ⟨underWay, isClient, same⟩ := advance_of_row underWay isClient isRow
      obtain ⟨keeps, counts⟩ := induction underWay isClient
      exact ⟨fun isNone other => (keeps isNone other).trans (same other), counts⟩

end

/-! ## Runs -/

def counts (store : Store) (name : StatementHandle) : Bool :=
  ((store.statement? name).map fun statement => changesRows statement.body).getD false

def affected (store : Store) (name : StatementHandle) : Nat :=
  match store.statement? name with
  | none => 0
  | some statement =>
      match store.start statement with
      | .error _ => 0
      | .ok started => (((started.statement? name).bind (·.running?)).bind (·.changed)).getD 0

theorem start_code {statement : Statement} {code : Int}
    (isStopped : store.start statement = .error (code, after)) : ∃ fault, code = faultCode fault := by
  unfold start at isStopped
  dsimp only at isStopped
  repeat' split at isStopped
  all_goals cases isStopped
  all_goals exact ⟨_, rfl⟩

section
variable {statement : Statement} {code : Int} (isFound : store.statement? name = some statement)
  (isReady : statement.phase = .ready)
include isFound isReady

theorem runs_of_stopped {stopped : Store} {stoppedCode : Int}
    (isStopped : store.start statement = .error (stoppedCode, stopped))
    (runs : backend.engine.Runs name store code after) : code = stoppedCode ∧ after = stopped := by
  have steps : store.step name = (stoppedCode, stopped) := by
    rw [step_of_ready isFound isReady, isStopped]
  cases runs with
  | last _ => exact ⟨congrArg Prod.fst steps, congrArg Prod.snd steps⟩
  | more isRow _ =>
      obtain ⟨fault, rfl⟩ := start_code isStopped
      exact absurd ((congrArg Prod.fst steps).symm.trans isRow) (faultCode_ne_row fault)

theorem runs_of_started {started : Store} {changed : Option Nat}
    (isStarted : store.start statement = .ok started)
    (underWay : started.IsUnderWay name database changed)
    (runs : backend.engine.Runs name store code after) : backend.engine.Runs name started code after := by
  have steps : store.step name = started.step name := by
    rw [step_of_ready isFound isReady, isStarted, step_of_underWay underWay]
  cases runs with
  | last isNoRow =>
      change (store.step name).1 ≠ Status.row at isNoRow
      show backend.engine.Runs name started (store.step name).1 (store.step name).2
      rw [steps] at isNoRow ⊢
      exact .last isNoRow
  | more isRow rest =>
      change (store.step name).1 = Status.row at isRow
      change backend.engine.Runs name (store.step name).2 code after at rest
      rw [steps] at isRow rest
      exact .more isRow rest

variable {client : Client} (isCompiled : statement.IsCompiled)
  (isClient : store.client? statement.client = some client)
  (runs : backend.engine.Runs name store code after)
include isCompiled isClient runs

theorem runs_changes (changesNothing : changesRows statement.body = false)
    (other : DatabaseHandle) : after.changes other = store.changes other := by
  cases handle_of_statement? isFound
  have starts : (started (store.start statement)).changes other = store.changes other :=
    start_changes isCompiled changesNothing other
  cases isStart : store.start statement with
  | error stop =>
      obtain ⟨stoppedCode, stopped⟩ := stop
      obtain ⟨-, rfl⟩ := runs_of_stopped isFound isReady isStart runs
      rwa [isStart] at starts
  | ok begun =>
      obtain ⟨changed, underWay, isNone⟩ := start_isUnderWay isCompiled isFound isStart
      have keeps : (started (store.start statement)).sketch (some statement.handle) =
          store.sketch (some statement.handle) := start_sketch statement
      rw [isStart] at starts keeps
      obtain ⟨later, isStillClient⟩ := client?_of_sketch keeps isClient
      rw [changesNothing, Option.isSome_eq_false_iff, Option.isNone_iff_eq_none] at isNone
      have goesOn := changes_of_runs underWay isStillClient
        (runs_of_started isFound isReady isStart underWay runs)
      exact (goesOn.1 isNone other).trans starts

theorem done_changes (changes : changesRows statement.body = true) (isDone : code = Status.done) :
    after.changes statement.client = store.affected name := by
  cases handle_of_statement? isFound
  cases isStart : store.start statement with
  | error stop =>
      obtain ⟨stoppedCode, stopped⟩ := stop
      obtain ⟨fault, rfl⟩ := start_code isStart
      obtain ⟨rfl, -⟩ := runs_of_stopped isFound isReady isStart runs
      exact absurd isDone (faultCode_ne_done fault)
  | ok begun =>
      obtain ⟨changed, underWay, isSome⟩ := start_isUnderWay isCompiled isFound isStart
      have keeps : (started (store.start statement)).sketch (some statement.handle) =
          store.sketch (some statement.handle) := start_sketch statement
      rw [isStart] at keeps
      obtain ⟨later, isStillClient⟩ := client?_of_sketch keeps isClient
      obtain ⟨count, rfl⟩ := Option.isSome_iff_exists.mp (isSome.trans changes)
      have goesOn := changes_of_runs underWay isStillClient
        (runs_of_started isFound isReady isStart underWay runs)
      rw [goesOn.2 count rfl isDone]
      obtain ⟨found, running, isThere, -, isRunning, isCount⟩ := underWay
      rw [affected, isFound]
      dsimp only
      rw [isStart]
      dsimp only
      rw [isThere, Option.bind_some, Statement.running?, isRunning]
      dsimp only
      rw [Option.bind_some, isCount]
      rfl

end

/-! ## Between runs -/

theorem prepare_changes (database other : DatabaseHandle) (sql : Text) :
    (store.prepare database sql).2.changes other = store.changes other := by
  have frame := changes_frame other
  unfold prepare
  split
  · rfl
  · exact frame.update (frame.applySetting ..) (fun _ => rfl) fun _ => rfl
  split
  · rfl
  split
  · exact frame.update rfl (fun _ => rfl) fun _ => rfl
  · exact frame.update (frame.applySetting ..) (fun _ => rfl) fun _ => rfl

theorem prepare_counts {sql : Text} (valid : custody.Valid store)
    (isPrepared : (store.prepare database sql).1.2 = some name) :
    (store.prepare database sql).2.counts name = textChangesRows sql := by
  obtain ⟨client, parsed, body, schema, program, setting, isParsed, isBody, -, isFound⟩ :=
    prepare_new valid isPrepared
  rw [counts, isFound, textChangesRows, isParsed]
  dsimp only
  rw [isBody]
  rfl

theorem bind_changes (index : Int) (argument : Argument) (other : DatabaseHandle) :
    (store.bind name index argument).2.changes other = store.changes other := by
  rcases store.bind_cases name index argument with same | ⟨value, same⟩ <;> rw [same]
  rfl

theorem bind_counts (index : Int) (argument : Argument) :
    (store.bind name index argument).2.counts name = store.counts name := by
  rw [counts, bind_view fun _ _ => rfl, counts]

end Store

/-! ## The store as an engine -/

theorem custody_isCounted :
    custody.Keeps fun store => store.outline.ListsOnce ∧ IsCompiled store :=
  custody_listsOnce.both custody_isCompiled

def counting : Counting backend.engine where
  toRewinding := rewinding.within custody_isCounted
  changesRows := textChangesRows
  counts := Store.counts
  affected := Store.affected
  begin_changesNone := by decide +kernel
  commit_changesNone := by decide +kernel
  prepared_changes _ _ := Store.prepare_changes _ _ _
  prepared_counts valid _ isPrepared := Store.prepare_counts valid.1 isPrepared
  bound_changes _ _ := Store.bind_changes _ _ _
  bound_counts _ _ := Store.bind_counts _ _
  runs_changes {store after name code other} valid inUse isReset changesNothing runs := by
    obtain ⟨statement, client, isFound, isClient⟩ := statement?_of_inUse inUse
    have isReady := (Store.isReset_iff isFound).mp isReset
    have isCompiled := valid.2.2 statement (List.mem_of_find?_eq_some isFound)
    rw [Store.counts, isFound] at changesNothing
    exact Store.runs_changes isFound isReady isCompiled isClient runs changesNothing other
  done_changes {store after name database} valid isOwner isReset changes runs := by
    obtain ⟨statement, client, isFound, rfl, isClient⟩ :=
      statement?_of_owner isOwner (custody.isOpen_of_owner valid.1 isOwner)
    have isReady := (Store.isReset_iff isFound).mp isReset
    have isCompiled := valid.2.2 statement (List.mem_of_find?_eq_some isFound)
    rw [Store.counts, isFound] at changes
    exact Store.done_changes isFound isReady isCompiled isClient runs changes rfl
  reset_changes {store name other} _ inUse isNoRow := by
    obtain ⟨statement, client, isFound, isClient⟩ := statement?_of_inUse inUse
    change ((store.step name).2.reset name).2.changes _ = (store.step name).2.changes _
    rcases Store.reset_of_end isFound isClient isNoRow with same | same <;> rw [same]
    rfl
  finalized_changes {store name other} _ _ isReset := by
    change (store.finalize name).2.changes _ = _
    rw [Store.finalize, Store.reset_of_isReset isReset]
    rfl

theorem counting_empty : counting.Shows {} .none :=
  ⟨⟨custody_empty.1, List.nodup_nil, fun _ isThere => absurd isThere List.not_mem_nil⟩,
    custody_empty.2⟩

end EmbeddedSql.Storage
