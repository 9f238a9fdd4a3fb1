import EmbeddedSql.Proofs.Storage.Standing

/-! The store begins and ends transactions, and keeps them open otherwise, whatever else
its clients do. -/

namespace EmbeddedSql.Storage

open Plan (Fault)

variable {store after : Store} {name : StatementHandle}

namespace Store

/-! ## Ordinary statements -/

theorem execute_proceeds (client : Client) (statement : Statement)
    (isOrdinary : programKind statement.program = .ordinary) :
    (store.standing statement.client).Proceeds
      ((store.execute client statement).1.standing statement.client) := by
  unfold execute
  dsimp only
  cases isProgram : statement.program with
  | query _ _ => exact .refl _
  | change change => exact runChange_proceeds _ _ _
  | define effect drops => exact runDefinition_proceeds _ _ _ _
  | vacuum =>
      dsimp only
      rw [withoutRows_eq, vacuum_eq]
      exact .refl _
  | «nothing» => exact .refl _
  | begin _ | commit | rollback | savepoint _ | release _ | rollbackTo _ =>
      rw [isProgram] at isOrdinary
      cases isOrdinary

theorem recompile_kind {statement recompiled : Statement} {kind : StatementKind}
    (isProgram : programKind statement.program = kind)
    (isBody : statementKind statement.body = kind)
    (isOk : store.recompile statement = .ok (after, recompiled)) :
    recompiled.client = statement.client ∧ programKind recompiled.program = kind := by
  unfold recompile at isOk
  dsimp only at isOk
  repeat' split at isOk
  all_goals cases isOk
  · exact ⟨rfl, isProgram⟩
  · rename_i compiles _ _
    exact ⟨rfl, (compile_kind compiles).trans isBody⟩

def Starts (before : Standing Database) (client : DatabaseHandle) :
    Except (Int × Store) Store → Prop
  | .error (code, stopped) => before.Steps code (stopped.standing client) .ordinary
  | .ok started => before.Proceeds (started.standing client)

theorem start_starts (statement : Statement)
    (isProgram : programKind statement.program = .ordinary)
    (isBody : statementKind statement.body = .ordinary) :
    Starts (store.standing statement.client) statement.client (store.start statement) := by
  unfold start
  dsimp only
  split
  · exact fail_steps statement _ _ (.refl _)
  rename_i ready recompiled isRecompiled
  obtain ⟨sameClient, isOrdinary⟩ := recompile_kind isProgram isBody isRecompiled
  rw [← recompile_standing isRecompiled]
  split
  · exact fail_steps statement _ _ (.refl _)
  rename_i client _
  have executes := ready.execute_proceeds client recompiled isOrdinary
  rw [sameClient] at executes
  split <;> rename_i executed <;> rw [executed] at executes
  · exact fail_steps statement _ _ executes
  · exact executes

theorem advance_steps {statement : Statement} {before : Standing Database}
    (isFound : store.statement? name = some statement)
    (proceeds : before.Proceeds (store.standing statement.client)) :
    before.Steps (store.advance name).1 ((store.advance name).2.standing statement.client)
      .ordinary := by
  unfold advance
  rw [isFound]
  dsimp only
  split
  · rename_i running client _ _
    split
    · exact .inl proceeds
    · have finishes := proceeds.trans (store.finish_proceeds statement running)
      split <;> rename_i finished <;> rw [finished] at finishes <;> exact .inl finishes
    · exact fail_steps _ _ _ proceeds
  · exact .inl proceeds

/-- A statement that has given all its rows, and with which nothing goes wrong at the end. -/
theorem advance_of_done {statement : Statement} {client : Client} {running : Running}
    (isFound : store.statement? name = some statement)
    (isRunning : statement.phase = .running running)
    (isClient : store.client? statement.client = some client)
    (isDone : running.remainder.next (store.environment client statement) = .done)
    (finishes : (store.finish statement running).2 = none) :
    store.advance name = (Status.done, (store.finish statement running).1) := by
  unfold advance
  rw [isFound]
  dsimp only
  split
  · rename_i other found isPhase isThere
    cases isRunning.symm.trans isPhase
    cases isClient.symm.trans isThere
    rw [isDone]
    dsimp only
    split <;> rename_i finished <;> rw [finished] at finishes ⊢
    cases finishes
  · rename_i isNeither
    exact (isNeither running client isRunning isClient).elim

section
variable {statement : Statement} (isFound : store.statement? name = some statement)
  (isReady : statement.phase = .ready)
include isFound isReady

theorem step_of_ready :
    store.step name =
      match store.start statement with
      | .error (code, stopped) => (code, stopped)
      | .ok started => started.advance name := by
  rw [step, isFound]
  dsimp only
  split
  · rename_i isRunning
    cases isReady.symm.trans isRunning
  · rfl

theorem step_ordinary (isProgram : programKind statement.program = .ordinary)
    (isBody : statementKind statement.body = .ordinary) :
    (store.standing statement.client).Steps (store.step name).1
      ((store.step name).2.standing statement.client) .ordinary := by
  cases handle_of_statement? isFound
  have starts : Starts _ _ (store.start statement) := start_starts statement isProgram isBody
  have keeps : (started (store.start statement)).sketch _ = store.sketch _ :=
    start_sketch statement
  rw [step_of_ready isFound isReady]
  split <;> rename_i isStarted <;> rw [isStarted] at starts keeps
  · exact starts
  · obtain ⟨later, isLater, sameEntry⟩ := statement?_of_sketch keeps isFound
    rw [← show later.client = statement.client from congrArg Entry.client sameEntry] at starts ⊢
    exact advance_steps isLater starts

end

/-! ## Statements that control transactions -/

theorem faultCode_of_error {fault : Fault} (isError : fault.code = Status.error) :
    faultCode fault = Status.error := by
  rw [faultCode, isError, if_neg (by decide)]

section
variable {statement : Statement} {client : Client}
  (isClient : store.client? statement.client = some client)
  (needsNothing : needOf statement.program = .nothing)
include isClient needsNothing

theorem start_of_need_nothing :
    store.start statement =
      match store.execute client statement with
      | (after, .error (changed, fault)) =>
          .error (faultCode fault, after.fail statement changed fault)
      | (after, .ok running) => .ok (after.setPhase statement.handle (.running running)) := by
  have recompiles : store.recompile statement = .ok (store, statement) := by
    rw [recompile, needsNothing]
    rfl
  unfold start
  rw [recompiles]
  dsimp only
  split
  · rename_i isMissing
    cases isClient.symm.trans isMissing
  · rename_i found isFound
    obtain rfl := Option.some.inj (isClient.symm.trans isFound)
    rfl

variable (isFound : store.statement? name = some statement) (isReady : statement.phase = .ready)
include isFound isReady

theorem step_of_fault {fault : Fault}
    (executes : store.execute client statement = withoutRows (after, some fault)) :
    store.step name = (faultCode fault, after.fail statement none fault) := by
  rw [step_of_ready isFound isReady, start_of_need_nothing isClient needsNothing, executes]
  rfl

theorem step_of_done
    (executes : store.execute client statement = withoutRows (after, none))
    (ends : (after.standing statement.client).isExplicit = true ∨
      after.IsClean statement.client) :
    (store.step name).1 = Status.done ∧
      (store.step name).2.standing statement.client = after.standing statement.client := by
  cases handle_of_statement? isFound
  let running : Running := { remainder := .computed [] none }
  let started := after.setPhase statement.handle (.running running)
  have same : after.sketch none = store.sketch none := by
    have keeps : (store.execute client statement).1.detail none = store.detail none :=
      store.execute_detail client statement
    rw [executes, withoutRows_eq] at keeps
    exact sketch_of_detail keeps
  obtain ⟨later, isLater, sameEntry⟩ := statement?_of_sketch same isFound
  have isThere : started.statement? statement.handle = _ :=
    statement?_setPhase (.running running) isLater
  obtain ⟨client, isStillClient⟩ := client?_of_sketch same isClient
  have starts : store.start statement = .ok started := by
    rw [start_of_need_nothing isClient needsNothing, executes]
    rfl
  let ended : Statement := { later with phase := .running running }
  have isEnded : ended.client = statement.client := congrArg Entry.client sameEntry
  have isStill : started.client? ended.client = some client := isEnded ▸ isStillClient
  have finishes : (started.finish ended running).2 = none ∧
      (started.finish ended running).1.standing ended.client = started.standing ended.client := by
    rw [← isEnded] at ends
    rcases ends with isExplicit | isClean
    · exact finish_of_explicit ended running isExplicit
    · exact finish_of_clean ended running isClean
  have advances : started.advance statement.handle = (Status.done, (started.finish ended running).1) :=
    advance_of_done isThere rfl isStill rfl finishes.1
  rw [step_of_ready isFound isReady, starts]
  dsimp only
  rw [advances]
  exact ⟨rfl, isEnded ▸ finishes.2⟩

theorem step_begin {kind : Sql.TransactionKind} (isBegin : statement.program = .begin kind) :
    (store.standing statement.client).Steps (store.step name).1
      ((store.step name).2.standing statement.client) .begin := by
  have executes : store.execute client statement =
      withoutRows (store.beginTransaction statement.client kind) := by
    rw [execute, isBegin]
  rcases begins : store.beginTransaction statement.client kind with ⟨after, _ | fault⟩ <;>
    rw [begins] at executes
  · obtain ⟨isOutside, begun⟩ := beginTransaction_standing_of_ok begins
    have isExplicit : (after.standing statement.client).isExplicit = true := begun ▸ rfl
    obtain ⟨isDone, same⟩ :=
      step_of_done isClient needsNothing isFound isReady executes (.inl isExplicit)
    exact .inl ⟨isDone, isOutside, same.trans begun⟩
  · obtain ⟨same, aborts⟩ := beginTransaction_standing_of_error begins
    have stops := after.fail_of_abort statement none fault aborts
    rw [same] at stops
    rw [step_of_fault isClient needsNothing isFound isReady executes]
    exact .inr ⟨faultCode_ne_done _, faultCode_ne_row _, stops⟩

theorem step_commit (isCommit : statement.program = .commit) :
    (store.standing statement.client).Steps (store.step name).1
      ((store.step name).2.standing statement.client) .commit := by
  have executes : store.execute client statement =
      withoutRows (store.commitTransaction statement.client) := by
    rw [execute, isCommit]
  rcases commits : store.commitTransaction statement.client with ⟨after, _ | fault⟩ <;>
    rw [commits] at executes
  · obtain ⟨isExplicit, isClean, kept⟩ := commitTransaction_standing_of_ok isClient commits
    obtain ⟨isDone, same⟩ :=
      step_of_done isClient needsNothing isFound isReady executes (.inr isClean)
    exact .inl ⟨isDone, isExplicit, same.trans kept⟩
  · obtain ⟨same, aborts, isError⟩ := commitTransaction_standing_of_error isClient commits
    have stops := after.fail_of_abort statement none fault aborts
    rw [same] at stops
    rw [step_of_fault isClient needsNothing isFound isReady executes]
    exact .inr ⟨faultCode_ne_done _, faultCode_ne_row _, stops.imp id And.right,
      fun isOutside => faultCode_of_error (isError isOutside)⟩

theorem step_rollback (isRollback : statement.program = .rollback) :
    (store.standing statement.client).Steps (store.step name).1
      ((store.step name).2.standing statement.client) .rollback := by
  have executes : store.execute client statement =
      withoutRows (store.rollbackTransaction statement.client) := by
    rw [execute, isRollback]
  rcases undoes : store.rollbackTransaction statement.client with ⟨after, _ | fault⟩ <;>
    rw [undoes] at executes
  · obtain ⟨isExplicit, isClean, undone⟩ := rollbackTransaction_standing_of_ok isClient undoes
    obtain ⟨isDone, same⟩ :=
      step_of_done isClient needsNothing isFound isReady executes (.inr isClean)
    exact .inl ⟨isDone, isExplicit, same.trans undone⟩
  · obtain ⟨rfl, aborts, isError, isOutside⟩ :=
      rollbackTransaction_standing_of_error isClient undoes
    have stops := after.fail_of_abort statement none fault aborts
    rw [step_of_fault isClient needsNothing isFound isReady executes]
    exact .inr ⟨faultCode_of_error isError, isOutside, stops.imp id And.right⟩

end

end Store

/-! ## Kinds of texts -/

/-- A text without a statement is refused before it could control a transaction. -/
def textKind (sql : Text) : StatementKind :=
  match Store.parse sql with
  | .ok parsed => parsed.statement.elim .ordinary statementKind
  | .error _ => .ordinary

theorem textKind_of_pragma {sql : Text} (isNamed : textIsPragma sql = true) :
    textKind sql = .ordinary := by
  unfold textIsPragma at isNamed
  unfold textKind
  cases isParsed : Store.parse sql with
  | error => rfl
  | ok parsed =>
      rw [isParsed] at isNamed
      dsimp only at isNamed ⊢
      cases isBody : parsed.statement with
      | none => rfl
      | some body =>
          rw [isBody, Option.any_some] at isNamed
          cases body <;> first | rfl | cases isNamed

namespace Store

theorem compileFor_kind {client : Client} {parsed : Sql.Parsed} {body : Sql.Statement}
    {schema : Option Database} {program : Plan.Program} {setting : Option Plan.Setting}
    (compiles : store.compileFor client parsed body = .ok (schema, program, setting)) :
    programKind program = statementKind body := by
  obtain ⟨database, isCompiled⟩ := compileFor_compiles compiles
  exact compile_kind isCompiled

/-- A statement whose program does something else than it says is not ordinary. -/
def kindOf (store : Store) (name : StatementHandle) : StatementKind :=
  (store.statement? name).elim .savepoint fun statement =>
    if programKind statement.program = statementKind statement.body then
      statementKind statement.body
    else .savepoint

theorem prepare_kind {database : DatabaseHandle} {sql : Text} (valid : custody.Valid store)
    (isPrepared : (store.prepare database sql).1.2 = some name) :
    (store.prepare database sql).2.kindOf name = textKind sql := by
  obtain ⟨client, parsed, body, schema, program, setting, isParsed, isBody, compiles, isFound⟩ :=
    prepare_new valid isPrepared
  rw [kindOf, isFound, Option.elim_some, textKind, isParsed]
  simp only [newStatement, isBody, Option.elim_some]
  exact if_pos (compileFor_kind compiles)

theorem step_kind {statement : Statement} {client : Client}
    (isFound : store.statement? name = some statement) (isReady : statement.phase = .ready)
    (isClient : store.client? statement.client = some client) :
    (store.standing statement.client).Steps (store.step name).1
      ((store.step name).2.standing statement.client) (store.kindOf name) := by
  rw [kindOf, isFound, Option.elim_some]
  by_cases isKind : programKind statement.program = statementKind statement.body
  case neg =>
    rw [if_neg isKind]
    trivial
  rw [if_pos isKind, ← isKind]
  cases isProgram : statement.program with
  | begin kind =>
      exact step_begin isClient (by rw [isProgram]; rfl) isFound isReady isProgram
  | commit => exact step_commit isClient (by rw [isProgram]; rfl) isFound isReady isProgram
  | rollback => exact step_rollback isClient (by rw [isProgram]; rfl) isFound isReady isProgram
  | savepoint _ | release _ | rollbackTo _ => trivial
  | query _ _ | change _ | define _ _ | vacuum | «nothing» =>
      rw [isProgram] at isKind
      exact step_ordinary isFound isReady (by rw [isProgram]; rfl) isKind.symm

/-! ## Between steps -/

theorem addClient_outside (valid : custody.Valid store) {client : DatabaseHandle → Client}
    (isNamed : ∀ handle, (client handle).handle = handle)
    (isFree : ∀ handle, (client handle).isAutomatic = true) :
    ((store.addClient client).1.standing (store.addClient client).2).isExplicit = false := by
  have isNew : store.client? ⟨store.nextClient⟩ = none := by
    cases isClient : store.client? ⟨store.nextClient⟩ with
    | none => rfl
    | some client =>
        have isListed : (⟨store.nextClient⟩ : DatabaseHandle) ∈ store.outline.clients :=
          List.mem_map.mpr ⟨client, List.mem_of_find?_eq_some isClient,
            by simpa using List.find?_some isClient⟩
        have isOpen := Outline.isOpen_iff.mpr isListed
        cases (Outline.isFree_nextClient valid).symm.trans isOpen
  rw [client?] at isNew
  rw [isExplicit_eq, client?, addClient, List.find?_append, isNew, Option.none_or]
  simp [isNamed, isFree]

theorem openDatabase_outside {path : Bytes} {mode : OpenMode} {database : DatabaseHandle}
    (valid : custody.Valid store)
    (isOpened : (store.openDatabase path mode).1.1 = some database) :
    ((store.openDatabase path mode).2.standing database).isExplicit = false := by
  revert isOpened
  unfold openDatabase
  dsimp only
  split
  · rintro ⟨⟩
    exact addClient_outside valid (fun _ => rfl) fun _ => rfl
  split
  · rintro ⟨⟩
    exact addClient_outside valid (fun _ => rfl) fun _ => rfl
  · rename_i isFile
    have isValid : custody.Valid _ := (shows_of_outline (fileFor_outline isFile) valid).1
    rintro ⟨⟩
    exact addClient_outside isValid (fun _ => rfl) fun _ => rfl

theorem setCommitted_standing {client : Client} {database : Database} {handle : DatabaseHandle}
    (same : bare database = bare (store.committed client)) :
    (store.setCommitted client database).standing handle = store.standing handle := by
  have keeps (other : Client) :
      (store.setCommitted client database).standingOf other = store.standingOf other := by
    unfold standingOf
    cases isFile : other.file with
    | none => rfl
    | some number =>
        dsimp only [Option.bind_some]
        rw [setCommitted_file?]
        cases isThere : store.file? number with
        | none => rfl
        | some file =>
            dsimp only [Option.map_some]
            by_cases isSame : some number = client.file
            · rw [committed, ← isSame, Option.bind_some, isThere] at same
              rw [if_pos isSame]
              cases other.working with
              | none => exact congrArg (fun content => Standing.mk _ content content) same
              | some working => exact congrArg (Standing.mk _ _) same
            · rw [if_neg isSame]
  have sameClient : (store.setCommitted client database).client? handle = store.client? handle := rfl
  rw [standing, standing, sameClient]
  cases store.client? handle with
  | none => rfl
  | some other => exact keeps other

theorem prepare_standing (database : DatabaseHandle) (sql : Text) :
    (store.prepare database sql).2.standing database = store.standing database := by
  have settings {client : Client} (isNamed : client.handle = database)
      (setting : Option Plan.Setting) :
      (store.applySetting client setting).standing database = store.standing database := by
    subst isNamed
    unfold applySetting
    dsimp only
    repeat' split
    · rfl
    · exact updateClient_standing_of_seat (fun _ => rfl) fun _ => rfl
    · exact setCommitted_standing rfl
    · rfl
  have isNamed {client : Client} (isClient : store.client? database = some client) :
      client.handle = database := by
    simpa using List.find?_some isClient
  have refuses (store : Store) (code : Int) (message : Bytes) :
      (store.refuse database code message).2.standing database = store.standing database :=
    updateClient_standing_of_seat (fun _ => rfl) fun _ => rfl
  unfold prepare
  split
  · rfl
  · rename_i client _ _ isClient _
    exact (refuses _ _ _).trans (settings (isNamed isClient) _)
  rename_i client _ isClient _
  split
  · rfl
  split
  · exact refuses _ _ _
  · rename_i setting _
    refine Eq.trans ?_ (settings (isNamed isClient) setting)
    exact updateClient_standing_of_seat (fun _ => rfl) fun _ => rfl

theorem bind_standing (index : Int) (argument : Argument) (database : DatabaseHandle) :
    (store.bind name index argument).2.standing database = store.standing database := by
  rcases store.bind_cases name index argument with same | ⟨value, same⟩ <;> rw [same]
  rfl

theorem bind_view {α : Type} {view : Statement → α}
    (keeps : ∀ statement bindings, view { statement with bindings } = view statement) (index : Int)
    (argument : Argument) :
    ((store.bind name index argument).2.statement? name).map view =
      (store.statement? name).map view := by
  rcases store.bind_cases name index argument with same | ⟨value, same⟩ <;> rw [same]
  rw [statement?_updateStatement (by exact fun _ => rfl), Option.map_map]
  refine Option.map_congr fun statement _ => ?_
  dsimp only [Function.comp]
  split
  · exact keeps ..
  · rfl

theorem bind_kind (index : Int) (argument : Argument) :
    (store.bind name index argument).2.kindOf name = store.kindOf name := by
  have kindOf_eq (store : Store) : store.kindOf name =
      ((store.statement? name).map fun statement =>
        if programKind statement.program = statementKind statement.body then
          statementKind statement.body
        else .savepoint).getD .savepoint := by
    unfold kindOf
    cases store.statement? name <;> rfl
  rw [kindOf_eq, kindOf_eq, bind_view fun _ _ => rfl]

theorem reset_of_end {statement : Statement} {client : Client}
    (isFound : store.statement? name = some statement)
    (isClient : store.client? statement.client = some client)
    (isNoRow : (store.step name).1 ≠ Status.row) :
    ((store.step name).2.reset name).2 = (store.step name).2 ∨
      ((store.step name).2.reset name).2 = (store.step name).2.setPhase name .ready := by
  have isHalted := step_isAt isFound isClient
  rw [stageAfter_of_ne isNoRow] at isHalted
  unfold reset
  split
  · exact .inl rfl
  rename_i found isThere
  have isPhase := isHalted.phase isThere
  split
  · exact .inl rfl
  · exact .inr rfl
  · rename_i isRunning
    rw [isRunning] at isPhase
    cases isPhase

theorem reset_of_isReset (isReset : store.IsReset name) : store.reset name = (Status.ok, store) := by
  obtain ⟨entry, isThere, isReady⟩ := isReset
  obtain ⟨statement, isFound, rfl⟩ := Option.map_eq_some_iff.mp isThere
  have isPhase := (isReset_iff isFound).mp ⟨_, isThere, isReady⟩
  rw [reset, isFound]
  dsimp only
  rw [isPhase]

theorem compileFor_rollback (store : Store) (client : Client) {parsed : Sql.Parsed}
    (isRollback : parsed.statement = some .rollback) :
    ∃ schema, store.compileFor client parsed .rollback = .ok (schema, .rollback, none) := by
  have isSchema : ∃ schema, store.schemaFor client parsed = .ok schema := by
    unfold schemaFor
    split
    · exact ⟨_, rfl⟩
    · rw [Plan.Program.needsSchema, isRollback]
      exact ⟨none, rfl⟩
  obtain ⟨schema, isSchema⟩ := isSchema
  refine ⟨schema, ?_⟩
  rw [compileFor, isSchema]
  cases schema <;> rfl

theorem prepare_rollback {database : DatabaseHandle} {client : Client} {sql : Text}
    (isClient : store.client? database = some client) (isRollback : textKind sql = .rollback) :
    (store.prepare database sql).1.2 ≠ none := by
  unfold textKind at isRollback
  split at isRollback
  · rename_i parsed isParsed
    cases isBody : parsed.statement with
    | none =>
        rw [isBody] at isRollback
        cases isRollback
    | some body =>
        rw [isBody, Option.elim_some] at isRollback
        obtain rfl : body = .rollback := by
          cases body <;> first | rfl | cases isRollback
        obtain ⟨schema, compiles⟩ := store.compileFor_rollback client isBody
        unfold prepare
        rw [isClient, isParsed]
        dsimp only
        rw [isBody]
        dsimp only
        rw [compiles]
        exact nofun
  · cases isRollback

end Store

/-! ## The store as an engine -/

def transactions : Transactions backend.engine Database where
  toRewinding := rewinding
  standing := Store.standing
  kindOf := Store.kindOf
  kind := textKind
  isPragma := textIsPragma
  ordinary_pragma := textKind_of_pragma
  kind_begin := by decide +kernel
  kind_commit := by decide +kernel
  kind_rollback := by decide +kernel
  opened_outside valid isOpened := Store.openDatabase_outside valid isOpened
  prepared_standing _ _ _ := Store.prepare_standing _ _
  prepared_outside {store database sql} _ _ isOutside := by
    have same : (store.prepare database sql).2.standing database = store.standing database :=
      Store.prepare_standing _ _
    exact (congrArg Standing.isExplicit same).trans isOutside
  prepared_kind valid _ isPrepared := Store.prepare_kind valid isPrepared
  compiles_rollback {store database} _ isOpen := by
    obtain ⟨client, isClient⟩ := Store.client?_of_mem (Outline.isOpen_iff.mp isOpen)
    exact Store.prepare_rollback isClient (by decide +kernel)
  bound_standing _ _ := Store.bind_standing _ _ _
  bound_kind _ _ := Store.bind_kind _ _
  stepped_first {store name database} valid isOwner isReset := by
    obtain ⟨statement, client, isFound, rfl, isClient⟩ :=
      statement?_of_owner isOwner (custody.isOpen_of_owner valid isOwner)
    exact Store.step_kind isFound ((Store.isReset_iff isFound).mp isReset) isClient
  stepped_again {store name database} valid isOwner isRow := by
    obtain ⟨statement, client, isFound, rfl, isClient⟩ :=
      statement?_of_owner isOwner (custody.isOpen_of_owner valid isOwner)
    obtain ⟨later, isLater, sameEntry⟩ :=
      Store.statement?_of_sketch (store.step_sketch name) isFound
    have sameClient : later.client = statement.client := congrArg Entry.client sameEntry
    have steps := Store.advance_steps isLater (.refl _)
    rw [sameClient, ← Store.step_of_running (Store.step_row isRow)] at steps
    exact steps
  reset_standing {store name database} valid isOwner isNoRow := by
    obtain ⟨statement, client, isFound, rfl, isClient⟩ :=
      statement?_of_owner isOwner (custody.isOpen_of_owner valid isOwner)
    change ((store.step name).2.reset name).2.standing _ = _
    rcases Store.reset_of_end isFound isClient isNoRow with same | same <;> rw [same] <;> rfl
  finalized_standing {store name database} _ _ isReset := by
    change (store.finalize name).2.standing _ = _
    rw [Store.finalize, Store.reset_of_isReset isReset]
    rfl

end EmbeddedSql.Storage
