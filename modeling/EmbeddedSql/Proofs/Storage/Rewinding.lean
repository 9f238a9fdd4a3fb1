import EmbeddedSql.Proofs.Engine.Rewinding
import EmbeddedSql.Proofs.Storage.Custody

/-! The store rewinds statements: while one runs the others stay as they are, and a reset
makes it what it was before its first step. -/

namespace EmbeddedSql.Storage

open Plan (Fault)

def Sketch.entryAt? (sketch : Sketch) (name : StatementHandle) : Option Entry :=
  sketch.statements.find? (·.handle = name)

variable {store after : Store} {name other : StatementHandle}

namespace Store

/-! ## Statements that others leave as they are -/

def entryAt? (store : Store) (name : StatementHandle) : Option Entry :=
  (store.statement? name).map (·.entry none)

theorem sketch_entryAt? (hidden : Option StatementHandle) :
    (store.sketch hidden).entryAt? name = (store.statement? name).map (·.entry hidden) := by
  rw [statement?, Sketch.entryAt?, sketch, List.find?_map]
  rfl

theorem entryAt?_eq_sketch {hidden : Option StatementHandle} (isShown : hidden ≠ some name) :
    store.entryAt? name = (store.sketch hidden).entryAt? name := by
  rw [sketch_entryAt?, entryAt?]
  refine Option.map_congr fun statement isThere => ?_
  rw [Statement.entry, Statement.entry, handle_of_statement? isThere, if_neg isShown,
    if_neg (by simp)]

theorem entryAt?_of_sketch {hidden : Option StatementHandle}
    (same : after.sketch hidden = store.sketch hidden) (isShown : hidden ≠ some name) :
    after.entryAt? name = store.entryAt? name := by
  rw [entryAt?_eq_sketch isShown, entryAt?_eq_sketch isShown, same]

theorem entryAt?_isSome_of_sketch {hidden : Option StatementHandle}
    (same : after.sketch hidden = store.sketch hidden) :
    (after.entryAt? name).isSome = (store.entryAt? name).isSome := by
  have shown (store : Store) :
      (store.entryAt? name).isSome = ((store.sketch hidden).entryAt? name).isSome := by
    rw [sketch_entryAt?, entryAt?, Option.isSome_map, Option.isSome_map]
  rw [shown, shown, same]

theorem entryAt?_of_statements (same : after.statements = store.statements) :
    after.entryAt? name = store.entryAt? name := by
  rw [entryAt?, entryAt?, statement?, statement?, same]

theorem statement?_updateStatement {change : Statement → Statement}
    (keeps : ∀ statement, (change statement).handle = statement.handle) :
    (store.updateStatement other change).statement? name =
      (store.statement? name).map fun statement =>
        if name = other then change statement else statement := by
  have same : (fun statement : Statement => decide (statement.handle = name)) ∘
      (fun statement => if statement.handle = other then change statement else statement) =
        fun statement : Statement => decide (statement.handle = name) := by
    funext statement
    dsimp only [Function.comp]
    split
    · rw [keeps]
    · rfl
  rw [statement?, updateStatement, List.find?_map, same]
  refine Option.map_congr fun statement isThere => ?_
  rw [handle_of_statement? isThere]

theorem entryAt?_updateStatement {change : Statement → Statement}
    (keeps : ∀ statement, (change statement).handle = statement.handle) (isOther : name ≠ other) :
    (store.updateStatement other change).entryAt? name = store.entryAt? name := by
  rw [entryAt?, statement?_updateStatement keeps, Option.map_map, entryAt?]
  exact Option.map_congr fun statement _ => by simp [isOther]

theorem entryAt?_updateStatement_self {change : Statement → Statement} {changed : Entry → Entry}
    (keeps : ∀ statement, (change statement).handle = statement.handle)
    (changes : ∀ statement, (change statement).entry none = changed (statement.entry none)) :
    (store.updateStatement name change).entryAt? name = (store.entryAt? name).map changed := by
  rw [entryAt?, statement?_updateStatement keeps, Option.map_map, entryAt?, Option.map_map]
  exact Option.map_congr fun statement _ => by simp [changes]

theorem find?_filter_of_kept {α : Type} {isNamed keeps : α → Bool} {items : List α} {item : α}
    (isFound : items.find? isNamed = some item) (isKept : keeps item = true) :
    (items.filter keeps).find? isNamed = some item := by
  obtain ⟨isIt, before, rest, isSplit, areOthers⟩ := List.find?_eq_some_iff_append.mp isFound
  refine List.find?_eq_some_iff_append.mpr ⟨isIt, before.filter keeps, rest.filter keeps, ?_,
    fun found isListed => areOthers found (List.mem_filter.mp isListed).1⟩
  rw [isSplit, List.filter_append, List.filter_cons_of_pos isKept]

theorem statement?_filter {keeps : Statement → Bool} {statement : Statement}
    (isFound : store.statement? name = some statement) (isKept : keeps statement = true) :
    { store with statements := store.statements.filter keeps }.statement? name =
      some statement :=
  find?_filter_of_kept isFound isKept

theorem entryAt?_filter {keeps : Statement → Bool} {entry : Entry}
    (isThere : store.entryAt? name = some entry)
    (isKept : ∀ statement, store.statement? name = some statement → keeps statement = true) :
    { store with statements := store.statements.filter keeps }.entryAt? name = some entry := by
  obtain ⟨statement, isFound, isEntry⟩ := Option.map_eq_some_iff.mp isThere
  exact Option.map_eq_some_iff.mpr
    ⟨statement, statement?_filter isFound (isKept statement isFound), isEntry⟩

theorem openDatabase_statements (path : Bytes) (mode : OpenMode) :
    (store.openDatabase path mode).2.statements = store.statements := by
  have files {location : Location} {found : Store × Nat}
      (isFile : store.fileFor location = .ok found) : found.1.statements = store.statements := by
    unfold fileFor at isFile
    repeat' split at isFile
    all_goals cases isFile
    all_goals first | rfl | (unfold findOrAdd; split <;> rfl)
  unfold openDatabase
  dsimp only
  split
  · rfl
  split
  · rfl
  · rename_i isFile
    exact files isFile

theorem addStatement_found {statement : Statement} (isFound : store.statement? name = some statement)
    (database : DatabaseHandle) (parsed : Sql.Parsed) (body : Sql.Statement)
    (program : Plan.Program) :
    (store.addStatement database parsed body program).1.statement? name = some statement := by
  rw [statement?] at isFound
  rw [statement?, addStatement, List.find?_append, isFound, Option.some_or]

theorem addStatement_entryAt? {entry : Entry} (database : DatabaseHandle) (parsed : Sql.Parsed)
    (body : Sql.Statement) (program : Plan.Program) (isThere : store.entryAt? name = some entry) :
    (store.addStatement database parsed body program).1.entryAt? name = some entry := by
  obtain ⟨found, isFound, isEntry⟩ := Option.map_eq_some_iff.mp isThere
  exact Option.map_eq_some_iff.mpr ⟨found, addStatement_found isFound .., isEntry⟩

theorem prepare_entryAt? {entry : Entry} (database : DatabaseHandle) (sql : Text)
    (isThere : store.entryAt? name = some entry) :
    (store.prepare database sql).2.entryAt? name = some entry := by
  have settles (client : Client) (setting : Option Plan.Setting) :
      (store.applySetting client setting).entryAt? name = some entry := by
    have same : (store.applySetting client setting).sketch none = store.sketch none :=
      sketch_of_detail (store.applySetting_detail client setting)
    exact (entryAt?_of_sketch same nofun).trans isThere
  unfold prepare
  split
  · exact isThere
  · exact settles _ _
  split
  · exact isThere
  split
  · exact isThere
  · exact addStatement_entryAt? _ _ _ _ (settles _ _)

theorem owner?_eq : (custody.handles store).owner? name =
    (store.statement? name).map (·.client) := by
  dsimp only [custody, ledger, Outline.handles, outline, statement?]
  induction store.statements with
  | nil => rfl
  | cons statement rest induction =>
      rw [List.map_cons, List.lookup_cons, List.find?_cons]
      by_cases isNamed : name = statement.handle
      · simp [isNamed]
      · rw [beq_eq_false_iff_ne.mpr isNamed, decide_eq_false (Ne.symm isNamed)]
        exact induction

def newStatement (name : StatementHandle) (database : DatabaseHandle) (parsed : Sql.Parsed)
    (body : Sql.Statement) (program : Plan.Program) : Statement where
  handle := name
  client := database
  parsed := parsed
  body := body
  program := program
  bindings := Array.replicate parsed.parameters.count .null

theorem addStatement_new (valid : custody.Valid store) (database : DatabaseHandle)
    (parsed : Sql.Parsed) (body : Sql.Statement) (program : Plan.Program) :
    (store.addStatement database parsed body program).1.statement? ⟨store.nextStatement⟩ =
      some (newStatement ⟨store.nextStatement⟩ database parsed body program) := by
  have isFree : store.statement? ⟨store.nextStatement⟩ = none := by
    have hasNoOwner := Outline.isFree_nextStatement valid
    have isOwner : (custody.handles store).owner? ⟨store.nextStatement⟩ =
        (store.statement? ⟨store.nextStatement⟩).map (·.client) := owner?_eq
    exact Option.map_eq_none_iff.mp (isOwner.symm.trans hasNoOwner)
  rw [statement?] at isFree
  rw [statement?, addStatement, List.find?_append, isFree, Option.none_or]
  simp [newStatement]

theorem prepare_new {database : DatabaseHandle} {sql : Text} (valid : custody.Valid store)
    (isPrepared : (store.prepare database sql).1.2 = some name) :
    ∃ client parsed body schema program setting,
      parse sql = .ok parsed ∧ parsed.statement = some body ∧
        store.compileFor client parsed body = .ok (schema, program, setting) ∧
          (store.prepare database sql).2.statement? name =
            some (newStatement name database parsed body program) := by
  revert isPrepared
  unfold prepare
  split
  · exact nofun
  · exact nofun
  rename_i client parsed _ isParsed
  split
  · exact nofun
  rename_i body isBody
  split
  · exact nofun
  rename_i schema program setting compiles
  intro isPrepared
  refine ⟨client, parsed, body, schema, program, setting, isParsed, isBody, compiles, ?_⟩
  have same : ((store.applySetting client setting).updateClient database
      fun client => { client with schema }).outline = store.outline := by
    simp
  have shows := shows_of_outline same valid
  cases isPrepared
  exact addStatement_new shows.1 _ _ _ _

@[simp] theorem applySetting_statements (client : Client) (setting : Option Plan.Setting) :
    (store.applySetting client setting).statements = store.statements := by
  unfold applySetting
  dsimp only
  repeat' split
  all_goals rfl

theorem prepare_statements (database : DatabaseHandle) (sql : Text) :
    (store.prepare database sql).2.statements = store.statements ∨
      ∃ client parsed body schema program setting,
        store.compileFor client parsed body = .ok (schema, program, setting) ∧
          (store.prepare database sql).2.statements = store.statements ++
            [newStatement ⟨store.nextStatement⟩ database parsed body program] := by
  unfold prepare
  split
  · exact .inl rfl
  · exact .inl (applySetting_statements ..)
  rename_i client parsed _ _
  split
  · exact .inl rfl
  rename_i body _
  split
  · exact .inl rfl
  rename_i schema program setting compiles
  have same : ((store.applySetting client setting).updateClient database
      fun client => { client with schema }).nextStatement = store.nextStatement := by
    have outlined : ((store.applySetting client setting).updateClient database
        fun client => { client with schema }).outline = store.outline := by
      simp
    exact congrArg Outline.nextStatement outlined
  refine .inr ⟨client, parsed, body, schema, program, setting, compiles, ?_⟩
  simp only [addStatement, same]
  exact congrArg (· ++ _) (applySetting_statements client setting)

theorem closeDatabase_entryAt? {entry : Entry} {database : DatabaseHandle}
    (isIdle : (custody.handles store).IsIdle database) (isThere : store.entryAt? name = some entry) :
    (store.closeDatabase database).entryAt? name = some entry := by
  refine entryAt?_filter isThere fun statement isFound => ?_
  have isOwner : (custody.handles store).owner? name = some statement.client := by
    rw [owner?_eq, isFound, Option.map_some]
  have isOther : statement.client ≠ database := by
    rintro rfl
    exact isIdle name isOwner
  simpa using isOther

theorem finalize_entryAt? {entry : Entry} (isOther : name ≠ other)
    (isThere : store.entryAt? name = some entry) :
    (store.finalize other).2.entryAt? name = some entry := by
  have same := entryAt?_of_sketch (store.reset_sketch other) (by simpa using isOther.symm)
  refine entryAt?_filter (same.trans isThere) fun statement isFound => ?_
  simpa [handle_of_statement? isFound] using isOther

theorem bind_entryAt? (isOther : name ≠ other) (index : Int) (argument : Argument) :
    (store.bind other index argument).2.entryAt? name = store.entryAt? name := by
  rcases store.bind_cases other index argument with same | ⟨value, same⟩ <;> rw [same]
  exact entryAt?_updateStatement (fun _ => rfl) isOther

theorem clearBindings_entryAt? (isOther : name ≠ other) :
    (store.clearBindings other).entryAt? name = store.entryAt? name :=
  entryAt?_updateStatement (fun _ => rfl) isOther

end Store

theorem custody_spares (Holds : Entry → Prop) :
    custody.Spares fun store name => ∃ entry, store.entryAt? name = some entry ∧ Holds entry where
  openDatabase := by
    rintro store path mode name - - ⟨entry, isThere, holds⟩
    have same : (store.openDatabase path mode).2.entryAt? name = store.entryAt? name :=
      Store.entryAt?_of_statements (store.openDatabase_statements path mode)
    exact ⟨entry, same.trans isThere, holds⟩
  closeDatabase := by
    rintro store database name - - isIdle - ⟨entry, isThere, holds⟩
    exact ⟨entry, Store.closeDatabase_entryAt? isIdle isThere, holds⟩
  prepare := by
    rintro store database sql name - - - ⟨entry, isThere, holds⟩
    exact ⟨entry, Store.prepare_entryAt? database sql isThere, holds⟩
  step := by
    rintro store other name - - - isOther ⟨entry, isThere, holds⟩
    have same := Store.entryAt?_of_sketch (store.step_sketch other) (by simpa using isOther.symm)
    exact ⟨entry, same.trans isThere, holds⟩
  reset := by
    rintro store other name - - - isOther ⟨entry, isThere, holds⟩
    have same := Store.entryAt?_of_sketch (store.reset_sketch other) (by simpa using isOther.symm)
    exact ⟨entry, same.trans isThere, holds⟩
  finalize := by
    rintro store other name - - - isOther ⟨entry, isThere, holds⟩
    exact ⟨entry, Store.finalize_entryAt? isOther isThere, holds⟩
  bind := by
    rintro store other index argument name - - - isOther ⟨entry, isThere, holds⟩
    exact ⟨entry, (Store.bind_entryAt? isOther index argument).trans isThere, holds⟩
  clearBindings := by
    rintro store other name - - - isOther ⟨entry, isThere, holds⟩
    exact ⟨entry, (Store.clearBindings_entryAt? isOther).trans isThere, holds⟩

/-! ## The run of a statement -/

namespace Store

theorem client?_of_mem {handle : DatabaseHandle}
    (isListed : handle ∈ store.clients.map (·.handle)) :
    ∃ client, store.client? handle = some client := by
  obtain ⟨client, isClient, isNamed⟩ := List.mem_map.mp isListed
  refine Option.isSome_iff_exists.mp (List.find?_isSome.mpr ⟨client, isClient, ?_⟩)
  simpa using isNamed

end Store

theorem statement?_of_owner {database : DatabaseHandle}
    (isOwner : (custody.handles store).owner? name = some database)
    (isOpen : (custody.handles store).isOpen database = true) :
    ∃ statement client, store.statement? name = some statement ∧ statement.client = database ∧
      store.client? database = some client := by
  rw [Store.owner?_eq] at isOwner
  obtain ⟨statement, isFound, isClient⟩ := Option.map_eq_some_iff.mp isOwner
  obtain ⟨client, isThere⟩ := Store.client?_of_mem (Outline.isOpen_iff.mp isOpen)
  exact ⟨statement, client, isFound, isClient, isThere⟩

theorem statement?_of_inUse (inUse : (custody.handles store).InUse name) :
    ∃ statement client, store.statement? name = some statement ∧
      store.client? statement.client = some client := by
  obtain ⟨database, isOwner, isOpen⟩ := inUse
  obtain ⟨statement, client, isFound, rfl, isThere⟩ := statement?_of_owner isOwner isOpen
  exact ⟨statement, client, isFound, isThere⟩

theorem entryAt?_of_inUse (inUse : (custody.handles store).InUse name) :
    (store.entryAt? name).isSome := by
  obtain ⟨statement, -, isFound, -⟩ := statement?_of_inUse inUse
  rw [Store.entryAt?, isFound]
  rfl

namespace Store

theorem statement?_of_sketch {hidden : Option StatementHandle} {statement : Statement}
    (same : after.sketch hidden = store.sketch hidden)
    (isFound : store.statement? name = some statement) :
    ∃ later, after.statement? name = some later ∧
      later.entry hidden = statement.entry hidden := by
  have entries : (after.sketch hidden).entryAt? name = (store.sketch hidden).entryAt? name :=
    congrArg (·.entryAt? name) same
  rw [sketch_entryAt?, sketch_entryAt?, isFound, Option.map_some] at entries
  exact Option.map_eq_some_iff.mp entries

theorem client?_of_sketch {hidden : Option StatementHandle} {handle : DatabaseHandle}
    {client : Client} (same : after.sketch hidden = store.sketch hidden)
    (isClient : store.client? handle = some client) :
    ∃ later, after.client? handle = some later := by
  have sameClients : after.clients.map (·.handle) = store.clients.map (·.handle) :=
    congrArg Sketch.clients same
  refine client?_of_mem (sameClients ▸ ?_)
  refine List.mem_map.mpr ⟨client, List.mem_of_find?_eq_some isClient, ?_⟩
  simpa using List.find?_some isClient

def IsAt (store : Store) (name : StatementHandle) (stage : Stage) : Prop :=
  ∀ entry, store.entryAt? name = some entry → entry.stage = stage

theorem IsAt.phase {stage : Stage} {statement : Statement} (isAt : store.IsAt name stage)
    (isFound : store.statement? name = some statement) : statement.phase.stage = stage := by
  have isEntry := isAt (statement.entry none) (by rw [entryAt?, isFound, Option.map_some])
  simpa [Statement.entry] using isEntry

theorem IsAt.of_sketch {stage : Stage} (isAt : store.IsAt name stage)
    (same : after.sketch none = store.sketch none) : after.IsAt name stage := by
  intro entry isThere
  rw [entryAt?_of_sketch same nofun] at isThere
  exact isAt entry isThere

theorem entryAt?_setPhase (phase : Phase) :
    (store.setPhase name phase).entryAt? name =
      (store.entryAt? name).map fun entry => { entry with stage := phase.stage } :=
  entryAt?_updateStatement_self (fun _ => rfl) fun _ => by simp [Statement.entry]

theorem isAt_setPhase (phase : Phase) :
    (store.setPhase name phase).IsAt name phase.stage := by
  intro entry isThere
  rw [entryAt?_setPhase] at isThere
  obtain ⟨before, -, rfl⟩ := Option.map_eq_some_iff.mp isThere
  rfl

theorem finish_isHalted (statement : Statement) (running : Running) :
    (store.finish statement running).1.IsAt statement.handle .halted := by
  have halts {store : Store} (code : Int) :
      (store.setPhase statement.handle (.halted code)).IsAt statement.handle .halted :=
    isAt_setPhase (.halted code)
  unfold finish
  dsimp only
  have settles : ((store.setPhase statement.handle (.halted Status.ok)).settle statement.client
      running.changed).1.IsAt statement.handle .halted :=
    (halts Status.ok).of_sketch (sketch_of_detail (settle_detail ..))
  split <;> rename_i settled <;> rw [settled] at settles
  · exact settles
  · exact (halts _).of_sketch (sketch_of_detail (report_detail ..))

theorem fail_isHalted (statement : Statement) (changed : Option Nat) (fault : Fault) :
    (store.fail statement changed fault).IsAt statement.handle .halted := by
  have halts : (store.setPhase statement.handle (.halted (faultCode fault))).IsAt
      statement.handle .halted :=
    isAt_setPhase (.halted (faultCode fault))
  unfold fail
  dsimp only
  repeat' split
  all_goals exact halts.of_sketch (sketch_of_detail (by simp))

def stageAfter (code : Int) : Stage :=
  if code = Status.row then .running else .halted

theorem stageAfter_of_ne {code : Int} (isNoRow : code ≠ Status.row) :
    stageAfter code = .halted := if_neg isNoRow

theorem advance_isAt {statement : Statement} {client : Client}
    (isFound : store.statement? name = some statement)
    (isRunning : statement.phase.stage = .running)
    (isClient : store.client? statement.client = some client) :
    (store.advance name).2.IsAt name (stageAfter (store.advance name).1) := by
  cases handle_of_statement? isFound
  unfold advance
  rw [isFound]
  dsimp only
  split
  · rename_i running client _ _
    split
    · exact isAt_setPhase (.running _)
    · have finishes : (store.finish statement running).1.IsAt statement.handle .halted :=
        finish_isHalted _ _
      split <;> rename_i finished <;> rw [finished] at finishes
      · exact finishes
      · rwa [stageAfter_of_ne (faultCode_ne_row _)]
    · rw [stageAfter_of_ne (faultCode_ne_row _)]
      exact fail_isHalted _ _ _
  · rename_i isNeither
    rcases phase : statement.phase with _ | running | _ <;> rw [phase] at isRunning
    · cases isRunning
    · exact (isNeither running client phase isClient).elim
    · cases isRunning

def StartsAt (name : StatementHandle) : Except (Int × Store) Store → Prop
  | .error (code, stopped) => stopped.IsAt name (stageAfter code)
  | .ok started => started.IsAt name .running

theorem start_startsAt (statement : Statement) :
    StartsAt statement.handle (store.start statement) := by
  have stops {store : Store} (changed : Option Nat) (fault : Fault) :
      StartsAt statement.handle
        (.error (faultCode fault, store.fail statement changed fault)) := by
    rw [StartsAt, stageAfter_of_ne (faultCode_ne_row fault)]
    exact fail_isHalted _ _ _
  unfold start
  dsimp only
  split
  · exact stops _ _
  rename_i ready recompiled isRecompiled
  split
  · exact stops _ _
  split
  · exact stops _ _
  · rw [recompile_handle isRecompiled]
    exact isAt_setPhase (.running _)

theorem step_isAt {statement : Statement} {client : Client}
    (isFound : store.statement? name = some statement)
    (isClient : store.client? statement.client = some client) :
    (store.step name).2.IsAt name (stageAfter (store.step name).1) := by
  cases handle_of_statement? isFound
  unfold step
  rw [isFound]
  dsimp only
  split
  · rename_i running isRunning
    exact advance_isAt isFound (by rw [isRunning]; rfl) isClient
  have starts : StartsAt statement.handle (store.start statement) := start_startsAt statement
  have keeps : (started (store.start statement)).sketch _ = store.sketch _ :=
    start_sketch statement
  split <;> rename_i isStarted <;> rw [isStarted] at starts keeps
  · exact starts
  · obtain ⟨later, isLater, sameEntry⟩ := statement?_of_sketch keeps isFound
    have sameClient : later.client = statement.client := congrArg Entry.client sameEntry
    obtain ⟨client, isStillClient⟩ := client?_of_sketch keeps isClient
    exact advance_isAt isLater (starts.phase isLater) (sameClient ▸ isStillClient)

def IsReset (store : Store) (name : StatementHandle) : Prop :=
  ∃ entry, store.entryAt? name = some entry ∧ entry.stage = .ready

theorem isReset_iff {statement : Statement} (isFound : store.statement? name = some statement) :
    store.IsReset name ↔ statement.phase = .ready := by
  rw [IsReset, entryAt?, isFound]
  cases phase : statement.phase <;> simp [Statement.entry, phase, Phase.stage]

theorem isReset_setPhase (isThere : (store.entryAt? name).isSome) :
    (store.setPhase name .ready).IsReset name := by
  obtain ⟨entry, isEntry⟩ := Option.isSome_iff_exists.mp isThere
  exact ⟨_, by rw [entryAt?_setPhase, isEntry, Option.map_some], rfl⟩

theorem reset_isReset (isThere : (store.entryAt? name).isSome) :
    (store.reset name).2.IsReset name := by
  unfold reset
  split
  · rename_i isMissing
    rw [entryAt?, isMissing] at isThere
    cases isThere
  rename_i found isFound
  cases handle_of_statement? isFound
  split
  · rename_i isReady
    exact (isReset_iff isFound).mpr isReady
  · exact isReset_setPhase isThere
  · rename_i running _
    have finishes := sketch_of_detail (store.finish_detail found running)
    split <;> rename_i finished <;> rw [finished] at finishes <;>
      exact isReset_setPhase ((entryAt?_isSome_of_sketch finishes).trans isThere)

theorem IsReset.reset_eq (isReset : store.IsReset name) : (store.reset name).2 = store := by
  have isThere := isReset
  obtain ⟨entry, isEntry, -⟩ := isThere
  obtain ⟨statement, isFound, -⟩ := Option.map_eq_some_iff.mp isEntry
  have isReady := (isReset_iff isFound).mp isReset
  simp only [reset, isFound, isReady]

theorem isReset_updateStatement (bindings : Array Value → Array Value)
    (isReset : store.IsReset name) :
    (store.updateStatement name fun statement =>
      { statement with bindings := bindings statement.bindings }).IsReset name := by
  obtain ⟨entry, isThere, isReady⟩ := isReset
  have changes : (store.updateStatement name fun statement =>
      { statement with bindings := bindings statement.bindings }).entryAt? name =
        (store.entryAt? name).map fun entry => { entry with bindings := bindings entry.bindings } :=
    entryAt?_updateStatement_self (fun _ => rfl) fun _ => rfl
  refine ⟨{ entry with bindings := bindings entry.bindings }, ?_, isReady⟩
  rw [changes, isThere, Option.map_some]

theorem bind_misuse_iff {statement : Statement} (isFound : store.statement? name = some statement)
    (index : Int) (argument : Argument) :
    (store.bind name index argument).1 = Status.misuse ↔ statement.phase ≠ .ready := by
  unfold bind
  rw [isFound]
  dsimp only
  split
  · rename_i isReady
    rw [isReady]
    split
    · simp [Status.range, Status.misuse]
    split
    · simp [Status.tooBig, Status.misuse]
    · simp [Status.ok, Status.misuse]
  · rename_i isNoReady
    exact iff_of_true rfl isNoReady

theorem bind_isReset (index : Int) (argument : Argument) (isReset : store.IsReset name) :
    (store.bind name index argument).2.IsReset name := by
  rcases store.bind_cases name index argument with same | ⟨value, same⟩ <;> rw [same]
  · exact isReset
  · exact isReset_updateStatement (·.setIfInBounds (index.toNat - 1) value) isReset

theorem clearBindings_isReset (isReset : store.IsReset name) :
    (store.clearBindings name).IsReset name :=
  isReset_updateStatement (·.map fun _ => .null) isReset

end Store

def rewinding : Rewinding backend.engine where
  toCustody := custody
  IsReset := Store.IsReset
  spares := custody_spares (·.stage = .ready)
  prepared_isReset valid _ isPrepared := by
    obtain ⟨-, parsed, body, -, program, -, -, -, -, isFound⟩ := Store.prepare_new valid isPrepared
    exact (Store.isReset_iff isFound).mpr rfl
  stepped_isNotReset {store statement} _ inUse isReset := by
    obtain ⟨entry, isThere, isReady⟩ := isReset
    obtain ⟨statement, client, isFound, isClient⟩ := statement?_of_inUse inUse
    have isAt := Store.step_isAt isFound isClient entry isThere
    rw [isReady, Store.stageAfter] at isAt
    split at isAt <;> cases isAt
  reset_isReset _ inUse := Store.reset_isReset (entryAt?_of_inUse inUse)
  bound_isReset _ _ isReset := Store.bind_isReset _ _ isReset
  cleared_isReset _ _ isReset := Store.clearBindings_isReset isReset
  bound_misuse {store name argument index} _ inUse _ _ := by
    obtain ⟨statement, -, isFound, -⟩ := statement?_of_inUse inUse
    exact (Store.bind_misuse_iff isFound index argument).trans
      (not_congr (Store.isReset_iff isFound)).symm
  finalized_ok {store name} _ inUse isReset := by
    obtain ⟨statement, -, isFound, -⟩ := statement?_of_inUse inUse
    have isReady := (Store.isReset_iff isFound).mp isReset
    simp [backend, engine, Store.finalize, Store.reset, isFound, isReady]

def releasing : Releasing backend.engine where
  toRewinding := rewinding
  finalized_reset {store name} _ inUse := by
    have isReset := Store.reset_isReset (entryAt?_of_inUse inUse)
    exact congrArg (fun store : Store =>
      { store with statements := store.statements.filter (·.handle ≠ name) }) isReset.reset_eq

end EmbeddedSql.Storage
