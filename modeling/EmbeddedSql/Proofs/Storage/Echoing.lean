import EmbeddedSql.Proofs.Storage.Binding
import EmbeddedSql.Proofs.Storage.Transactions

/-! The store gives a value back as it was bound, as long as the database keeps its text in
UTF-8. -/

namespace EmbeddedSql.Storage

open Plan (Selection Context)

/-! ## The query -/

/-- The query for the first parameter, with its text for the name of the column. -/
def echoSelect (written : Bytes) : Sql.Select where
  first := { columns := [{ body := .expression (.parameter 1), written }] }

/-- One row, with the first parameter for its only column. -/
structure IsEcho (selection : Selection) : Prop where
  columns : selection.columns.length = 1
  scan : selection.scan = none
  window : ∀ environment, selection.window environment = .ok {}
  rows : ∀ environment,
    selection.rows environment = .ofList [[environment.parameters[0]?.getD .null]]

theorem compileSelection_echo (context : Context) (written : Bytes) :
    ∃ selection,
      Plan.compileSelection Plan.compilers context (echoSelect written) = .ok selection ∧
        IsEcho selection :=
  ⟨_, rfl, rfl, rfl, fun _ => rfl, fun _ => rfl⟩

def isEchoed (parsed : Sql.Parsed) : Bool :=
  match parsed with
  | { statement := some (.select
        { commonTables := [], rest := [], orderBy := [], limit := none, offset := none
          first :=
            { distinct := false, sources := [], filter := none, groupBy := [], having := none,
              rows := []
              columns := [{ body := .expression (.parameter 1), aliasName := none, .. }] } })
      sources := [], parameters, .. } => parameters.count = 1
  | _ => false

theorem isEchoed_iff {parsed : Sql.Parsed} (isEchoed : isEchoed parsed) :
    ∃ written, parsed.statement = some (.select (echoSelect written)) ∧ parsed.sources = [] ∧
      parsed.parameters.count = 1 := by
  unfold Storage.isEchoed at isEchoed
  split at isEchoed
  · exact ⟨_, rfl, rfl, of_decide_eq_true isEchoed⟩
  · cases isEchoed

theorem parse_echo : ∃ parsed, Store.parse echoSql = .ok parsed ∧ isEchoed parsed := by
  have isRead : (Store.parse echoSql).toOption.any isEchoed := by
    decide +kernel
  cases read : Store.parse echoSql with
  | error failure => simp [read, Except.toOption] at isRead
  | ok parsed => exact ⟨parsed, rfl, by simpa [read, Except.toOption] using isRead⟩

namespace Store

variable {store after : Store} {handle : DatabaseHandle} {name : StatementHandle}

theorem compile_echo (client : Client) (database : Database) {parsed : Sql.Parsed}
    (noSources : parsed.sources = []) (written : Bytes) :
    ∃ selection, store.compile client database parsed (.select (echoSelect written)) =
      .ok (.query selection false, none) ∧ IsEcho selection := by
  obtain ⟨selection, compiles, isEcho⟩ :=
    compileSelection_echo { database, foreignKeys := client.foreignKeys } written
  refine ⟨selection, ?_, isEcho⟩
  unfold compile Plan.Program.compile
  dsimp only
  rw [compiles, noSources]
  rfl

theorem compileFor_echo (client : Client) {parsed : Sql.Parsed} (isEchoed : isEchoed parsed) :
    ∃ body schema selection, parsed.statement = some body ∧
      store.compileFor client parsed body = .ok (schema, .query selection false, none) ∧
        IsEcho selection := by
  obtain ⟨written, isSelect, noSources, -⟩ := isEchoed_iff isEchoed
  have needsNone : Plan.Program.needsSchema parsed = false := by
    unfold Plan.Program.needsSchema
    rw [isSelect, noSources]
    rfl
  have looksUp : store.schemaFor client parsed = .ok client.schema := by
    unfold schemaFor
    cases client.schema with
    | none => simp [needsNone]
    | some schema => rfl
  obtain ⟨selection, compiles, isEcho⟩ :=
    store.compile_echo client (client.schema.getD {}) noSources written
  refine ⟨_, client.schema, selection, isSelect, ?_, isEcho⟩
  unfold compileFor
  rw [looksUp]
  dsimp only
  rw [compiles]

/-! ## Databases that keep text as it is -/

/-- The database has no changes that are not committed, and keeps its text in UTF-8. -/
def IsPlain (store : Store) (handle : DatabaseHandle) : Prop :=
  ∃ client, store.client? handle = some client ∧ client.working = none ∧
    (store.committed client).encoding = .utf8

theorem IsPlain.isClean (isPlain : store.IsPlain handle) : store.IsClean handle := by
  obtain ⟨client, isClient, isClean, -⟩ := isPlain
  intro other isOther
  cases isClient.symm.trans isOther
  exact isClean

theorem IsPlain.updateClient (isPlain : store.IsPlain handle) {change : Client → Client}
    (sameHandle : ∀ client, (change client).handle = client.handle)
    (sameWorking : ∀ client, (change client).working = client.working)
    (sameFile : ∀ client, (change client).file = client.file) :
    (store.updateClient handle change).IsPlain handle := by
  obtain ⟨client, isClient, isClean, isUtf8⟩ := isPlain
  refine ⟨change client, ?_, by rw [sameWorking, isClean], ?_⟩
  · rw [client?_updateClient sameHandle, isClient, Option.map_some]
  · rwa [committed, sameFile]

theorem IsPlain.settleLock (isPlain : store.IsPlain handle) :
    (store.settleLock handle).IsPlain handle := by
  refine isPlain.updateClient (fun client => ?_) (fun client => ?_) fun client => ?_ <;>
    split <;> rfl

theorem IsPlain.settle (isPlain : store.IsPlain handle) :
    (store.settle handle none).2 = none ∧
      (store.settle handle none).1.IsPlain handle ∧
        (store.settle handle none).1.statements = store.statements := by
  refine ⟨(settle_of_clean store none isPlain.isClean).1, ?_⟩
  unfold Store.settle
  split
  · obtain ⟨client, isClient, isClean, -⟩ := id isPlain
    have commits : store.commit handle = (store, none) := by
      rw [commit, isClient]
      dsimp only
      rw [isClean]
    rw [commits]
    exact ⟨isPlain.settleLock, rfl⟩
  · exact ⟨isPlain, rfl⟩

/-! ## Statements of the query -/

/-- A statement of the query, in a database that keeps text as it is. -/
structure EchoesAt (store : Store) (name : StatementHandle) (value : Value)
    (statement : Statement) : Prop where
  isFound : store.statement? name = some statement
  isPlain : store.IsPlain statement.client
  program : ∃ selection, statement.program = .query selection false ∧ IsEcho selection
  bindings : statement.bindings = #[value]

def Echoes (name : StatementHandle) (value : Value) (store : Store) : Prop :=
  ∃ statement, store.EchoesAt name value statement ∧ statement.phase = .ready

variable {value : Value} {statement : Statement}

theorem EchoesAt.setPhase (echoes : store.EchoesAt name value statement) (phase : Phase) :
    (store.setPhase name phase).EchoesAt name value { statement with phase } where
  isFound := statement?_setPhase phase echoes.isFound
  isPlain := echoes.isPlain
  program := echoes.program
  bindings := echoes.bindings

def echoing (value : Value) : Running where
  remainder := .computed [] none
  row := [.ofValue value]

theorem EchoesAt.step (echoes : store.EchoesAt name value statement)
    (isReady : statement.phase = .ready) :
    ∃ after, store.step name = (Status.row, after) ∧
      after.EchoesAt name value { statement with phase := .running (echoing value) } := by
  obtain ⟨client, isClient, isClean, isUtf8⟩ := echoes.isPlain
  obtain ⟨selection, isQuery, isEcho⟩ := echoes.program
  cases handle_of_statement? echoes.isFound
  let started : Running := { remainder := .computed [[value]] none }
  have executes : store.execute client statement = (store, .ok started) := by
    have isFirst : (store.environment client statement).parameters[0]?.getD .null = value := by
      rw [environment, echoes.bindings]
      rfl
    unfold execute runQuery
    rw [isQuery]
    dsimp only
    rw [isEcho.window, isEcho.scan]
    dsimp only
    rw [isEcho.rows, isFirst]
    rfl
  have needsNothing : needOf statement.program = .nothing := by rw [isQuery]; rfl
  have begun := echoes.setPhase (.running started)
  have gives : (store.setPhase statement.handle (.running started)).advance statement.handle =
      (Status.row, (store.setPhase statement.handle (.running started)).setPhase statement.handle
        (.running (echoing value))) := by
    have isThere : (store.setPhase statement.handle (.running started)).client? statement.client =
      some client := isClient
    have isEncoded : ((store.setPhase statement.handle (.running started)).content client).encoding =
        .utf8 := by
      rw [content, isClean, Option.getD_none]
      exact isUtf8
    unfold advance
    rw [begun.isFound]
    dsimp only
    rw [isThere]
    dsimp only
    rw [isEncoded]
    rfl
  refine ⟨_, ?_, begun.setPhase (.running (echoing value))⟩
  rw [step_of_ready echoes.isFound isReady, start_of_need_nothing isClient needsNothing, executes]
  exact gives

theorem EchoesAt.row (echoes : store.EchoesAt name value statement)
    (isRunning : statement.phase = .running (echoing value)) :
    store.row name = [.ofValue value] := by
  unfold Store.row
  rw [echoes.isFound, Option.bind_some, Statement.running?, isRunning]
  rfl

theorem EchoesAt.finish (echoes : store.EchoesAt name value statement) :
    ∃ after, store.finish statement (echoing value) = (after, none) ∧
      after.EchoesAt name value { statement with phase := .halted Status.ok } := by
  cases handle_of_statement? echoes.isFound
  have halted := echoes.setPhase (.halted Status.ok)
  have settles := halted.isPlain.settle
  refine ⟨((store.setPhase statement.handle (.halted Status.ok)).settle statement.client none).1,
    ?_, ?_⟩
  · unfold Store.finish
    dsimp only
    split <;> rename_i settled <;> rw [show (echoing value).changed = none from rfl] at settled
    · rw [settled]
    · rw [settled] at settles
      cases settles.1
  · exact { halted with
      isFound := by rw [statement?, settles.2.2]; exact halted.isFound
      isPlain := settles.2.1 }

theorem EchoesAt.reset (echoes : store.EchoesAt name value statement)
    (isRunning : statement.phase = .running (echoing value)) :
    Echoes name value (store.reset name).2 := by
  obtain ⟨after, finishes, ended⟩ := echoes.finish
  refine ⟨{ statement with phase := .ready }, ?_, rfl⟩
  unfold Store.reset
  rw [echoes.isFound]
  dsimp only
  rw [isRunning]
  dsimp only
  rw [finishes]
  exact ended.setPhase .ready

theorem EchoesAt.stepPast (echoes : store.EchoesAt name value statement)
    (isRunning : statement.phase = .running (echoing value)) :
    ∃ after, store.step name = (Status.done, after) ∧
      after.EchoesAt name value { statement with phase := .halted Status.ok } := by
  obtain ⟨after, finishes, ended⟩ := echoes.finish
  obtain ⟨client, isClient, -⟩ := echoes.isPlain
  refine ⟨after, ?_, ended⟩
  unfold Store.step advance
  rw [echoes.isFound]
  dsimp only
  have isAtEnd : (echoing value).remainder.next (store.environment client statement) = .done := rfl
  rw [isRunning, isClient]
  dsimp only
  rw [isAtEnd, finishes]

theorem EchoesAt.resetHalted (echoes : store.EchoesAt name value statement)
    (isHalted : statement.phase = .halted Status.ok) :
    Echoes name value (store.reset name).2 := by
  refine ⟨{ statement with phase := .ready }, ?_, rfl⟩
  unfold Store.reset
  rw [echoes.isFound]
  dsimp only
  rw [isHalted]
  exact echoes.setPhase .ready

theorem Echoes.finalize (echoes : Echoes name value store) :
    (store.finalize name).1 = Status.ok := by
  obtain ⟨statement, echoes, isReady⟩ := echoes
  simp [Store.finalize, Store.reset, echoes.isFound, isReady]

theorem Echoes.bind (echoes : Echoes name value store) {argument : Argument}
    (isExact : argument.isExact) (fits : argument.fits = true) :
    (store.bind name 1 argument).1 = Status.ok ∧
      Echoes name argument.value (store.bind name 1 argument).2 := by
  obtain ⟨statement, echoes, isReady⟩ := echoes
  have sameValue : valueOf argument = argument.value := by
    cases argument with
    | real real =>
        have isFinite : real.isFinite := isExact
        have isNumber : real.isNaN = false := by
          rw [Binary64.isFinite, decide_eq_true_iff] at isFinite
          rw [Binary64.isNaN, Bool.and_eq_false_iff]
          exact .inl (decide_eq_false (by omega))
        simp [valueOf, Value.ofReal, isNumber, Argument.value]
    | text text =>
        cases text with
        | utf8 bytes => rfl
        | utf16 units => cases isExact
    | _ => rfl
  unfold Store.bind
  rw [echoes.isFound]
  dsimp only
  rw [isReady]
  dsimp only
  rw [if_neg (by simp [echoes.bindings]), if_neg (fits_iff.mp fits)]
  let bound : Statement := { statement with
    bindings := statement.bindings.setIfInBounds ((1 : Int).toNat - 1) (valueOf argument) }
  refine ⟨rfl, bound, ⟨?_, echoes.isPlain, echoes.program, ?_⟩, isReady⟩
  · rw [statement?_updateStatement, echoes.isFound, Option.map_some, if_pos rfl]
    exact fun _ => rfl
  · simp only [bound, echoes.bindings, sameValue]
    rfl

theorem Echoes.bindLong (echoes : Echoes name value store) {argument : Argument}
    (isLong : argument.fits = false) : (store.bind name 1 argument).1 = Status.tooBig := by
  obtain ⟨statement, echoes, isReady⟩ := echoes
  unfold Store.bind
  rw [echoes.isFound]
  dsimp only
  rw [isReady]
  dsimp only
  rw [if_neg (by simp [echoes.bindings]), if_pos (maxLength_of_long isLong)]

theorem IsPlain.prepare (isPlain : store.IsPlain handle) (valid : custody.Valid store) :
    ∃ name, (store.prepare handle echoSql).1 = (Status.ok, some name) ∧
      Echoes name .null (store.prepare handle echoSql).2 := by
  obtain ⟨client, isClient, -⟩ := id isPlain
  obtain ⟨parsed, isRead, isEchoed⟩ := parse_echo
  obtain ⟨body, schema, selection, isBody, compiles, isEcho⟩ :=
    store.compileFor_echo client isEchoed
  obtain ⟨-, -, -, count⟩ := isEchoed_iff isEchoed
  have prepares : store.prepare handle echoSql =
      ((Status.ok, some ⟨store.nextStatement⟩),
        ((store.updateClient handle fun client => { client with schema }).addStatement handle
          parsed body (.query selection false)).1) := by
    unfold Store.prepare
    rw [isClient, isRead]
    dsimp only
    rw [isBody]
    dsimp only
    rw [compiles]
    rfl
  rw [prepares]
  have stays : (store.updateClient handle fun client => { client with schema }).IsPlain handle :=
    isPlain.updateClient (fun _ => rfl) (fun _ => rfl) fun _ => rfl
  have isNew := (store.updateClient handle fun client => { client with schema }).addStatement_new
    (shows_of_outline (by simp) valid).1 handle parsed body (.query selection false)
  refine ⟨_, rfl, _, ⟨isNew, stays, ⟨selection, rfl, isEcho⟩, ?_⟩, rfl⟩
  rw [newStatement, count]
  rfl

end Store

def echoing : Echoing backend.engine where
  Keeps database store := custody.Valid store ∧ store.IsPlain database
  Holds := Store.Echoes
  prepared keeps := keeps.2.prepare keeps.1
  bound holds isExact := holds.bind isExact
  boundLong holds := holds.bindLong
  stepped := by
    rintro name value store ⟨statement, echoes, isReady⟩
    obtain ⟨after, steps, echoes⟩ := echoes.step isReady
    rw [show backend.engine.step name store = (Status.row, after) from steps]
    refine ⟨rfl, echoes.row rfl, ?_⟩
    obtain ⟨selection, isQuery, isEcho⟩ := echoes.program
    have names : backend.engine.columnNames name after = selection.columns.map (·.name) := by
      change ((after.statement? name).map fun statement =>
        statement.program.columns.map (·.name)).getD [] = _
      rw [echoes.isFound, Option.map_some, isQuery]
      rfl
    rw [names, List.length_map, isEcho.columns]
  rewound := by
    rintro name value store ⟨statement, echoes, isReady⟩
    obtain ⟨after, steps, echoes⟩ := echoes.step isReady
    rw [show backend.engine.step name store = (Status.row, after) from steps]
    exact echoes.reset rfl

def echoingOnce : EchoingOnce backend.engine where
  toEchoing := echoing
  ended := by
    rintro name value store ⟨statement, echoes, isReady⟩
    obtain ⟨onRow, steps, echoes⟩ := echoes.step isReady
    obtain ⟨after, stepsPast, -⟩ := echoes.stepPast rfl
    rw [show backend.engine.step name store = (Status.row, onRow) from steps]
    exact congrArg Prod.fst stepsPast
  rewoundEnd := by
    rintro name value store ⟨statement, echoes, isReady⟩
    obtain ⟨onRow, steps, echoes⟩ := echoes.step isReady
    obtain ⟨after, stepsPast, echoes⟩ := echoes.stepPast rfl
    rw [show backend.engine.step name store = (Status.row, onRow) from steps,
      show backend.engine.step name onRow = (Status.done, after) from stepsPast]
    exact echoes.resetHalted rfl
  finalized holds := Store.Echoes.finalize holds

end EmbeddedSql.Storage
