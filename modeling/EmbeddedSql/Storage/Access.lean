import EmbeddedSql.Storage.Execution

/-! What clients ask for: opening and closing databases, compiling statements and giving
values to their parameters. -/

namespace EmbeddedSql.Storage

namespace Store

/-! ## Opening and closing -/

def fileAt? (store : Store) (place : Place) : Option StoredFile :=
  store.files.find? (·.place = place)

def addFile (store : Store) (place : Place) : Store × Nat :=
  ({ store with
      files := store.files ++ [{ number := store.nextFile, place }]
      nextFile := store.nextFile + 1 }, store.nextFile)

def findOrAdd (store : Store) (place : Place) : Store × Nat :=
  match store.fileAt? place with
  | some file => (store, file.number)
  | none => store.addFile place

/-- The file that a location stands for, which is made if that is allowed. -/
def fileFor (store : Store) (location : Location) : Except Refusal (Store × Nat) :=
  match location.place with
  | .unnamed => .ok (store.addFile .unnamed)
  | .sharedMemory name => .ok (findOrAdd store (.sharedMemory name))
  | .file name =>
      if location.access = .create then .ok (findOrAdd store (.file name))
      else
        match store.fileAt? (.file name) with
        | some file => .ok (store, file.number)
        | none => .error .cannotOpen
  | .directory =>
      if location.access = .readOnly then
        .error (.ofText Status.inputOutput "disk I/O error")
      else .error .cannotOpen
  | .unreachable => .error .cannotOpen

def addClient (store : Store) (client : DatabaseHandle → Client) :
    Store × DatabaseHandle :=
  let handle : DatabaseHandle := ⟨store.nextClient⟩
  ({ store with
      clients := store.clients ++ [client handle]
      nextClient := store.nextClient + 1 }, handle)

def openDatabase (path : Bytes) (mode : OpenMode) (store : Store) :
    (Option DatabaseHandle × Int) × Store :=
  let refuse (refusal : Refusal) :=
    let (store, handle) := store.addClient fun handle =>
      { handle, file := none, message := refusal.message }
    ((some handle, refusal.code), store)
  match Location.ofPath path mode with
  | .error refusal => refuse refusal
  | .ok location =>
      match fileFor store location with
      | .error refusal => refuse refusal
      | .ok (store, file) =>
          let (store, handle) := store.addClient fun handle =>
            { handle, file := some file, path, isReadOnly := location.access = .readOnly }
          ((some handle, Status.ok), store)

def outlives (store : Store) (file : StoredFile) : Bool :=
  match file.place with
  | .file _ => true
  | _ => store.clients.any fun client => client.file = some file.number

/-- What is not committed is lost, and so is a database that is only in memory once
nobody has it open. -/
def closeDatabase (handle : DatabaseHandle) (store : Store) : Store :=
  let store := { store with
    clients := store.clients.filter (·.handle ≠ handle)
    statements := store.statements.filter (·.client ≠ handle) }
  { store with files := store.files.filter store.outlives }

/-! ## Compiling -/

def maxLength : Nat := 1000000000

def sqlBytes : Text → Bytes
  | .utf8 bytes => Bytes.beforeZero bytes
  | .utf16 units =>
      Lenient.toUtf8 (Lenient.dropByteOrderMark (units.takeWhile (· ≠ 0)))

def sqlLength : Text → Nat
  | .utf8 bytes => bytes.length
  | .utf16 units => (Lenient.toUtf8 (Lenient.dropByteOrderMark units)).length

/-- The statement of a text, or what is wrong with the text and the statement that comes
before that. -/
def parse (sql : Text) : Except (Plan.Failure × Option Sql.Statement) Sql.Parsed :=
  if maxLength < sqlLength sql then
    .error ({ code := Status.tooBig, message := Bytes.ofAscii "statement too long" }, none)
  else
    match Sql.Parsed.ofText (sqlBytes sql) with
    | .ok parsed => .ok parsed
    | .error error =>
        .error ({ code := Status.error, message := error.message },
          Sql.Parsed.leading? (sqlBytes sql))

def loadSchema (store : Store) (client : Client) : Except Plan.Failure Database :=
  if store.canRead client then .ok (store.content client)
  else .error { code := busy.code, message := busy.message }

def schemaFor (store : Store) (client : Client) (parsed : Sql.Parsed) :
    Except Plan.Failure (Option Database) :=
  match client.schema with
  | some schema => .ok (some schema)
  | none =>
      if Plan.Program.needsSchema parsed then (loadSchema store client).map some else .ok none

/-- A schema that is out of date is looked at again before a statement is refused. -/
def compileFor (store : Store) (client : Client) (parsed : Sql.Parsed) (body : Sql.Statement) :
    Except Plan.Failure (Option Database × Plan.Program × Option Plan.Setting) :=
  match schemaFor store client parsed with
  | .error failure => .error failure
  | .ok schema =>
      match schema, store.compile client (schema.getD {}) parsed body with
      | _, .ok (program, setting) => .ok (schema, program, setting)
      | none, .error failure => .error failure
      | some schema, .error failure =>
          let current := store.content client
          if schema.schemaVersion ≠ current.schemaVersion ∧ store.canRead client then
            (store.compile client current parsed body).map fun (program, setting) =>
              (some current, program, setting)
          else .error failure

/-- The encoding of a database is only up to a client as long as nothing is in it. -/
def applySetting (store : Store) (client : Client) :
    Option Plan.Setting → Store
  | none => store
  | some (.foreignKeys isOn) =>
      store.updateClient client.handle fun client => { client with foreignKeys := isOn }
  | some (.encoding encoding) =>
      let database := store.committed client
      if client.schema.isNone ∧ database.schemaVersion = 0 then
        store.setCommitted client { database with encoding }
      else store

/-- A pragma is carried out as soon as it has been read, even if what comes after it is no
SQL. -/
def leadingSetting (store : Store) (client : Client) :
    Option Sql.Statement → Option Plan.Setting
  | some (.pragma database name value) =>
      let statement : Sql.Statement := .pragma database name value
      let parsed : Sql.Parsed := { statement, parameters := {}, sources := [], written := [] }
      (store.compile client {} parsed statement).toOption.bind (·.2)
  | _ => none

def addStatement (store : Store) (client : DatabaseHandle) (parsed : Sql.Parsed)
    (body : Sql.Statement) (program : Plan.Program) : Store × StatementHandle :=
  let handle : StatementHandle := ⟨store.nextStatement⟩
  let bindings := Array.replicate parsed.parameters.count Value.null
  ({ store with
      statements := store.statements ++ [{ handle, client, parsed, body, program, bindings }]
      nextStatement := store.nextStatement + 1 }, handle)

def refuse (store : Store) (handle : DatabaseHandle) (code : Int) (message : Bytes) :
    (Int × Option StatementHandle) × Store :=
  ((code, none), store.updateClient handle fun client => { client with message })

def prepare (handle : DatabaseHandle) (sql : Text) (store : Store) :
    (Int × Option StatementHandle) × Store :=
  match store.client? handle, parse sql with
  | none, _ => ((Status.misuse, none), store)
  | some client, .error (failure, leading) =>
      let store := applySetting store client (leadingSetting store client leading)
      refuse store handle failure.code failure.message
  | some client, .ok parsed =>
      match parsed.statement with
      | none => ((Status.ok, none), store)
      | some body =>
          match compileFor store client parsed body with
          | .error failure => refuse store handle failure.code failure.message
          | .ok (schema, program, setting) =>
              let store := applySetting store client setting
              let store := store.updateClient handle fun client => { client with schema }
              let (store, statement) := addStatement store handle parsed body program
              ((Status.ok, some statement), store)

/-! ## Ending runs -/

/-- Leaves a statement that is running, as if it had come to its end. The code is that
of the last step. -/
def reset (handle : StatementHandle) (store : Store) : Int × Store :=
  match store.statement? handle with
  | none => (Status.ok, store)
  | some statement =>
      match statement.phase with
      | .ready => (Status.ok, store)
      | .halted code => (code, store.setPhase handle .ready)
      | .running running =>
          match store.finish statement running with
          | (store, none) => (Status.ok, store.setPhase handle .ready)
          | (store, some fault) => (faultCode fault, store.setPhase handle .ready)

def finalize (handle : StatementHandle) (store : Store) : Int × Store :=
  let (code, store) := store.reset handle
  (code, { store with statements := store.statements.filter (·.handle ≠ handle) })

/-! ## Parameters -/

def valueOf : Argument → Value
  | .null => .null
  | .integer value => .integer value
  | .real value => .ofReal value
  | .text (.utf8 bytes) => .text bytes
  | .text (.utf16 units) => .text (Lenient.toUtf8 (Lenient.dropByteOrderMark units))
  | .blob bytes => .blob bytes

def bind (handle : StatementHandle) (index : Int) (argument : Argument) (store : Store) :
    Int × Store :=
  match store.statement? handle with
  | none => (Status.misuse, store)
  | some statement =>
      match statement.phase with
      | .ready =>
          let hold (value : Value) : Store := store.updateStatement handle fun statement =>
            { statement with
              bindings := statement.bindings.setIfInBounds (index.toNat - 1) value }
          if index < 1 ∨ (statement.bindings.size : Int) < index then (Status.range, store)
          else if maxLength < argument.byteLength then (Status.tooBig, hold .null)
          else (Status.ok, hold (valueOf argument))
      | _ => (Status.misuse, store)

def clearBindings (handle : StatementHandle) (store : Store) : Store :=
  store.updateStatement handle fun statement =>
    { statement with bindings := statement.bindings.map fun _ => .null }

/-! ## Rows -/

def row (handle : StatementHandle) (store : Store) : List Cell :=
  match (store.statement? handle).bind (·.running?) with
  | some running => running.row
  | none => []

end Store

end EmbeddedSql.Storage
