import EmbeddedSql.Query.Transaction
import EmbeddedSql.Session.Request

/-! How a session answers. A new name must be free before anything else is looked
at; then the handles that are used must be there and free; then the call is made. -/

namespace EmbeddedSql.Session

variable {σ α β ε : Type} (backend : Backend σ)

abbrev Result := Except (Refusal Error) Answer

/-! ## Pools and buffers -/

def readConfig {ρ : Type} (format : Json.RecordFormat ρ) (default : ρ) :
    Option (List Char) → Except (Refusal ε) ρ
  | none => .ok default
  | some text =>
      match format.ofText? text with
      | some config => .ok config
      | none => .error .badConfig

def poolNumber (session : Session σ) (name : String) : Except (Refusal ε) Nat :=
  match session.poolNames.get? name with
  | some number => .ok number
  | none => .error .noSuchHandle

def findBuffer (session : Session σ) (name : String) :
    Except (Refusal ε) HeldBuffer :=
  match session.buffers.get? name with
  | some held => .ok held
  | none => .error .noSuchHandle

def report : Holding → Answer
  | .rented buffer => .bytes buffer.contents
  | .encoded text => .encoded text

/-- Something that only succeeds together with the session it leads to. -/
def commit (session : Session σ) (outcome : Except (Refusal ε) (α × Session σ)) :
    Except (Refusal ε) α × Session σ :=
  match outcome with
  | .ok (answer, session) => (.ok answer, session)
  | .error refusal => (.error refusal, session)

def performPool (session : Session σ) : PoolRequest → Result × Session σ
  | .create pool config => commit session do
      newName session.poolNames pool
      let config ← readConfig Scratch.PoolConfig.format {} config
      return (.poolConfig config,
        { session with
          pools := session.pools ++ [{ config }]
          poolNames := session.poolNames.insert pool session.pools.length })
  | .share pool source => commit session do
      newName session.poolNames pool
      let number ← poolNumber session source
      return (.number (session.pool number).available,
        { session with poolNames := session.poolNames.insert pool number })
  | .available pool => commit session do
      let number ← poolNumber session pool
      return (.number (session.pool number).available, session)
  | .rent pool buffer minimum => commit session do
      newName session.buffers buffer
      let number ← poolNumber session pool
      let (rented, pool) := (session.pool number).rent backend.growth minimum
      return (.rented rented.length (decide (minimum ≤ rented.capacity)),
        { session.setPool number pool with
          buffers := session.buffers.insert buffer ⟨number, .rented rented⟩ })
  | .append buffer bytes => commit session do
      let held ← findBuffer session buffer
      match held.holding with
      | .rented rented =>
          let rented := rented.append backend.growth bytes
          return (.bytes rented.contents,
            { session with
              buffers := session.buffers.insert buffer { held with holding := .rented rented } })
      | .encoded _ => throw .noSuchHandle
  | .encode pool buffer encoding => commit session do
      newName session.buffers buffer
      let number ← poolNumber session pool
      let (text, pool) := encoding.encode backend.growth (session.pool number)
      return (.encoded text,
        { session.setPool number pool with
          buffers := session.buffers.insert buffer ⟨number, .encoded text⟩ })
  | .contents buffer => commit session do
      let held ← findBuffer session buffer
      return (report held.holding, session)
  | .release buffer => commit session do
      let held ← findBuffer session buffer
      let pool := (session.pool held.pool).giveBack held.holding.buffer
      return (.nothing,
        { session.setPool held.pool pool with buffers := session.buffers.erase buffer })

/-! ## Connections -/

def disposeQuietly : Call σ Unit := do
  unless (← get).connection.isDisposed do Connection.dispose backend.engine

def answering (answer : α → Answer) (result : Except (Refusal Error) α × Session σ) :
    Result × Session σ :=
  (result.1.map answer, result.2)

def done (result : Except (Refusal Error) Unit × Session σ) : Result × Session σ :=
  answering (fun _ => .nothing) result

def keeping (put : Session σ → α → Session σ) :
    Except (Refusal Error) α × Session σ → Result × Session σ
  | (.error refusal, session) => (.error refusal, session)
  | (.ok made, session) => (.ok .nothing, put session made)

def performConnection (session : Session σ) (name : String) :
    ConnectionRequest → Result × Session σ
  | .connect path config pool => commit session do
      newName session.connections name
      let number ← pool.elim (pure 0) (poolNumber session)
      let config ← readConfig ConnectionConfig.format {} config
      let connection : Connection := { path := path.getD ":memory:", config }
      return (.nothing,
        { session with
          connections := session.connections.insert name ⟨number, connection⟩ })
  | .state => commit session do
      match session.connections.get? name with
      | some held => return (.connection held.connection, session)
      | none => throw .noSuchHandle
  | .ensureOpen =>
      done (session.onConnection name (Connection.ensureOpen backend.engine backend.growth))
  | .dispose => done (session.onConnection name (Connection.dispose backend.engine))
  | .drop =>
      if !session.connections.contains name then (.error .noSuchHandle, session)
      else if session.connectionIsUsed name then (.error .handleInUse, session)
      else
        let (result, session) := session.onConnection name (disposeQuietly backend)
        done (result, { session with connections := session.connections.erase name })
  | .changes =>
      answering (fun (count : Nat) => .number count)
        (session.onConnection name (Connection.changes backend.engine backend.growth))
  | .pendingStatements =>
      answering (fun (count : Nat) => .number count)
        (session.onConnection name (Connection.pendingStatements backend.engine))
  | .lastInsertRowid =>
      answering .int64
        (session.onConnection name (Connection.lastInsertRowid backend.engine backend.growth))
  | .executeNonQuery sql =>
      answering (fun (count : Nat) => .number count)
        (session.onConnection name (Connection.executeNonQuery backend sql))
  | .executeReader reader sql =>
      match newName session.readers reader with
      | .error refusal => (.error refusal, session)
      | .ok () =>
          keeping
            (fun session made =>
              { session with readers := session.readers.insert reader ⟨name, none, made⟩ })
            (session.onConnection name (Connection.executeReader backend sql))
  | .createCommand command sql =>
      match newName session.commands command with
      | .error refusal => (.error refusal, session)
      | .ok () =>
          keeping
            (fun session made =>
              { session with commands := session.commands.insert command ⟨name, made⟩ })
            (session.onConnection name (Connection.createCommand backend sql))

/-! ## Commands -/

def useCommand (session : Session σ) (held : HeldCommand) :
    CommandRequest → Result × Session σ
  | .sql =>
      answering (fun text => .string (some text))
        (session.onConnection held.connection (held.command.sql backend))
  | .executeNonQuery =>
      answering (fun (count : Nat) => .number count)
        (session.onConnection held.connection (held.command.executeNonQuery backend))
  | .parameterCount =>
      answering (fun (count : Nat) => .number count)
        (session.onConnection held.connection
          (Parameter.count backend.engine held.command.statement))
  | .clear =>
      done (session.onConnection held.connection
        (Parameter.clear backend.engine held.command.statement))
  | .indexOf name =>
      answering .number
        (session.onConnection held.connection
          (Parameter.resolve backend.engine backend.growth held.command.statement (.name name)))
  | .nameOf index =>
      answering .string
        (session.onConnection held.connection
          (Parameter.nameOf backend.engine held.command.statement index))
  | .bind parameter argument =>
      done (session.onConnection held.connection
        (Parameter.bind backend.engine backend.growth held.command.statement parameter argument))
  | .bindText parameter text =>
      done (session.onConnection held.connection
        (Parameter.bindText backend.engine backend.growth held.command.statement parameter text))
  | .executeReader _ => (.error .noSuchHandle, session)
  | .finalize => (.error .noSuchHandle, session)
  | .drop => (.error .noSuchHandle, session)

def performCommand (session : Session σ) (name : String) (request : CommandRequest) :
    Result × Session σ :=
  match request with
  | .executeReader reader =>
      match newName session.readers reader with
      | .error refusal => (.error refusal, session)
      | .ok () =>
          match session.freeCommand name with
          | .error refusal => (.error refusal, session)
          | .ok held =>
              keeping
                (fun session made =>
                  { session with
                    readers := session.readers.insert reader ⟨held.connection, some name, made⟩ })
                (session.onConnection held.connection held.command.executeReader)
  | request =>
      match session.freeCommand name with
      | .error refusal => (.error refusal, session)
      | .ok held =>
          match request with
          | .finalize =>
              let (result, session) :=
                session.onConnection held.connection (held.command.finalize backend)
              done (result, { session with commands := session.commands.erase name })
          | .drop =>
              let (result, session) :=
                session.onConnection held.connection fun link =>
                  (.ok (), held.command.drop backend link)
              done (result, { session with commands := session.commands.erase name })
          | request => useCommand backend session held request

/-! ## Readers -/

def columnReport (withBytes : Bool) (reader : Reader) (column : Nat) (link : Link σ) :
    Except Error ColumnReport × Reader :=
  let engine := backend.engine
  let numbers : Except Error (StorageClass × Bool × Int32 × Int64 × Binary64 × Option Bytes) := do
    let storageClass ← reader.storageClass engine column link
    let isNull ← reader.isNull engine column link
    let int32 ← reader.int32 engine column link
    let int64 ← reader.int64 engine column link
    let real ← reader.real engine column link
    let bytes ← if withBytes then (reader.bytes engine column link).map some else pure none
    return (storageClass, isNull, int32, int64, real, bytes)
  match numbers with
  | .error error => (.error error, reader)
  | .ok (storageClass, isNull, int32, int64, real, bytes) =>
      let (string, reader) := reader.string engine column link
      let (utf16, reader) := reader.utf16 engine column link
      let report : Except Error ColumnReport := do
        let string ← string
        let utf16 ← utf16
        return { storageClass, isNull, int32, int64, real, bytes, string, utf16 }
      (report, reader)

def columnReports (withBytes : Bool) (link : Link σ) :
    (left : Nat) → (column : Nat) → Reader → Except Error (List ColumnReport) × Reader
  | 0, _, reader => (.ok [], reader)
  | left + 1, column, reader =>
      match columnReport backend withBytes reader column link with
      | (.error error, reader) => (.error error, reader)
      | (.ok report, reader) =>
          let (reports, reader) := columnReports withBytes link left (column + 1) reader
          (reports.map (report :: ·), reader)

def access (session : Session σ) (name : String) (held : HeldReader)
    (accessor : Reader → Link σ → Except ε α × Reader) : Except (Refusal ε) α × Session σ :=
  match session.link? held.connection with
  | none => (.error .noSuchHandle, session)
  | some link =>
      let (answer, reader) := accessor held.reader link
      let session :=
        { session with readers := session.readers.insert name { held with reader } }
      match answer with
      | .ok answer => (.ok answer, session)
      | .error error => (.error (.failed error), session)

def look (answer : α → Answer) (view : Reader → Link σ → Except Error α) :
    Reader → Link σ → Except Error Answer × Reader :=
  fun reader link => ((view reader link).map answer, reader)

def reportCopy (answer : Option Nat → List α → Answer) (copied : Reader.Copied α) :
    Except Error Answer :=
  copied.written.map (answer · copied.destination)

def useReader (session : Session σ) (name : String) (held : HeldReader) :
    ReaderRequest → Result × Session σ
  | .read =>
      match session.link? held.connection with
      | none => (.error .noSuchHandle, session)
      | some link =>
          let ((result, reader), link) := held.reader.read backend.engine link
          let session :=
            { session.setLink held.connection link with
              readers := session.readers.insert name { held with reader } }
          match result with
          | .ok found => (.ok (.boolean found), session)
          | .error error => (.error (.failed error), session)
  | .dispose =>
      match session.link? held.connection with
      | none => (.error .noSuchHandle, session)
      | some link =>
          let session := session.setLink held.connection (held.reader.dispose backend.engine link)
          (.ok .nothing, { session with readers := session.readers.erase name })
  | .cursor => (.ok (.cursor held.reader.cursor), session)
  | .columnCount =>
      access session name held
        (look (fun (count : Nat) => .number count) (·.columnCount backend.engine))
  | .names =>
      access session name held
        (look .strings fun reader link => do
          let count ← reader.columnCount backend.engine link
          (List.range count).mapM (reader.nameString backend.engine · link))
  | .row withBytes =>
      access session name held fun reader link =>
        match reader.columnCount backend.engine link with
        | .error error => (.error error, reader)
        | .ok count =>
            let (reports, reader) := columnReports backend withBytes link count 0 reader
            (reports.map .row, reader)
  | .name column =>
      access session name held
        (look (fun text => .string (some text)) (·.nameString backend.engine column))
  | .nameUtf16 column =>
      access session name held (look .utf16 (·.nameUtf16 backend.engine column))
  | .storageClass column =>
      access session name held (look .storageClass (·.storageClass backend.engine column))
  | .isNull column =>
      access session name held (look .boolean (·.isNull backend.engine column))
  | .int32 column =>
      access session name held
        (look (fun value => .number value.toInt) (·.int32 backend.engine column))
  | .int64 column =>
      access session name held (look .int64 (·.int64 backend.engine column))
  | .real column =>
      access session name held (look .real (·.real backend.engine column))
  | .bytes column =>
      access session name held (look .bytes (·.bytes backend.engine column))
  | .string column =>
      access session name held fun reader link =>
        let (text, reader) := reader.string backend.engine column link
        (text.map fun text => .string (some text), reader)
  | .utf16 column =>
      access session name held fun reader link =>
        let (units, reader) := reader.utf16 backend.engine column link
        (units.map .utf16, reader)
  | .copyBytes column destination =>
      access session name held fun reader link =>
        (reportCopy .copiedBytes (reader.copyBytes backend.engine column destination link), reader)
  | .copyUtf8 column destination =>
      access session name held fun reader link =>
        let (copied, reader) := reader.copyUtf8 backend.engine column destination link
        (reportCopy .copiedBytes copied, reader)
  | .copyUtf16 column destination =>
      access session name held fun reader link =>
        let (copied, reader) := reader.copyUtf16 backend.engine column destination link
        (reportCopy .copiedUtf16 copied, reader)

def performReader (session : Session σ) (name : String) (request : ReaderRequest) :
    Result × Session σ :=
  match session.findReader name with
  | .error refusal => (.error refusal, session)
  | .ok held => useReader backend session name held request

/-! ## Queries -/

def replying (answer : α → QueryAnswer)
    (result : Except (Refusal Query.Error) α × Session σ) :
    Except (Refusal Query.Error) QueryAnswer × Session σ :=
  (result.1.map answer, result.2)

/-- An accessor that leaves the cells of the row in another form if it has an answer. -/
def takeOut (answer : α → β) (view : Reader → Link σ → Except ε α)
    (leave : List Cell → List Cell) : Reader → Link σ → Except ε β × Reader :=
  fun reader link =>
    match view reader link with
    | .ok value => (.ok (answer value), { reader with cells := leave reader.cells })
    | .error error => (.error error, reader)

def onReader (session : Session σ) (name : String)
    (accessor : Reader → Link σ → Except Query.Error QueryAnswer × Reader) :
    Except (Refusal Query.Error) QueryAnswer × Session σ :=
  match session.findReader name with
  | .error refusal => (.error refusal, session)
  | .ok held => access session name held accessor

def onCommand (session : Session σ) (name : String)
    (call : StatementHandle → Query.Call σ Unit) :
    Except (Refusal Query.Error) QueryAnswer × Session σ :=
  match session.freeCommand name with
  | .error refusal => (.error refusal, session)
  | .ok held =>
      replying (fun _ => .nothing)
        (session.onConnection held.connection (call held.command.statement))

def performQuery (session : Session σ) :
    QueryRequest → Except (Refusal Query.Error) QueryAnswer × Session σ
  | .execute connection sql values =>
      replying .written (session.onConnection connection (Query.execute backend sql values))
  | .fetchAll connection sql values =>
      replying .rows (session.onConnection connection (Query.fetchAll backend sql values))
  | .fetchOne connection sql values =>
      replying .row (session.onConnection connection (Query.fetchOne backend sql values))
  | .executeTransaction connection statements =>
      replying .writtenEach
        (session.onConnection connection (Query.executeTransaction backend statements))
  | .bindValue command index value =>
      onCommand session command fun statement =>
        Query.bindValue backend.engine backend.growth statement index value
  | .bindValues command values =>
      onCommand session command fun statement =>
        Query.bindValues backend.engine backend.growth statement values
  | .columnJson reader column =>
      onReader session reader
        (takeOut .value (Query.columnJson backend.engine · column) (·.modify column Query.leave))
  | .decodeRow reader =>
      onReader session reader
        (takeOut (fun row => .row (some row)) (Query.decodeRow backend.engine)
          (·.map Query.leave))

/-! ## Sessions as a whole -/

def perform (session : Session σ) : Request → Response × Session σ
  | .pool request =>
      let (result, session) := performPool backend session request
      (.plain result, session)
  | .connection name request =>
      let (result, session) := performConnection backend session name request
      (.plain result, session)
  | .command name request =>
      let (result, session) := performCommand backend session name request
      (.plain result, session)
  | .reader name request =>
      let (result, session) := performReader backend session name request
      (.plain result, session)
  | .query request =>
      let (result, session) := performQuery backend session request
      (.query result, session)

def run (session : Session σ) : List Request → List Response × Session σ
  | [] => ([], session)
  | request :: rest =>
      let (response, session) := perform backend session request
      let (responses, session) := run session rest
      (response :: responses, session)

/-- Releases what is left: the readers, then the commands, then the connections. -/
def close (session : Session σ) : Session σ :=
  let session := session.readers.foldl (fun session (name, _) =>
    (performReader backend session name .dispose).2) session
  let session := session.commands.foldl (fun session (name, _) =>
    (performCommand backend session name .drop).2) session
  session.connections.foldl (fun session (name, _) =>
    (performConnection backend session name .drop).2) session

end EmbeddedSql.Session
