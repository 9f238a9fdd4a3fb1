import EmbeddedSql.Engine
import EmbeddedSql.Scratch.Encoded

/-! A connection to one database. It opens when it is first needed and takes part
in no more calls once it is disposed. -/

namespace EmbeddedSql

/-- The handle is there exactly while the database is open. -/
inductive Lifecycle where
  | unopened
  | opened (database : DatabaseHandle)
  | disposed
deriving DecidableEq, Repr

structure Connection where
  path : String := ":memory:"
  config : ConnectionConfig := {}
  lifecycle : Lifecycle := .unopened
deriving DecidableEq, Repr

/-- What a call works on: a connection, the pool it rents from and the engine's
state. -/
structure Link (σ : Type) where
  connection : Connection
  pool : Scratch.Pool
  engine : σ

abbrev Call (σ : Type) := ExceptT Error (StateM (Link σ))

namespace Call

variable {σ α : Type}

def request (action : StateM σ α) : Call σ α := fun link =>
  let (answer, state) := action link.engine
  (.ok answer, { link with engine := state })

def observe (view : σ → α) : Call σ α := fun link =>
  (.ok (view link.engine), link)

/-- Encodes a text in a rented buffer, which goes back however the use of it
ends. -/
def withScratch (encode : Scratch.Pool → Scratch.Encoded × Scratch.Pool)
    (use : Scratch.Encoded → Call σ α) : Call σ α := fun link =>
  let (encoded, pool) := encode link.pool
  let (result, link) := use encoded { link with pool }
  (result, { link with pool := link.pool.giveBack encoded.buffer })

end Call

namespace Connection

def isOpen (connection : Connection) : Bool :=
  match connection.lifecycle with
  | .opened _ => true
  | _ => false

def isDisposed (connection : Connection) : Bool :=
  connection.lifecycle = .disposed

variable {σ : Type} (engine : Engine σ) (growth : Scratch.Growth)

def setLifecycle (lifecycle : Lifecycle) : Call σ Unit := do
  modify fun link => { link with connection := { link.connection with lifecycle } }

/-- The engine's diagnostic, as long as there is a database to ask. -/
def errorMessage (link : Link σ) : String :=
  match link.connection.lifecycle with
  | .opened database => Utf8.toString (engine.errorMessage database link.engine)
  | _ => ""

def ensureNotDisposed : Call σ Unit := do
  if (← get).connection.isDisposed then throw .useAfterDispose

/-! ## Opening and disposing -/

def openPath (path : Scratch.Encoded) : Call σ Unit := do
  let connection := (← get).connection
  match path.cString? with
  | none =>
      throw (.openFailed Status.cannotOpen connection.path
        "path contains an interior NUL byte")
  | some bytes =>
      let (database?, code) ←
        Call.request (engine.openDatabase bytes connection.config.openMode)
      match database? with
      | none =>
          let code := if code = Status.ok then Status.noMemory else code
          throw (.openFailed code connection.path (Utf8.toString (engine.codeMessage code)))
      | some database =>
          if code = Status.ok then
            setLifecycle (.opened database)
          else
            let message ← Call.observe (engine.errorMessage database)
            let _ ← Call.request (engine.closeDatabase database)
            throw (.openFailed code connection.path (Utf8.toString message))

def ensureOpen : Call σ Unit := do
  let connection := (← get).connection
  match connection.lifecycle with
  | .disposed => throw .useAfterDispose
  | .opened _ => pure ()
  | .unopened =>
      Call.withScratch
        (Scratch.Encoded.ofUtf8Terminated growth (Utf8.ofString connection.path))
        (openPath engine)

def database : Call σ DatabaseHandle := do
  ensureOpen engine growth
  match (← get).connection.lifecycle with
  | .opened database => pure database
  | _ => throw .useAfterDispose

/-- Finalizes the first statement that is listed as long as there is one. An engine that
takes a finalized statement off its list needs no more than `limit` rounds for as many
statements. -/
def finalizeListed (database : DatabaseHandle) : (limit : Nat) → Call σ Unit
  | 0 => pure ()
  | limit + 1 => do
      match (← Call.observe (engine.statements database)).head? with
      | none => pure ()
      | some statement =>
          let _ ← Call.request (engine.finalize statement)
          finalizeListed database limit

/-- Finalizes what is left of the statements and closes the database. What the
engine answers to that is not looked at. -/
def dispose : Call σ Unit := do
  let lifecycle := (← get).connection.lifecycle
  setLifecycle .disposed
  match lifecycle with
  | .disposed => throw .useAfterDispose
  | .unopened => pure ()
  | .opened database =>
      let statements ← Call.observe (engine.statements database)
      finalizeListed engine database statements.length
      let _ ← Call.request (engine.closeDatabase database)

/-! ## Statements and counters -/

/-- What becomes of a text whose length the engine cannot take. -/
def tooLong : Error :=
  .prepareFailed Status.tooBig (Utf8.toString (engine.codeMessage Status.tooBig))

def ensureFits (sql : Text) : Call σ Unit := do
  if Engine.maxLength < sql.byteLength then throw (tooLong engine)

def prepare (sql : Text) : Call σ StatementHandle := do
  let database ← database engine growth
  ensureFits engine sql
  let (code, statement?) ← Call.request (engine.prepare database sql)
  if code ≠ Status.ok then
    let message ← Call.observe (engine.errorMessage database)
    throw (.prepareFailed code (Utf8.toString message))
  match statement? with
  | some statement => pure statement
  | none => throw .emptyStatement

def changes : Call σ Nat := do
  let database ← database engine growth
  Call.observe (engine.changes database)

def lastInsertRowid : Call σ Int64 := do
  let database ← database engine growth
  Call.observe (engine.lastInsertRowid database)

/-- Does not open the database: one that is not open has no statements. -/
def pendingStatements : Call σ Nat := do
  match (← get).connection.lifecycle with
  | .disposed => throw .useAfterDispose
  | .unopened => pure 0
  | .opened database =>
      let statements ← Call.observe (engine.statements database)
      pure statements.length

end Connection

end EmbeddedSql
