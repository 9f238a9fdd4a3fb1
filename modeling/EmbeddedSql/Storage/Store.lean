import EmbeddedSql.Engine
import EmbeddedSql.Plan.Program
import EmbeddedSql.Storage.Location

/-! All that an engine remembers: files with what is committed to them, the clients that
have them open, and the statements of the clients. -/

namespace EmbeddedSql.Storage

/-! ## Files and clients -/

structure StoredFile where
  number : Nat
  place : Place
  database : Database := {}

/-- What a client may do with a file. Each level includes the ones before it. -/
inductive Lock where
  | none
  | shared
  /-- The right to prepare changes, which only one client can have. -/
  | reserved
  /-- Waits for the readers to leave; no new ones come in. -/
  | pending
  | exclusive
deriving DecidableEq, Repr

namespace Lock

def rank : Lock → Nat
  | .none => 0
  | .shared => 1
  | .reserved => 2
  | .pending => 3
  | .exclusive => 4

def isBelow (left right : Lock) : Bool := left.rank < right.rank

end Lock

structure Savepoint where
  name : Bytes
  /-- The content at the time, if it was not what is committed. -/
  content : Option Database

structure Client where
  handle : DatabaseHandle
  /-- The file, if opening it was no failure. -/
  file : Option Nat
  path : Bytes := []
  isReadOnly : Bool := false
  lock : Lock := .none
  /-- The content with changes that are not committed. -/
  working : Option Database := none
  /-- Every statement is a transaction of its own. -/
  isAutomatic : Bool := true
  savepoints : List Savepoint := []
  /-- The oldest savepoint began the transaction. -/
  startsWithSavepoint : Bool := false
  /-- The database as it was when its schema was last looked at. -/
  schema : Option Database := none
  /-- The schema was changed in the transaction. -/
  hasNewSchema : Bool := false
  foreignKeys : Bool := true
  counters : Plan.Counters := {}
  message : Bytes := []

/-! ## Statements -/

inductive Remainder where
  | computed (rows : List (List Value)) (fault : Option Plan.Fault)
  /-- Rows are looked for after a position in the table. -/
  | scanning (scan : Plan.Scan) (position : Option Int64) (window : Plan.Window)
  /-- The table is no longer what it was. -/
  | lost

structure Running where
  remainder : Remainder
  /-- The current row, in the encoding that the database had when it was found. -/
  row : List Cell := []
  reads : Bool := false
  writes : Bool := false
  /-- The number of rows changed, for a statement that changes rows. -/
  changed : Option Nat := none

inductive Phase where
  | ready
  | running (running : Running)
  /-- With the code of the last step, which is zero unless it failed. -/
  | halted (code : Int)

structure Statement where
  handle : StatementHandle
  client : DatabaseHandle
  parsed : Sql.Parsed
  body : Sql.Statement
  program : Plan.Program
  bindings : Array Value := #[]
  phase : Phase := .ready

namespace Statement

def running? (statement : Statement) : Option Running :=
  match statement.phase with
  | .running running => some running
  | _ => none

end Statement

/-! ## The store -/

structure Store where
  files : List StoredFile := []
  clients : List Client := []
  statements : List Statement := []
  nextFile : Nat := 0
  nextClient : Nat := 0
  nextStatement : Nat := 0

namespace Store

def file? (store : Store) (number : Nat) : Option StoredFile :=
  store.files.find? (·.number = number)

def client? (store : Store) (handle : DatabaseHandle) : Option Client :=
  store.clients.find? (·.handle = handle)

def statement? (store : Store) (handle : StatementHandle) : Option Statement :=
  store.statements.find? (·.handle = handle)

def statementsOf (store : Store) (handle : DatabaseHandle) : List Statement :=
  store.statements.filter (·.client = handle)

def updateClient (store : Store) (handle : DatabaseHandle) (change : Client → Client) : Store :=
  { store with
    clients := store.clients.map fun client =>
      if client.handle = handle then change client else client }

def updateStatement (store : Store) (handle : StatementHandle) (change : Statement → Statement) :
    Store :=
  { store with
    statements := store.statements.map fun statement =>
      if statement.handle = handle then change statement else statement }

def setPhase (store : Store) (handle : StatementHandle) (phase : Phase) : Store :=
  store.updateStatement handle fun statement => { statement with phase }

/-! ## Contents -/

def committed (store : Store) (client : Client) : Database :=
  ((client.file.bind store.file?).map (·.database)).getD {}

def content (store : Store) (client : Client) : Database :=
  client.working.getD (store.committed client)

def setCommitted (store : Store) (client : Client) (database : Database) : Store :=
  { store with
    files := store.files.map fun file =>
      if some file.number = client.file then { file with database } else file }

/-! ## Locks -/

def others (store : Store) (client : Client) : List Client :=
  store.clients.filter fun other =>
    other.handle ≠ client.handle && other.file.isSome && other.file = client.file

def canRead (store : Store) (client : Client) : Bool :=
  client.lock ≠ .none || (store.others client).all fun other => other.lock.isBelow .pending

def canReserve (store : Store) (client : Client) : Bool :=
  Lock.reserved.rank ≤ client.lock.rank ||
    (store.others client).all fun other => other.lock.isBelow .reserved

def isAlone (store : Store) (client : Client) : Bool :=
  (store.others client).all fun other => other.lock = .none

/-! ## Statements that are under way -/

def runningOf (store : Store) (handle : DatabaseHandle) : List Running :=
  (store.statementsOf handle).filterMap (·.running?)

def isReading (store : Store) (handle : DatabaseHandle) : Bool :=
  (store.runningOf handle).any (·.reads)

def isWriting (store : Store) (handle : DatabaseHandle) : Bool :=
  (store.runningOf handle).any (·.writes)

/-! ## Looking things up after a change -/

theorem statement?_setPhase {store : Store} {handle : StatementHandle} {statement : Statement}
    (phase : Phase) (found : store.statement? handle = some statement) :
    (store.setPhase handle phase).statement? handle = some { statement with phase } := by
  have isNamed := List.find?_some found
  simp only [decide_eq_true_eq] at isNamed
  simp only [statement?, setPhase, updateStatement, List.find?_map]
  have same : ((fun statement : Statement => decide (statement.handle = handle)) ∘
      fun statement : Statement =>
        if statement.handle = handle then { statement with phase } else statement) =
      fun statement : Statement => decide (statement.handle = handle) := by
    funext other
    by_cases named : other.handle = handle <;> simp [named]
  rw [same]
  unfold statement? at found
  rw [found]
  simp [isNamed]

end Store

end EmbeddedSql.Storage
