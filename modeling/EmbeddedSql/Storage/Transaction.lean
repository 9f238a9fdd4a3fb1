import EmbeddedSql.Storage.Store

/-! Transactions: coming to read and to write, and the ways in which changes become
permanent or are undone. -/

namespace EmbeddedSql.Storage

open Plan (Fault)

def faultOf (code : Int) (message : String) : Fault where
  code := code
  message := Bytes.ofAscii message

def busy : Fault := faultOf Status.busy "database is locked"
def locked : Fault := faultOf Status.locked "database table is locked"
def writeRefused : Fault := faultOf Status.readOnly "attempt to write a readonly database"
def lostByRollback : Fault := faultOf Status.abort "abort due to ROLLBACK"
def misused : Fault := faultOf Status.misuse "bad parameter or other API misuse"

def brokenAtCommit : Fault :=
  { code := Status.constraint, message := Plan.brokenReference }

namespace Store

variable (store : Store) (handle : DatabaseHandle)

/-! ## Locks -/

def toRead : Except Fault Store :=
  match store.client? handle with
  | none => .error misused
  | some client =>
      if client.lock ≠ .none then .ok store
      else if store.canRead client then
        .ok (store.updateClient handle fun client => { client with lock := .shared })
      else .error busy

def toWrite : Except Fault Store :=
  match store.client? handle with
  | none => .error misused
  | some client =>
      if client.isReadOnly then .error writeRefused
      else
        match store.toRead handle with
        | .error fault => .error fault
        | .ok store =>
            if store.canReserve client then
              .ok (store.updateClient handle fun client =>
                { client with
                  lock := if client.lock.isBelow .reserved then .reserved else client.lock
                  working := some (store.content client) })
            else .error busy

def toExclusive : Except Fault Store :=
  match store.toWrite handle with
  | .error fault => .error fault
  | .ok store =>
      match store.client? handle with
      | none => .error misused
      | some client =>
          if store.isAlone client then
            .ok (store.updateClient handle fun client => { client with lock := .exclusive })
          else .error busy

def settleLock : Store :=
  let isReading := store.isReading handle
  store.updateClient handle fun client =>
    if client.isAutomatic && client.working.isNone then
      { client with lock := if isReading then .shared else .none }
    else client

/-! ## The end of a transaction -/

/-- Makes changes permanent. If there are readers, no new ones are let in from now
on, and the changes stay as they are. -/
def commit : Store × Option Fault :=
  match store.client? handle with
  | none => (store, some misused)
  | some client =>
      match client.working with
      | none => (store, none)
      | some database =>
          let before := (store.committed client).brokenReferences true
          if client.foreignKeys ∧ before < database.brokenReferences true then
            (store, some brokenAtCommit)
          else if store.isAlone client then
            let store := store.setCommitted client database
            (store.updateClient handle fun client =>
              { client with working := none, hasNewSchema := false }, none)
          else
            (store.updateClient handle fun client => { client with lock := .pending },
              some busy)

def loseScans (statement : Statement) : Statement :=
  match statement.phase with
  | .running running =>
      match running.remainder with
      | .scanning _ _ _ => { statement with phase := .running { running with remainder := .lost } }
      | _ => statement
  | _ => statement

def forgetSchema : Store :=
  { store.updateClient handle fun client =>
      { client with schema := none, hasNewSchema := false } with
    statements := store.statements.map fun statement =>
      if statement.client = handle then loseScans statement else statement }

def rollback : Store :=
  let hasNewSchema := (store.client? handle).any (·.hasNewSchema)
  let store := if hasNewSchema then forgetSchema store handle else store
  let store := store.updateClient handle fun client =>
    { client with
      working := none, isAutomatic := true, savepoints := [], startsWithSavepoint := false }
  store.settleLock handle

/-- Ends the transaction that was begun, which stays open if that fails. -/
def endTransaction : Store × Option Fault :=
  match store.commit handle with
  | (store, some fault) => (store, some fault)
  | (store, none) =>
      let store := store.updateClient handle fun client =>
        { client with isAutomatic := true, savepoints := [], startsWithSavepoint := false }
      (store.settleLock handle, none)

/-! ## Beginning -/

def beginTransaction (kind : Sql.TransactionKind) : Store × Option Fault :=
  let isReadOnly := (store.client? handle).any (·.isReadOnly)
  let prepared : Except Fault Store :=
    match kind with
    | .deferred => .ok store
    | .immediate => if isReadOnly then store.toRead handle else store.toWrite handle
    | .exclusive => if isReadOnly then store.toRead handle else store.toExclusive handle
  match prepared with
  | .error fault => (store, some fault)
  | .ok store =>
      if (store.client? handle).any (·.isAutomatic) then
        (store.updateClient handle fun client => { client with isAutomatic := false }, none)
      else (store, some (.ofText "cannot start a transaction within a transaction"))

def inProgress (message : String) : Fault :=
  faultOf Status.busy (message ++ " - SQL statements in progress")

def commitTransaction : Store × Option Fault :=
  if (store.client? handle).any (·.isAutomatic) then
    (store, some (.ofText "cannot commit - no transaction is active"))
  else if store.isWriting handle then (store, some (inProgress "cannot commit transaction"))
  else store.endTransaction handle

def rollbackTransaction : Store × Option Fault :=
  if (store.client? handle).any (·.isAutomatic) then
    (store, some (.ofText "cannot rollback - no transaction is active"))
  else (store.rollback handle, none)

def vacuum : Store × Option Fault :=
  if !(store.client? handle).any (·.isAutomatic) then
    (store, some (.ofText "cannot VACUUM from within a transaction"))
  else if !(store.runningOf handle).isEmpty then
    (store, some (.ofText "cannot VACUUM - SQL statements in progress"))
  else
    match store.toExclusive handle with
    | .ok _ => (store, none)
    | .error fault => (store, some fault)

/-! ## Savepoints -/

def setSavepoint (name : Bytes) : Store × Option Fault :=
  if store.isWriting handle then (store, some (inProgress "cannot open savepoint"))
  else
    (store.updateClient handle fun client =>
      { client with
        savepoints := { name, content := client.working } :: client.savepoints
        startsWithSavepoint := client.startsWithSavepoint || client.isAutomatic
        isAutomatic := false }, none)

def noSuchSavepoint (name : Bytes) : Fault where
  message := Bytes.ofAscii "no such savepoint: " ++ name

def savepointsFrom (client : Client) (name : Bytes) : List Savepoint :=
  client.savepoints.dropWhile fun savepoint => !Bytes.sameName savepoint.name name

def releaseSavepoint (name : Bytes) : Store × Option Fault :=
  match store.client? handle with
  | none => (store, some misused)
  | some client =>
      match savepointsFrom client name with
      | [] => (store, some (noSuchSavepoint name))
      | _ :: earlier =>
          if store.isWriting handle then
            (store, some (inProgress "cannot release savepoint"))
          else if earlier.isEmpty && client.startsWithSavepoint then
            store.endTransaction handle
          else
            (store.updateClient handle fun client => { client with savepoints := earlier },
              none)

def rollbackToSavepoint (name : Bytes) : Store × Option Fault :=
  match store.client? handle with
  | none => (store, some misused)
  | some client =>
      match savepointsFrom client name with
      | [] => (store, some (noSuchSavepoint name))
      | savepoint :: earlier =>
          let store := if client.hasNewSchema then forgetSchema store handle else store
          (store.updateClient handle fun client =>
            { client with
              savepoints := savepoint :: earlier
              working := client.working.map fun _ =>
                savepoint.content.getD (store.committed client) }, none)

end Store

end EmbeddedSql.Storage
