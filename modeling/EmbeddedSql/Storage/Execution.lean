import EmbeddedSql.Storage.Remainder

/-! Running statements. The first step does all the work of a statement that changes
something; further steps only give rows. Main statement: a step that gives a row leaves
fewer rows to give. -/

namespace EmbeddedSql.Storage

open Plan (Fault Program Work)

/-- The code of a fault, which is never that of a row or of a proper end. -/
def faultCode (fault : Fault) : Int :=
  if fault.code = Status.row ∨ fault.code = Status.done then Status.error else fault.code

theorem faultCode_ne_row (fault : Fault) : faultCode fault ≠ Status.row := by
  unfold faultCode
  split
  · decide
  · rename_i isFailure
    exact fun isRow => isFailure (.inl isRow)

theorem faultCode_ne_done (fault : Fault) : faultCode fault ≠ Status.done := by
  unfold faultCode
  split
  · decide
  · rename_i isFailure
    exact fun isDone => isFailure (.inr isDone)

namespace Store

def environment (store : Store) (client : Client) (statement : Statement) :
    Plan.Environment where
  parameters := statement.bindings
  database := store.content client
  counters := client.counters

/-! ## The end of a statement -/

def count (store : Store) (handle : DatabaseHandle) (changed : Option Nat) : Store :=
  match changed with
  | none => store
  | some changed =>
      store.updateClient handle fun client =>
        { client with
          counters :=
            { client.counters with
              changes := changed
              totalChanges := client.counters.totalChanges + changed } }

/-- Outside of a transaction the changes become permanent with the last statement that
changes something. -/
def settle (store : Store) (handle : DatabaseHandle) (changed : Option Nat) :
    Store × Option Fault :=
  if (store.client? handle).any (·.isAutomatic) && !store.isWriting handle then
    match store.commit handle with
    | (store, none) => (count (store.settleLock handle) handle changed, none)
    | (store, some fault) =>
        (count (store.rollback handle) handle (changed.map fun _ => 0), some fault)
  else (count store handle changed, none)

def report (store : Store) (handle : DatabaseHandle) (fault : Fault) : Store :=
  store.updateClient handle fun client => { client with message := fault.message }

def finish (store : Store) (statement : Statement) (running : Running) : Store × Option Fault :=
  let store := store.setPhase statement.handle (.halted Status.ok)
  match settle store statement.client running.changed with
  | (store, none) => (store, none)
  | (store, some fault) =>
      let store := store.setPhase statement.handle (.halted (faultCode fault))
      (report store statement.client fault, some fault)

/-- Ends a statement that a fault has stopped. What becomes of the changes is up to
the fault. -/
def fail (store : Store) (statement : Statement) (changed : Option Nat) (fault : Fault) :
    Store :=
  let handle := statement.client
  let store := store.setPhase statement.handle (.halted (faultCode fault))
  let kept := changed.map fun changed => if fault.resolution = .fail then changed else 0
  let isLast := (store.client? handle).any (·.isAutomatic) && !store.isWriting handle
  let store :=
    if fault.resolution = .fail then (settle store handle kept).1
    else if isLast || fault.resolution = .rollback then count (store.rollback handle) handle kept
    else count store handle kept
  report store handle fault

/-! ## The beginning of a statement -/

inductive Need where
  | nothing
  | reading
  | writing
deriving DecidableEq

def needOf : Program → Need
  | .query _ true => .reading
  | .change _ => .writing
  | .define _ _ => .writing
  | _ => .nothing

def acquire (store : Store) (handle : DatabaseHandle) : Need → Except Fault Store
  | .nothing => .ok store
  | .reading => store.toRead handle
  | .writing => store.toWrite handle

def circumstances (store : Store) (client : Client) : Plan.Circumstances where
  isMemory :=
    match client.file.bind store.file? with
    | some { place := .file _, .. } => false
    | _ => true
  path := client.path
  foreignKeys := client.foreignKeys
  isAutomatic := client.isAutomatic

def compile (store : Store) (client : Client) (database : Database) (parsed : Sql.Parsed)
    (body : Sql.Statement) : Except Plan.Failure (Program × Option Plan.Setting) :=
  Program.compile { database, foreignKeys := client.foreignKeys }
    (store.circumstances client) parsed body

/-- Compiles a statement anew, since the schema may have changed since it was compiled
before. -/
def recompile (store : Store) (statement : Statement) : Except Fault (Store × Statement) :=
  let handle := statement.client
  let need := needOf statement.program
  match acquire store handle need with
  | .error fault => .error fault
  | .ok store =>
      if need = .nothing then .ok (store, statement)
      else
        match store.client? handle with
        | none => .error misused
        | some client =>
            let database := store.content client
            match store.compile client database statement.parsed statement.body with
            | .error failure => .error { code := failure.code, message := failure.message }
            | .ok (program, _) =>
                let store := store.updateClient handle fun client =>
                  { client with schema := some database }
                let store := store.updateStatement statement.handle fun statement =>
                  { statement with program }
                match acquire store handle (needOf program) with
                | .error fault => .error fault
                | .ok store => .ok (store, { statement with program })

/-! ## Execution -/

/-- How far a statement comes: rows may be left, or a fault stops it after some
changes. -/
abbrev Outcome := Except (Option Nat × Fault) Running

def runQuery (store : Store) (client : Client) (statement : Statement)
    (selection : Plan.Selection) (reads : Bool) : Outcome :=
  let environment := store.environment client statement
  match selection.window environment with
  | .error fault => .error (none, fault)
  | .ok window =>
      match selection.scan with
      | some scan => .ok { remainder := .scanning scan none window, reads }
      | none =>
          let rows := window.apply (selection.rows environment)
          .ok { remainder := .computed rows.items rows.fault, reads }

def runEffect (store : Store) (client : Client) (statement : Statement)
    (effect : Plan.Effect Unit) : Except Fault Unit × Work :=
  let initial : Work :=
    { parameters := statement.bindings
      database := store.content client
      counters := client.counters }
  (effect.run).run initial

def keepWork (store : Store) (handle : DatabaseHandle) (work : Work) : Store :=
  store.updateClient handle fun client =>
    let isNew := decide ((store.content client).schemaVersion ≠ work.database.schemaVersion)
    { client with
      working := some work.database
      schema := if isNew then some work.database else client.schema
      hasNewSchema := client.hasNewSchema || isNew }

def runChange (store : Store) (client : Client) (statement : Statement)
    (change : Plan.Change) : Store × Outcome :=
  let handle := statement.client
  let (result, work) := runEffect store client statement (change.run [])
  let store := store.updateClient handle fun client =>
    { client with
      counters := { work.counters with changes := client.counters.changes } }
  match result with
  | .ok () =>
      (keepWork store handle work,
        .ok
          { remainder := .computed work.results.reverse none
            reads := true, writes := true, changed := some work.changed })
  | .error fault =>
      let store := if fault.resolution = .fail then keepWork store handle work else store
      (store, .error (some work.changed, fault))

def runDefinition (store : Store) (client : Client) (statement : Statement)
    (effect : Plan.Effect Unit) (drops : Bool) : Store × Outcome :=
  if drops && store.isReading statement.client then (store, .error (none, locked))
  else
    match runEffect store client statement effect with
    | (.ok (), work) =>
        (keepWork store statement.client work,
          .ok { remainder := .computed [] none, reads := true, writes := true })
    | (.error fault, _) => (store, .error (none, fault))

def withoutRows : Store × Option Fault → Store × Outcome
  | (store, none) => (store, .ok { remainder := .computed [] none })
  | (store, some fault) => (store, .error (none, fault))

def execute (store : Store) (client : Client) (statement : Statement) :
    Store × Outcome :=
  let handle := statement.client
  match statement.program with
  | .query selection reads => (store, runQuery store client statement selection reads)
  | .change change => runChange store client statement change
  | .define effect drops => runDefinition store client statement effect drops
  | .begin kind => withoutRows (store.beginTransaction handle kind)
  | .commit => withoutRows (store.commitTransaction handle)
  | .rollback => withoutRows (store.rollbackTransaction handle)
  | .savepoint name => withoutRows (store.setSavepoint handle name)
  | .release name => withoutRows (store.releaseSavepoint handle name)
  | .rollbackTo name => withoutRows (store.rollbackToSavepoint handle name)
  | .vacuum => withoutRows (store.vacuum handle)
  | .nothing => withoutRows (store, none)

def isCounting (statement : Statement) : Option Nat :=
  match statement.program with
  | .change _ => some 0
  | _ => none

def start (store : Store) (statement : Statement) : Except (Int × Store) Store :=
  let stop (store : Store) (changed : Option Nat) (fault : Fault) : Int × Store :=
    (faultCode fault, store.fail statement changed fault)
  match recompile store statement with
  | .error fault => .error (stop store (isCounting statement) fault)
  | .ok (store, statement) =>
      match store.client? statement.client with
      | none => .error (stop store none misused)
      | some client =>
          match execute store client statement with
          | (store, .error (changed, fault)) => .error (stop store changed fault)
          | (store, .ok running) =>
              .ok (store.setPhase statement.handle (.running running))

/-! ## Steps -/

def advance (store : Store) (handle : StatementHandle) : Int × Store :=
  match store.statement? handle with
  | none => (Status.misuse, store)
  | some statement =>
      match statement.phase, store.client? statement.client with
      | .running running, some client =>
          match running.remainder.next (store.environment client statement) with
          | .row values remainder =>
              let row := values.map (Cell.stored (store.content client).encoding)
              (Status.row, store.setPhase handle (.running { running with remainder, row }))
          | .done =>
              match store.finish statement running with
              | (store, none) => (Status.done, store)
              | (store, some fault) => (faultCode fault, store)
          | .failed fault =>
              (faultCode fault, store.fail statement (running.changed.map fun _ => 0) fault)
      | _, _ => (Status.misuse, store)

def step (store : Store) (handle : StatementHandle) : Int × Store :=
  match store.statement? handle with
  | none => (Status.misuse, store)
  | some statement =>
      match statement.phase with
      | .running _ => advance store handle
      | _ =>
          match start store statement with
          | .error (code, store) => (code, store)
          | .ok store => advance store handle

/-! ## A bound on the rows -/

def boundOf (store : Store) (statement : Statement) : Phase → Nat
  | .running running =>
      (store.client? statement.client).elim 0 fun client =>
        running.remainder.bound (store.content client)
  | _ => 0

def runningBound (store : Store) (handle : StatementHandle) : Nat :=
  (store.statement? handle).elim 0 fun statement => boundOf store statement statement.phase

def isRunning (store : Store) (handle : StatementHandle) : Bool :=
  ((store.statement? handle).bind (·.running?)).isSome

/-- No fewer than the rows that a statement still gives. One that is not running would
start at its next step. -/
def remaining (store : Store) (handle : StatementHandle) : Nat :=
  if isRunning store handle then runningBound store handle
  else runningBound (store.step handle).2 handle + 1

private theorem advance_row {store : Store} {handle : StatementHandle}
    (isRow : (store.advance handle).1 = Status.row) :
    isRunning (store.advance handle).2 handle = true ∧
      runningBound (store.advance handle).2 handle < runningBound store handle := by
  have misuseIsNoRow : Status.misuse ≠ Status.row := by decide
  have doneIsNoRow : Status.done ≠ Status.row := by decide
  unfold advance at isRow ⊢
  split at isRow
  · exact absurd isRow misuseIsNoRow
  · rename_i statement found
    split at isRow
    · rename_i running client phase foundClient
      split at isRow
      · rename_i values remainder foundRow
        have after := statement?_setPhase (.running { running with
          remainder, row := values.map (Cell.stored (store.content client).encoding) }) found
        have sameClient : (store.setPhase handle (.running { running with
            remainder, row := values.map (Cell.stored (store.content client).encoding) })).client?
              statement.client = some client := foundClient
        refine ⟨by simp [isRunning, after, Statement.running?], ?_⟩
        simp only [runningBound, after, found, Option.elim_some, boundOf, sameClient, phase,
          foundClient]
        exact Remainder.bound_next_lt foundRow
      · split at isRow
        · exact absurd isRow doneIsNoRow
        · exact absurd isRow (faultCode_ne_row _)
      · exact absurd isRow (faultCode_ne_row _)
    · exact absurd isRow misuseIsNoRow

private theorem start_ne_row {store : Store} {statement : Statement} {code : Int}
    {after : Store} (stopped : start store statement = .error (code, after)) :
    code ≠ Status.row := by
  unfold start at stopped
  simp only at stopped
  split at stopped
  · cases stopped
    exact faultCode_ne_row _
  · split at stopped
    · cases stopped
      exact faultCode_ne_row _
    · split at stopped
      · cases stopped
        exact faultCode_ne_row _
      · cases stopped

theorem step_of_running {store : Store} {handle : StatementHandle}
    (running : isRunning store handle = true) : store.step handle = advance store handle := by
  unfold step
  unfold isRunning at running
  split
  · simp_all
  · split
    · rfl
    · simp_all [Statement.running?]

theorem step_row {store : Store} {handle : StatementHandle}
    (isRow : (store.step handle).1 = Status.row) :
    isRunning (store.step handle).2 handle = true := by
  have misuseIsNoRow : Status.misuse ≠ Status.row := by decide
  unfold step at isRow ⊢
  split at isRow
  · exact absurd isRow misuseIsNoRow
  · split at isRow
    · exact (advance_row isRow).1
    · split at isRow
      · rename_i stopped
        exact absurd isRow (start_ne_row stopped)
      · exact (advance_row isRow).1

theorem remaining_step {store : Store} {handle : StatementHandle}
    (isRow : (store.step handle).1 = Status.row) :
    (store.step handle).2.remaining handle < store.remaining handle := by
  have after : (store.step handle).2.remaining handle =
      runningBound (store.step handle).2 handle := by
    rw [remaining, if_pos (step_row isRow)]
  rw [after]
  by_cases running : isRunning store handle = true
  · rw [remaining, if_pos running]
    rw [step_of_running running] at isRow ⊢
    exact (advance_row isRow).2
  · rw [remaining, if_neg running]
    exact Nat.lt_succ_self _

end Store

end EmbeddedSql.Storage
