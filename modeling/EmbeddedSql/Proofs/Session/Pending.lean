import EmbeddedSql.Proofs.Session.Custody.Run
import EmbeddedSql.Proofs.Session.Holders
import EmbeddedSql.Proofs.Session.Lifecycle
import EmbeddedSql.Proofs.Session.Release

/-! Counting statements: what is pending on a connection is what its commands and its
readers own, one statement each. -/

namespace EmbeddedSql

namespace Session

variable {σ : Type} {backend : Backend σ} {session : Session σ} {name : String}

/-! ## Owners of statements -/

def holders (session : Session σ) : List (Holder × Use) :=
  session.commands.map (fun entry => (.command entry.1, useOfCommand entry.2)) ++
    session.readers.map fun entry => (.reader entry.1, useOfReader entry.2)

/-- The holders whose statements are their own, on one connection. -/
def owners (session : Session σ) (connection : String) : List (Holder × Use) :=
  session.holders.filter fun entry =>
    entry.2.connection = connection ∧ entry.2.lender? = none

/-- How many commands there are on a connection, and readers that have their statements
from no command. -/
def pendingCount (session : Session σ) (connection : String) : Nat :=
  (session.commands.filter fun entry => entry.2.connection = connection).length +
    (session.readers.filter fun entry =>
      entry.2.connection = connection ∧ entry.2.command = none).length

theorem length_owners (connection : String) :
    (session.owners connection).length = session.pendingCount connection := by
  simp [owners, holders, pendingCount, List.filter_append, List.filter_map, Function.comp_def,
    useOfCommand, useOfReader]

theorem mem_holders (isUnique : session.HasUniqueNames) {holder : Holder} {use : Use} :
    (holder, use) ∈ session.holders ↔ session.books.use? holder = some use := by
  have isCommand {name : String} {held : HeldCommand} :
      (name, held) ∈ session.commands ↔ session.commands.get? name = some held :=
    Registry.mem_iff_get? isUnique.commands
  have isReader {name : String} {held : HeldReader} :
      (name, held) ∈ session.readers ↔ session.readers.get? name = some held :=
    Registry.mem_iff_get? isUnique.readers
  cases holder <;> simp [holders, books, isCommand, isReader]

theorem holders_nodup (isUnique : session.HasUniqueNames) : session.holders.Nodup := by
  refine List.Nodup.of_map Prod.fst ?_
  have split : session.holders.map (·.1) =
      session.commands.names.map .command ++ session.readers.names.map .reader := by
    simp [holders, Registry.names, Function.comp_def]
  rw [split, List.nodup_append]
  refine ⟨isUnique.commands.map fun _ _ => Holder.command.inj,
    isUnique.readers.map fun _ _ => Holder.reader.inj, ?_⟩
  intro holder isCommand other isReader
  rcases List.mem_map.mp isCommand with ⟨_, -, rfl⟩
  rcases List.mem_map.mp isReader with ⟨_, -, rfl⟩
  rintro ⟨⟩

section
variable {handles : Handles} (accounts : Accounts handles session.books)
  (isUnique : session.HasUniqueNames) {connection : Connection}
  (isThere : session.books.connection? name = some connection)
include accounts isUnique isThere

theorem owned_nodup (isLive : connection.lifecycle ≠ .disposed) :
    ((session.owners name).map (·.2.statement)).Nodup := by
  refine List.Nodup.map_on ?_ ((holders_nodup isUnique).filter _)
  rintro ⟨holder, use⟩ isOwner ⟨other, otherUse⟩ isOther sameStatement
  simp only [owners, List.mem_filter, mem_holders isUnique, decide_eq_true_eq] at isOwner isOther
  obtain ⟨isUsed, isHere, isOwn⟩ := isOwner
  obtain ⟨isOtherUsed, isOtherHere, isOtherOwn⟩ := isOther
  have sameUse : otherUse = use := by
    cases use
    cases otherUse
    simp_all
  subst sameUse
  have sameHolder : holder = other :=
    accounts.distinct isUsed isOtherUsed isOwn (isHere ▸ isThere) isLive
  rw [sameHolder]

theorem mem_owned {database : DatabaseHandle} (isOpened : connection.lifecycle = .opened database)
    (statement : StatementHandle) :
    statement ∈ (session.owners name).map (·.2.statement) ↔
      handles.owner? statement = some database := by
  simp only [owners, List.mem_map, List.mem_filter, Prod.exists, mem_holders isUnique,
    decide_eq_true_eq]
  constructor
  · rintro ⟨holder, use, ⟨isUsed, isHere, -⟩, rfl⟩
    rcases accounts.holds_of isUsed (isHere ▸ isThere) with isDisposed | ⟨other, isOther, isOwner, -⟩
    · cases isOpened.symm.trans isDisposed
    · rw [isOwner, Lifecycle.opened.inj (isOther.symm.trans isOpened)]
  · intro isOwner
    rcases accounts.owned isOwner with ⟨holder, use, found, isUsed, isOwn, isIt, isFound, foundOpened⟩
    exact ⟨holder, use, ⟨isUsed, accounts.separate isFound foundOpened isThere isOpened, isOwn⟩, isIt⟩

end

/-- A sound session counts the statements of a connection right. -/
theorem pendingStatements_of_sound {custody : Custody backend.engine}
    (isListedOnce : ∀ {state database}, custody.Valid state →
      (custody.handles state).isOpen database = true →
        (backend.engine.statements database state).Nodup)
    (sound : Sound custody.toLedger session) (isUnique : session.HasUniqueNames)
    {held : HeldConnection} (isHeld : session.connections.get? name = some held)
    (isLive : held.connection.lifecycle ≠ .disposed) :
    (performConnection backend session name .pendingStatements).1 =
        .ok (.number (session.pendingCount name)) ∧
      (held.connection.lifecycle = .unopened → session.pendingCount name = 0) := by
  have isThere : session.books.connection? name = some held.connection := by simp [books, isHeld]
  have answers : (performConnection backend session name .pendingStatements).1 =
      ((Connection.pendingStatements backend.engine
          { connection := held.connection, pool := session.pool held.pool
            engine := session.engine }).1.mapError .failed).map
        fun (count : Nat) => .number count := by
    show (answering _ (session.onConnection name _)).1 = _
    rw [onConnection_of_link (link?_of_held isHeld)]
    rfl
  rw [answers, Connection.pendingStatements_apply, ← length_owners]
  cases isLifecycle : held.connection.lifecycle with
  | disposed => exact absurd isLifecycle isLive
  | unopened =>
      -- whoever owns a statement has a connection that is open or disposed
      have noOwners : session.owners name = [] := by
        refine List.filter_eq_nil_iff.mpr fun owner isHolder isOwner => ?_
        obtain ⟨holder, use⟩ := owner
        have isHere : use.connection = name := by simp_all
        have isUsed := (mem_holders isUnique).mp isHolder
        rcases sound.accounts.holds_of isUsed (isHere ▸ isThere) with isDisposed | ⟨_, isOpened, -⟩
        · cases isLifecycle.symm.trans isDisposed
        · cases isLifecycle.symm.trans isOpened
      rw [noOwners]
      exact ⟨rfl, fun _ => rfl⟩
  | opened database =>
      have isOpen := sound.accounts.isOpen isThere isLifecycle
      have sameStatements : (backend.engine.statements database session.engine).Perm
          ((session.owners name).map (·.2.statement)) := by
        refine (List.perm_ext_iff_of_nodup (isListedOnce sound.valid isOpen)
          (owned_nodup sound.accounts isUnique isThere isLive)).mpr fun statement => ?_
        exact (custody.mem_statements sound.valid isOpen).trans
          (mem_owned sound.accounts isUnique isThere isLifecycle statement).symm
      have sameCount : (backend.engine.statements database session.engine).length =
          (session.owners name).length := by
        rw [sameStatements.length_eq, List.length_map]
      exact ⟨by rw [← sameCount]; rfl, by simp⟩

/-! ## Runs -/

inductive Request.LeavesNoHolder (name : String) : Request → Prop
  | executeNonQuery (sql) : LeavesNoHolder name (.connection name (.executeNonQuery sql))
  | execute (sql values) : LeavesNoHolder name (.query (.execute name sql values))
  | fetchAll (sql values) : LeavesNoHolder name (.query (.fetchAll name sql values))
  | fetchOne (sql values) : LeavesNoHolder name (.query (.fetchOne name sql values))
  | executeTransaction (statements) :
      LeavesNoHolder name (.query (.executeTransaction name statements))

theorem pendingCount_of_leavesNoHolder {request : Request}
    (leaves : request.LeavesNoHolder name) (connection : String) :
    (perform backend session request).2.pendingCount connection =
      session.pendingCount connection := by
  have same : (perform backend session request).2.commands = session.commands ∧
      (perform backend session request).2.readers = session.readers := by
    cases leaves <;> exact ⟨onConnection_commands .., onConnection_readers ..⟩
  rw [pendingCount, same.1, same.2, pendingCount]

theorem follows_of_leavesNoHolder {request : Request} (leaves : request.LeavesNoHolder name) :
    Follows name session (perform backend session request).2 := by
  cases leaves with
  | executeNonQuery sql =>
      exact performConnection_follows backend session name name (.executeNonQuery sql)
        fun ends => ends.elim nofun nofun
  | execute sql values => exact performQuery_follows backend session name (.execute name sql values)
  | fetchAll sql values =>
      exact performQuery_follows backend session name (.fetchAll name sql values)
  | fetchOne sql values =>
      exact performQuery_follows backend session name (.fetchOne name sql values)
  | executeTransaction statements =>
      exact performQuery_follows backend session name (.executeTransaction name statements)

/-- Whatever a session has been asked, a connection that is not disposed of has as many
pending statements as there are commands on it and readers without a command. Statements
that are run at once are never among them, however that ends. -/
theorem pending_statements_counted (custody : Custody backend.engine)
    (isListedOnce : ∀ {state database}, custody.Valid state →
      (custody.handles state).isOpen database = true →
        (backend.engine.statements database state).Nodup)
    {state : σ} (valid : custody.Valid state) (isFresh : custody.handles state = .none)
    (requests : List Request) {name : String} {held : HeldConnection} :
    let session := (run backend { engine := state } requests).2
    session.connections.get? name = some held → held.connection.lifecycle ≠ .disposed →
      (performConnection backend session name .pendingStatements).1 =
          .ok (.number (session.pendingCount name)) ∧
        (held.connection.lifecycle = .unopened → session.pendingCount name = 0) ∧
          ∀ request, request.LeavesNoHolder name →
            (performConnection backend (perform backend session request).2 name
                .pendingStatements).1 = .ok (.number (session.pendingCount name)) := by
  intro session isHeld isLive
  have sound : Sound custody.toLedger session := run_sound (sound_of_nothing valid isFresh) requests
  have isUnique : session.HasUniqueNames := run_uniqueNames backend (.ofNothing state) requests
  have counted := pendingStatements_of_sound isListedOnce sound isUnique isHeld isLive
  refine ⟨counted.1, counted.2, fun request leaves => ?_⟩
  have follows : Follows name session (perform backend session request).2 :=
    follows_of_leavesNoHolder leaves
  rcases follows held isHeld with ⟨next, isNext, continues⟩
  have staysLive : next.connection.lifecycle ≠ .disposed := by
    intro isDisposed
    have continued := continues.lifecycle
    rw [isDisposed] at continued
    cases isLifecycle : held.connection.lifecycle <;> rw [isLifecycle] at continued
    · cases continued
    · cases continued
    · exact isLive isLifecycle
  have isSame : (perform backend session request).2.pendingCount name =
      session.pendingCount name :=
    pendingCount_of_leavesNoHolder leaves name
  rw [← isSame]
  exact (pendingStatements_of_sound isListedOnce (perform_sound sound request)
    (perform_uniqueNames backend isUnique request) isNext staysLive).1

/-- Two commands, one of them read, and a reader without a command. -/
def commandsAndReaders : List Request :=
  [.connection "c" (.connect none none none),
    .connection "c" (.createCommand "k" (.ofString "SELECT 1")),
    .connection "c" (.createCommand "l" (.ofString "SELECT 2")),
    .connection "c" (.executeReader "r" (.ofString "SELECT 3")),
    .command "k" (.executeReader "s"),
    .reader "s" .read]

theorem pending_statements_counted_under_readers :
    let session := (run Storage.backend { engine := {} } commandsAndReaders).2
    let broken := .query (.executeTransaction "c" [(.ofString "INSERT INTO t VALUES (1)", [])])
    (performConnection Storage.backend session "c" .pendingStatements).1 = .ok (.number 3) ∧
      (performConnection Storage.backend (perform Storage.backend session broken).2 "c"
        .pendingStatements).1 = .ok (.number 3) := by
  intro session broken
  have isFresh : Storage.custody.Shows {} .none := Storage.custody_empty
  obtain ⟨held, isHeld⟩ : ∃ held, session.connections.get? "c" = some held :=
    Option.isSome_iff_exists.mp (by decide +kernel)
  have isLive : ¬(session.connections.get? "c").any (·.connection.lifecycle = .disposed) := by
    decide +kernel
  have counted := pending_statements_counted (Storage.custody.within Storage.custody_listsOnce)
    (fun valid _ => valid.2.statements _) ⟨isFresh.1, .nil⟩ isFresh.2 commandsAndReaders isHeld
    (by simpa [isHeld] using isLive)
  have isThree : session.pendingCount "c" = 3 := by decide +kernel
  rw [← show ((3 : Nat) : Int) = 3 from rfl, ← isThree]
  exact ⟨counted.1, counted.2.2 broken (.executeTransaction _)⟩

end Session

end EmbeddedSql
