import Mathlib.Algebra.GroupWithZero.Nat
import EmbeddedSql.Proofs.Engine.Recording
import EmbeddedSql.Proofs.Session.Readers
import EmbeddedSql.Storage.Backend

/-! Main result: the calls of `read` on one reader, whatever else the session is asked in
between. Each steps the statement once until there is a code that is no row's, and none does
after that. -/

namespace EmbeddedSql.Session

variable {σ : Type}

/-! ## Calls of `read` -/

/-- A call of `read` in a run: the session that it finds, its answer, and the session that it
leaves. -/
structure Reading (σ : Type) where
  before : Session σ
  response : Response
  after : Session σ

def readings (backend : Backend σ) (name : String) (session : Session σ) :
    List Request → List (Reading σ)
  | [] => []
  | request :: rest =>
      let (response, after) := perform backend session request
      let later := readings backend name after rest
      if request.asked? name = some .read then ⟨session, response, after⟩ :: later else later

namespace Reading

/-- The code that a step of the statement comes to at the time of the call. -/
def status (engine : Engine σ) (statement : StatementHandle) (reading : Reading σ) : Int :=
  (engine.step statement reading.before.engine).1

def diagnostic (engine : Engine σ) (statement : StatementHandle) (connection : String)
    (reading : Reading σ) : String :=
  match reading.before.lifecycle? connection with
  | some (.opened database) =>
      Utf8.toString
        (engine.errorMessage database (engine.step statement reading.before.engine).2)
  | _ => ""

def cursor? (name : String) (reading : Reading σ) : Option Cursor :=
  (reading.after.readers.get? name).map (·.reader.cursor)

def steps (statement : StatementHandle) (reading : Reading (Recorded σ)) : Nat :=
  reading.after.engine.record.countP (EngineCall.steps statement) -
    reading.before.engine.record.countP (EngineCall.steps statement)

/-- What comes of a call, and all that it asks of the engine. -/
structure ComesTo (name : String) (reading : Reading (Recorded σ)) (answer : Except Error Bool)
    (cursor : Cursor) (calls : EngineRecord) : Prop where
  response : reading.response = .plain ((answer.map .boolean).mapError .failed)
  cursor : reading.cursor? name = some cursor
  record : reading.after.engine.record = calls ++ reading.before.engine.record

namespace ComesTo

variable {name : String} {statement : StatementHandle} {reading : Reading (Recorded σ)}
  {answer : Except Error Bool} {cursor : Cursor}

theorem steps_one {code : Int}
    (comes : reading.ComesTo name answer cursor [.stepped statement code]) :
    reading.steps statement = 1 := by
  rw [steps, comes.record]
  simp [EngineCall.steps]

theorem steps_zero (comes : reading.ComesTo name answer cursor []) :
    reading.steps statement = 0 := by
  rw [steps, comes.record]
  simp

theorem found (comes : reading.ComesTo name answer cursor calls)
    (same : cursor = .onRow ↔ answer = .ok true) :
    reading.cursor? name = some .onRow ↔ reading.response = .plain (.ok (.boolean true)) := by
  rw [comes.cursor, comes.response, Option.some.injEq, same]
  rcases answer with error | (_ | _) <;> simp [Except.map, Except.mapError]

end ComesTo

end Reading

/-! ## The protocol -/

section
variable (engine : Engine (Recorded σ)) (name connection : String) (statement : StatementHandle)
  (isLenient : Bool)

inductive Protocol : List (Reading (Recorded σ)) → Prop
  | nothing : Protocol []
  | row {reading : Reading (Recorded σ)} {rest : List (Reading (Recorded σ))} :
      reading.status engine statement = Status.row →
        reading.ComesTo name (.ok true) .onRow [.stepped statement Status.row] →
          Protocol rest → Protocol (reading :: rest)
  | verdict {reading : Reading (Recorded σ)} {rest : List (Reading (Recorded σ))} {code : Int} :
      reading.status engine statement = code → code ≠ Status.row →
        reading.ComesTo name
            (Reader.verdict isLenient code (reading.diagnostic engine statement connection)) .done
            [.stepped statement code] →
          (∀ later ∈ rest, later.ComesTo name (.ok false) .done []) → Protocol (reading :: rest)

/-- Where the first code is that is no row's, or where the calls end. -/
def ending (reads : List (Reading (Recorded σ))) : Nat :=
  (reads.map (·.status engine statement)).findIdx (· ≠ Status.row)

variable {engine name connection statement isLenient} {reads : List (Reading (Recorded σ))}

theorem ending_of_row {reading : Reading (Recorded σ)}
    (isRow : reading.status engine statement = Status.row) :
    ending engine statement (reading :: reads) = ending engine statement reads + 1 := by
  simp [ending, List.findIdx_cons, isRow]

theorem ending_of_verdict {reading : Reading (Recorded σ)}
    (isEnd : reading.status engine statement ≠ Status.row) :
    ending engine statement (reading :: reads) = 0 := by
  simp [ending, List.findIdx_cons, isEnd]

theorem Protocol.at (protocol : Protocol engine name connection statement isLenient reads)
    {number : Nat} (isRead : number < reads.length) :
    (number < ending engine statement reads →
      reads[number].ComesTo name (.ok true) .onRow [.stepped statement Status.row]) ∧
    (number = ending engine statement reads →
      reads[number].ComesTo name
        (Reader.verdict isLenient (reads[number].status engine statement)
          (reads[number].diagnostic engine statement connection)) .done
        [.stepped statement (reads[number].status engine statement)]) ∧
    (ending engine statement reads < number →
      reads[number].ComesTo name (.ok false) .done []) := by
  induction protocol generalizing number with
  | nothing => cases isRead
  | row isRow comes _ induction =>
      rw [ending_of_row isRow]
      cases number with
      | zero => exact ⟨fun _ => comes, nofun, nofun⟩
      | succ number =>
          obtain ⟨rows, verdict, rest⟩ := induction (Nat.lt_of_succ_lt_succ isRead)
          exact ⟨fun isBefore => rows (Nat.lt_of_succ_lt_succ isBefore),
            fun isEnding => verdict (Nat.succ.inj isEnding),
            fun isLater => rest (Nat.lt_of_succ_lt_succ isLater)⟩
  | verdict isStatus isEnd comes areOver =>
      subst isStatus
      rw [ending_of_verdict isEnd]
      cases number with
      | zero => exact ⟨nofun, fun _ => comes, nofun⟩
      | succ number =>
          exact ⟨nofun, nofun, fun _ =>
            areOver _ (List.getElem_mem (Nat.lt_of_succ_lt_succ isRead))⟩

theorem steps_of_over (areOver : ∀ later ∈ reads, later.ComesTo name (.ok false) .done [])
    (count : Nat) : ((reads.take count).map (·.steps statement)).sum = 0 := by
  refine List.sum_eq_zero_iff_forall_eq_nat.mpr fun steps isThere => ?_
  obtain ⟨later, isTaken, rfl⟩ := List.mem_map.mp isThere
  exact (areOver later (List.mem_of_mem_take isTaken)).steps_zero

theorem Protocol.steps (protocol : Protocol engine name connection statement isLenient reads)
    {count : Nat} (isMade : count ≤ reads.length) :
    ((reads.take count).map (·.steps statement)).sum =
      min count (ending engine statement reads + 1) := by
  induction protocol generalizing count with
  | nothing =>
      obtain rfl := Nat.le_zero.mp isMade
      rfl
  | row isRow comes _ induction =>
      cases count with
      | zero => simp
      | succ count =>
          rw [List.take_succ_cons, List.map_cons, List.sum_cons, comes.steps_one,
            induction (Nat.le_of_succ_le_succ isMade), ending_of_row isRow]
          omega
  | verdict isStatus isEnd comes areOver =>
      subst isStatus
      cases count with
      | zero => simp
      | succ count =>
          rw [List.take_succ_cons, List.map_cons, List.sum_cons, comes.steps_one,
            steps_of_over areOver, ending_of_verdict isEnd]
          omega

end

/-! ## One request -/

/-- The session has the reader, which has its statement on a connection that is in use. -/
structure Attends (session : Session σ) (name target : String) (statement : StatementHandle)
    (isLenient : Bool) (cursor : Cursor) : Prop where
  reader : ∃ held, session.readers.get? name = some held ∧ held.connection = target ∧
    held.reader.statement = statement ∧ held.reader.cursor = cursor
  connection : ∃ connection, session.books.connection? target = some connection ∧
    connection.lifecycle ≠ .disposed ∧ connection.config.lenientStepStatus = isLenient

namespace Attends

variable {backend : Backend σ} {session : Session σ} {name target : String}
  {statement : StatementHandle} {isLenient : Bool} {cursor : Cursor} {request : Request}

theorem link (attends : session.Attends name target statement isLenient cursor) :
    ∃ link, session.link? target = some link ∧ link.connection.isDisposed = false ∧
      link.connection.config.lenientStepStatus = isLenient ∧ link.engine = session.engine := by
  obtain ⟨connection, isThere, isLive, isConfig⟩ := attends.connection
  obtain ⟨link, isLink, rfl, sameEngine⟩ := link_of_connection isThere
  exact ⟨link, isLink, by simp [Connection.isDisposed, isLive], isConfig, sameEngine⟩

theorem goesOn (attends : session.Attends name target statement isLenient cursor)
    (isKept : request ≠ .connection target .dispose) {next : Cursor}
    (reader : ∃ held, (perform backend session request).2.readers.get? name = some held ∧
      held.connection = target ∧ held.reader.statement = statement ∧ held.reader.cursor = next) :
    (perform backend session request).2.Attends name target statement isLenient next := by
  refine ⟨reader, ?_⟩
  obtain ⟨held, isHeld, rfl, -⟩ := attends.reader
  obtain ⟨connection, isThere, isLive, rfl⟩ := attends.connection
  have keeps : request.disposes held.connection = false :=
    Bool.eq_false_iff.mpr fun disposes =>
      isKept (eq_dispose_of_disposes held.connection disposes)
  obtain ⟨next, isNext, continues⟩ :
      ∃ next, (perform backend session request).2.books.connection? held.connection = some next ∧
        connection.Continues next :=
    live_stays isHeld isThere keeps
  exact ⟨next, isNext, continues.isLive isLive, by rw [continues.config]⟩

theorem other (attends : session.Attends name target statement isLenient cursor)
    (isNoRead : request.asked? name ≠ some .read)
    (isNoEnd : request ≠ .reader name .dispose ∧ request ≠ .connection target .dispose) :
    (perform backend session request).2.Attends name target statement isLenient cursor := by
  refine attends.goesOn isNoEnd.2 ?_
  obtain ⟨held, isHeld, isOn, isStatement, isCursor⟩ := attends.reader
  cases isAsked : request.asked? name with
  | none =>
      obtain ⟨cells, isThere⟩ := reader_stays backend isHeld isAsked
      exact ⟨_, isThere, isOn, isStatement, isCursor⟩
  | some asked =>
      obtain rfl := Request.of_asked isAsked
      obtain ⟨link, isLink, -⟩ := attends.link
      subst isOn
      cases isAccessor : asked.isAccessor with
      | true =>
          obtain ⟨cells, same⟩ := accessor_cells backend asked held.reader link
          rw [perform_accessor isHeld isLink isAccessor, same]
          exact ⟨_, Registry.get?_insert_self .., rfl, isStatement, isCursor⟩
      | false =>
          cases asked with
          | read => exact absurd isAsked isNoRead
          | dispose => exact absurd rfl isNoEnd.1
          | cursor =>
              rw [performReader_of_held isHeld]
              exact ⟨held, isHeld, rfl, isStatement, isCursor⟩
          | _ => cases isAccessor

end Attends

section
variable {backend : Backend σ} {session : Session (Recorded σ)} {name target : String}
  {statement : StatementHandle} {isLenient : Bool} {cursor : Cursor}

abbrev nextReading (backend : Backend σ) (session : Session (Recorded σ)) (name : String) :
    Reading (Recorded σ) :=
  ⟨session, (perform backend.recording session (.reader name .read)).1,
    (perform backend.recording session (.reader name .read)).2⟩

theorem nextReading_comesTo {held : HeldReader} (isHeld : session.readers.get? name = some held)
    {link last : Link (Recorded σ)} (isLink : session.link? held.connection = some link)
    {answer : Except Error Bool} {reader : Reader}
    (reads : held.reader.read backend.recording.engine link = ((answer, reader), last))
    {calls : EngineRecord} (records : last.engine.record = calls ++ session.engine.record) :
    (nextReading backend session name).ComesTo name answer reader.cursor calls ∧
      ∃ held', (nextReading backend session name).after.readers.get? name = some held' ∧
        held'.connection = held.connection ∧ held'.reader = reader := by
  have performs : perform backend.recording session (.reader name .read) = _ :=
    perform_read isHeld isLink
  rw [reads] at performs
  have isAfter : (nextReading backend session name).after.readers.get? name =
      some { held with reader } := by
    rw [nextReading, performs]
    exact Registry.get?_insert_self ..
  refine ⟨⟨?_, ?_, ?_⟩, _, isAfter, rfl, rfl⟩
  · rw [nextReading, performs]
  · rw [Reading.cursor?, isAfter, Option.map_some]
  · rw [nextReading, performs]
    exact (congrArg Recorded.record (setLink_engine ..)).trans records

variable (attends : session.Attends name target statement isLenient cursor)
include attends

theorem Attends.afterRead {next : Cursor}
    (reader : ∃ held, (nextReading backend session name).after.readers.get? name = some held ∧
      held.connection = target ∧ held.reader.statement = statement ∧ held.reader.cursor = next) :
    (nextReading backend session name).after.Attends name target statement isLenient next :=
  have isKept : Request.reader name .read ≠ .connection target .dispose := nofun
  attends.goesOn isKept reader

variable (backend)

theorem Attends.read_done (isDone : cursor = .done) :
    (nextReading backend session name).ComesTo name (.ok false) .done [] ∧
      (nextReading backend session name).after.Attends name target statement isLenient .done := by
  obtain ⟨held, isHeld, rfl, rfl, isCursor⟩ := attends.reader
  obtain ⟨link, isLink, isLive, -, sameEngine⟩ := attends.link
  have reads : held.reader.read backend.recording.engine link = _ :=
    Reader.read_of_done isLive (isCursor.trans isDone)
  have sameRecord : link.engine.record = [] ++ session.engine.record :=
    congrArg Recorded.record sameEngine
  obtain ⟨comes, next, isNext, isOn, isReader⟩ :=
    nextReading_comesTo isHeld isLink reads sameRecord
  rw [isCursor, isDone] at comes
  exact ⟨comes, attends.afterRead ⟨next, isNext, isOn, by rw [isReader],
    by rw [isReader, isCursor, isDone]⟩⟩

/-- A reader that has not come to its end steps its statement once, and the code decides. -/
theorem Attends.read_more (hasMore : cursor ≠ .done) {code : Int}
    (isStatus : (nextReading backend session name).status backend.recording.engine statement =
      code) :
    (code = Status.row →
      (nextReading backend session name).ComesTo name (.ok true) .onRow
          [.stepped statement code] ∧
        (nextReading backend session name).after.Attends name target statement isLenient .onRow) ∧
    (code ≠ Status.row →
      (nextReading backend session name).ComesTo name
          (Reader.verdict isLenient code
            ((nextReading backend session name).diagnostic backend.recording.engine statement
              target))
          .done [.stepped statement code] ∧
        (nextReading backend session name).after.Attends name target statement isLenient .done) := by
  obtain ⟨held, isHeld, rfl, rfl, isCursor⟩ := attends.reader
  obtain ⟨link, isLink, isLive, isConfig, sameEngine⟩ := attends.link
  subst isConfig
  have reads := Reader.read_of_live backend.recording.engine isLive (isCursor ▸ hasMore)
  rw [sameEngine] at reads
  have isCode : (backend.recording.engine.step held.reader.statement session.engine).1 = code :=
    isStatus
  rw [isCode] at reads
  have records : (backend.recording.engine.step held.reader.statement session.engine).2.record =
      [.stepped held.reader.statement code] ++ session.engine.record := by
    rw [← isCode]
    rfl
  constructor
  · rintro rfl
    rw [Reader.settle_row] at reads
    obtain ⟨comes, next, isNext, isOn, isReader⟩ :=
      nextReading_comesTo isHeld isLink reads records
    exact ⟨comes, attends.afterRead ⟨next, isNext, isOn, by rw [isReader], by rw [isReader]⟩⟩
  · intro isEnd
    rw [Reader.settle_verdict isEnd] at reads
    obtain ⟨comes, next, isNext, isOn, isReader⟩ :=
      nextReading_comesTo isHeld isLink reads records
    have sameDiagnostic : Connection.errorMessage backend.recording.engine
        { link with
          engine := (backend.recording.engine.step held.reader.statement session.engine).2 } =
        (nextReading backend session name).diagnostic backend.recording.engine
          held.reader.statement held.connection := by
      rw [Reading.diagnostic, lifecycle?_of_link session _ isLink]
      unfold Connection.errorMessage
      dsimp only
      cases link.connection.lifecycle <;> rfl
    rw [sameDiagnostic] at comes
    exact ⟨comes, attends.afterRead ⟨next, isNext, isOn, by rw [isReader], by rw [isReader]⟩⟩

end

/-! ## Runs -/

section
variable {backend : Backend σ} {name target : String} {statement : StatementHandle}
  {isLenient : Bool}

theorem readings_of_read (session : Session (Recorded σ)) (rest : List Request) :
    readings backend.recording name session (.reader name .read :: rest) =
      nextReading backend session name ::
        readings backend.recording name (nextReading backend session name).after rest := by
  rw [readings]
  exact if_pos (Request.asked?_self name .read)

theorem readings_of_other {session : Session (Recorded σ)} {request : Request}
    (isNoRead : request.asked? name ≠ some .read) (rest : List Request) :
    readings backend.recording name session (request :: rest) =
      readings backend.recording name (perform backend.recording session request).2 rest := by
  rw [readings]
  exact if_neg isNoRead

theorem readings_over {session : Session (Recorded σ)} {requests : List Request}
    (attends : session.Attends name target statement isLenient .done)
    (isKept : ∀ request ∈ requests,
      request ≠ .reader name .dispose ∧ request ≠ .connection target .dispose) :
    ∀ later ∈ readings backend.recording name session requests,
      later.ComesTo name (.ok false) .done [] := by
  induction requests generalizing session with
  | nil => exact nofun
  | cons request rest induction =>
      have restIsKept := fun request isThere => isKept request (List.mem_cons_of_mem _ isThere)
      by_cases isRead : request.asked? name = some .read
      · obtain rfl := Request.of_asked isRead
        obtain ⟨comes, after⟩ := attends.read_done backend rfl
        rw [readings_of_read]
        exact List.forall_mem_cons.mpr ⟨comes, induction after restIsKept⟩
      · rw [readings_of_other isRead]
        exact induction (attends.other isRead (isKept request List.mem_cons_self)) restIsKept

theorem readings_protocol {session : Session (Recorded σ)} {cursor : Cursor}
    {requests : List Request}
    (attends : session.Attends name target statement isLenient cursor) (hasMore : cursor ≠ .done)
    (isKept : ∀ request ∈ requests,
      request ≠ .reader name .dispose ∧ request ≠ .connection target .dispose) :
    Protocol backend.recording.engine name target statement isLenient
      (readings backend.recording name session requests) := by
  induction requests generalizing session cursor with
  | nil => exact .nothing
  | cons request rest induction =>
      have restIsKept := fun request isThere => isKept request (List.mem_cons_of_mem _ isThere)
      by_cases isRead : request.asked? name = some .read
      · obtain rfl := Request.of_asked isRead
        obtain ⟨row, verdict⟩ := attends.read_more backend hasMore rfl
        rw [readings_of_read]
        by_cases isRow : (nextReading backend session name).status backend.recording.engine
          statement = Status.row
        · obtain ⟨comes, after⟩ := row isRow
          exact .row isRow (isRow ▸ comes) (induction after nofun restIsKept)
        · obtain ⟨comes, after⟩ := verdict isRow
          exact .verdict rfl isRow comes (readings_over after restIsKept)
      · rw [readings_of_other isRead]
        exact induction (attends.other isRead (isKept request List.mem_cons_self)) hasMore
          restIsKept

end

/-- A reader that is read again and again on a connection that nobody disposes of, with
anything else asked in between: the calls up to the first code that is no row's find rows, the
next reports what that code stands for, and all later ones find nothing. The statement is
stepped for these calls and never after, and the reader is on a row exactly when the last call
has found one. -/
theorem reads_follow_steps (backend : Backend σ) {session : Session (Recorded σ)} {name : String}
    {held : HeldReader} (isHeld : session.readers.get? name = some held)
    (hasMore : held.reader.cursor ≠ .done) {connection : Connection}
    (isThere : session.books.connection? held.connection = some connection)
    (isLive : connection.lifecycle ≠ .disposed) {requests : List Request}
    (isKept : ∀ request ∈ requests,
      request ≠ .reader name .dispose ∧ request ≠ .connection held.connection .dispose) :
    let engine := backend.recording.engine
    let statement := held.reader.statement
    let reads := readings backend.recording name session requests
    let first := (reads.map (·.status engine statement)).findIdx (· ≠ Status.row)
    (∀ (number : Nat) (isRead : number < reads.length),
      let reading := reads[number]
      let code := reading.status engine statement
      (number < first →
        reading.ComesTo name (.ok true) .onRow [.stepped statement Status.row]) ∧
      (number = first →
        reading.ComesTo name
          (Reader.verdict connection.config.lenientStepStatus code
            (reading.diagnostic engine statement held.connection))
          .done [.stepped statement code]) ∧
      (first < number → reading.ComesTo name (.ok false) .done []) ∧
      (reading.cursor? name = some .onRow ↔ reading.response = .plain (.ok (.boolean true)))) ∧
    ∀ count ≤ reads.length,
      ((reads.take count).map (·.steps statement)).sum = min count (first + 1) := by
  intro engine statement reads first
  have attends : session.Attends name held.connection statement
      connection.config.lenientStepStatus held.reader.cursor :=
    ⟨⟨held, isHeld, rfl, rfl, rfl⟩, connection, isThere, isLive, rfl⟩
  have protocol : Protocol engine name held.connection statement
      connection.config.lenientStepStatus reads :=
    readings_protocol attends hasMore isKept
  refine ⟨fun number isRead => ?_, fun count isMade => protocol.steps isMade⟩
  obtain ⟨rows, verdict, rest⟩ := protocol.at isRead
  refine ⟨rows, verdict, rest, ?_⟩
  rcases Nat.lt_trichotomy number first with isBefore | isFirst | isLater
  · exact (rows isBefore).found (by simp)
  · exact (verdict isFirst).found (by simp [Reader.verdict_ne_true])
  · exact (rest isLater).found (by simp)

/-- A write that is read past its end, with a row of another reader in between. -/
def readPastTheEnd : List Request :=
  [.reader "w" .read, .reader "r" .read, .reader "w" .read, .reader "r" (.int32 0),
    .reader "w" .read]

theorem reads_follow_steps_of_write :
    let session := (run Storage.backend.recording { engine := { state := {} } }
      [.connection "c" (.connect none none none),
        .connection "c" (.executeNonQuery (.ofString "CREATE TABLE t(a)")),
        .connection "c" (.executeReader "r" (.ofString "SELECT 1")),
        .connection "c" (.executeReader "w" (.ofString "INSERT INTO t VALUES(1)"))]).2
    let reads := readings Storage.backend.recording "w" session readPastTheEnd
    ∃ (first last : Reading (Recorded Storage.Store)) (statement : StatementHandle),
      reads[0]? = some first ∧
          first.ComesTo "w" (.ok false) .done [.stepped statement Status.done] ∧
        reads[2]? = some last ∧ last.ComesTo "w" (.ok false) .done [] ∧
          (reads.map (·.steps statement)).sum = 1 := by
  intro session reads
  have isHeld : session.readers.get? "w" =
      some ⟨"c", none, { statement := ⟨2⟩, release := .finalize }⟩ := by
    decide +kernel
  have isThere : session.books.connection? "c" = some { lifecycle := .opened ⟨0⟩ } := by
    decide +kernel
  have isKept : ∀ request ∈ readPastTheEnd,
      request ≠ .reader "w" .dispose ∧ request ≠ .connection "c" .dispose := by
    simp [readPastTheEnd]
  have follows := reads_follow_steps Storage.backend isHeld nofun isThere nofun isKept
  have areThree : reads.length = 3 := by decide +kernel
  have codes : reads.map (·.status Storage.backend.recording.engine ⟨2⟩) =
      [Status.done, Status.done, Status.done] := by
    decide +kernel
  dsimp only at follows
  rw [codes, show [Status.done, Status.done, Status.done].findIdx (· ≠ Status.row) = 0 from rfl]
    at follows
  obtain ⟨answers, steps⟩ := follows
  have isMade {number : Nat} (isBelow : number < 3) : number < reads.length := areThree ▸ isBelow
  have first := (answers 0 (isMade (by decide))).2.1 rfl
  have last := (answers 2 (isMade (by decide))).2.2.1 (by decide)
  have code : (reads[0].status Storage.backend.recording.engine ⟨2⟩) = Status.done := by
    have isThere := congrArg (·[0]?) codes
    simpa [List.getElem?_eq_getElem (isMade (by decide : 0 < 3))] using isThere
  have total := steps 3 (Nat.le_of_eq areThree.symm)
  rw [List.take_of_length_le (Nat.le_of_eq areThree)] at total
  rw [code] at first
  exact ⟨_, _, ⟨2⟩, List.getElem?_eq_getElem _, first, List.getElem?_eq_getElem _, last, total⟩

end EmbeddedSql.Session
