import EmbeddedSql.Proofs.Connection.Transactions
import EmbeddedSql.Proofs.Connection.Ways
import EmbeddedSql.Proofs.Session.Accessors
import EmbeddedSql.Proofs.Session.Readers
import EmbeddedSql.Proofs.Session.Rewinding
import EmbeddedSql.Proofs.Session.Echoing
import EmbeddedSql.Proofs.Session.Observing

/-! Main result: the ways of running a text agree. A reader gives the same whether it has the
statement to itself or from a command, rows are counted as a reader finds them, and what is left
of all that is the same. -/

namespace EmbeddedSql.Session

variable {σ : Type} {backend : Backend σ}

/-! ## Accessors of readers with another end -/

section
variable (reader : Reader) (release : Release) (link : Link σ)

theorem columnReport_withRelease (withBytes : Bool) (column : Nat) :
    columnReport backend withBytes (reader.withRelease release) column link =
      ((columnReport backend withBytes reader column link).1,
        (columnReport backend withBytes reader column link).2.withRelease release) := by
  have sameNumbers (column : Nat) : (reader.withRelease release).cell backend.engine column link =
      reader.cell backend.engine column link := rfl
  have sameText := Reader.take_withRelease backend.engine Cell.utf8 reader release column link
  have sameUnits := Reader.take_withRelease backend.engine Cell.utf16
    (reader.take backend.engine Cell.utf8 column link).2 release column link
  unfold columnReport
  simp only [Reader.storageClass, Reader.isNull, Reader.int32, Reader.int64, Reader.real,
    Reader.bytes, sameNumbers]
  split
  · rfl
  · simp only [Reader.string, Reader.utf8, Reader.utf16, sameText, sameUnits]

theorem columnReports_withRelease (withBytes : Bool) (left column : Nat) :
    columnReports backend withBytes link left column (reader.withRelease release) =
      ((columnReports backend withBytes link left column reader).1,
        (columnReports backend withBytes link left column reader).2.withRelease release) := by
  induction left generalizing reader column with
  | zero => rfl
  | succ left induction =>
      unfold columnReports
      rw [columnReport_withRelease]
      rcases columnReport backend withBytes reader column link with ⟨error | report, next⟩
      · rfl
      · dsimp only
        rw [induction]

theorem accessor_withRelease (asked : ReaderRequest) :
    accessor backend asked (reader.withRelease release) link =
      ((accessor backend asked reader link).1,
        (accessor backend asked reader link).2.withRelease release) := by
  cases asked
  case row withBytes =>
    have sameCount : (reader.withRelease release).columnCount backend.engine link =
        reader.columnCount backend.engine link := rfl
    dsimp only [accessor]
    rw [sameCount]
    cases reader.columnCount backend.engine link with
    | error error => rfl
    | ok count =>
        dsimp only
        rw [columnReports_withRelease]
  case string column =>
    simp only [accessor, Reader.string, Reader.utf8, Reader.take_withRelease]
  case utf16 column => simp only [accessor, Reader.utf16, Reader.take_withRelease]
  case copyUtf8 column destination =>
    simp only [accessor, Reader.copyUtf8, Reader.utf8, Reader.take_withRelease]
  case copyUtf16 column destination =>
    simp only [accessor, Reader.copyUtf16, Reader.utf16, Reader.take_withRelease]
  all_goals rfl

theorem decodeRow_withRelease :
    Query.decodeRow backend.engine (reader.withRelease release) link =
      Query.decodeRow backend.engine reader link := by
  have sameRow (left column : Nat) (row : Query.Row) :
      Query.decodeFrom backend.engine (reader.withRelease release) link left column row =
        Query.decodeFrom backend.engine reader link left column row := by
    induction left generalizing column row with
    | zero => rfl
    | succ left induction =>
        unfold Query.decodeFrom
        simp only [induction]
        rfl
  unfold Query.decodeRow
  simp only [sameRow]
  rfl

theorem takeOut_withRelease {view : Reader → Link σ → Except Query.Error α}
    (sees : view (reader.withRelease release) link = view reader link) (answer : α → QueryAnswer)
    (leave : List Cell → List Cell) :
    takeOut answer view leave (reader.withRelease release) link =
      ((takeOut answer view leave reader link).1,
        (takeOut answer view leave reader link).2.withRelease release) := by
  unfold takeOut
  rw [sees]
  cases view reader link <;> rfl

end

/-! ## Sessions that carry a link -/

variable {session base : Session σ} {connection : String} {link : Link σ} {state : σ}

theorem setLink_setLink (next last : Link σ) :
    (session.setLink connection next).setLink connection last =
      session.setLink connection last := by
  cases isHeld : session.connections.get? connection with
  | none => simp [setLink, isHeld]
  | some held => simp [setLink, isHeld, setPool, Registry.insert_insert]

theorem setLink_withState (next : Link σ) (state : σ) :
    session.setLink connection { next with engine := state } =
      { session.setLink connection next with engine := state } := by
  unfold setLink
  cases session.connections.get? connection <;> rfl

/-- What a call makes of the link is no more than what it makes of the engine. -/
structure Carries (session : Session σ) (connection : String) (link : Link σ) : Prop where
  isLink : session.link? connection = some link
  puts : ∀ state, session.setLink connection { link with engine := state } =
    { session with engine := state }

theorem carries_setLink (isLink : session.link? connection = some link) (next : Link σ) :
    ∃ pool, Carries (session.setLink connection next) connection { next with pool } := by
  obtain ⟨held, isHeld, -⟩ := held_of_link? isLink
  have isThere : (session.setLink connection next).connections.get? connection =
      some { held with connection := next.connection } := by
    rw [setLink_connections_of_held next isHeld, Registry.get?_insert_self]
  have samePools : session.pools.set held.pool
      ((session.pools.set held.pool next.pool)[held.pool]?.getD {}) =
        session.pools.set held.pool next.pool := by
    by_cases isNumber : held.pool < session.pools.length
    · rw [List.getElem?_set_self isNumber, Option.getD_some]
    · rw [List.set_eq_of_length_le (by omega), List.set_eq_of_length_le (by omega)]
  refine ⟨(session.setLink connection next).pool held.pool, ?_, fun state => ?_⟩
  · rw [link?_of_held isThere, setLink_engine]
  · rw [setLink_setLink]
    simp only [setLink, isHeld, setPool, pool, samePools]

theorem Carries.other (carries : Carries session connection link) (state : σ)
    (commands : Registry HeldCommand) (readers : Registry HeldReader) :
    Carries { session with engine := state, commands, readers } connection
      { link with engine := state } := by
  obtain ⟨held, isHeld, isLink⟩ := held_of_link? carries.isLink
  have isThere : ({ session with engine := state, commands, readers } :
      Session σ).connections.get? connection = some held := isHeld
  refine ⟨?_, fun next => ?_⟩
  · rw [link?_of_held isThere, isLink]
    rfl
  · have puts := carries.puts next
    unfold setLink at puts ⊢
    rw [isHeld] at puts
    dsimp only at puts ⊢
    rw [isThere]
    injection puts with _ samePools _ _ sameConnections
    simp only [setPool] at samePools ⊢
    simp only [samePools, sameConnections]

/-! ## Sessions with a reader -/

def reading (base : Session σ) (name : String) (held : HeldReader) (state : σ) : Session σ :=
  { base with engine := state, readers := base.readers.insert name held }

section
variable {name : String} {held : HeldReader} (carries : Carries base held.connection link)
include carries

theorem reading_link? :
    (reading base name held state).link? held.connection = some { link with engine := state } :=
  (carries.other state base.commands (base.readers.insert name held)).isLink

theorem reading_read :
    perform backend (reading base name held state) (.reader name .read) =
      let outcome := held.reader.read backend.engine { link with engine := state }
      (.plain ((outcome.1.1.map .boolean).mapError .failed),
        reading base name { held with reader := outcome.1.2 } outcome.2.engine) := by
  have isHeld : (reading base name held state).readers.get? name = some held :=
    Registry.get?_insert_self ..
  have puts := (carries.other state base.commands (base.readers.insert name held)).puts
  rw [perform_read isHeld (reading_link? carries), Reader.read_link]
  dsimp only [reading] at puts ⊢
  rw [puts]
  dsimp only
  rw [Registry.insert_insert]

theorem reading_accessor {asked : ReaderRequest} (isAccessor : asked.isAccessor = true) :
    perform backend (reading base name held state) (.reader name asked) =
      let outcome := accessor backend asked held.reader { link with engine := state }
      (.plain (outcome.1.mapError .failed),
        reading base name { held with reader := outcome.2 } state) := by
  have isHeld : (reading base name held state).readers.get? name = some held :=
    Registry.get?_insert_self ..
  rw [perform_accessor isHeld (reading_link? carries) isAccessor]
  dsimp only [reading]
  rw [Registry.insert_insert]

theorem reading_onReader (view : Reader → Link σ → Except Query.Error QueryAnswer × Reader) :
    onReader (reading base name held state) name view =
      let outcome := view held.reader { link with engine := state }
      (outcome.1.mapError .failed,
        reading base name { held with reader := outcome.2 } state) := by
  have isHeld : (reading base name held state).readers.get? name = some held :=
    Registry.get?_insert_self ..
  rw [onReader, findReader, isHeld]
  dsimp only
  rw [access_of_link (reading_link? carries)]
  dsimp only [reading]
  rw [Registry.insert_insert]

theorem reading_dispose (isNew : base.readers.get? name = none) :
    perform backend (reading base name held state) (.reader name .dispose) =
      (.plain (.ok .nothing),
        { base with
          engine := (held.reader.dispose backend.engine { link with engine := state }).engine }) := by
  have isHeld : (reading base name held state).readers.get? name = some held :=
    Registry.get?_insert_self ..
  have puts := (carries.other state base.commands (base.readers.insert name held)).puts
  have disposes : held.reader.dispose backend.engine { link with engine := state } =
      { link with
        engine :=
          (held.reader.dispose backend.engine { link with engine := state }).engine } := by
    unfold Reader.dispose
    repeat' split
    all_goals rfl
  rw [performReader_of_held isHeld, useReader, reading_link? carries]
  dsimp only
  rw [disposes]
  dsimp only [reading] at puts ⊢
  rw [puts]
  dsimp only
  rw [Registry.erase_insert, Registry.erase_of_missing isNew]

end

/-! ## Two readers of one text -/

def Request.isOfReader (name : String) : Request → Bool
  | .reader other _ => other = name
  | .query (.columnJson other _) => other = name
  | .query (.decodeRow other) => other = name
  | _ => false

def commanding (base : Session σ) (connection command : String) (statement : StatementHandle) :
    Session σ :=
  { base with commands := base.commands.insert command ⟨connection, ⟨statement⟩⟩ }

section
variable {laws : Releasing backend.engine} {connection command name : String}
  {statement : StatementHandle} {last : σ} {first second : Session σ}

/-- A statement that is nobody's but the reader's, and one that is a command's, too. Read to its
end it leaves the last state. -/
inductive Alike (laws : Releasing backend.engine) (base : Session σ)
    (connection command name : String) (link : Link σ) (statement : StatementHandle) (last : σ) :
    Session σ → Session σ → Prop
  | reading {reader : Reader} {state : σ} : reader.statement = statement →
      reader.release = .finalize →
        laws.Uses (.nothing laws.toRewinding) statement { link with engine := state } →
          (∃ count result, reader.RunsOut backend.engine { link with engine := state } count result
            { link with engine := last }) →
            Alike laws base connection command name link statement last
              (reading base name ⟨connection, none, reader⟩ state)
              (reading (commanding base connection command statement) name
                ⟨connection, some command, reader.withRelease .reset⟩ state)
  | released {state : σ} :
      laws.Uses (.nothing laws.toRewinding) statement { link with engine := state } →
        Alike laws base connection command name link statement last
          { base with engine := (backend.engine.finalize statement state).2 }
          { commanding base connection command statement with
            engine := (backend.engine.reset statement state).2 }

theorem Carries.commanding (carries : Carries base connection link) (command : String)
    (statement : StatementHandle) :
    Carries (commanding base connection command statement) connection link := by
  have same : { link with engine := base.engine } = link := by rw [← engine_of_link carries.isLink]
  have carriesToo := carries.other base.engine
    (base.commands.insert command ⟨connection, ⟨statement⟩⟩) base.readers
  rwa [same] at carriesToo

variable (carries : Carries base connection link) (isNew : base.readers.get? name = none)
include carries isNew

/-- Whatever a reader is asked about its row, the statement stays where it is. -/
theorem perform_alike {request : Request}
    (alike : Alike laws base connection command name link statement last first second)
    (isOfReader : request.isOfReader name = true) :
    (perform backend second request).1 = (perform backend first request).1 ∧
      Alike laws base connection command name link statement last
        (perform backend first request).2 (perform backend second request).2 := by
  have carriesToo := carries.commanding command statement
  cases alike with
  | @released state uses =>
      have isGone := @performReader_of_missing σ backend
        { base with engine := (backend.engine.finalize statement state).2 } name isNew
      have isGoneToo := @performReader_of_missing σ backend
        { commanding base connection command statement with
          engine := (backend.engine.reset statement state).2 } name isNew
      cases request with
      | reader other asked =>
          obtain rfl : other = name := by simpa [Request.isOfReader] using isOfReader
          rw [isGone, isGoneToo]
          exact ⟨rfl, .released uses⟩
      | query asked =>
          cases asked <;> try cases isOfReader
          all_goals
            obtain rfl := of_decide_eq_true isOfReader
            simp only [perform, performQuery, onReader, findReader, commanding, isNew]
            exact ⟨trivial, .released uses⟩
      | _ => cases isOfReader
  | @reading reader state isStatement isOwn uses runs =>
      subst isStatement
      have isHeld : (reading base name ⟨connection, none, reader⟩ state).readers.get? name = _ :=
        Registry.get?_insert_self ..
      have isHeldToo : (reading (base.commanding connection command reader.statement) name
          ⟨connection, some command, reader.withRelease .reset⟩ state).readers.get? name = _ :=
        Registry.get?_insert_self ..
      obtain ⟨count, result, runs⟩ := runs
      cases request with
      | reader other asked =>
          obtain rfl : other = name := by simpa [Request.isOfReader] using isOfReader
          by_cases isAccessor : asked.isAccessor = true
          · obtain ⟨cells, isAfter⟩ := accessor_cells backend asked reader
              { link with engine := state }
            rw [reading_accessor carriesToo isAccessor, reading_accessor carries isAccessor]
            dsimp only
            rw [accessor_withRelease, isAfter]
            exact ⟨rfl, .reading rfl isOwn uses ⟨count, result, runs.withCells cells⟩⟩
          cases asked with
          | read =>
              have usesAfter := uses.read
              have runsAfter := runs.read uses.isLive
              rw [Reader.read_statement, Reader.read_link] at usesAfter
              rw [Reader.read_link] at runsAfter
              rw [reading_read carriesToo, reading_read carries]
              dsimp only
              rw [Reader.read_withRelease]
              exact ⟨rfl, .reading (reader.read_statement ..) ((reader.read_release ..).trans isOwn)
                usesAfter runsAfter⟩
          | cursor =>
              rw [performReader_of_held isHeld, performReader_of_held isHeldToo]
              exact ⟨rfl, .reading rfl isOwn uses ⟨count, result, runs⟩⟩
          | dispose =>
              have isNewToo : (base.commanding connection command
                  reader.statement).readers.get? other = none := isNew
              rw [reading_dispose carriesToo isNewToo, reading_dispose carries isNew]
              have isLive := uses.isLive
              simp only [Reader.dispose, Reader.withRelease, isLive, isOwn, Bool.false_eq_true,
                if_false]
              exact ⟨trivial, .released uses⟩
          | _ => exact absurd rfl isAccessor
      | query asked =>
          cases asked with
          | columnJson other column =>
              obtain rfl := of_decide_eq_true isOfReader
              obtain ⟨cells, isAfter⟩ := takeOut_cells QueryAnswer.value
                (Query.columnJson backend.engine · column) (·.modify column Query.leave) reader
                { link with engine := state }
              simp only [perform, performQuery]
              rw [reading_onReader carriesToo, reading_onReader carries]
              dsimp only
              rw [takeOut_withRelease reader .reset _ rfl, isAfter]
              exact ⟨rfl, .reading rfl isOwn uses ⟨count, result, runs.withCells cells⟩⟩
          | decodeRow other =>
              obtain rfl := of_decide_eq_true isOfReader
              obtain ⟨cells, isAfter⟩ := takeOut_cells (fun row => QueryAnswer.row (some row))
                (Query.decodeRow backend.engine) (·.map Query.leave) reader
                { link with engine := state }
              simp only [perform, performQuery]
              rw [reading_onReader carriesToo, reading_onReader carries]
              dsimp only
              rw [takeOut_withRelease reader .reset _ (decodeRow_withRelease ..), isAfter]
              exact ⟨rfl, .reading rfl isOwn uses ⟨count, result, runs.withCells cells⟩⟩
          | _ => cases isOfReader
      | _ => cases isOfReader

theorem run_alike {asks : List Request}
    (alike : Alike laws base connection command name link statement last first second)
    (areOfReader : ∀ asked ∈ asks, asked.isOfReader name = true) :
    (run backend second asks).1 = (run backend first asks).1 ∧
      Alike laws base connection command name link statement last (run backend first asks).2
        (run backend second asks).2 := by
  induction asks generalizing first second with
  | nil => exact ⟨rfl, alike⟩
  | cons asked rest induction =>
      obtain ⟨areFirst, areLater⟩ := List.forall_mem_cons.mp areOfReader
      obtain ⟨sameFirst, alike⟩ := perform_alike carries isNew alike areFirst
      obtain ⟨sameLater, alike⟩ := induction alike areLater
      exact ⟨congrArg₂ List.cons sameFirst sameLater, alike⟩

/-- Both readers are disposed of. -/
theorem dispose_alike
    (alike : Alike laws base connection command name link statement last first second) :
    ∃ state, laws.Uses (.nothing laws.toRewinding) statement { link with engine := state } ∧
      (perform backend first (.reader name .dispose)).2 =
          { base with engine := (backend.engine.finalize statement state).2 } ∧
        (perform backend second (.reader name .dispose)).2 =
          { commanding base connection command statement with
            engine := (backend.engine.reset statement state).2 } := by
  cases alike with
  | @released state uses =>
      have isGone := @performReader_of_missing σ backend
        { base with engine := (backend.engine.finalize statement state).2 } name isNew .dispose
      have isGoneToo := @performReader_of_missing σ backend
        { commanding base connection command statement with
          engine := (backend.engine.reset statement state).2 } name isNew .dispose
      exact ⟨state, uses, congrArg Prod.snd isGone, congrArg Prod.snd isGoneToo⟩
  | @reading reader state isStatement isOwn uses _ =>
      subst isStatement
      have carriesToo := carries.commanding command reader.statement
      have isNewToo : (base.commanding connection command reader.statement).readers.get? name =
          none := isNew
      have isLive := uses.isLive
      refine ⟨state, uses, ?_, ?_⟩
      · rw [reading_dispose carries isNew]
        simp only [Reader.dispose, isLive, isOwn, Bool.false_eq_true, if_false]
      · rw [reading_dispose carriesToo isNewToo]
        simp only [Reader.dispose, Reader.withRelease, isLive, Bool.false_eq_true, if_false]

theorem dispose_done
    (alike : Alike laws base connection command name link statement last first second)
    (isDone : (perform backend first (.reader name .cursor)).1 =
      .plain (.ok (.cursor .done))) :
    (perform backend first (.reader name .dispose)).2 =
      { base with engine := (backend.engine.finalize statement last).2 } := by
  cases alike with
  | @released state uses =>
      have isGone := @performReader_of_missing σ backend
        { base with engine := (backend.engine.finalize statement state).2 } name isNew .cursor
      rw [isGone] at isDone
      cases isDone
  | @reading reader state isStatement isOwn uses runs =>
      have isHeld : (reading base name ⟨connection, none, reader⟩ state).readers.get? name = _ :=
        Registry.get?_insert_self ..
      rw [performReader_of_held isHeld] at isDone
      have isAtEnd : reader.cursor = .done := by
        injection isDone with isDone
        injection isDone with isDone
        injection isDone
      obtain ⟨count, result, runs⟩ := runs
      have isLast : last = state := congrArg Link.engine (runs.of_done uses.isLive isAtEnd)
      have isLive := uses.isLive
      rw [reading_dispose carries isNew, isLast]
      simp only [Reader.dispose, isLive, isOwn, isStatement, Bool.false_eq_true, if_false]

end

/-! ## Counting what a reader finds -/

def Response.ofRead (result : Except Error Bool) : Response :=
  .plain ((result.map .boolean).mapError .failed)

theorem Response.ofRead_inj {result other : Except Error Bool} (same : ofRead result = ofRead other) :
    result = other := by
  rcases result with error | row <;> rcases other with otherError | otherRow <;>
    simp_all [ofRead, Except.map, Except.mapError]

def readsOf (name : String) (count : Nat) : List Request :=
  List.replicate (count + 1) (.reader name .read)

section
variable {name : String} {held : HeldReader} (carries : Carries base held.connection link)
include carries

theorem run_readsOf {count : Nat} {result : Except Error Bool} {last : Link σ}
    (runs : held.reader.RunsOut backend.engine { link with engine := state } count result last) :
    (run backend (reading base name held state) (readsOf name count)).1 =
      List.replicate count (.ofRead (.ok true)) ++ [.ofRead result] := by
  generalize isStart : ({ link with engine := state } : Link σ) = start at runs
  generalize isReader : held.reader = reader at runs
  induction runs generalizing held state with
  | ended reads _ =>
      subst isStart isReader
      show [(perform backend (reading base name held state) (.reader name .read)).1] = _
      rw [reading_read carries, reads]
      rfl
  | @row _ next _ after _ count _ reads runs induction =>
      subst isStart isReader
      have same := held.reader.read_link backend.engine { link with engine := state }
      rw [reads] at same
      have isAfter : ({ link with engine := after.engine } : Link σ) = after := same.symm
      have rest := @induction after.engine { held with reader := next } carries isAfter rfl
      show (perform backend (reading base name held state) (.reader name .read)).1 ::
        (run backend (perform backend (reading base name held state) (.reader name .read)).2
          (readsOf name count)).1 = _
      rw [reading_read carries, reads]
      dsimp only
      rw [rest]
      rfl

theorem runsOut_of_readsOf {count : Nat} {result : Except Error Bool}
    (reads : (run backend (reading base name held state) (readsOf name count)).1 =
      List.replicate count (.ofRead (.ok true)) ++ [.ofRead result]) (isOver : result ≠ .ok true) :
    ∃ last, held.reader.RunsOut backend.engine { link with engine := state } count result last := by
  induction count generalizing held state with
  | zero =>
      have isFirst : (perform backend (reading base name held state) (.reader name .read)).1 =
          .ofRead result := List.head_eq_of_cons_eq reads
      rw [reading_read carries] at isFirst
      exact ⟨_, .ended (Prod.ext (Prod.ext (Response.ofRead_inj isFirst) rfl) rfl) isOver⟩
  | succ count induction =>
      obtain ⟨isFirst, areLater⟩ := List.cons.inj reads
      have isFirst : (perform backend (reading base name held state) (.reader name .read)).1 =
          .ofRead (.ok true) := isFirst
      have areLater : (run backend
          (perform backend (reading base name held state) (.reader name .read)).2
            (readsOf name count)).1 = _ := areLater
      rw [reading_read carries] at isFirst areLater
      obtain ⟨last, runs⟩ := @induction _ { held with
        reader := (held.reader.read backend.engine { link with engine := state }).1.2 } carries
          areLater
      refine ⟨last, .row (Prod.ext (Prod.ext (Response.ofRead_inj isFirst) rfl) ?_) runs⟩
      exact held.reader.read_link backend.engine { link with engine := state }

end

/-! ## What a text comes to -/

/-- What is answered when rows are counted: how many there are, or why their reader fails. -/
def Response.ofCount (result : Except Error Bool) (count : Nat) : Response :=
  .plain ((result.map fun _ => .number count).mapError .failed)

section
variable {laws : Releasing backend.engine} {connection command name : String} {sql : Text}
  {statement : StatementHandle}

/-- The ways of running a text begin with the same statement. -/
structure Compiled (laws : Releasing backend.engine) (session base : Session σ)
    (connection command name : String) (sql : Text) (statement : StatementHandle)
    (link : Link σ) : Prop where
  carries : Carries base connection link
  rests : laws.Rests (.nothing laws.toRewinding) statement link
  isNewCommand : base.commands.get? command = none
  isUnread : base.commandIsRead command = false
  isNewReader : base.readers.get? name = none
  executeReader : perform backend session (.connection connection (.executeReader name sql)) =
    (.plain (.ok .nothing),
      reading base name ⟨connection, none, ⟨statement, .finalize, .beforeFirst, []⟩⟩ base.engine)
  createCommand : perform backend session (.connection connection (.createCommand command sql)) =
    (.plain (.ok .nothing), commanding base connection command statement)
  executeNonQuery : ∀ {count result last},
    (Command.mk statement).reader.RunsOut backend.engine link count result last →
      perform backend session (.connection connection (.executeNonQuery sql)) =
        (.ofCount result count,
          { base with engine := (backend.engine.finalize statement last.engine).2 })

theorem compiled_of_prepare {start prepared : Link σ} (sound : Sound laws.toLedger session)
    (isLink : session.link? connection = some start)
    (prepares : Connection.prepare backend.engine backend.growth sql start =
      (.ok statement, prepared))
    (isNewCommand : session.commands.get? command = none)
    (isUnread : session.commandIsRead command = false)
    (isNewReader : session.readers.get? name = none) :
    ∃ link, Compiled laws session (session.setLink connection prepared) connection command name
      sql statement link := by
  obtain ⟨pool, carries⟩ := carries_setLink isLink prepared
  have sits := sits_of_link sound (.nothing sound.valid) isLink
  have prepared_rests := sits.prepare backend.growth sql
  rw [prepares] at prepared_rests
  have rests := prepared_rests.1
  have isFreeReader : newName (ε := Error) session.readers name = .ok () :=
    newName_of_missing isNewReader
  have isFreeCommand : newName (ε := Error) session.commands command = .ok () :=
    newName_of_missing isNewCommand
  refine ⟨{ prepared with pool }, carries, rests.withPool pool, ?_, ?_, ?_, ?_, ?_, ?_⟩
  · rwa [setLink_commands]
  · rwa [commandIsRead, setLink_readers]
  · rwa [setLink_readers]
  · have executes : Connection.executeReader backend sql start =
        (.ok ⟨statement, .finalize, .beforeFirst, []⟩, prepared) := by
      unfold Connection.executeReader
      rw [Call.bind_of_ok _ prepares]
      rfl
    simp only [perform, performConnection, isFreeReader, onConnection_of_link isLink, executes]
    rfl
  · have creates : Connection.createCommand backend sql start = (.ok ⟨statement⟩, prepared) := by
      unfold Connection.createCommand
      rw [Call.bind_of_ok _ prepares]
      rfl
    simp only [perform, performConnection, isFreeCommand, onConnection_of_link isLink, creates]
    rfl
  · intro count result last runs
    have executes := Connection.executeNonQuery_of_runsOut prepares rests.toUses
      (runs.withPool prepared.pool)
    have sameLink := (runs.withPool prepared.pool).link_eq
    rw [sameLink] at executes
    simp only [perform, performConnection, answering, onConnection_of_link isLink, executes,
      setLink_withState]
    cases result <;> rfl

variable (compiled : Compiled laws session base connection command name sql statement link)
include compiled

/-! ## From a command on -/

theorem Compiled.link_eq : { link with engine := base.engine } = link := by
  rw [← engine_of_link compiled.carries.isLink]

theorem Compiled.lends :
    perform backend (commanding base connection command statement)
        (.command command (.executeReader name)) =
      (.plain (.ok .nothing),
        reading (commanding base connection command statement) name
          ⟨connection, some command, ⟨statement, .reset, .beforeFirst, []⟩⟩ base.engine) := by
  have carries := compiled.carries.commanding command statement
  have isHeld : (commanding base connection command statement).commands.get? command =
      some ⟨connection, ⟨statement⟩⟩ := Registry.get?_insert_self ..
  have isFree := freeCommand_of_unread (ε := Error) isHeld compiled.isUnread
  have puts := carries.puts base.engine
  rw [compiled.link_eq] at puts
  rw [perform_executeReader isFree carries.isLink compiled.rests.isLive compiled.isNewReader, puts]
  rfl

theorem Compiled.counts {count : Nat} {result : Except Error Bool} {last : Link σ}
    (runs : (Command.mk statement).reader.RunsOut backend.engine link count result last) :
    perform backend (commanding base connection command statement)
        (.command command .executeNonQuery) =
      (.ofCount result count,
        { commanding base connection command statement with
          engine := (backend.engine.reset statement last.engine).2 }) := by
  have carries := compiled.carries.commanding command statement
  have isHeld : (commanding base connection command statement).commands.get? command =
      some ⟨connection, ⟨statement⟩⟩ := Registry.get?_insert_self ..
  have isFree := freeCommand_of_unread (ε := Error) isHeld compiled.isUnread
  have executes := Command.executeNonQuery_of_runsOut _ compiled.rests.isLive runs
  have sameLink := runs.link_eq
  rw [sameLink] at executes
  simp only [perform, performCommand, isFree, useCommand, answering,
    onConnection_of_link carries.isLink, executes, carries.puts]
  cases result <;> rfl

theorem Compiled.releases {release : CommandRequest} (isRelease : release ∈ [.finalize, .drop])
    (rests : laws.Rests (.nothing laws.toRewinding) statement { link with engine := state })
    {next : Session σ}
    (isNext : next = { commanding base connection command statement with engine := state }) :
    (perform backend next (.command command release)).2 =
      { base with engine := (backend.engine.finalize statement state).2 } := by
  have carries : Carries next connection { link with engine := state } :=
    isNext ▸ (compiled.carries.commanding command statement).other state _ base.readers
  have isHeld : next.commands.get? command = some ⟨connection, ⟨statement⟩⟩ :=
    isNext ▸ Registry.get?_insert_self ..
  have isUnread : next.commandIsRead command = false := isNext ▸ compiled.isUnread
  have isFree := freeCommand_of_unread (ε := Error) isHeld isUnread
  have finalizes : (Command.mk statement).finalize backend { link with engine := state } =
      (.ok (), { link with engine := (backend.engine.finalize statement state).2 }) :=
    Rewinding.Rests.finalizeCommand_eq rests
  have drops : (Command.mk statement).drop backend { link with engine := state } =
      { link with engine := (backend.engine.finalize statement state).2 } := by
    rw [Command.drop, if_neg (by simp [rests.isLive])]
  have puts := carries.puts (backend.engine.finalize statement state).2
  have isErased : { next with
      engine := (backend.engine.finalize statement state).2
      commands := next.commands.erase command } =
        { base with engine := (backend.engine.finalize statement state).2 } := by
    simp only [isNext, commanding, Registry.erase_insert,
      Registry.erase_of_missing compiled.isNewCommand]
  rcases List.mem_pair.mp isRelease with rfl | rfl
  · simp only [perform, performCommand, isFree, done, answering,
      onConnection_of_link carries.isLink, finalizes, puts]
    exact isErased
  · simp only [perform, performCommand, isFree, done, answering,
      onConnection_of_link carries.isLink, drops, puts]
    exact isErased

end

/-! ## Agreement -/

section
variable (backend) (session) (connection command name : String) (sql : Text)

/-- A new command is made of the text, and lends its statement to a reader. -/
def lending : List Request :=
  [.connection connection (.createCommand command sql), .command command (.executeReader name)]

def counting : List Request :=
  [.connection connection (.createCommand command sql), .command command .executeNonQuery]

def owned : Session σ :=
  (perform backend session (.connection connection (.executeReader name sql))).2

def lent : Session σ :=
  (run backend session (lending connection command name sql)).2

def counted : Response × Session σ :=
  perform backend session (.connection connection (.executeNonQuery sql))

def RefusesAlike (refusal : Refusal Error) (last : Session σ) : Prop :=
  ∀ request ∈ [ConnectionRequest.executeReader name sql, .createCommand command sql,
      .executeNonQuery sql],
    perform backend session (.connection connection request) = (.plain (.error refusal), last)

/-- What the ways of running a text have in common once it has become a statement. -/
structure RunAlike : Prop where
  begin :
    (perform backend session (.connection connection (.executeReader name sql))).1 =
        .plain (.ok .nothing) ∧
      (run backend session (lending connection command name sql)).1 =
        [.plain (.ok .nothing), .plain (.ok .nothing)]
  read : ∀ asks, (∀ asked ∈ asks, asked.isOfReader name = true) →
    (run backend (lent backend session connection command name sql) asks).1 =
      (run backend (owned backend session connection name sql) asks).1
  count : (run backend session (counting connection command sql)).1 =
    [.plain (.ok .nothing), (counted backend session connection sql).1]
  isCounted : ∀ count : Nat,
    (counted backend session connection sql).1 = .plain (.ok (.number count)) ↔
      (run backend (owned backend session connection name sql) (readsOf name count)).1 =
        List.replicate count (.ofRead (.ok true)) ++ [.ofRead (.ok false)]
  fails : ∀ error,
    (counted backend session connection sql).1 = .plain (.error (.failed error)) ↔
      ∃ count, (run backend (owned backend session connection name sql) (readsOf name count)).1 =
        List.replicate count (.ofRead (.ok true)) ++ [.ofRead (.error error)]
  isAnswered :
    (∃ count : Nat, (counted backend session connection sql).1 = .plain (.ok (.number count))) ∨
      ∃ error, (counted backend session connection sql).1 = .plain (.error (.failed error))
  /-- Both readers leave the same, wherever they are let go of. -/
  leave : ∀ asks, (∀ asked ∈ asks, asked.isOfReader name = true) →
    ∀ release ∈ [CommandRequest.finalize, .drop],
      (run backend (lent backend session connection command name sql)
          (asks ++ [.reader name .dispose, .command command release])).2 =
        (run backend (owned backend session connection name sql)
          (asks ++ [.reader name .dispose])).2
  /-- A reader that has come to its end leaves what a count leaves. -/
  leaveAtEnd : ∀ asks, (∀ asked ∈ asks, asked.isOfReader name = true) →
    (perform backend (run backend (owned backend session connection name sql) asks).2
        (.reader name .cursor)).1 = .plain (.ok (.cursor .done)) →
      (run backend (owned backend session connection name sql)
          (asks ++ [.reader name .dispose])).2 = (counted backend session connection sql).2
  leaveCommand : ∀ release ∈ [CommandRequest.finalize, .drop],
    (run backend session (counting connection command sql ++ [.command command release])).2 =
      (counted backend session connection sql).2

/-- The ways of running a text fail alike, or they run the same statement. -/
inductive Agree : Prop
  | unopened {refusal : Refusal Error} {last : Session σ} :
      perform backend session (.connection connection .ensureOpen) =
          (.plain (.error refusal), last) →
        RefusesAlike backend session connection command name sql refusal last → Agree
  | uncompiled {opened : Session σ} {database : DatabaseHandle} {error : Error} :
      perform backend session (.connection connection .ensureOpen) =
          (.plain (.ok .nothing), opened) →
        opened.lifecycle? connection = some (.opened database) →
          backend.engine.compileError? database sql opened.engine = some error →
            RefusesAlike backend session connection command name sql (.failed error)
                { opened with
                  engine := backend.engine.afterCompiling database sql opened.engine } →
              Agree
  | compiled {opened : Session σ} {database : DatabaseHandle} :
      perform backend session (.connection connection .ensureOpen) =
          (.plain (.ok .nothing), opened) →
        opened.lifecycle? connection = some (.opened database) →
          backend.engine.compileError? database sql opened.engine = none →
            RunAlike backend session connection command name sql → Agree

end

section
variable {laws : Releasing backend.engine} {connection command name : String} {sql : Text}

theorem refusesAlike_of_call {refusal : Refusal Error} {last : Session σ}
    (isNewCommand : session.commands.get? command = none)
    (isNewReader : session.readers.get? name = none)
    (fails : ∀ {α : Type} (next : StatementHandle → Call σ α),
      session.onConnection connection
          (Connection.prepare backend.engine backend.growth sql >>= next) =
        (.error refusal, last)) :
    RefusesAlike backend session connection command name sql refusal last := by
  have isFreeReader : newName (ε := Error) session.readers name = .ok () :=
    newName_of_missing isNewReader
  have isFreeCommand : newName (ε := Error) session.commands command = .ok () :=
    newName_of_missing isNewCommand
  have reads : session.onConnection connection (Connection.executeReader backend sql) =
      (.error refusal, last) := fails _
  have creates : session.onConnection connection (Connection.createCommand backend sql) =
      (.error refusal, last) := fails _
  have counts : session.onConnection connection (Connection.executeNonQuery backend sql) =
      (.error refusal, last) := by
    unfold Connection.executeNonQuery Connection.createCommand
    rw [bind_assoc]
    exact fails _
  intro request isOne
  simp only [List.mem_cons, List.not_mem_nil, or_false] at isOne
  rcases isOne with rfl | rfl | rfl
  · simp only [perform, performConnection, isFreeReader, reads, keeping]
  · simp only [perform, performConnection, isFreeCommand, creates, keeping]
  · simp only [perform, performConnection, counts, answering]
    rfl

theorem Response.ofCount_ok {result : Except Error Bool} {count other : Nat} :
    ofCount result count = .plain (.ok (.number other)) ↔
      (∃ row, result = .ok row) ∧ count = other := by
  cases result with
  | error error => simp [ofCount, Except.map, Except.mapError]
  | ok row =>
      simp only [ofCount, Except.map, Except.mapError, Response.plain.injEq, Except.ok.injEq,
        Answer.number.injEq]
      rw [Int.natCast_inj]
      exact ⟨fun same => ⟨⟨row, rfl⟩, same⟩, And.right⟩

theorem Response.ofCount_error {result : Except Error Bool} {count : Nat} {error : Error} :
    ofCount result count = .plain (.error (.failed error)) ↔ result = .error error := by
  cases result with
  | error other => simp [ofCount, Except.map, Except.mapError]
  | ok row => simp [ofCount, Except.map, Except.mapError]

theorem Compiled.runAlike {statement : StatementHandle}
    (compiled : Compiled laws session base connection command name sql statement link) :
    RunAlike backend session connection command name sql := by
  have isOwned : owned backend session connection name sql =
      reading base name ⟨connection, none, ⟨statement, .finalize, .beforeFirst, []⟩⟩ base.engine :=
    congrArg Prod.snd compiled.executeReader
  have isLent : lent backend session connection command name sql =
      reading (commanding base connection command statement) name
        ⟨connection, some command, ⟨statement, .reset, .beforeFirst, []⟩⟩ base.engine := by
    simp only [lent, lending, run, compiled.createCommand, compiled.lends]
  obtain ⟨count, result, last, runs⟩ := Reader.exists_runsOut backend (Command.mk statement).reader
    link
  have isCounted : counted backend session connection sql =
      (.ofCount result count,
        { base with engine := (backend.engine.finalize statement last.engine).2 }) :=
    compiled.executeNonQuery runs
  have runsOwn : (⟨statement, .finalize, .beforeFirst, []⟩ : Reader).RunsOut backend.engine
      { link with engine := base.engine } count result { link with engine := last.engine } := by
    rw [compiled.link_eq, ← runs.link_eq]
    exact runs.withRelease .finalize
  have uses : laws.Uses (.nothing laws.toRewinding) statement { link with engine := base.engine } :=
    compiled.link_eq ▸ compiled.rests.toUses
  have alike : Alike laws base connection command name link statement last.engine _ _ :=
    .reading rfl rfl uses ⟨count, result, runsOwn⟩
  have usesLast : laws.Uses (.nothing laws.toRewinding) statement last :=
    runs.uses compiled.rests.toUses
  constructor
  case begin =>
    refine ⟨congrArg Prod.fst compiled.executeReader, ?_⟩
    simp only [lending, run, compiled.createCommand, compiled.lends]
  case read =>
    intro asks areOfReader
    rw [isOwned, isLent]
    exact (run_alike compiled.carries compiled.isNewReader alike areOfReader).1
  case count =>
    simp only [counting, run, compiled.createCommand, compiled.counts runs, isCounted]
  case isCounted =>
    intro other
    rw [isCounted, isOwned, Response.ofCount_ok]
    constructor
    · rintro ⟨⟨row, rfl⟩, rfl⟩
      cases row with
      | true => exact absurd rfl runs.isOver
      | false => exact run_readsOf compiled.carries runsOwn
    · intro reads
      obtain ⟨otherLast, others⟩ := runsOut_of_readsOf compiled.carries reads (by simp)
      obtain ⟨sameCount, sameResult, -⟩ := runsOwn.unique others
      exact ⟨⟨false, sameResult.symm⟩, sameCount.symm⟩
  case fails =>
    intro error
    rw [isCounted, isOwned, Response.ofCount_error]
    constructor
    · rintro rfl
      exact ⟨count, run_readsOf compiled.carries runsOwn⟩
    · rintro ⟨otherCount, reads⟩
      obtain ⟨otherLast, others⟩ := runsOut_of_readsOf compiled.carries reads (by simp)
      exact (runsOwn.unique others).2.1.symm
  case isAnswered =>
    rw [isCounted]
    cases result with
    | ok row => exact .inl ⟨count, rfl⟩
    | error error => exact .inr ⟨error, rfl⟩
  case leave =>
    intro asks areOfReader release isRelease
    rw [isOwned, isLent, run_append, run_append]
    obtain ⟨state, uses, disposes, disposesToo⟩ := dispose_alike compiled.carries
      compiled.isNewReader (run_alike compiled.carries compiled.isNewReader alike areOfReader).2
    have releases := compiled.releases isRelease uses.reset disposesToo
    rw [laws.finalized_reset uses.valid uses.inUse] at releases
    exact releases.trans disposes.symm
  case leaveAtEnd =>
    intro asks areOfReader isDone
    rw [isOwned] at isDone ⊢
    rw [run_append, isCounted]
    exact dispose_done compiled.carries compiled.isNewReader
      (run_alike compiled.carries compiled.isNewReader alike areOfReader).2 isDone
  case leaveCommand =>
    intro release isRelease
    have rests := usesLast.reset
    rw [runs.link_eq] at rests
    have releases := compiled.releases isRelease rests rfl
    rw [laws.finalized_reset usesLast.valid usesLast.inUse] at releases
    rw [isCounted, run_append]
    simp only [counting, run, compiled.createCommand, compiled.counts runs]
    exact releases

end

/-- A reader of a text and a reader of a command of it, a count of its rows and one by a command:
they fail alike, or they find the same rows, come to the same end and leave the same behind. -/
theorem ways_agree (laws : Releasing backend.engine) {state : σ} (valid : laws.Valid state)
    (isFresh : laws.handles state = .none) (requests : List Request)
    (connection command name : String) (sql : Text) :
    let session := (run backend { engine := state } requests).2
    session.commands.get? command = none → session.readers.get? name = none →
      Agree backend session connection command name sql := by
  intro session isNewCommand isNewReader
  have sound : Sound laws.toLedger session := run_sound (sound_of_nothing valid isFresh) requests
  have isUnique : session.HasUniqueNames := run_uniqueNames backend (.ofNothing state) requests
  have isUnread : session.commandIsRead command = false := by
    rw [commandIsRead, List.any_eq_false]
    intro entry isThere isIts
    have isHeld := Registry.get?_of_mem isUnique.readers isThere
    have isLender := sound.accounts.lent (use_of_reader isHeld) (by simpa [useOfReader] using isIts)
    simp [books, isNewCommand] at isLender
  cases isLink : session.link? connection with
  | none =>
      have isMissing {α : Type} (call : Call σ α) := onConnection_of_missing isLink call
      have opens : perform backend session (.connection connection .ensureOpen) =
          (.plain (.error .noSuchHandle), session) := by
        simp only [perform, performConnection, isMissing]
        rfl
      exact .unopened opens (refusesAlike_of_call isNewCommand isNewReader fun _ => isMissing _)
  | some start =>
      have performs : perform backend session (.connection connection .ensureOpen) =
          let outcome := Connection.ensureOpen backend.engine backend.growth start
          (.plain ((outcome.1.mapError .failed).map fun _ => .nothing),
            session.setLink connection outcome.2) := by
        simp only [perform, performConnection, onConnection_of_link isLink]
        rfl
      rcases opens : Connection.ensureOpen backend.engine backend.growth start with
        ⟨error | ⟨⟩, opened⟩ <;> rw [opens] at performs
      · refine .unopened performs (refusesAlike_of_call isNewCommand isNewReader fun next => ?_)
        have fails := Transactions.prepare_of_unopened backend.growth opens sql
        rw [onConnection_of_link isLink, Call.bind_of_error next fails]
        rfl
      obtain ⟨database, isOpened⟩ := Connection.opened_of_ensureOpen opens
      have isOpenedNow : (session.setLink connection opened).lifecycle? connection =
          some (.opened database) := by
        rw [lifecycle?_setLink session connection isLink, isOpened]
      obtain ⟨result, prepares, isResult⟩ :=
        Connection.prepare_of_opened backend.engine backend.growth isOpened sql
      rw [← Transactions.prepare_of_opens backend.growth opens
        (Connection.ensureOpen_of_opened _ _ isOpened)] at prepares
      cases compiles : backend.engine.compileError? database sql opened.engine with
      | some error =>
          rw [compiles] at isResult
          subst isResult
          refine .uncompiled performs isOpenedNow (by rwa [setLink_engine])
            (refusesAlike_of_call isNewCommand isNewReader fun next => ?_)
          rw [onConnection_of_link isLink, Call.bind_of_error next prepares, setLink_withState,
            setLink_engine]
          rfl
      | none =>
          rw [compiles] at isResult
          obtain ⟨statement, rfl⟩ := isResult
          obtain ⟨link, compiled⟩ := compiled_of_prepare sound isLink prepares isNewCommand isUnread
            isNewReader
          exact .compiled performs isOpenedNow (by rwa [setLink_engine]) compiled.runAlike

def connected : List Request :=
  [.connection "c" (.connect none none none)]

theorem ways_agree_twoRows :
    let session := (run Storage.backend { engine := {} } connected).2
    let sql : Text := .ofString "SELECT 1 UNION ALL SELECT 2"
    (counted Storage.backend session "c" sql).1 = .plain (.ok (.number 2)) ∧
      (run Storage.backend (lent Storage.backend session "c" "k" "r" sql) (readsOf "r" 2)).1 =
        [.ofRead (.ok true), .ofRead (.ok true), .ofRead (.ok false)] := by
  intro session sql
  have isFresh : Storage.custody.Shows {} .none := Storage.custody_empty
  have isMade : (perform Storage.backend session
      (.connection "c" (.executeReader "r" sql))).1 = .plain (.ok .nothing) :=
    Response.of_answer? (by decide +kernel)
  have isCounted : (counted Storage.backend session "c" sql).1 = .plain (.ok (.number 2)) :=
    Response.of_answer? (by decide +kernel)
  have notRefused {refusal : Refusal Error} {last : Session Storage.Store}
      (refuses : RefusesAlike Storage.backend session "c" "k" "r" sql refusal last) : False := by
    rw [refuses _ List.mem_cons_self] at isMade
    cases isMade
  cases ways_agree Storage.releasing isFresh.1 isFresh.2 connected "c" "k" "r" sql rfl rfl with
  | unopened _ refuses => exact (notRefused refuses).elim
  | uncompiled _ _ _ refuses => exact (notRefused refuses).elim
  | compiled _ _ _ alike =>
      have areOfReader : ∀ asked ∈ readsOf "r" 2, asked.isOfReader "r" = true := by decide
      refine ⟨isCounted, (alike.read _ areOfReader).trans ?_⟩
      exact (alike.isCounted 2).mp isCounted

end EmbeddedSql.Session
