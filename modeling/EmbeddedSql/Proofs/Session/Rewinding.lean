import EmbeddedSql.Proofs.Session.Guards
import EmbeddedSql.Proofs.Session.Pending
import EmbeddedSql.Proofs.Storage.Rewinding

/-! Main result: a command that is not read is reset, whatever its executions have come to. -/

namespace EmbeddedSql.Session

open EmbeddedSql.Call (Ends)

variable {σ ε α : Type} {backend : Backend σ} {laws : Rewinding backend.engine}
  {session : Session σ} {watch : Watch laws.toCustody}

section
variable (sound : Sound laws.toLedger session)
include sound

/-! ## What is watched -/

theorem perform_guards (guards : watch.Guards session.engine) (rested : Rested laws session)
    (request : Request)
    (mayUse : ∀ {statement}, session.IsAbout statement request → watch.watched statement →
      laws.Endures watch.Keeps)
    (stays : ∀ {statement}, watch.watched statement → ¬LetsGo laws session statement request) :
    watch.Guards (perform backend session request).2.engine := by
  cases request with
  | pool request =>
      have objects : SameObjects session _ := performPool_objects backend request
      exact objects.engine ▸ guards
  | connection name request => exact performConnection_guards sound guards name request stays
  | command name request =>
      exact (performCommand_guards sound guards rested name request mayUse stays).1
  | reader name request =>
      show watch.Guards (performReader backend session name request).2.engine
      unfold performReader
      cases isFound : session.findReader (ε := Error) name with
      | error refusal => exact guards
      | ok held =>
          have isHeld := of_findReader isFound
          refine (useReader_guards sound guards isHeld request
            (fun isOpened => mayUse ⟨held, isHeld, isOpened, rfl⟩) ?_).1
          intro isDispose isOpened isOwn isWatched
          exact stays isWatched ⟨isDispose, held, isHeld, isOpened, isOwn, rfl⟩
  | query request => exact performQuery_guards sound guards rested request mayUse

theorem holder_of_statement {holder other : Holder} {use otherUse : Use}
    (isUsed : session.books.use? holder = some use) (isOwn : use.lender? = none)
    (isOpened : session.IsOpened use.connection)
    (isOther : session.books.use? other = some otherUse) (isOtherOwn : otherUse.lender? = none)
    (isOtherOpened : session.IsOpened otherUse.connection)
    (isSame : otherUse.statement = use.statement) : other = holder := by
  obtain ⟨connection, isThere, holds⟩ := sound.accounts.holds isUsed
  obtain ⟨otherConnection, isOtherThere, otherHolds⟩ := sound.accounts.holds isOther
  have opened {name : String} {found : Connection} (isOpened : session.IsOpened name)
      (isThere : session.books.connection? name = some found) : found.lifecycle ≠ .disposed := by
    obtain ⟨database, isLifecycle⟩ := isOpened
    intro isDisposed
    rw [lifecycle?] at isLifecycle
    obtain ⟨held, isHeld, rfl⟩ := Option.map_eq_some_iff.mp isThere
    rw [isHeld, Option.map_some, isDisposed] at isLifecycle
    cases isLifecycle
  have isLive := opened isOpened isThere
  rcases holds with isDisposed | ⟨database, isLifecycle, isOwner, -⟩
  · exact absurd isDisposed isLive
  rcases otherHolds with isDisposed | ⟨otherDatabase, otherLifecycle, otherOwner, -⟩
  · exact absurd isDisposed (opened isOtherOpened isOtherThere)
  rw [isSame] at otherOwner
  obtain rfl := Option.some.inj (isOwner.symm.trans otherOwner)
  have sameConnection := sound.accounts.separate isOtherThere otherLifecycle isThere isLifecycle
  have sameUse : otherUse = use := by
    cases use
    cases otherUse
    simp_all
  exact sound.accounts.distinct isOther (sameUse ▸ isUsed) isOtherOwn isOtherThere
    (opened isOtherOpened isOtherThere)

theorem inUse_of_command {name : String} {held : HeldCommand}
    (isHeld : session.commands.get? name = some held) (isOpened : session.IsOpened held.connection) :
    (laws.handles session.engine).InUse held.command.statement := by
  obtain ⟨connection, isThere, holds⟩ := sound.accounts.holds (use_of_command isHeld)
  obtain ⟨found, isFound, rfl⟩ := Option.map_eq_some_iff.mp isThere
  have isFound : session.connections.get? held.connection = some found := isFound
  obtain ⟨opened, isOpened⟩ := isOpened
  rcases holds with isDisposed | ⟨database, -, isOwner, isOpen⟩
  · have isDisposed : found.connection.lifecycle = .disposed := isDisposed
    rw [lifecycle?, isFound, Option.map_some, isDisposed] at isOpened
    cases isOpened
  · exact ⟨database, isOwner, isOpen⟩

theorem opened_of_live {name : String} {held : HeldCommand}
    (isHeld : session.commands.get? name = some held)
    (isLive : session.lifecycle? held.connection ≠ some .disposed) :
    session.IsOpened held.connection := by
  obtain ⟨connection, isThere, holds⟩ := sound.accounts.holds (use_of_command isHeld)
  obtain ⟨found, isFound, rfl⟩ := Option.map_eq_some_iff.mp isThere
  have isFound : session.connections.get? held.connection = some found := isFound
  rw [lifecycle?, isFound, Option.map_some] at isLive
  rcases holds with isDisposed | ⟨database, isOpened, -⟩
  · exact absurd (congrArg some isDisposed) isLive
  · exact ⟨database, by rw [lifecycle?, isFound, Option.map_some]; exact congrArg some isOpened⟩

theorem name_of_statement {name : String} {held : HeldCommand}
    (isHeld : session.commands.get? name = some held) (isOpened : session.IsOpened held.connection)
    {other : String} (has : session.HasCommand other held.command.statement) : other = name := by
  obtain ⟨found, isFound, isFoundOpened, isSame⟩ := has
  have isHolder := holder_of_statement sound (use_of_command isHeld) rfl isOpened
    (use_of_command isFound) rfl isFoundOpened isSame
  exact Holder.command.inj isHolder

theorem lender_of_statement {name : String} {held : HeldCommand}
    (isHeld : session.commands.get? name = some held) (isOpened : session.IsOpened held.connection)
    {reader : String} {found : HeldReader} (isFound : session.readers.get? reader = some found)
    (isFoundOpened : session.IsOpened found.connection)
    (isSame : found.reader.statement = held.command.statement) : found.command = some name := by
  have isReading := use_of_reader isFound
  cases isFrom : found.command with
  | none =>
      have isHolder := holder_of_statement sound (use_of_command isHeld) rfl isOpened isReading
        isFrom isFoundOpened isSame
      cases isHolder
  | some lender =>
      have isLender := sound.accounts.lent isReading isFrom
      have isHolder := holder_of_statement sound (use_of_command isHeld) rfl isOpened isLender rfl
        isFoundOpened isSame
      rw [Holder.command.inj isHolder]

end

/-! ## One request -/

section
variable {name : String} {held : HeldCommand} {request : Request}

/-- A command that nobody reads after a request was not read before, or its reader has been
disposed of. -/
theorem unread_before (isUnread : (perform backend session request).2.IsUnread name) :
    session.IsUnread name ∨
      ∃ reader found, request = .reader reader .dispose ∧
        session.readers.get? reader = some found ∧ found.command = some name := by
  by_cases isDisposing : ∃ reader found, request = .reader reader .dispose ∧
      session.readers.get? reader = some found ∧ found.command = some name
  · exact .inr isDisposing
  refine .inl fun {reader found} isFound isIts => ?_
  have changes : HoldersChange request session _ := perform_holders backend request
  rcases changes.readers.of_before isFound with isThere | ⟨new, suits, isThere⟩ | isDispose
  · exact isUnread isThere isIts
  · exact isUnread isThere ((suits.command isFound).trans isIts)
  · exact isDisposing ⟨reader, found, isDispose, isFound, isIts⟩

variable (sound : Sound laws.toLedger session)
include sound

theorem opened_before (isHeld : session.commands.get? name = some held)
    (isOpened : (perform backend session request).2.IsOpened held.connection) :
    session.IsOpened held.connection := by
  obtain ⟨database, isNext⟩ := isOpened
  obtain ⟨connection, isThere, holds⟩ := sound.accounts.holds (use_of_command isHeld)
  obtain ⟨found, isFound, rfl⟩ := Option.map_eq_some_iff.mp isThere
  have isFound : session.connections.get? held.connection = some found := isFound
  have isLifecycle : session.lifecycle? held.connection = some found.connection.lifecycle := by
    rw [lifecycle?, isFound, Option.map_some]
  have isKept : ((perform backend session request).2.lifecycle? held.connection).isSome := by
    rw [isNext]
    rfl
  obtain ⟨next, isAfter, steps⟩ := step_of_kept isLifecycle isKept
  obtain rfl := Option.some.inj (isNext.symm.trans isAfter)
  rcases holds with isDisposed | ⟨before, isOpened, -⟩
  · have isDisposed : found.connection.lifecycle = .disposed := isDisposed
    rw [isDisposed] at steps
    rcases steps with continues | ⟨-, isLive, -⟩
    · cases continues
    · exact absurd rfl isLive
  · exact ⟨before, isLifecycle.trans (congrArg some isOpened)⟩

theorem isElsewhere_of_opened (isHeld : session.commands.get? name = some held)
    (isOpened : session.IsOpened held.connection)
    (staysOpened : (perform backend session request).2.IsOpened held.connection)
    {connection : String} {ends : ConnectionRequest} (isRequest : request = .connection connection ends) :
    ¬LetsGo laws session held.command.statement (.connection connection ends) := by
  rintro ⟨isEnd, database, isLifecycle, isOwner⟩
  obtain ⟨found, isThere, holds⟩ := sound.accounts.holds (use_of_command isHeld)
  obtain ⟨other, isOther, sameLifecycle⟩ := Option.map_eq_some_iff.mp isLifecycle
  have isOtherThere : session.books.connection? connection = some other.connection := by
    simp [books, isOther]
  obtain ⟨heldConnection, isFound, rfl⟩ := Option.map_eq_some_iff.mp isThere
  have isFound : session.connections.get? held.connection = some heldConnection := isFound
  have sameConnection : held.connection = connection := by
    rcases holds with isDisposed | ⟨own, ownLifecycle, ownOwner, -⟩
    · have isDisposed : heldConnection.connection.lifecycle = .disposed := isDisposed
      obtain ⟨opened, isOpened⟩ := isOpened
      rw [lifecycle?, isFound, Option.map_some, isDisposed] at isOpened
      cases isOpened
    · obtain rfl := Option.some.inj (isOwner.symm.trans ownOwner)
      exact sound.accounts.separate isThere ownLifecycle isOtherThere sameLifecycle
  subst sameConnection
  rcases isEnd with rfl | ⟨rfl, isUnused⟩
  · obtain ⟨opened, staysOpened⟩ := staysOpened
    subst isRequest
    have isDisposed := (perform_dispose_of_live backend session held.connection isLifecycle (by simp)).2
    cases staysOpened.symm.trans isDisposed
  · exact connection_of_used isUnused _ _ (use_of_command isHeld) rfl

theorem stays_of_not_about (isHeld : session.commands.get? name = some held)
    (isOpened : session.IsOpened held.connection)
    (staysOpened : (perform backend session request).2.IsOpened held.connection)
    (isAbout : ¬session.IsAbout held.command.statement request) :
    ¬LetsGo laws session held.command.statement request := by
  intro letsGo
  cases request with
  | pool request => exact letsGo
  | connection connection request =>
      exact isElsewhere_of_opened sound isHeld isOpened staysOpened rfl letsGo
  | command command request => exact isAbout letsGo.2
  | reader reader request =>
      obtain ⟨-, found, isFound, isFoundOpened, -, isSame⟩ := letsGo
      exact isAbout ⟨found, isFound, isFoundOpened, isSame⟩
  | query request => exact letsGo

/-- A command that a request is about rests after it. -/
theorem rests_of_about (rested : Rested laws session)
    (isHeld : session.commands.get? name = some held) (isOpened : session.IsOpened held.connection)
    (isAbout : session.IsAbout held.command.statement request)
    (isAfter : (perform backend session request).2.commands.get? name = some held)
    (isUnread : (perform backend session request).2.IsUnread name) :
    laws.IsReset (perform backend session request).2.engine held.command.statement := by
  have guards : (Watch.nothing laws).Guards session.engine := .nothing sound.valid
  have isCommand {command : String} (has : session.HasCommand command held.command.statement) :
      command = name := name_of_statement sound isHeld isOpened has
  cases request with
  | pool request => exact isAbout.elim
  | connection connection request => exact isAbout.elim
  | command command request =>
      obtain rfl := isCommand isAbout
      have wasUnread : session.IsUnread command := by
        rcases unread_before isUnread with isUnread | ⟨reader, found, isReader, -⟩
        · exact isUnread
        · cases isReader
      have left := (performCommand_guards sound guards rested command request
        (fun _ => False.elim) fun isWatched => isWatched.elim).2 isHeld wasUnread isOpened
      rcases left with isReset | isGone
      · exact isReset
      · cases isGone.symm.trans isAfter
  | reader reader request =>
      obtain ⟨found, isFound, isFoundOpened, isSame⟩ := isAbout
      have isLender := lender_of_statement sound isHeld isOpened isFound isFoundOpened isSame
      rcases unread_before isUnread with wasUnread | ⟨other, disposed, isDispose, -, -⟩
      · exact absurd isLender (wasUnread isFound)
      obtain ⟨rfl, rfl⟩ := Request.reader.inj isDispose
      have isFree : session.findReader (ε := Error) reader = .ok found := by
        rw [findReader, isFound]
      have left := (useReader_guards sound guards isFound .dispose (fun _ => False.elim)
        fun _ _ _ => id).2 rfl
        (by simp [isLender]) isFoundOpened
      show laws.IsReset (performReader backend session reader .dispose).2.engine _
      unfold performReader
      rw [isFree, ← isSame]
      exact left
  | query request =>
      have wasUnread : session.IsUnread name := by
        rcases unread_before isUnread with isUnread | ⟨reader, found, isReader, -⟩
        · exact isUnread
        · cases isReader
      cases request with
      | bindValue command index value =>
          obtain rfl := isCommand isAbout
          exact (onCommand_stays sound guards rested (fun _ => False.elim)
            (fun statement _ isDisposed => by
              rw [Query.bindValue_refuses backend.engine backend.growth statement index value _
                isDisposed])
            fun rests => rests.bindValue index value).2 isHeld wasUnread isOpened
      | bindValues command values =>
          obtain rfl := isCommand isAbout
          exact (onCommand_stays sound guards rested (fun _ => False.elim)
            (fun statement _ => bindValues_untouched statement values)
            fun rests => rests.bindValues values).2 isHeld wasUnread isOpened
      | _ => exact isAbout.elim

theorem perform_rested (rested : Rested laws session) (request : Request) :
    Rested laws (perform backend session request).2 := by
  intro name held isAfter isUnread isOpenedAfter
  have changes : HoldersChange request session _ := perform_holders backend request
  rcases changes.commands.of_after isAfter with isHeld | ⟨isNew, connection, sql, isRequest⟩
  case inr =>
    subst isRequest
    obtain ⟨link, last, isLink, creates, sameEngine⟩ := createCommand_made isNew isAfter
    have ended := (sits_of_link sound (.nothing sound.valid) isLink).createCommand sql
    rw [creates] at ended
    exact (congrArg (laws.IsReset · _) sameEngine).mpr ended.1.isReset
  have isOpened := opened_before sound isHeld isOpenedAfter
  by_cases isAbout : session.IsAbout held.command.statement request
  · exact rests_of_about sound rested isHeld isOpened isAbout isAfter isUnread
  -- A request that is about other statements leaves it as it was.
  have wasUnread : session.IsUnread name := by
    rcases unread_before isUnread with isUnread | ⟨reader, found, rfl, isFound, isIts⟩
    · exact isUnread
    · have isLender := sound.accounts.lent (use_of_reader isFound) isIts
      rw [use_of_command isHeld, Option.some.injEq] at isLender
      have sameConnection : held.connection = found.connection := congrArg Use.connection isLender
      have sameStatement : held.command.statement = found.reader.statement :=
        congrArg Use.statement isLender
      exact (isAbout ⟨found, isFound, sameConnection ▸ isOpened, sameStatement.symm⟩).elim
  let watch : Watch laws.toCustody :=
    ⟨laws.IsReset, laws.spares, fun statement => statement = held.command.statement⟩
  have guards : watch.Guards session.engine := by
    refine ⟨sound.valid, ?_, ?_⟩
    · rintro _ rfl
      exact inUse_of_command sound isHeld isOpened
    · rintro _ rfl
      exact rested isHeld wasUnread isOpened
  refine (perform_guards sound guards rested request ?_ ?_).areKept rfl
  · rintro _ isAboutIt rfl
    exact absurd isAboutIt isAbout
  · rintro _ rfl
    exact stays_of_not_about sound isHeld isOpened isOpenedAfter isAbout

omit sound in
theorem run_rested (sound : Sound laws.toLedger session) (rested : Rested laws session)
    (requests : List Request) : Rested laws (run backend session requests).2 := by
  induction requests generalizing session with
  | nil => exact rested
  | cons request rest induction =>
      exact induction (perform_sound sound request) (perform_rested sound rested request)

omit sound in
theorem sound_and_rested {state : σ} (valid : laws.Valid state)
    (isFresh : laws.handles state = .none) (requests : List Request) :
    Sound laws.toLedger (run backend { engine := state } requests).2 ∧
      Rested laws (run backend { engine := state } requests).2 := by
  have isSound : Sound laws.toLedger { engine := state } := sound_of_nothing valid isFresh
  have fresh : Rested laws { engine := state } := fun isHeld => nomatch isHeld
  exact ⟨run_sound isSound requests, run_rested isSound fresh requests⟩

end

/-! ## Answers -/

def Response.ReportsFinalize : Response → Prop
  | .plain (.error (.failed error)) => ∃ code, error = .finalizeFailed code
  | .query (.error (.failed error)) => ∃ code, error = .connection (.finalizeFailed code)
  | _ => False

def Response.ReportsMisuse : Response → Prop
  | .plain (.error (.failed error)) => error = .bindFailed Status.misuse
  | .query (.error (.failed error)) => error = .connection (.bindFailed Status.misuse)
  | _ => False

inductive Request.BindsAt (command : String) (position : Int32) : Request → Prop
  | bind (argument) : BindsAt command position (.command command (.bind (.index position) argument))
  | bindText (text) : BindsAt command position (.command command (.bindText (.index position) text))
  | bindValue (value) : BindsAt command position (.query (.bindValue command position value))

section
variable (sound : Sound laws.toLedger session)
include sound

theorem query_isNoFinalize {name : String} {call : Query.Call σ α} (answer : α → QueryAnswer)
    (ends : ∀ {link}, laws.Sits (.nothing laws) link →
      Ends (call link) (laws.LeavesQuery (.nothing laws)) fun _ => laws.Sits (.nothing laws)) :
    ¬(Response.query (replying answer (session.onConnection name call)).1).ReportsFinalize := by
  cases isLink : session.link? name with
  | none =>
      rw [onConnection_of_missing isLink]
      exact id
  | some link =>
      have ended := ends (sits_of_link sound (.nothing sound.valid) isLink)
      rw [onConnection_of_link isLink]
      rcases outcome : call link with ⟨error | made, last⟩ <;> rw [outcome] at ended
      · exact fun ⟨code, isFinalize⟩ => ended.1 code isFinalize
      · exact id

theorem not_reportsFinalize {name : String} {request : Request}
    (leaves : request.LeavesNoHolder name) :
    ¬(perform backend session request).1.ReportsFinalize := by
  cases leaves with
  | executeNonQuery sql =>
      simp only [perform, performConnection]
      cases isLink : session.link? name with
      | none =>
          rw [onConnection_of_missing isLink]
          exact id
      | some link =>
          have ended := (sits_of_link sound (.nothing sound.valid) isLink).executeNonQuery sql
          rw [onConnection_of_link isLink]
          rcases outcome : Connection.executeNonQuery backend sql link with ⟨error | answer, last⟩ <;>
            rw [outcome] at ended
          · rintro ⟨code, isFinalize⟩
            exact ended.1 code isFinalize
          · exact id
  | execute sql values => exact query_isNoFinalize sound _ fun sits => sits.execute sql values
  | fetchAll sql values => exact query_isNoFinalize sound _ fun sits => sits.fetchAll sql values
  | fetchOne sql values => exact query_isNoFinalize sound _ fun sits => sits.fetchOne sql values
  | executeTransaction statements =>
      exact query_isNoFinalize sound _ fun sits => sits.executeTransaction statements

section
variable {name : String} {held : HeldCommand}
  (isFree : session.freeCommand (ε := Error) name = .ok held)
  (isOpened : session.IsOpened held.connection) (rested : Rested laws session)
include isFree isOpened rested

theorem rests_of_free : ∃ link, session.link? held.connection = some link ∧
    laws.Rests (.nothing laws) held.command.statement link := by
  obtain ⟨isHeld, -⟩ := of_freeCommand isFree
  obtain ⟨database, isLifecycle⟩ := isOpened
  obtain ⟨found, isFound, -⟩ := Option.map_eq_some_iff.mp isLifecycle
  have isLink := link?_of_held isFound
  refine ⟨_, isLink, ?_⟩
  have isLive : found.connection.lifecycle ≠ .disposed := by
    rw [lifecycle?, isFound, Option.map_some, Option.some.injEq] at isLifecycle
    simp [isLifecycle]
  have isReset := rested isHeld (isUnread_of_free isFree)
  exact (rests_of_command sound (.nothing sound.valid) isHeld isReset (fun _ => False.elim) isLink
    isLive).2

theorem not_reportsMisuse {position : Int32} (isPosition : 1 ≤ position.toInt)
    (isInRange : position.toInt ≤
      backend.engine.parameterCount held.command.statement session.engine)
    {request : Request} (binds : request.BindsAt name position) :
    ¬(perform backend session request).1.ReportsMisuse := by
  obtain ⟨link, isLink, rests⟩ := rests_of_free sound isFree isOpened rested
  rw [← engine_of_link isLink] at isInRange
  have isFreeQuery : session.freeCommand (ε := Query.Error) name = .ok held := free_of_free isFree
  cases binds with
  | bind argument =>
      have isFine := rests.bindParameter_isNoMisuse backend.growth isPosition isInRange argument
      simp only [perform, performCommand, isFree, useCommand, onConnection_of_link isLink]
      rcases outcome : Parameter.bind backend.engine backend.growth held.command.statement
        (.index position) argument link with ⟨error | answer, last⟩ <;> rw [outcome] at isFine
      · exact fun isMisuse => isFine (congrArg Except.error isMisuse)
      · exact id
  | bindText text =>
      have isFine := rests.bindText_isNoMisuse backend.growth isPosition isInRange text
      simp only [perform, performCommand, isFree, useCommand, onConnection_of_link isLink]
      rcases outcome : Parameter.bindText backend.engine backend.growth held.command.statement
        (.index position) text link with ⟨error | answer, last⟩ <;> rw [outcome] at isFine
      · exact fun isMisuse => isFine (congrArg Except.error isMisuse)
      · exact id
  | bindValue value =>
      have isFine := rests.bindParameter_isNoMisuse backend.growth isPosition isInRange
        (Query.argumentOf value)
      simp only [perform, performQuery, onCommand, isFreeQuery, onConnection_of_link isLink,
        Query.bindValue, Query.Call.ofConnection]
      rcases outcome : Parameter.bind backend.engine backend.growth held.command.statement
        (.index position) (Query.argumentOf value) link with ⟨error | answer, last⟩ <;>
          rw [outcome] at isFine
      · exact fun isMisuse => isFine (congrArg Except.error (Query.Error.connection.inj isMisuse))
      · exact id

theorem finalize_isOk :
    (perform backend session (.command name .finalize)).1 = .plain (.ok .nothing) := by
  obtain ⟨link, isLink, rests⟩ := rests_of_free sound isFree isOpened rested
  obtain ⟨last, finalizes, -⟩ := rests.finalizeCommand nofun
  simp only [perform, performCommand, isFree, onConnection_of_link isLink, finalizes]
  rfl

end

end

/-- However often commands have been executed, and however that has ended, a command that
nobody reads is reset. So it takes values, its end reports no failure, and neither does that
of statements which are run at once. -/
theorem commands_rewound (laws : Rewinding backend.engine) {state : σ}
    (valid : laws.Valid state) (isFresh : laws.handles state = .none) (requests : List Request) :
    let session := (run backend { engine := state } requests).2
    (∀ {name held}, session.freeCommand (ε := Error) name = .ok held →
      session.lifecycle? held.connection ≠ some .disposed →
        laws.IsReset session.engine held.command.statement ∧
          (∀ {position : Int32} {request : Request}, 1 ≤ position.toInt →
            position.toInt ≤ backend.engine.parameterCount held.command.statement session.engine →
              request.BindsAt name position →
                ¬(perform backend session request).1.ReportsMisuse) ∧
            (perform backend session (.command name .finalize)).1 = .plain (.ok .nothing)) ∧
      ∀ {name request}, request.LeavesNoHolder name →
        ¬(perform backend session request).1.ReportsFinalize := by
  intro session
  have start : Sound laws.toLedger { engine := state } := sound_of_nothing valid isFresh
  have sound : Sound laws.toLedger session := run_sound start requests
  have fresh : Rested laws { engine := state } := fun isHeld => nomatch isHeld
  have rested : Rested laws session := run_rested start fresh requests
  refine ⟨fun {name held} isFree isLive => ?_, not_reportsFinalize sound⟩
  obtain ⟨isHeld, -⟩ := of_freeCommand isFree
  have isOpened : session.IsOpened held.connection := opened_of_live sound isHeld isLive
  exact ⟨rested isHeld (isUnread_of_free isFree) isOpened,
    fun isPosition isInRange binds =>
      not_reportsMisuse sound isFree isOpened rested isPosition isInRange binds,
    finalize_isOk sound isFree isOpened rested⟩

def failedAndAbandoned : List Request :=
  [.connection "c" (.connect none none none),
    .connection "c" (.executeNonQuery (.ofString "CREATE TABLE t(a INTEGER PRIMARY KEY)")),
    .connection "c" (.executeNonQuery (.ofString "INSERT INTO t VALUES(1)")),
    .connection "c" (.createCommand "k" (.ofString "INSERT INTO t VALUES(?1)")),
    .command "k" (.bind (.index 1) (.integer 1)),
    .command "k" .executeNonQuery,
    .connection "c" (.createCommand "l" (.ofString "SELECT a FROM t WHERE a > ?1 UNION SELECT 2")),
    .command "l" (.executeReader "r"),
    .reader "r" .read,
    .reader "r" .dispose]

theorem commands_rewound_after_failure :
    let session := (run Storage.backend { engine := {} } failedAndAbandoned).2
    (∀ name ∈ ["k", "l"], ∃ held, session.freeCommand (ε := Error) name = .ok held ∧
      session.engine.IsReset held.command.statement ∧
        ¬(perform Storage.backend session (.command name (.bind (.index 1) .null))).1.ReportsMisuse ∧
          (perform Storage.backend session (.command name .finalize)).1 = .plain (.ok .nothing)) ∧
      ¬(perform Storage.backend session (.connection "c"
          (.executeNonQuery (.ofString "INSERT INTO t VALUES(1)")))).1.ReportsFinalize := by
  intro session
  have isFresh : Storage.custody.Shows {} .none := Storage.custody_empty
  have rewound := commands_rewound Storage.rewinding isFresh.1 isFresh.2 failedAndAbandoned
  have areFree : ∀ name ∈ ["k", "l"],
      (session.freeCommand (ε := Error) name).toOption.any (fun held =>
        session.lifecycle? held.connection ≠ some .disposed ∧
          Storage.engine.parameterCount held.command.statement session.engine = 1) = true := by
    decide +kernel
  refine ⟨fun name isNamed => ?_, rewound.2 (.executeNonQuery _)⟩
  have isFree := areFree name isNamed
  cases found : session.freeCommand (ε := Error) name with
  | error refusal => simp [found, Except.toOption] at isFree
  | ok held =>
      rw [found, Except.toOption, Option.any_some, decide_eq_true_iff] at isFree
      obtain ⟨isReset, takes, finalizes⟩ := rewound.1 found isFree.1
      refine ⟨held, rfl, isReset, takes (by decide) ?_ (.bind _), finalizes⟩
      exact isFree.2 ▸ by decide

end EmbeddedSql.Session
