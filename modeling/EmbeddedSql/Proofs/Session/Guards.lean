import EmbeddedSql.Proofs.Query.Rewinding
import EmbeddedSql.Proofs.Session.Custody.Run
import EmbeddedSql.Proofs.Session.Lifecycle

/-! What a request to a session leaves alone: the statements that it is not about, and what
cannot be lost by using them. A command that is not read is reset, and stays so. -/

namespace EmbeddedSql.Session

open EmbeddedSql.Call (Ends Refuses)

variable {σ ε α : Type} {backend : Backend σ}

def IsUnread (session : Session σ) (command : String) : Prop :=
  ∀ {reader held}, session.readers.get? reader = some held → held.command ≠ some command

def IsOpened (session : Session σ) (connection : String) : Prop :=
  ∃ database, session.lifecycle? connection = some (.opened database)

/-- The statement of a command is reset, unless its connection is disposed of. -/
def IsResting (laws : Rewinding backend.engine) (session : Session σ) (held : HeldCommand) : Prop :=
  session.IsOpened held.connection → laws.IsReset session.engine held.command.statement

def Rested (laws : Rewinding backend.engine) (session : Session σ) : Prop :=
  ∀ {name held}, session.commands.get? name = some held → session.IsUnread name →
    IsResting laws session held

/-! ## What requests are about -/

def HasCommand (session : Session σ) (name : String) (statement : StatementHandle) : Prop :=
  ∃ held, session.commands.get? name = some held ∧ session.IsOpened held.connection ∧
    held.command.statement = statement

def HasReader (session : Session σ) (name : String) (statement : StatementHandle) : Prop :=
  ∃ held, session.readers.get? name = some held ∧ session.IsOpened held.connection ∧
    held.reader.statement = statement

/-- The request uses the statement as that of a command or a reader. -/
def IsAbout (session : Session σ) (statement : StatementHandle) : Request → Prop
  | .command name _ => session.HasCommand name statement
  | .reader name _ => session.HasReader name statement
  | .query (.bindValue name _ _) => session.HasCommand name statement
  | .query (.bindValues name _) => session.HasCommand name statement
  | _ => False

/-- The request finalizes the statement, which it has not made itself. -/
def LetsGo (laws : Rewinding backend.engine) (session : Session σ) (statement : StatementHandle) :
    Request → Prop
  | .connection name request =>
      (request = .dispose ∨ request = .drop ∧ session.connectionIsUsed name = false) ∧
        ∃ database, session.lifecycle? name = some (.opened database) ∧
          (laws.handles session.engine).owner? statement = some database
  | .command name request =>
      (request = .finalize ∨ request = .drop) ∧ session.HasCommand name statement
  | .reader name request => request = .dispose ∧
      ∃ held, session.readers.get? name = some held ∧ session.IsOpened held.connection ∧
        held.command = none ∧ held.reader.statement = statement
  | _ => False

variable {laws : Rewinding backend.engine} {session : Session σ} {watch : Watch laws.toCustody}

theorem isUnread_of_free {name : String} {held : HeldCommand}
    (isFree : session.freeCommand (ε := ε) name = .ok held) : session.IsUnread name := by
  intro reader found isFound isIts
  have isUnread := (of_freeCommand isFree).2
  rw [commandIsRead, List.any_eq_false] at isUnread
  simpa [isIts] using isUnread _ (Registry.mem_of_get? isFound)

section
variable (sound : Sound laws.toLedger session) (guards : watch.Guards session.engine)
include sound guards

/-! ## Links -/

theorem sits_of_link {name : String} {link : Link σ} (isLink : session.link? name = some link) :
    laws.Sits watch link where
  toGuards := engine_of_link isLink ▸ guards
  isOpen isOpened := by
    rw [engine_of_link isLink]
    exact sound.accounts.isOpen (connection?_of_link isLink) isOpened

theorem uses_of_holder {holder : Holder} {use : Use}
    (isUsed : session.books.use? holder = some use) {link : Link σ}
    (isLink : session.link? use.connection = some link)
    (isLive : link.connection.lifecycle ≠ .disposed)
    (mayUse : session.IsOpened use.connection → watch.watched use.statement →
      laws.Endures watch.Keeps) :
    session.IsOpened use.connection ∧ laws.Uses watch use.statement link := by
  rcases sound.accounts.holds_of isUsed (connection?_of_link isLink) with
    isDisposed | ⟨database, isOpened, isOwner, -⟩
  · exact absurd isDisposed isLive
  have isOpened : link.connection.lifecycle = .opened database := isOpened
  have opens : session.IsOpened use.connection :=
    ⟨database, by rw [lifecycle?_of_link session _ isLink, isOpened]⟩
  refine ⟨opens, sits_of_link sound guards isLink, ⟨database, isOpened, ?_⟩, mayUse opens⟩
  rw [engine_of_link isLink]
  exact isOwner

theorem onConnection_guards {name : String} {call : ExceptT ε (StateM (Link σ)) α}
    {failed : ε → Link σ → Prop} {answered : α → Link σ → Prop}
    (ends : ∀ {link}, laws.Sits watch link → Ends (call link) failed answered)
    (fails : ∀ {error last}, failed error last → laws.Sits watch last)
    (answers : ∀ {answer last}, answered answer last → laws.Sits watch last) :
    watch.Guards (session.onConnection name call).2.engine := by
  cases isLink : session.link? name with
  | none =>
      rw [onConnection_of_missing isLink]
      exact guards
  | some link =>
      have ended := ends (sits_of_link sound guards isLink)
      rw [onConnection_of_link isLink, setLink_engine]
      rcases outcome : call link with ⟨error | answer, last⟩ <;> rw [outcome] at ended
      · exact (fails ended).toGuards
      · exact (answers ended).toGuards

theorem onConnection_leaves {name : String} {call : Call σ α} {answered : α → Link σ → Prop}
    (ends : ∀ {link}, laws.Sits watch link → Ends (call link) (laws.Leaves watch) answered)
    (answers : ∀ {answer last}, answered answer last → laws.Sits watch last) :
    watch.Guards (session.onConnection name call).2.engine :=
  onConnection_guards sound guards ends And.right answers

theorem onConnection_query {name : String} {call : Query.Call σ α}
    (ends : ∀ {link}, laws.Sits watch link →
      Ends (call link) (laws.LeavesQuery watch) fun _ => laws.Sits watch) :
    watch.Guards (session.onConnection name call).2.engine :=
  onConnection_guards sound guards ends And.right id

omit sound guards in
theorem keeping_engine {put : Session σ → α → Session σ}
    {outcome : Except (Refusal Error) α × Session σ}
    (puts : ∀ after made, (put after made).engine = after.engine) :
    (keeping put outcome).2.engine = outcome.2.engine := by
  rcases outcome with ⟨_ | made, after⟩
  · rfl
  · exact puts after made

/-! ## Connections -/

theorem onConnection_disposes_guards {name : String} {call : Call σ Unit}
    (disposes : ∀ link, (call link).2 = (Connection.dispose backend.engine link).2 ∨
      (call link).2 = link)
    (stays : ∀ {statement}, watch.watched statement → ∀ {database},
      session.lifecycle? name = some (.opened database) →
        (laws.handles session.engine).owner? statement ≠ some database) :
    watch.Guards (session.onConnection name call).2.engine := by
  cases isLink : session.link? name with
  | none =>
      rw [onConnection_of_missing isLink]
      exact guards
  | some link =>
      have sits := sits_of_link sound guards isLink
      rw [onConnection_of_link isLink, setLink_engine]
      rcases disposes link with isDisposed | isSame
      · rw [isDisposed]
        refine (sits.dispose fun statement database isWatched isOpened => ?_).toGuards
        rw [engine_of_link isLink]
        exact stays isWatched (by rw [lifecycle?_of_link session name isLink, isOpened])
      · rw [isSame]
        exact sits.toGuards

omit sound guards in
theorem disposeQuietly_cases (link : Link σ) :
    (disposeQuietly backend link).2 = (Connection.dispose backend.engine link).2 ∨
      (disposeQuietly backend link).2 = link := by
  unfold disposeQuietly
  rw [Call.bind_apply, Call.get_apply]
  dsimp only
  cases link.connection.isDisposed with
  | true => exact .inr rfl
  | false => exact .inl rfl

theorem performConnection_guards (name : String) (request : ConnectionRequest)
    (stays : ∀ {statement}, watch.watched statement →
      ¬LetsGo laws session statement (.connection name request)) :
    watch.Guards (performConnection backend session name request).2.engine := by
  have committed {outcome : Except (Refusal Error) (Answer × Session σ)}
      (leaves : ∀ answer after, outcome = .ok (answer, after) → watch.Guards after.engine) :
      watch.Guards (commit session outcome).2.engine := by
    have keeps : (fun after : Session σ => watch.Guards after.engine) _ := commit_keeps guards leaves
    exact keeps
  have disposing
      (ends : request = .dispose ∨ request = .drop ∧ session.connectionIsUsed name = false)
      {statement : StatementHandle} (isWatched : watch.watched statement)
      {database : DatabaseHandle}
      (isOpened : session.lifecycle? name = some (.opened database)) :
      (laws.handles session.engine).owner? statement ≠ some database := fun isOwner =>
    stays isWatched ⟨ends, database, isOpened, isOwner⟩
  cases request with
  | connect path config pool =>
      refine committed fun answer after isOk => ?_
      simp only [bind, Except.bind, pure, Except.pure] at isOk
      repeat' split at isOk
      all_goals cases isOk
      exact guards
  | state =>
      refine committed fun answer after isOk => ?_
      split at isOk <;> cases isOk
      exact guards
  | ensureOpen =>
      exact onConnection_leaves sound guards (fun sits => sits.ensureOpen _) And.left
  | dispose =>
      exact onConnection_disposes_guards sound guards (fun _ => .inl rfl) (disposing (.inl rfl))
  | drop =>
      unfold performConnection
      dsimp only
      split
      · exact guards
      split
      · exact guards
      rename_i isUsed
      exact onConnection_disposes_guards sound guards disposeQuietly_cases
        (disposing (.inr ⟨rfl, by simpa using isUsed⟩))
  | changes => exact onConnection_leaves sound guards (fun sits => sits.changes _) id
  | pendingStatements =>
      have counts {link : Link σ} (sits : laws.Sits watch link) :
          Ends (Connection.pendingStatements backend.engine link) (laws.Leaves watch)
            fun _ => laws.Sits watch := by
        rw [Connection.pendingStatements_apply]
        cases link.connection.lifecycle with
        | disposed => exact ⟨nofun, sits⟩
        | _ => exact sits
      exact onConnection_leaves sound guards counts id
  | lastInsertRowid => exact onConnection_leaves sound guards (fun sits => sits.lastInsertRowid _) id
  | executeNonQuery sql =>
      exact onConnection_leaves sound guards (fun sits => sits.executeNonQuery sql) id
  | executeReader reader sql =>
      unfold performConnection
      dsimp only
      split
      · exact guards
      · rw [keeping_engine]
        · exact onConnection_leaves sound guards (fun sits => sits.executeReader sql)
            (·.1.toUses.toSits)
        · exact fun _ _ => rfl
  | createCommand command sql =>
      unfold performConnection
      dsimp only
      split
      · exact guards
      · rw [keeping_engine]
        · exact onConnection_leaves sound guards (fun sits => sits.createCommand sql)
            (·.1.toUses.toSits)
        · exact fun _ _ => rfl

omit sound guards in
theorem createCommand_made {name command : String} {sql : Text} {held : HeldCommand}
    (isNew : session.commands.get? command = none)
    (isHeld : (performConnection backend session name (.createCommand command sql)).2.commands.get?
      command = some held) :
    ∃ link last, session.link? name = some link ∧
      Connection.createCommand backend sql link = (.ok held.command, last) ∧
        (performConnection backend session name (.createCommand command sql)).2.engine =
          last.engine := by
  have isFree : newName (ε := Error) session.commands command = .ok () := newName_of_missing isNew
  have creates : performConnection backend session name (.createCommand command sql) =
      keeping (fun session made =>
          { session with commands := session.commands.insert command ⟨name, made⟩ })
        (session.onConnection name (Connection.createCommand backend sql)) := by
    unfold performConnection
    dsimp only
    rw [isFree]
  rw [creates] at isHeld ⊢
  rw [keeping_engine ?puts]
  case puts => exact fun _ _ => rfl
  cases isLink : session.link? name with
  | none =>
      rw [onConnection_of_missing isLink] at isHeld
      cases isNew.symm.trans isHeld
  | some link =>
      rw [onConnection_of_link isLink] at isHeld ⊢
      rw [setLink_engine]
      rcases outcome : Connection.createCommand backend sql link with ⟨error | made, last⟩ <;>
        rw [outcome] at isHeld
      · have isStill : (session.setLink name last).commands.get? command = some held := isHeld
        rw [setLink_commands] at isStill
        cases isNew.symm.trans isStill
      · have isMade : ((session.setLink name last).commands.insert command ⟨name, made⟩).get?
            command = some held :=
          isHeld
        rw [Registry.get?_insert_self] at isMade
        cases isMade
        exact ⟨link, last, rfl, outcome, rfl⟩

/-! ## Commands -/

/-- What a call of a command leaves of what is watched, and of the command. -/
structure CommandStays (laws : Rewinding backend.engine) (watch : Watch laws.toCustody)
    (session : Session σ) (held : HeldCommand) (after : Session σ) : Prop where
  guards : watch.Guards after.engine
  isReset : session.IsOpened held.connection → laws.IsReset after.engine held.command.statement

section
variable {name : String} {held : HeldCommand} (isHeld : session.commands.get? name = some held)
  (isResting : IsResting laws session held)
  (mayUse : session.IsOpened held.connection → watch.watched held.command.statement →
    laws.Endures watch.Keeps)
include isHeld isResting mayUse

theorem rests_of_command {link : Link σ} (isLink : session.link? held.connection = some link)
    (isLive : link.connection.lifecycle ≠ .disposed) :
    session.IsOpened held.connection ∧ laws.Rests watch held.command.statement link := by
  have uses : session.IsOpened held.connection ∧ laws.Uses watch held.command.statement link :=
    uses_of_holder sound guards (use_of_command isHeld) isLink isLive mayUse
  refine ⟨uses.1, uses.2, ?_⟩
  rw [engine_of_link isLink]
  exact isResting uses.1

theorem commandCall_stays {call : ExceptT ε (StateM (Link σ)) α} {failed : ε → Link σ → Prop}
    (untouched : ∀ {link : Link σ}, link.connection.lifecycle = .disposed → (call link).2 = link)
    (ends : ∀ {link}, laws.Rests watch held.command.statement link →
      Ends (call link) failed fun _ => laws.Rests watch held.command.statement)
    (fails : ∀ {error last}, failed error last → laws.Rests watch held.command.statement last) :
    CommandStays laws watch session held (session.onConnection held.connection call).2 := by
  cases isLink : session.link? held.connection with
  | none =>
      rw [onConnection_of_missing isLink]
      exact ⟨guards, isResting⟩
  | some link =>
      rw [onConnection_of_link isLink]
      by_cases isLive : link.connection.lifecycle = .disposed
      · rw [untouched isLive]
        have same : (session.setLink held.connection link).engine = session.engine :=
          (setLink_engine ..).trans (engine_of_link isLink)
        exact ⟨same ▸ guards, fun isOpened => same ▸ isResting isOpened⟩
      · have ended := ends (rests_of_command sound guards isHeld isResting mayUse isLink isLive).2
        have left : laws.Rests watch held.command.statement (call link).2 := by
          rcases outcome : call link with ⟨error | answer, last⟩ <;> rw [outcome] at ended
          · exact fails ended
          · exact ended
        exact ⟨(setLink_engine session _ _).symm ▸ left.toGuards,
          fun _ => (setLink_engine session _ _).symm ▸ left.isReset⟩

theorem useCommand_stays (request : CommandRequest) :
    CommandStays laws watch session held (useCommand backend session held request).2 := by
  have stays {α : Type} {call : Call σ α} (refuses : Refuses .useAfterDispose call)
      (ends : ∀ {link}, laws.Rests watch held.command.statement link →
        Ends (call link) (laws.Refuses watch held.command.statement)
          fun _ => laws.Rests watch held.command.statement) :
      CommandStays laws watch session held (session.onConnection held.connection call).2 :=
    commandCall_stays sound guards isHeld isResting mayUse
      (fun isDisposed => by rw [refuses _ isDisposed]) ends And.right
  have unchanged : CommandStays laws watch session held session := ⟨guards, isResting⟩
  cases request with
  | sql => exact stays (held.command.sql_refuses backend) fun rests => rests.sql
  | executeNonQuery =>
      exact stays (held.command.executeNonQuery_refuses backend) fun rests => rests.executeNonQuery
  | parameterCount => exact stays (Parameter.count_refuses _ _) fun rests => rests.count
  | clear => exact stays (Parameter.clear_refuses _ _) fun rests => rests.clearParameters
  | indexOf name => exact stays (Parameter.resolve_refuses _ _ _ _) fun rests => rests.resolve _ _
  | nameOf index => exact stays (Parameter.nameOf_refuses _ _ _) fun rests => rests.nameOf _
  | bind parameter argument =>
      exact stays (Parameter.bind_refuses _ _ _ _ _) fun rests => rests.bindParameter _ _ _
  | bindText parameter text =>
      exact stays (Parameter.bindText_refuses _ _ _ _ _) fun rests => rests.bindText _ _ _
  | executeReader reader => exact unchanged
  | finalize => exact unchanged
  | drop => exact unchanged

theorem consuming_guards {call : Call σ Unit}
    (untouched : ∀ {link : Link σ}, link.connection.lifecycle = .disposed → (call link).2 = link)
    (ends : session.IsOpened held.connection → ∀ {link},
      laws.Rests watch held.command.statement link → laws.Sits watch (call link).2) :
    watch.Guards (session.onConnection held.connection call).2.engine := by
  cases isLink : session.link? held.connection with
  | none =>
      rw [onConnection_of_missing isLink]
      exact guards
  | some link =>
      rw [onConnection_of_link isLink, setLink_engine]
      by_cases isLive : link.connection.lifecycle = .disposed
      · rw [untouched isLive, engine_of_link isLink]
        exact guards
      · obtain ⟨isOpened, rests⟩ :=
          rests_of_command sound guards isHeld isResting mayUse isLink isLive
        exact (ends isOpened rests).toGuards

end

omit sound guards in
theorem performCommand_of_refused {name : String} {refusal : Refusal Error}
    (isFree : session.freeCommand (ε := Error) name = .error refusal) (asked : CommandRequest) :
    ∃ reason, performCommand backend session name asked = (.error reason, session) := by
  unfold performCommand
  cases asked
  case executeReader reader =>
    dsimp only
    rw [isFree]
    cases newName (ε := Error) session.readers reader with
    | error reason => exact ⟨reason, rfl⟩
    | ok _ => exact ⟨refusal, rfl⟩
  all_goals
    dsimp only
    rw [isFree]
    exact ⟨refusal, rfl⟩

omit sound guards in
theorem lend_engine {name : String} {held : HeldCommand}
    (isFree : session.freeCommand (ε := Error) name = .ok held) (reader : String) :
    (performCommand backend session name (.executeReader reader)).2.engine = session.engine := by
  unfold performCommand
  dsimp only
  rw [isFree]
  cases newName (ε := Error) session.readers reader with
  | error refusal => rfl
  | ok _ =>
      dsimp only
      rw [keeping_engine ?puts]
      case puts => exact fun _ _ => rfl
      cases isLink : session.link? held.connection with
      | none => rw [onConnection_of_missing isLink]
      | some link =>
          rw [onConnection_of_link isLink, setLink_engine, held.command.executeReader_link,
            engine_of_link isLink]

theorem performCommand_guards (rested : Rested laws session) (name : String)
    (request : CommandRequest)
    (mayUse : ∀ {statement}, session.IsAbout statement (.command name request) →
      watch.watched statement → laws.Endures watch.Keeps)
    (stays : ∀ {statement}, watch.watched statement →
      ¬LetsGo laws session statement (.command name request)) :
    watch.Guards (performCommand backend session name request).2.engine ∧
      ∀ {held}, session.commands.get? name = some held → session.IsUnread name →
        session.IsOpened held.connection →
          laws.IsReset (performCommand backend session name request).2.engine
              held.command.statement ∨
            (performCommand backend session name request).2.commands.get? name = none := by
  have unchanged {after : Session σ} (same : after.engine = session.engine) :
      watch.Guards after.engine ∧
        ∀ {held}, session.commands.get? name = some held → session.IsUnread name →
          session.IsOpened held.connection →
            laws.IsReset after.engine held.command.statement ∨ after.commands.get? name = none := by
    rw [same]
    exact ⟨guards, fun isHeld isUnread isOpened => .inl (rested isHeld isUnread isOpened)⟩
  cases isFree : session.freeCommand (ε := Error) name with
  | error refusal =>
      obtain ⟨reason, isSame⟩ : ∃ reason,
          performCommand backend session name request = (.error reason, session) :=
        performCommand_of_refused isFree request
      rw [isSame]
      exact unchanged rfl
  | ok held =>
      obtain ⟨isHeld, -⟩ := of_freeCommand isFree
      have isResting : IsResting laws session held := rested isHeld (isUnread_of_free isFree)
      have mayUseHeld (isOpened : session.IsOpened held.connection) :
          watch.watched held.command.statement → laws.Endures watch.Keeps :=
        mayUse ⟨held, isHeld, isOpened, rfl⟩
      have consumes (ends : request = .finalize ∨ request = .drop)
          (isOpened : session.IsOpened held.connection) :
          ¬watch.watched held.command.statement := fun isWatched =>
        stays isWatched ⟨ends, held, isHeld, isOpened, rfl⟩
      have ofStays {after : Session σ} (stays : CommandStays laws watch session held after) :
          watch.Guards after.engine ∧
            ∀ {found}, session.commands.get? name = some found → session.IsUnread name →
              session.IsOpened found.connection →
                laws.IsReset after.engine found.command.statement ∨
                  after.commands.get? name = none := by
        refine ⟨stays.guards, fun {found} isFound _ isOpened => .inl ?_⟩
        obtain rfl := Option.some.inj (isHeld.symm.trans isFound)
        exact stays.isReset isOpened
      have lends (reader : String) :
          (performCommand backend session name (.executeReader reader)).2.engine =
            session.engine :=
        lend_engine isFree reader
      unfold performCommand
      cases request
      case executeReader reader => exact unchanged (lends reader)
      case finalize =>
        dsimp only
        rw [isFree]
        refine ⟨consuming_guards sound guards isHeld isResting mayUseHeld
          (fun isDisposed => by rw [held.command.finalize_refuses backend _ isDisposed])
          fun isOpened _ rests => ?_, fun _ _ _ => .inr (Registry.get?_erase_self ..)⟩
        obtain ⟨last, finalizes, sits⟩ := rests.finalizeCommand (consumes (.inl rfl) isOpened)
        rw [finalizes]
        exact sits
      case drop =>
        dsimp only
        rw [isFree]
        refine ⟨consuming_guards sound guards isHeld isResting mayUseHeld (fun isDisposed => ?_)
          fun isOpened _ rests => rests.toUses.drop (consumes (.inr rfl) isOpened),
          fun _ _ _ => .inr (Registry.get?_erase_self ..)⟩
        exact if_pos ((Connection.isDisposed_iff _).mpr isDisposed)
      all_goals
        dsimp only
        rw [isFree]
        exact ofStays (useCommand_stays sound guards isHeld isResting mayUseHeld _)

/-! ## Readers -/

/-- Only reading and disposing are the engine's business. A command that is given back rests. -/
theorem useReader_guards {name : String} {held : HeldReader}
    (isHeld : session.readers.get? name = some held) (request : ReaderRequest)
    (mayUse : session.IsOpened held.connection → watch.watched held.reader.statement →
      laws.Endures watch.Keeps)
    (stays : request = .dispose → session.IsOpened held.connection → held.command = none →
      ¬watch.watched held.reader.statement) :
    watch.Guards (useReader backend session name held request).2.engine ∧
      (request = .dispose → held.command ≠ none → session.IsOpened held.connection →
        laws.IsReset (useReader backend session name held request).2.engine
          held.reader.statement) := by
  cases request
  case read =>
    refine ⟨?_, by simp⟩
    unfold useReader
    dsimp only
    cases isLink : session.link? held.connection with
    | none => exact guards
    | some link =>
        have left : watch.Guards (held.reader.read backend.engine link).2.engine := by
          by_cases isLive : link.connection.lifecycle = .disposed
          · rw [held.reader.read_of_disposed backend.engine isLive, engine_of_link isLink]
            exact guards
          · have uses : session.IsOpened held.connection ∧
                laws.Uses watch held.reader.statement link :=
              uses_of_holder sound guards (use_of_reader isHeld) isLink isLive mayUse
            exact uses.2.read.toGuards
        dsimp only
        rcases outcome : held.reader.read backend.engine link with ⟨⟨error | found, reader⟩, last⟩
        all_goals
          rw [outcome] at left
          dsimp only
          rw [setLink_engine]
          exact left
  case dispose =>
    unfold useReader
    dsimp only
    cases isLink : session.link? held.connection with
    | none =>
        refine ⟨guards, fun _ _ isOpened => ?_⟩
        obtain ⟨database, isOpened⟩ := isOpened
        rw [lifecycle?, link?_eq_none.mp isLink] at isOpened
        cases isOpened
    | some link =>
        dsimp only
        rw [setLink_engine]
        by_cases isLive : link.connection.lifecycle = .disposed
        · rw [Reader.dispose, if_pos ((Connection.isDisposed_iff _).mpr isLive),
            engine_of_link isLink]
          refine ⟨guards, fun _ _ isOpened => ?_⟩
          obtain ⟨database, isOpened⟩ := isOpened
          rw [lifecycle?_of_link session _ isLink, isLive] at isOpened
          cases isOpened
        · obtain ⟨isOpened, uses⟩ : session.IsOpened held.connection ∧
              laws.Uses watch held.reader.statement link :=
            uses_of_holder sound guards (use_of_reader isHeld) isLink isLive mayUse
          have isRelease := sound.releases isHeld
          cases isFrom : held.command with
          | none =>
              rw [isFrom] at isRelease
              exact ⟨(uses.disposeFinalize (stays rfl isOpened isFrom) isRelease).toGuards,
                fun _ isBorrowed => absurd rfl isBorrowed⟩
          | some command =>
              rw [isFrom] at isRelease
              have rests := uses.disposeReset isRelease
              exact ⟨rests.toGuards, fun _ _ _ => rests.isReset⟩
  case cursor => exact ⟨guards, by simp⟩
  all_goals
    refine ⟨?_, by simp⟩
    unfold useReader
    obtain ⟨readers, same⟩ := access_session session name held _
    rw [same]
    exact guards

/-! ## Queries -/

theorem onCommand_stays (rested : Rested laws session) {name : String}
    {call : StatementHandle → Query.Call σ Unit}
    (mayUse : ∀ {statement}, session.HasCommand name statement → watch.watched statement →
      laws.Endures watch.Keeps)
    (untouched : ∀ statement {link : Link σ}, link.connection.lifecycle = .disposed →
      (call statement link).2 = link)
    (ends : ∀ {statement link}, laws.Rests watch statement link →
      Ends (call statement link) (laws.RefusesQuery watch statement)
        fun _ => laws.Rests watch statement) :
    watch.Guards (onCommand session name call).2.engine ∧
      ∀ {held}, session.commands.get? name = some held → session.IsUnread name →
        session.IsOpened held.connection →
          laws.IsReset (onCommand session name call).2.engine held.command.statement := by
  unfold onCommand
  cases isFree : session.freeCommand (ε := Query.Error) name with
  | error refusal =>
      exact ⟨guards, fun isHeld isUnread isOpened => rested isHeld isUnread isOpened⟩
  | ok held =>
      obtain ⟨isHeld, -⟩ := of_freeCommand isFree
      have stays := commandCall_stays sound guards isHeld
        (rested isHeld (isUnread_of_free isFree))
        (fun isOpened => mayUse ⟨held, isHeld, isOpened, rfl⟩) (untouched _) ends And.right
      refine ⟨stays.guards, fun {found} isFound _ isOpened => ?_⟩
      obtain rfl := Option.some.inj (isHeld.symm.trans isFound)
      exact stays.isReset isOpened

omit sound guards in
theorem bindValues_untouched (statement : StatementHandle) (values : List Json) {link : Link σ}
    (isDisposed : link.connection.lifecycle = .disposed) :
    (Query.bindValues backend.engine backend.growth statement values link).2 = link := by
  cases values with
  | nil => rfl
  | cons value rest =>
      rw [Query.bindValues_refuses backend.engine backend.growth statement
        (List.cons_ne_nil value rest) link isDisposed]

theorem performQuery_guards (rested : Rested laws session) (request : QueryRequest)
    (mayUse : ∀ {statement}, session.IsAbout statement (.query request) →
      watch.watched statement → laws.Endures watch.Keeps) :
    watch.Guards (performQuery backend session request).2.engine := by
  cases request with
  | execute connection sql values =>
      exact onConnection_query sound guards fun sits => sits.execute sql values
  | fetchAll connection sql values =>
      exact onConnection_query sound guards fun sits => sits.fetchAll sql values
  | fetchOne connection sql values =>
      exact onConnection_query sound guards fun sits => sits.fetchOne sql values
  | executeTransaction connection statements =>
      exact onConnection_query sound guards fun sits => sits.executeTransaction statements
  | bindValue command index value =>
      exact (onCommand_stays sound guards rested mayUse
        (fun statement _ isDisposed => by
          rw [Query.bindValue_refuses backend.engine backend.growth statement index value _
            isDisposed])
        fun rests => rests.bindValue index value).1
  | bindValues command values =>
      exact (onCommand_stays sound guards rested mayUse
        (fun statement _ => bindValues_untouched statement values)
        fun rests => rests.bindValues values).1
  | columnJson reader column =>
      obtain ⟨readers, same⟩ := onReader_session session reader _
      rw [performQuery, same]
      exact guards
  | decodeRow reader =>
      obtain ⟨readers, same⟩ := onReader_session session reader _
      rw [performQuery, same]
      exact guards

end

end EmbeddedSql.Session
