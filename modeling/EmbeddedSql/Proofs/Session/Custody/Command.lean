import EmbeddedSql.Proofs.Query.Custody
import EmbeddedSql.Proofs.Session.Sound

/-! Whatever is asked of a command, the books stay in order. -/

namespace EmbeddedSql.Session

variable {σ τ ε α β : Type} {backend : Backend σ} {image : Backend τ}
  {mirror : Mirror backend.engine image.engine} {session : Session σ} {state : τ}

theorem of_freeCommand {name : String} {held : HeldCommand}
    (isFree : session.freeCommand (ε := ε) name = .ok held) :
    session.commands.get? name = some held ∧ session.commandIsRead name = false := by
  unfold freeCommand at isFree
  split at isFree
  · cases isFree
  rename_i isHeld
  split at isFree
  · cases isFree
  rename_i isRead
  exact ⟨by rw [isHeld, Except.ok.inj isFree], by simpa using isRead⟩

theorem freeCommand_of_unread {name : String} {held : HeldCommand}
    (isHeld : session.commands.get? name = some held)
    (isUnread : session.commandIsRead name = false) :
    session.freeCommand (ε := ε) name = .ok held := by
  rw [freeCommand, isHeld]
  exact if_neg (by simp [isUnread])

theorem freeCommand_congr {name : String} {other : Session σ}
    (sameCommands : other.commands = session.commands)
    (sameReaders : other.readers = session.readers) :
    other.freeCommand (ε := ε) name = session.freeCommand name := by
  unfold freeCommand commandIsRead
  rw [sameCommands, sameReaders]

theorem free_of_free {ε' : Type} {name : String} {held : HeldCommand}
    (isFree : session.freeCommand (ε := ε) name = .ok held) :
    session.freeCommand (ε := ε') name = .ok held := by
  obtain ⟨isHeld, isUnread⟩ := of_freeCommand isFree
  exact freeCommand_of_unread isHeld isUnread

theorem isUnlent_of_unread {name : String} (isUnread : session.commandIsRead name = false)
    {command : String} (isCommand : Holder.command name = .command command) (other : Holder)
    (use : Use) (isUsed : session.books.use? other = some use) : use.lender? ≠ some command := by
  obtain rfl := Holder.command.inj isCommand
  rw [commandIsRead, List.any_eq_false] at isUnread
  cases other with
  | command other =>
      rcases Option.map_eq_some_iff.mp isUsed with ⟨held, isHeld, rfl⟩
      exact nofun
  | reader other =>
      rcases Option.map_eq_some_iff.mp isUsed with ⟨held, isHeld, rfl⟩
      simpa [useOfReader] using isUnread _ (Registry.mem_of_get? isHeld)

section
variable (sound : Sound mirror.toLedger session) (same : mirror.Same session.engine state)
include sound same

theorem consuming_performs {name : String} {held : HeldCommand}
    (isHeld : session.commands.get? name = some held)
    (isUnread : session.commandIsRead name = false) {call : Call σ Unit} {callImage : Call τ Unit}
    (runs : ∀ before : Situation, before.Holds held.command.statement →
      mirror.Runs before call callImage fun _ next =>
        next = before.without held.command.statement) :
    Performs mirror
      (let (result, session) := session.onConnection held.connection call
       done (result, { session with commands := session.commands.erase name }))
      (let (result, session) := (session.withEngine state).onConnection held.connection callImage
       done (result, { session with commands := session.commands.erase name })) := by
  have isUsed := use_of_command isHeld
  rcases sound.accounts.holds isUsed with ⟨connection, isThere, holds⟩
  have isThere : session.books.connection? held.connection = some connection := isThere
  cases isLink : session.link? held.connection with
  | none =>
      have isMissing : session.connections.get? held.connection = none := by
        simpa [link?] using isLink
      simp [books, isMissing] at isThere
  | some link =>
      have isSame := connection?_of_link isLink
      rw [isThere, Option.some.injEq] at isSame
      subst isSame
      rcases onConnection_link sound same isLink (runs _ holds) with
        ⟨result, after, next, performed, images, same, valid, isNext⟩
      rw [performed, images]
      have lets := sound.accounts.finalizing isUsed rfl
        (fun command isCommand => isUnlent_of_unread isUnread isCommand) isThere
      have sameConnection : after.connection = link.connection :=
        congrArg Situation.connection isNext
      have accounts : Accounts (mirror.situation after).handles
          (session.books.withUse (.command name) none) := by
        rw [isNext]
        exact lets
      have soundAfter : Sound mirror.toLedger
          { session.setLink held.connection after with
            commands := (session.setLink held.connection after).commands.erase name } := by
        refine ⟨(setLink_engine session _ after).symm ▸ valid, ?_, fun isHeld => ?_⟩
        · rw [books_eraseCommand, books_setLink session _ isLink, sameConnection,
            Books.withConnection_same isThere]
          show Accounts (mirror.handles (session.setLink held.connection after).engine) _
          rw [setLink_engine]
          exact accounts
        · exact sound.releases (by rwa [← setLink_readers session held.connection after])
      exact ⟨next, rfl, by rwa [← setLink_engine session held.connection after] at same, soundAfter⟩

theorem commandCall_performs {name : String} {held : HeldCommand}
    (isHeld : session.commands.get? name = some held) {call : ExceptT ε (StateM (Link σ)) α}
    {callImage : ExceptT ε (StateM (Link τ)) α}
    (keeps : ∀ before : Situation, before.Holds held.command.statement →
      mirror.Keeps before call callImage) :
    Performs mirror (session.onConnection held.connection call)
      ((session.withEngine state).onConnection held.connection callImage) :=
  onConnection_opens sound same fun _ isThere =>
    (keeps _ (sound.accounts.holds_of (use_of_command isHeld) isThere)).opens

theorem lending_performs {name reader : String} {held : HeldCommand}
    (isHeld : session.commands.get? name = some held)
    (isNew : session.readers.get? reader = none) :
    Performs mirror
      (keeping
        (fun session made =>
          { session with
            readers := session.readers.insert reader ⟨held.connection, some name, made⟩ })
        (session.onConnection held.connection held.command.executeReader))
      (keeping
        (fun session made =>
          { session with
            readers := session.readers.insert reader ⟨held.connection, some name, made⟩ })
        ((session.withEngine state).onConnection held.connection held.command.executeReader)) := by
  have isFree : session.books.use? (.reader reader) = none := by
    simp [books, isNew]
  refine keeping_performs sound same
    (fun connection result next => next = ⟨connection, mirror.handles session.engine⟩ ∧
      ∀ made, result = .ok made → made = held.command.reader)
    (fun made => ⟨held.connection, made.statement, some name⟩) _ _
    (fun connection isThere => mirror.runs_commandReader) ?_ ?_ (fun _ _ _ => rfl)
    (fun after made => ⟨rfl, books_insertReader ..⟩) ?_
  · rintro connection error _ isThere ⟨rfl, -⟩
    rw [Books.withConnection_same isThere]
    exact sound.accounts
  · rintro connection made _ isThere ⟨rfl, isMade⟩
    rw [Books.withConnection_same isThere, isMade made rfl]
    exact sound.accounts.lending (use_of_command isHeld) rfl isFree
  · rintro connection after made next sameReaders ⟨-, isMade⟩ other found isFound
    dsimp only at isFound
    rw [Registry.get?_insert] at isFound
    split at isFound
    · obtain rfl := Option.some.inj isFound
      rw [isMade made rfl]
      rfl
    · exact sound.releases (sameReaders ▸ isFound)

variable (sameGrowth : image.growth = backend.growth)
include sameGrowth

theorem useCommand_performs {name : String} {held : HeldCommand}
    (isHeld : session.commands.get? name = some held) (request : CommandRequest) :
    Performs mirror (useCommand backend session held request)
      (useCommand image (session.withEngine state) held request) := by
  have performs {ε α : Type} {call : ExceptT ε (StateM (Link σ)) α}
      {callImage : ExceptT ε (StateM (Link τ)) α}
      (keeps : ∀ before : Situation, before.Holds held.command.statement →
        mirror.Keeps before call callImage) :=
    commandCall_performs sound same isHeld keeps
  unfold useCommand
  rw [sameGrowth]
  cases request with
  | sql => exact (performs fun _ holds => mirror.keeps_sql holds).map _
  | executeNonQuery => exact (performs fun _ holds => mirror.keeps_executeCommand holds).map _
  | parameterCount => exact (performs fun _ holds => mirror.keeps_count holds).map _
  | clear => exact (performs fun _ holds => mirror.keeps_clear holds).map _
  | indexOf name => exact (performs fun _ holds => mirror.keeps_resolve holds _ _).map _
  | nameOf index => exact (performs fun _ holds => mirror.keeps_nameOf holds _).map _
  | bind parameter argument =>
      exact (performs fun _ holds => mirror.keeps_bindParameter holds _ _ _).map _
  | bindText parameter text =>
      exact (performs fun _ holds => mirror.keeps_bindText holds _ _ _).map _
  | executeReader reader => exact .unchanged sound same _
  | finalize => exact .unchanged sound same _
  | drop => exact .unchanged sound same _

theorem performCommand_performs (name : String) (request : CommandRequest) :
    Performs mirror (performCommand backend session name request)
      (performCommand image (session.withEngine state) name request) := by
  have sameReaders : (session.withEngine state).readers = session.readers := rfl
  have sameFree : (session.withEngine state).freeCommand (ε := Error) name =
      session.freeCommand name := rfl
  cases isFree : session.freeCommand (ε := Error) name with
  | error refusal =>
      cases request
      case executeReader reader =>
        unfold performCommand
        dsimp only
        rw [sameReaders, sameFree, isFree]
        cases newName (ε := Error) session.readers reader <;> exact .unchanged sound same _
      all_goals
        unfold performCommand
        dsimp only
        rw [sameFree, isFree]
        exact .unchanged sound same _
  | ok held =>
      rcases of_freeCommand isFree with ⟨isHeld, isUnread⟩
      cases request
      case executeReader reader =>
        unfold performCommand
        dsimp only
        rw [sameReaders, sameFree, isFree]
        cases isNew : newName (ε := Error) session.readers reader with
        | error refusal => exact .unchanged sound same _
        | ok _ => exact lending_performs sound same isHeld (get?_eq_none_of_newName isNew)
      case finalize =>
        unfold performCommand
        dsimp only
        rw [sameFree, isFree]
        exact consuming_performs sound same isHeld isUnread
          fun _ holds => mirror.runs_finalizeCommand holds
      case drop =>
        unfold performCommand
        dsimp only
        rw [sameFree, isFree]
        exact consuming_performs sound same isHeld isUnread
          fun _ holds => mirror.runs_dropCommand holds
      all_goals
        unfold performCommand
        dsimp only
        rw [sameFree, isFree]
        exact useCommand_performs sound same sameGrowth isHeld _

end

end EmbeddedSql.Session
