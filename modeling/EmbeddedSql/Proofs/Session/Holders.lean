import EmbeddedSql.Proofs.Connection.Reading
import EmbeddedSql.Proofs.Session.Accessors
import EmbeddedSql.Proofs.Session.Link

/-! What one request does to the commands and the readers of a session: at most one of
them comes, changes or goes, so that a name never stands for two. -/

namespace EmbeddedSql

inductive Registry.Changes {α : Type} (before : Registry α) (MayPut : String → α → Prop)
    (MayErase : String → Prop) : Registry α → Prop
  | unchanged : Changes before MayPut MayErase before
  | inserted (name : String) (value : α) : MayPut name value →
      Changes before MayPut MayErase (before.insert name value)
  | erased (name : String) : MayErase name → Changes before MayPut MayErase (before.erase name)

namespace Registry.Changes

variable {α : Type} {before after : Registry α} {MayPut : String → α → Prop}
  {MayErase : String → Prop} (changes : before.Changes MayPut MayErase after)
include changes

theorem names_nodup (isUnique : before.names.Nodup) : after.names.Nodup := by
  cases changes with
  | unchanged => exact isUnique
  | inserted name value _ => exact names_insert_nodup isUnique name value
  | erased name _ => exact names_erase_nodup isUnique name

theorem of_after {name : String} {value : α} (isThere : after.get? name = some value) :
    before.get? name = some value ∨ MayPut name value := by
  cases changes with
  | unchanged => exact .inl isThere
  | inserted other new mayPut =>
      rw [Registry.get?_insert] at isThere
      split at isThere
      · rename_i isNew
        obtain rfl := Option.some.inj isThere
        exact .inr (isNew ▸ mayPut)
      · exact .inl isThere
  | erased other _ =>
      rw [Registry.get?_erase] at isThere
      split at isThere
      · cases isThere
      · exact .inl isThere

theorem of_before {name : String} {value : α} (wasThere : before.get? name = some value) :
    after.get? name = some value ∨ (∃ new, MayPut name new ∧ after.get? name = some new) ∨
      MayErase name := by
  cases changes with
  | unchanged => exact .inl wasThere
  | inserted other new mayPut =>
      by_cases isNew : name = other
      · subst isNew
        exact .inr (.inl ⟨new, mayPut, Registry.get?_insert_self ..⟩)
      · exact .inl (by rwa [Registry.get?_insert_of_ne _ _ isNew])
  | erased other mayErase =>
      by_cases isGone : name = other
      · exact .inr (.inr (isGone ▸ mayErase))
      · exact .inl (by rwa [Registry.get?_erase_of_ne _ isGone])

end Registry.Changes

namespace Session

variable {σ ε α : Type} (backend : Backend σ) {session after : Session σ} {request : Request}

def MakesCommand (session : Session σ) (request : Request) (name : String) : Prop :=
  session.commands.get? name = none ∧
    ∃ connection sql, request = .connection connection (.createCommand name sql)

/-- A reader that comes in is new, on a connection that is there. One that is put back has been
asked something, and has kept its statement, or its row has been shown. -/
inductive SuitsReader (session : Session σ) (request : Request) (name : String)
    (held : HeldReader) : Prop
  | new : session.readers.get? name = none → held.reader.cursor = .beforeFirst →
      (session.connections.get? held.connection).isSome →
      request ≠ .connection held.connection .drop → SuitsReader session request name held
  | asked {found : HeldReader} {asked : ReaderRequest} : request = .reader name asked →
      session.readers.get? name = some found → held.connection = found.connection →
      held.command = found.command → held.reader.statement = found.reader.statement →
      SuitsReader session request name held
  | shown {found : HeldReader} {cells : List Cell} : session.readers.get? name = some found →
      held = { found with reader := { found.reader with cells } } →
      SuitsReader session request name held

theorem SuitsReader.command {name : String} {held found : HeldReader}
    (suits : session.SuitsReader request name held)
    (isFound : session.readers.get? name = some found) : held.command = found.command := by
  cases suits with
  | new isNew _ _ _ => cases isNew.symm.trans isFound
  | asked _ isHeld _ same _ => exact Option.some.inj (isHeld.symm.trans isFound) ▸ same
  | @shown shown _ isHeld same =>
      obtain rfl : shown = found := Option.some.inj (isHeld.symm.trans isFound)
      rw [same]

structure HoldersChange (request : Request) (before after : Session σ) : Prop where
  commands : before.commands.Changes (fun name _ => before.MakesCommand request name)
    (fun name => request = .command name .finalize ∨ request = .command name .drop)
    after.commands
  readers : before.readers.Changes (before.SuitsReader request)
    (fun name => request = .reader name .dispose) after.readers

namespace HoldersChange

theorem ofSame (commands : after.commands = session.commands)
    (readers : after.readers = session.readers) : HoldersChange request session after :=
  ⟨commands ▸ .unchanged, readers ▸ .unchanged⟩

theorem refl (session : Session σ) : HoldersChange request session session :=
  .ofSame rfl rfl

theorem erasingCommand (name : String)
    (mayErase : request = .command name .finalize ∨ request = .command name .drop)
    (commands : after.commands = session.commands)
    (readers : after.readers = session.readers) :
    HoldersChange request session { after with commands := after.commands.erase name } :=
  ⟨commands ▸ .erased name mayErase, readers ▸ .unchanged⟩

theorem keeping {name : String} {call : Call σ α} {put : Session σ → α → Session σ}
    (puts : ∀ {after : Session σ} made, (session.connections.get? name).isSome →
      (∃ link, (call link).1 = .ok made) → after.commands = session.commands →
      after.readers = session.readers → HoldersChange request session (put after made)) :
    HoldersChange request session (Session.keeping put (session.onConnection name call)).2 := by
  have commands : (session.onConnection name call).2.commands = session.commands :=
    onConnection_commands name call
  have readers : (session.onConnection name call).2.readers = session.readers :=
    onConnection_readers name call
  cases isLink : session.link? name with
  | none =>
      rw [onConnection_of_missing isLink]
      exact .refl session
  | some link =>
      obtain ⟨held, isHeld, -⟩ := held_of_link? isLink
      rw [onConnection_of_link isLink] at commands readers ⊢
      rcases outcome : call link with ⟨error | made, last⟩ <;> rw [outcome] at commands readers
      · exact .ofSame commands readers
      · exact puts made (isHeld ▸ rfl) ⟨link, congrArg Prod.fst outcome⟩ commands readers

theorem insertingReader {reader : String} {held : HeldReader}
    (isNew : newName (ε := ε) session.readers reader = .ok ())
    (isFresh : held.reader.cursor = .beforeFirst)
    (isConnected : (session.connections.get? held.connection).isSome)
    (isNoDrop : request ≠ .connection held.connection .drop)
    (commands : after.commands = session.commands) (readers : after.readers = session.readers) :
    HoldersChange request session
      { after with readers := after.readers.insert reader held } :=
  ⟨commands ▸ .unchanged, readers ▸ .inserted reader held
    (.new (get?_eq_none_of_newName isNew) isFresh isConnected isNoDrop)⟩

end HoldersChange

theorem performConnection_holders (name : String) (request : ConnectionRequest) :
    HoldersChange (.connection name request) session
      (performConnection backend session name request).2 := by
  cases request with
  | connect path config pool =>
      refine commit_keeps (.refl session) fun answer after isOk => ?_
      simp only [bind, Except.bind, pure, Except.pure] at isOk
      repeat' split at isOk
      all_goals cases isOk
      exact .ofSame rfl rfl
  | state =>
      refine commit_keeps (.refl session) fun answer after isOk => ?_
      split at isOk <;> cases isOk
      exact .refl session
  | drop =>
      unfold performConnection
      dsimp only
      repeat' split
      · exact .refl session
      · exact .refl session
      · exact .ofSame (onConnection_commands ..) (onConnection_readers ..)
  | executeReader reader sql =>
      unfold performConnection
      dsimp only
      split
      · exact .refl session
      · rename_i isNew
        exact .keeping fun made isConnected ⟨link, isMade⟩ commands readers =>
          .insertingReader isNew (Connection.executeReader_cursor isMade) isConnected (by simp)
            commands readers
  | createCommand command sql =>
      unfold performConnection
      dsimp only
      split
      · exact .refl session
      · rename_i isNew
        exact .keeping fun made _ _ commands readers =>
          ⟨commands ▸ .inserted command _ ⟨get?_eq_none_of_newName isNew, name, sql, rfl⟩,
            readers ▸ .unchanged⟩
  | _ =>
      unfold performConnection
      exact .ofSame (onConnection_commands ..) (onConnection_readers ..)

theorem performCommand_holders (name : String) (request : CommandRequest) :
    HoldersChange (.command name request) session
      (performCommand backend session name request).2 := by
  cases request with
  | executeReader reader =>
      unfold performCommand
      dsimp only
      split
      · exact .refl session
      · rename_i isNew
        split
        · exact .refl session
        · exact .keeping fun made isConnected ⟨link, isMade⟩ commands readers =>
            .insertingReader isNew (Command.executeReader_cursor isMade) isConnected (by simp)
              commands readers
  | finalize =>
      unfold performCommand
      dsimp only
      split
      · exact .refl session
      · exact .erasingCommand name (.inl rfl) (onConnection_commands ..) (onConnection_readers ..)
  | drop =>
      unfold performCommand
      dsimp only
      split
      · exact .refl session
      · exact .erasingCommand name (.inr rfl) (onConnection_commands ..)
          (onConnection_readers ..)
  | _ =>
      unfold performCommand useCommand
      dsimp only
      split
      · exact .refl session
      · exact .ofSame (onConnection_commands ..) (onConnection_readers ..)

section
variable {name : String} {held : HeldReader} (isHeld : session.readers.get? name = some held)
include isHeld

theorem suitsReader_of_held {asked : ReaderRequest} {reader : Reader}
    (same : reader.statement = held.reader.statement) :
    session.SuitsReader (.reader name asked) name { held with reader } :=
  .asked rfl isHeld rfl rfl same

theorem access_holders {asked : ReaderRequest}
    {accessor : Reader → Link σ → Except Error Answer × Reader}
    (same : ∀ link, (accessor held.reader link).2.statement = held.reader.statement) :
    HoldersChange (.reader name asked) session (access session name held accessor).2 := by
  cases isLink : session.link? held.connection with
  | none =>
      rw [access, isLink]
      exact .refl session
  | some link =>
      rw [access_of_link isLink]
      exact ⟨.unchanged, .inserted name _ (suitsReader_of_held isHeld (same link))⟩

theorem useReader_holders (request : ReaderRequest) :
    HoldersChange (.reader name request) session
      (useReader backend session name held request).2 := by
  cases request with
  | read =>
      unfold useReader
      dsimp only
      split
      · exact .refl session
      · split
        all_goals
          refine ⟨?_, .inserted name _ (suitsReader_of_held isHeld (Reader.read_statement ..))⟩
          dsimp only
          rw [setLink_commands]
          exact .unchanged
  | dispose =>
      unfold useReader
      dsimp only
      split
      · exact .refl session
      · dsimp only
        rw [setLink_readers]
        refine ⟨?_, .erased name rfl⟩
        dsimp only
        rw [setLink_commands]
        exact .unchanged
  | cursor => exact .refl session
  | _ =>
      rw [useReader_accessor backend session name held rfl]
      exact access_holders isHeld fun link => accessor_statement _ _ held.reader link

end

theorem performReader_holders (name : String) (request : ReaderRequest) :
    HoldersChange (.reader name request) session
      (performReader backend session name request).2 := by
  unfold performReader
  cases isFound : session.findReader (ε := Error) name with
  | error refusal => exact .refl session
  | ok held => exact useReader_holders backend (of_findReader isFound) request

theorem onReader_holders (name : String)
    (view : Reader → Link σ → Except Query.Error α) (answer : α → QueryAnswer)
    (leave : List Cell → List Cell) :
    HoldersChange request session (onReader session name (takeOut answer view leave)).2 := by
  unfold onReader
  cases isFound : session.findReader (ε := Query.Error) name with
  | error refusal => exact .refl session
  | ok held =>
      dsimp only
      cases isLink : session.link? held.connection with
      | none =>
          rw [access, isLink]
          exact .refl session
      | some link =>
          have isHeld := of_findReader isFound
          rw [access_of_link isLink]
          obtain ⟨cells, same⟩ := takeOut_cells answer view leave held.reader link
          exact ⟨.unchanged, .inserted name _ (.shown isHeld (by rw [same]))⟩

theorem performQuery_holders (request : QueryRequest) :
    HoldersChange (.query request) session (performQuery backend session request).2 := by
  have onCommand_holders (command : String) (call : StatementHandle → Query.Call σ Unit) :
      HoldersChange (.query request) session (onCommand session command call).2 := by
    unfold onCommand
    split
    · exact .refl session
    · exact .ofSame (onConnection_commands ..) (onConnection_readers ..)
  cases request with
  | bindValue command index value => exact onCommand_holders ..
  | bindValues command values => exact onCommand_holders ..
  | columnJson reader column => exact onReader_holders ..
  | decodeRow reader => exact onReader_holders ..
  | _ =>
      unfold performQuery
      exact .ofSame (onConnection_commands ..) (onConnection_readers ..)

theorem perform_holders (request : Request) :
    HoldersChange request session (perform backend session request).2 := by
  cases request with
  | pool request =>
      have objects : SameObjects session _ := performPool_objects backend request
      exact .ofSame objects.commands objects.readers
  | connection name request => exact performConnection_holders backend name request
  | command name request => exact performCommand_holders backend name request
  | reader name request => exact performReader_holders backend name request
  | query request => exact performQuery_holders backend request

/-! ## Names -/

structure HasUniqueNames (session : Session σ) : Prop where
  commands : session.commands.names.Nodup
  readers : session.readers.names.Nodup

theorem HasUniqueNames.ofNothing (state : σ) : HasUniqueNames { engine := state } where
  commands := .nil
  readers := .nil

theorem perform_uniqueNames (isUnique : session.HasUniqueNames) (request : Request) :
    (perform backend session request).2.HasUniqueNames :=
  have changes : HoldersChange request session _ := perform_holders backend request
  ⟨changes.commands.names_nodup isUnique.commands, changes.readers.names_nodup isUnique.readers⟩

theorem run_uniqueNames (isUnique : session.HasUniqueNames) (requests : List Request) :
    (run backend session requests).2.HasUniqueNames := by
  induction requests generalizing session with
  | nil => exact isUnique
  | cons request rest induction => exact induction (perform_uniqueNames backend isUnique request)

end Session

end EmbeddedSql
