import EmbeddedSql.Proofs.Query.Lifecycle
import EmbeddedSql.Proofs.Session.Link
import EmbeddedSql.Storage.Backend

/-! Connections over whole runs of a session: none goes back, each is disposed of at
most once, and what is asked of it afterwards is refused without the engine. -/

namespace EmbeddedSql.Session

open EmbeddedSql.Call (Advances Refuses)

variable {σ ε α β : Type}

def lifecycle? (session : Session σ) (name : String) : Option Lifecycle :=
  (session.connections.get? name).map (·.connection.lifecycle)

def history (backend : Backend σ) (session : Session σ) : List Request → List (Session σ)
  | [] => [session]
  | request :: rest => session :: history backend (perform backend session request).2 rest

/-! ## One request -/

def Request.disposes (name : String) : Request → Bool
  | .connection target .dispose => target = name
  | _ => false

/-- What is held under the name is still held and has not gone back. -/
def Follows (name : String) (before after : Session σ) : Prop :=
  ∀ held, before.connections.get? name = some held →
    ∃ next, after.connections.get? name = some next ∧
      held.connection.Continues next.connection

namespace Follows

variable {name : String} {before middle after : Session σ}

theorem refl (session : Session σ) : Follows name session session :=
  fun held isHeld => ⟨held, isHeld, .refl _⟩

theorem of_connections (same : after.connections.get? name = before.connections.get? name) :
    Follows name before after :=
  fun held isHeld => ⟨held, same.trans isHeld, .refl _⟩

theorem congr (follows : Follows name before middle)
    (same : after.connections = middle.connections) : Follows name before after := by
  intro held isHeld
  rw [same]
  exact follows held isHeld

theorem setLink {session : Session σ} {target : String} {link next : Link σ}
    (isLink : session.link? target = some link)
    (continues : link.connection.Continues next.connection) :
    Follows name session (session.setLink target next) := by
  intro held isHeld
  by_cases isTarget : name = target
  · subst isTarget
    rw [link?_of_held isHeld, Option.some.injEq] at isLink
    subst isLink
    exact ⟨_, by rw [setLink_connections_of_held next isHeld, Registry.get?_insert_self], continues⟩
  · exact ⟨held, by rw [setLink_connections_other next isTarget, isHeld], .refl _⟩

theorem onConnection {session : Session σ} {target : String}
    {call : ExceptT ε (StateM (Link σ)) α} (advances : Advances call) :
    Follows name session (session.onConnection target call).2 := by
  cases isLink : session.link? target with
  | none => exact onConnection_of_missing isLink call ▸ refl session
  | some link =>
      rw [onConnection_of_link isLink]
      exact setLink isLink (advances link)

theorem keeping {outcome : Except (Refusal Error) α × Session σ}
    {put : Session σ → α → Session σ} (follows : Follows name before outcome.2)
    (same : ∀ after made, (put after made).connections = after.connections) :
    Follows name before (keeping put outcome).2 := by
  rcases outcome with ⟨refusal | made, after⟩
  · exact follows
  · exact follows.congr (same after made)

theorem onConnection_other {session : Session σ} {target : String}
    {call : ExceptT ε (StateM (Link σ)) α} (isOther : name ≠ target) :
    Follows name session (session.onConnection target call).2 := by
  cases isLink : session.link? target with
  | none => exact onConnection_of_missing isLink call ▸ refl session
  | some link =>
      rw [onConnection_of_link isLink]
      exact of_connections (setLink_connections_other _ isOther)

theorem insert {session : Session σ} {target : String} {held : HeldConnection}
    (isNew : session.connections.get? target = none)
    (same : after.connections = session.connections.insert target held) :
    Follows name session after := by
  intro held isHeld
  have isOther : name ≠ target := by
    rintro rfl
    rw [isNew] at isHeld
    cases isHeld
  exact ⟨held, by rw [same, Registry.get?_insert_of_ne _ _ isOther, isHeld], .refl _⟩

theorem erase {target : String} (isOther : name ≠ target) (follows : Follows name before middle)
    (same : after.connections = middle.connections.erase target) :
    Follows name before after := by
  intro held isHeld
  rw [same, Registry.get?_erase_of_ne _ isOther]
  exact follows held isHeld

end Follows

variable (backend : Backend σ) (session : Session σ) (name : String)

theorem performConnection_follows (target : String) (request : ConnectionRequest)
    (isOther : request = .dispose ∨ request = .drop → name ≠ target) :
    Follows name session (performConnection backend session target request).2 := by
  cases request with
  | connect path config pool =>
      refine commit_keeps (.refl _) fun answer after isOk => ?_
      cases isNew : newName (ε := Error) session.connections target with
      | error refusal => simp [isNew, bind, Except.bind] at isOk
      | ok _ =>
          simp only [isNew, bind, Except.bind, pure, Except.pure] at isOk
          repeat' split at isOk
          all_goals cases isOk
          exact .insert (get?_eq_none_of_newName isNew) rfl
  | state =>
      refine commit_keeps (.refl _) fun answer after isOk => ?_
      split at isOk <;> cases isOk
      exact .refl _
  | ensureOpen => exact .onConnection (Connection.ensureOpen_advances _ _)
  | dispose => exact .onConnection_other (isOther (.inl rfl))
  | drop =>
      unfold performConnection
      dsimp only
      split
      · exact .refl _
      split
      · exact .refl _
      · exact .erase (isOther (.inr rfl)) (.onConnection_other (isOther (.inr rfl))) rfl
  | changes => exact .onConnection (Connection.changes_advances _ _)
  | pendingStatements => exact .onConnection (Connection.pendingStatements_advances _)
  | lastInsertRowid => exact .onConnection (Connection.lastInsertRowid_advances _ _)
  | executeNonQuery sql => exact .onConnection (Connection.executeNonQuery_advances _ _)
  | executeReader reader sql =>
      unfold performConnection
      dsimp only
      split
      · exact .refl _
      · exact .keeping (.onConnection (Connection.executeReader_advances backend sql))
          fun _ _ => rfl
  | createCommand command sql =>
      unfold performConnection
      dsimp only
      split
      · exact .refl _
      · exact .keeping (.onConnection (Connection.createCommand_advances backend sql))
          fun _ _ => rfl

theorem useCommand_follows (held : HeldCommand) (request : CommandRequest) :
    Follows name session (useCommand backend session held request).2 := by
  cases request with
  | sql => exact .onConnection (Command.sql_advances _ _)
  | executeNonQuery => exact .onConnection (Command.executeNonQuery_advances _ _)
  | parameterCount => exact .onConnection (Parameter.count_advances _ _)
  | clear => exact .onConnection (Parameter.clear_advances _ _)
  | indexOf parameter => exact .onConnection (Parameter.resolve_advances _ _ _ _)
  | nameOf index => exact .onConnection (Parameter.nameOf_advances _ _ _)
  | bind parameter argument => exact .onConnection (Parameter.bind_advances _ _ _ _ _)
  | bindText parameter text => exact .onConnection (Parameter.bindText_advances _ _ _ _ _)
  | executeReader reader => exact .refl _
  | finalize => exact .refl _
  | drop => exact .refl _

theorem performCommand_follows (command : String) (request : CommandRequest) :
    Follows name session (performCommand backend session command request).2 := by
  cases request with
  | executeReader reader =>
      unfold performCommand
      dsimp only
      split
      · exact .refl _
      split
      · exact .refl _
      rename_i held _
      exact .keeping (.onConnection held.command.executeReader_advances) fun _ _ => rfl
  | finalize =>
      unfold performCommand
      dsimp only
      split
      · exact .refl _
      · exact (Follows.onConnection (Command.finalize_advances _ _)).congr rfl
  | drop =>
      unfold performCommand
      dsimp only
      split
      · exact .refl _
      rename_i held _
      have advances : Advances (ε := Error) fun link : Link σ =>
          (.ok (), held.command.drop backend link) := by
        intro link
        dsimp only
        rw [Command.drop_connection]
        exact .refl _
      exact (Follows.onConnection advances).congr rfl
  | _ =>
      unfold performCommand
      dsimp only
      split
      · exact .refl _
      · exact useCommand_follows backend session name _ _

theorem useReader_follows (reader : String) (held : HeldReader) (request : ReaderRequest) :
    Follows name session (useReader backend session reader held request).2 := by
  cases request with
  | read =>
      unfold useReader
      dsimp only
      split
      · exact .refl _
      rename_i link isLink
      have follows : Follows name session
          (session.setLink held.connection (held.reader.read backend.engine link).2) :=
        .setLink isLink (held.reader.read_connection backend.engine link ▸ .refl _)
      split <;> exact follows.congr rfl
  | dispose =>
      unfold useReader
      dsimp only
      split
      · exact .refl _
      rename_i link isLink
      have follows : Follows name session
          (session.setLink held.connection (held.reader.dispose backend.engine link)) :=
        .setLink isLink (held.reader.dispose_connection backend.engine link ▸ .refl _)
      exact follows.congr rfl
  | cursor => exact .refl _
  | _ =>
      obtain ⟨readers, same⟩ := access_session session reader held _
      exact (Follows.refl session).congr (by rw [useReader, same])

theorem performReader_follows (reader : String) (request : ReaderRequest) :
    Follows name session (performReader backend session reader request).2 := by
  unfold performReader
  split
  · exact .refl _
  · exact useReader_follows backend session name _ _ _

theorem onCommand_follows (command : String) {call : StatementHandle → Query.Call σ Unit}
    (advances : ∀ statement, Advances (call statement)) :
    Follows name session (onCommand session command call).2 := by
  unfold onCommand
  split
  · exact .refl _
  · exact .onConnection (advances _)

theorem performQuery_follows (request : QueryRequest) :
    Follows name session (performQuery backend session request).2 := by
  cases request with
  | execute connection sql values => exact .onConnection (Query.execute_advances _ _ _)
  | fetchAll connection sql values => exact .onConnection (Query.fetchAll_advances _ _ _)
  | fetchOne connection sql values => exact .onConnection (Query.fetchOne_advances _ _ _)
  | executeTransaction connection statements =>
      exact .onConnection (Query.executeTransaction_advances _ _)
  | bindValue command index value =>
      exact onCommand_follows _ _ _ fun _ => Query.bindValue_advances _ _ _ _ _
  | bindValues command values =>
      exact onCommand_follows _ _ _ fun _ => Query.bindValues_advances _ _ _ _
  | columnJson reader column =>
      obtain ⟨readers, same⟩ := onReader_session session reader _
      exact .of_connections (by rw [performQuery, same])
  | decodeRow reader =>
      obtain ⟨readers, same⟩ := onReader_session session reader _
      exact .of_connections (by rw [performQuery, same])

theorem drop_of_held {target : String} {next : HeldConnection}
    (isHeld : (performConnection backend session target .drop).2.connections.get? target =
      some next) :
    (performConnection backend session target .drop).2 = session := by
  unfold performConnection at isHeld ⊢
  dsimp only at isHeld ⊢
  split at isHeld
  · rw [if_pos (by assumption)]
  rename_i isThere
  rw [if_neg isThere]
  split at isHeld
  · rw [if_pos (by assumption)]
  · simp [done, answering] at isHeld

theorem perform_follows {request : Request} (isOther : request.disposes name = false)
    (isKept : ((perform backend session request).2.lifecycle? name).isSome) :
    Follows name session (perform backend session request).2 := by
  cases request with
  | pool request => exact .of_connections (by rw [perform, (performPool_objects _ _).connections])
  | connection target request =>
      by_cases isDropped : request = .drop ∧ name = target
      · rcases isDropped with ⟨rfl, rfl⟩
        have isHeld := isKept
        simp only [perform, lifecycle?, Option.isSome_map] at isHeld
        rw [Option.isSome_iff_exists] at isHeld
        rcases isHeld with ⟨next, isHeld⟩
        simp only [perform]
        rw [drop_of_held backend session isHeld]
        exact .refl _
      · exact performConnection_follows backend session name target request
          fun ends isTarget => ends.elim
            (fun isDispose => by simp [isDispose, isTarget, Request.disposes] at isOther)
            (fun isDrop => isDropped ⟨isDrop, isTarget⟩)
  | command command request => exact performCommand_follows backend session name command request
  | reader reader request => exact performReader_follows backend session name reader request
  | query request => exact performQuery_follows backend session name request

/-! ## Requests to a disposed connection -/

/-- The connection that a request calls on in a way that can fail. There is none if a
name that it needs is missing or taken, or if it cannot fail. -/
def target? (session : Session σ) : Request → Option String
  | .pool _ => none
  | .connection name request =>
      match request with
      | .connect .. => none
      | .state => none
      | .drop => none
      | .executeReader reader _ => if session.readers.contains reader then none else some name
      | .createCommand command _ => if session.commands.contains command then none else some name
      | _ => some name
  | .command name request =>
      match request with
      | .drop => none
      | .executeReader reader =>
          if session.readers.contains reader then none else ofFreeCommand name
      | _ => ofFreeCommand name
  | .reader name request =>
      match request with
      | .cursor => none
      | .dispose => none
      | _ => ofReader name
  | .query request =>
      match request with
      | .execute connection .. => some connection
      | .fetchAll connection .. => some connection
      | .fetchOne connection .. => some connection
      | .executeTransaction connection _ => some connection
      | .bindValue command .. => ofFreeCommand command
      | .bindValues command values => if values.isEmpty then none else ofFreeCommand command
      | .columnJson reader _ => ofReader reader
      | .decodeRow reader => ofReader reader
where
  ofFreeCommand (name : String) : Option String :=
    if session.commandIsRead name then none
    else (session.commands.get? name).map (·.connection)
  ofReader (name : String) : Option String :=
    (session.readers.get? name).map (·.connection)

def lateAnswer : Request → Response
  | .query _ => .query (.error (.failed (.connection .useAfterDispose)))
  | _ => .plain (.error (.failed .useAfterDispose))

/-- The session gives the late answer on its own: no engine makes a difference, and the
engine's state stays what it is. -/
def RefusesAlone (session : Session σ) (request : Request) : Prop :=
  ∃ after : Session σ, after.engine = session.engine ∧
    ∀ backend : Backend σ, perform backend session request = (lateAnswer request, after)

section
variable {session name} {link : Link σ} (isLink : session.link? name = some link)
  (isDisposed : link.connection.lifecycle = .disposed)

theorem link_of_disposed (isDisposed : session.lifecycle? name = some .disposed) :
    ∃ link, session.link? name = some link ∧ link.connection.lifecycle = .disposed ∧
      link.engine = session.engine := by
  cases isHeld : session.connections.get? name with
  | none => simp [lifecycle?, isHeld] at isDisposed
  | some held =>
      simp only [lifecycle?, isHeld, Option.map_some, Option.some.injEq] at isDisposed
      exact ⟨_, link?_of_held isHeld, isDisposed, rfl⟩

include isLink isDisposed

theorem onConnection_of_refuses {error : ε} {call : ExceptT ε (StateM (Link σ)) α}
    (refuses : Refuses error call) :
    session.onConnection name call = (.error (.failed error), session.setLink name link) := by
  rw [onConnection_of_link isLink, refuses link isDisposed]
  rfl

theorem performConnection_of_disposed {request : ConnectionRequest}
    (isTarget : target? session (.connection name request) = some name) :
    performConnection backend session name request =
      (.error (.failed .useAfterDispose), session.setLink name link) := by
  have late {α : Type} {call : EmbeddedSql.Call σ α} (refuses : Refuses .useAfterDispose call) :=
    onConnection_of_refuses isLink isDisposed refuses
  cases request with
  | connect path config pool => cases isTarget
  | state => cases isTarget
  | drop => cases isTarget
  | ensureOpen => rw [performConnection, late (Connection.ensureOpen_refuses _ _)]; rfl
  | dispose => rw [performConnection, late (Connection.dispose_refuses _)]; rfl
  | changes => rw [performConnection, late (Connection.changes_refuses _ _)]; rfl
  | pendingStatements => rw [performConnection, late (Connection.pendingStatements_refuses _)]; rfl
  | lastInsertRowid => rw [performConnection, late (Connection.lastInsertRowid_refuses _ _)]; rfl
  | executeNonQuery sql => rw [performConnection, late (Connection.executeNonQuery_refuses _ _)]; rfl
  | executeReader reader sql =>
      cases isTaken : session.readers.contains reader with
      | true => simp [target?, isTaken] at isTarget
      | false =>
          rw [performConnection, late (Connection.executeReader_refuses _ _)]
          simp [newName, isTaken, keeping]
  | createCommand command sql =>
      cases isTaken : session.commands.contains command with
      | true => simp [target?, isTaken] at isTarget
      | false =>
          rw [performConnection, late (Connection.createCommand_refuses _ _)]
          simp [newName, isTaken, keeping]

end

theorem free_of_target {command : String} (isTarget : target?.ofFreeCommand session command = some name) :
    ∃ held, session.freeCommand (ε := ε) command = .ok held ∧ held.connection = name := by
  unfold target?.ofFreeCommand at isTarget
  split at isTarget
  · cases isTarget
  rename_i isFree
  rcases Option.map_eq_some_iff.mp isTarget with ⟨held, isHeld, isOn⟩
  exact ⟨held, by simp [freeCommand, isHeld, isFree], isOn⟩

theorem reader_of_target {reader : String} (isTarget : target?.ofReader session reader = some name) :
    ∃ held, session.findReader (ε := ε) reader = .ok held ∧ held.connection = name := by
  rcases Option.map_eq_some_iff.mp isTarget with ⟨held, isHeld, isOn⟩
  exact ⟨held, by simp [findReader, isHeld], isOn⟩

section
variable {session name} {link : Link σ} (isLink : session.link? name = some link)
  (isDisposed : link.connection.lifecycle = .disposed)
include isLink isDisposed

theorem performCommand_of_disposed {command : String} {request : CommandRequest}
    (isTarget : target? session (.command command request) = some name) :
    ∃ after : Session σ, after.engine = link.engine ∧ ∀ backend : Backend σ,
      performCommand backend session command request =
        (.error (.failed .useAfterDispose), after) := by
  have late {α : Type} {call : EmbeddedSql.Call σ α} (refuses : Refuses .useAfterDispose call) :=
    onConnection_of_refuses isLink isDisposed refuses
  have sameEngine := setLink_engine session name link
  cases request with
  | drop => cases isTarget
  | executeReader reader =>
      cases isTaken : session.readers.contains reader with
      | true => simp [target?, isTaken] at isTarget
      | false =>
          simp only [target?, isTaken] at isTarget
          rcases free_of_target session name (ε := Error) isTarget with ⟨held, isFree, rfl⟩
          refine ⟨_, sameEngine, fun backend => ?_⟩
          simp [performCommand, newName, isTaken, isFree, keeping,
            late held.command.executeReader_refuses]
  | finalize =>
      rcases free_of_target session name (ε := Error) isTarget with ⟨held, isFree, rfl⟩
      refine ⟨{ session.setLink held.connection link with
        commands := (session.setLink held.connection link).commands.erase command },
        sameEngine, fun backend => ?_⟩
      simp only [performCommand, isFree, late (held.command.finalize_refuses backend)]
      rfl
  | _ =>
      rcases free_of_target session name (ε := Error) isTarget with ⟨held, isFree, rfl⟩
      refine ⟨_, sameEngine, fun backend => ?_⟩
      simp only [performCommand, isFree, useCommand]
      rw [late]
      · rfl
      first
        | exact Command.sql_refuses _ _
        | exact Command.executeNonQuery_refuses _ _
        | exact Parameter.count_refuses _ _
        | exact Parameter.clear_refuses _ _
        | exact Parameter.resolve_refuses _ _ _ _
        | exact Parameter.nameOf_refuses _ _ _
        | exact Parameter.bind_refuses _ _ _ _ _
        | exact Parameter.bindText_refuses _ _ _ _ _

omit isDisposed in
theorem access_of_refused {reader : String} {held : HeldReader} (isOn : held.connection = name)
    {accessor : Reader → Link σ → Except ε α × Reader} {error : ε}
    (refused : accessor held.reader link = (.error error, held.reader)) :
    access session reader held accessor =
      (.error (.failed error),
        { session with readers := session.readers.insert reader held }) := by
  subst isOn
  simp [access, isLink, refused]

theorem useReader_of_disposed {reader : String} {held : HeldReader} {request : ReaderRequest}
    (isOn : held.connection = name)
    (isTarget : target? session (.reader reader request) = some name) :
    ∃ after : Session σ, after.engine = session.engine ∧ ∀ backend : Backend σ,
      useReader backend session reader held request =
        (.error (.failed .useAfterDispose), after) := by
  have count (engine : Engine σ) := held.reader.columnCount_of_disposed engine isDisposed
  have named (engine : Engine σ) (column : Nat) :=
    held.reader.name_of_disposed engine column isDisposed
  have cell (engine : Engine σ) (column : Nat) :=
    held.reader.cell_of_disposed engine column isDisposed
  cases request with
  | cursor => cases isTarget
  | dispose => cases isTarget
  | read =>
      subst isOn
      have sameEngine : link.engine = session.engine := by
        rcases held_of_link? isLink with ⟨held, _, rfl⟩
        rfl
      refine ⟨{ session.setLink held.connection link with
        readers := (session.setLink held.connection link).readers.insert reader held },
        (setLink_engine ..).trans sameEngine, fun backend => ?_⟩
      simp only [useReader, isLink, held.reader.read_of_disposed backend.engine isDisposed]
      simp
  | _ =>
      refine ⟨{ session with readers := session.readers.insert reader held }, rfl, fun backend => ?_⟩
      rw [useReader, access_of_refused isLink isOn]
      simp [look, count, named, cell, Reader.nameString, Reader.nameUtf16, Reader.storageClass,
        Reader.isNull, Reader.int32, Reader.int64, Reader.real, Reader.bytes, Reader.string,
        Reader.utf8, Reader.utf16, Reader.take_eq, Reader.copyBytes, Reader.copyUtf8,
        Reader.copyUtf16, Reader.copy, reportCopy, Except.map, bind, Except.bind]

theorem performQuery_of_disposed {request : QueryRequest}
    (isTarget : target? session (.query request) = some name) :
    ∃ after : Session σ, after.engine = link.engine ∧ ∀ backend : Backend σ,
      performQuery backend session request =
        (.error (.failed (.connection .useAfterDispose)), after) := by
  have late {α : Type} {call : Query.Call σ α}
      (refuses : Refuses (.connection .useAfterDispose) call) :=
    onConnection_of_refuses isLink isDisposed refuses
  have sameEngine := setLink_engine session name link
  have lateCommand {command : String} {call : Backend σ → StatementHandle → Query.Call σ Unit}
      (isFree : target?.ofFreeCommand session command = some name)
      (refuses : ∀ backend statement,
        Refuses (.connection .useAfterDispose) (call backend statement)) (backend : Backend σ) :
      onCommand session command (call backend) =
        (.error (.failed (.connection .useAfterDispose)), session.setLink name link) := by
    rcases free_of_target session name (ε := Query.Error) isFree with ⟨held, found, rfl⟩
    rw [onCommand, found]
    simp only [late (refuses backend _)]
    rfl
  cases request with
  | execute connection sql values =>
      cases isTarget
      exact ⟨_, sameEngine, fun backend => by
        rw [performQuery, late (Query.execute_refuses backend sql values)]; rfl⟩
  | fetchAll connection sql values =>
      cases isTarget
      exact ⟨_, sameEngine, fun backend => by
        rw [performQuery, late (Query.fetchAll_refuses backend sql values)]; rfl⟩
  | fetchOne connection sql values =>
      cases isTarget
      exact ⟨_, sameEngine, fun backend => by
        rw [performQuery, late (Query.fetchOne_refuses backend sql values)]; rfl⟩
  | executeTransaction connection statements =>
      cases isTarget
      exact ⟨_, sameEngine, fun backend => by
        rw [performQuery, late (Query.executeTransaction_refuses backend statements)]; rfl⟩
  | bindValue command index value =>
      exact ⟨_, sameEngine, lateCommand isTarget fun backend statement =>
        Query.bindValue_refuses backend.engine backend.growth statement index value⟩
  | bindValues command values =>
      cases values with
      | nil => cases isTarget
      | cons value rest =>
          exact ⟨_, sameEngine, lateCommand isTarget fun backend statement =>
            Query.bindValues_refuses backend.engine backend.growth statement
              (List.cons_ne_nil value rest)⟩
  | columnJson reader column =>
      rcases reader_of_target session name (ε := Query.Error) isTarget with ⟨held, isFound, rfl⟩
      rcases held_of_link? isLink with ⟨_, _, rfl⟩
      refine ⟨{ session with readers := session.readers.insert reader held }, rfl, fun backend => ?_⟩
      rw [performQuery, onReader_of_held isFound]
      refine access_of_refused isLink rfl ?_
      rw [takeOut, Query.columnJson_of_disposed backend.engine held.reader isDisposed]
  | decodeRow reader =>
      rcases reader_of_target session name (ε := Query.Error) isTarget with ⟨held, isFound, rfl⟩
      rcases held_of_link? isLink with ⟨_, _, rfl⟩
      refine ⟨{ session with readers := session.readers.insert reader held }, rfl, fun backend => ?_⟩
      rw [performQuery, onReader_of_held isFound]
      refine access_of_refused isLink rfl ?_
      rw [takeOut, Query.decodeRow_of_disposed backend.engine held.reader isDisposed]

end

theorem refusesAlone_of_target {request : Request}
    (isDisposed : session.lifecycle? name = some .disposed)
    (isTarget : target? session request = some name) : RefusesAlone session request := by
  rcases link_of_disposed isDisposed with ⟨link, isLink, isLate, sameEngine⟩
  cases request with
  | pool request => cases isTarget
  | connection target request =>
      have isName : target = name := by
        simp only [target?] at isTarget
        repeat' split at isTarget
        all_goals cases isTarget <;> rfl
      subst isName
      refine ⟨session.setLink target link, (setLink_engine ..).trans sameEngine, fun backend => ?_⟩
      simp only [perform, performConnection_of_disposed backend isLink isLate isTarget]
      rfl
  | command command request =>
      rcases performCommand_of_disposed isLink isLate isTarget with ⟨after, same, refused⟩
      exact ⟨after, same.trans sameEngine, fun backend => by simp only [perform, refused]; rfl⟩
  | reader reader request =>
      have isHeld : target?.ofReader session reader = some name := by
        simp only [target?] at isTarget
        split at isTarget
        · cases isTarget
        · cases isTarget
        · exact isTarget
      rcases reader_of_target session name (ε := Error) isHeld with ⟨held, isFound, isOn⟩
      rcases useReader_of_disposed isLink isLate isOn isTarget with ⟨after, same, refused⟩
      exact ⟨after, same, fun backend => by
        simp only [perform, performReader, isFound, refused]; rfl⟩
  | query request =>
      rcases performQuery_of_disposed isLink isLate isTarget with ⟨after, same, refused⟩
      exact ⟨after, same.trans sameEngine, fun backend => by simp only [perform, refused]; rfl⟩

/-! ## Disposing -/

theorem lifecycle?_of_link {link : Link σ} (isLink : session.link? name = some link) :
    session.lifecycle? name = some link.connection.lifecycle := by
  rcases held_of_link? isLink with ⟨held, isHeld, rfl⟩
  rw [lifecycle?, isHeld, Option.map_some]

theorem lifecycle?_setLink {link : Link σ} (isLink : session.link? name = some link)
    (next : Link σ) :
    (session.setLink name next).lifecycle? name = some next.connection.lifecycle := by
  rcases held_of_link? isLink with ⟨held, isHeld, rfl⟩
  rw [lifecycle?, setLink_connections_of_held next isHeld, Registry.get?_insert_self,
    Option.map_some]

theorem perform_dispose_of_live {lifecycle : Lifecycle}
    (isHeld : session.lifecycle? name = some lifecycle) (isLive : lifecycle ≠ .disposed) :
    (perform backend session (.connection name .dispose)).1 = .plain (.ok .nothing) ∧
      (perform backend session (.connection name .dispose)).2.lifecycle? name =
        some .disposed := by
  cases isLink : session.link? name with
  | none =>
      have isMissing : session.connections.get? name = none := by
        simpa [link?] using isLink
      simp [lifecycle?, isMissing] at isHeld
  | some link =>
      rw [lifecycle?_of_link session name isLink, Option.some.injEq] at isHeld
      subst isHeld
      rcases Connection.dispose_of_live backend.engine isLive with ⟨state, disposed⟩
      simp only [perform, performConnection, onConnection_of_link isLink, disposed]
      exact ⟨rfl, lifecycle?_setLink session name isLink _⟩

/-! ## Runs -/

/-- What the requests of a run that dispose of a connection are answered. -/
def disposals (backend : Backend σ) (session : Session σ) (name : String)
    (requests : List Request) : List Response :=
  ((requests.zip (run backend session requests).1).filter (·.1.disposes name)).map (·.2)

theorem disposals_cons (request : Request) (rest : List Request) :
    disposals backend session name (request :: rest) =
      (if request.disposes name then [(perform backend session request).1] else []) ++
        disposals backend (perform backend session request).2 name rest := by
  unfold disposals
  rw [run, List.zip_cons_cons, List.filter_cons]
  cases request.disposes name <;> simp

theorem eq_dispose_of_disposes {request : Request} (disposes : request.disposes name = true) :
    request = .connection name .dispose := by
  unfold Request.disposes at disposes
  split at disposes
  · rw [of_decide_eq_true disposes]
  · cases disposes

section
variable {backend session name}

theorem step_of_kept {request : Request} {lifecycle : Lifecycle}
    (isHeld : session.lifecycle? name = some lifecycle)
    (isKept : ((perform backend session request).2.lifecycle? name).isSome) :
    ∃ next, (perform backend session request).2.lifecycle? name = some next ∧
      (lifecycle.Continues next ∨
        request = .connection name .dispose ∧ lifecycle ≠ .disposed ∧ next = .disposed ∧
          (perform backend session request).1 = .plain (.ok .nothing)) := by
  by_cases isLate : request = .connection name .dispose ∧ lifecycle ≠ .disposed
  · rcases isLate with ⟨rfl, isLive⟩
    rcases perform_dispose_of_live backend session name isHeld isLive with ⟨answer, isDisposed⟩
    exact ⟨_, isDisposed, .inr ⟨rfl, isLive, rfl, answer⟩⟩
  cases disposes : request.disposes name with
  | false =>
      rcases Option.map_eq_some_iff.mp isHeld with ⟨held, found, rfl⟩
      rcases perform_follows backend session name disposes isKept held found with
        ⟨next, isNext, continues⟩
      exact ⟨_, by rw [lifecycle?, isNext, Option.map_some], .inl continues.lifecycle⟩
  | true =>
      have isDispose := eq_dispose_of_disposes name disposes
      subst isDispose
      have isDisposed : lifecycle = .disposed := by simpa using isLate
      subst isDisposed
      rcases link_of_disposed isHeld with ⟨link, isLink, isDisposed, _⟩
      have refused : performConnection backend session name .dispose = _ :=
        performConnection_of_disposed backend isLink isDisposed rfl
      refine ⟨.disposed, ?_, .inl (.refl _)⟩
      simp only [perform, refused]
      rw [lifecycle?_setLink session name isLink, isDisposed]

variable {requests : List Request}

theorem kept_first {session : Session σ}
    (isKept : ∀ later ∈ history backend session requests, (later.lifecycle? name).isSome) :
    (session.lifecycle? name).isSome := by
  cases requests with
  | nil => exact isKept session (List.mem_singleton_self _)
  | cons request rest => exact isKept session List.mem_cons_self

theorem kept_rest {request : Request}
    (isKept : ∀ later ∈ history backend session (request :: requests),
      (later.lifecycle? name).isSome) :
    ∀ later ∈ history backend (perform backend session request).2 requests,
      (later.lifecycle? name).isSome :=
  fun later isLater => isKept later (List.mem_cons_of_mem _ isLater)

theorem run_of_disposed (isDisposed : session.lifecycle? name = some .disposed)
    (isKept : ∀ later ∈ history backend session requests, (later.lifecycle? name).isSome) :
    (history backend session requests).map (·.lifecycle? name) =
        List.replicate (requests.length + 1) (some .disposed) ∧
      disposals backend session name requests =
        List.replicate (requests.countP (·.disposes name))
          (lateAnswer (.connection name .dispose)) := by
  induction requests generalizing session with
  | nil => exact ⟨by simp [history, isDisposed], rfl⟩
  | cons request rest induction =>
      have isKept := kept_rest isKept
      rcases step_of_kept isDisposed (kept_first isKept) with
        ⟨next, isNext, continues | ⟨_, isLive, _⟩⟩
      · cases continues
        rcases induction isNext isKept with ⟨lives, answers⟩
        refine ⟨by rw [history, List.map_cons, lives, isDisposed]; rfl, ?_⟩
        rw [disposals_cons, answers, List.countP_cons]
        cases disposes : request.disposes name with
        | false => rfl
        | true =>
            have isDispose := eq_dispose_of_disposes name disposes
            subst isDispose
            have isTarget : target? session (.connection name .dispose) = some name := rfl
            rcases refusesAlone_of_target session name isDisposed isTarget with ⟨after, _, refused⟩
            rw [refused backend]
            simp [List.replicate_succ]
      · exact absurd rfl isLive

/-- Answers to requests that dispose of one connection: the first one finds it in use. -/
def DisposesOnce (name : String) (answers : List Response) : Prop :=
  answers = [] ∨ ∃ later, answers =
    .plain (.ok .nothing) :: List.replicate later (lateAnswer (.connection name .dispose))

theorem run_of_live {lifecycle : Lifecycle} {request : Request}
    (isHeld : session.lifecycle? name = some lifecycle) (isLive : lifecycle ≠ .disposed)
    (isKept : ∀ later ∈ history backend session (request :: requests),
      (later.lifecycle? name).isSome) :
    (∃ later,
      (history backend (perform backend session request).2 requests).map (·.lifecycle? name) =
        List.replicate later (some .disposed) ∧
      DisposesOnce name (disposals backend session name (request :: requests))) ∨
    ∃ next, (perform backend session request).2.lifecycle? name = some next ∧
      lifecycle.Continues next ∧
      disposals backend session name (request :: requests) =
        disposals backend (perform backend session request).2 name requests := by
  have isKept := kept_rest isKept
  rcases step_of_kept isHeld (kept_first isKept) with
    ⟨next, isNext, continues | ⟨rfl, _, rfl, answer⟩⟩
  · refine .inr ⟨next, isNext, continues, ?_⟩
    cases disposes : request.disposes name with
    | false => rw [disposals_cons, disposes]; rfl
    | true =>
        have isDispose := eq_dispose_of_disposes name disposes
        subst isDispose
        have isDisposed := (perform_dispose_of_live backend session name isHeld isLive).2
        rw [isNext, Option.some.injEq] at isDisposed
        subst isDisposed
        cases continues
        exact absurd rfl isLive
  · rcases run_of_disposed isNext isKept with ⟨lives, answers⟩
    refine .inl ⟨_, lives, .inr ⟨requests.countP (·.disposes name), ?_⟩⟩
    rw [disposals_cons, answers, answer]
    simp [Request.disposes]

theorem run_of_opened {database : DatabaseHandle}
    (isOpened : session.lifecycle? name = some (.opened database))
    (isKept : ∀ later ∈ history backend session requests, (later.lifecycle? name).isSome) :
    (∃ opened disposed, (history backend session requests).map (·.lifecycle? name) =
      List.replicate (opened + 1) (some (.opened database)) ++
        List.replicate disposed (some .disposed)) ∧
      DisposesOnce name (disposals backend session name requests) := by
  induction requests generalizing session with
  | nil => exact ⟨⟨0, 0, by simp [history, isOpened]⟩, .inl rfl⟩
  | cons request rest induction =>
      rcases run_of_live isOpened (by simp) isKept with
        ⟨later, lives, answers⟩ | ⟨next, isNext, continues, answers⟩
      · exact ⟨⟨0, later, by rw [history, List.map_cons, lives, isOpened]; rfl⟩, answers⟩
      · cases continues
        rcases induction isNext (kept_rest isKept) with ⟨⟨opened, disposed, lives⟩, once⟩
        refine ⟨⟨opened + 1, disposed, ?_⟩, answers ▸ once⟩
        rw [history, List.map_cons, lives, isOpened]
        rfl

theorem run_of_unopened (isUnopened : session.lifecycle? name = some .unopened)
    (isKept : ∀ later ∈ history backend session requests, (later.lifecycle? name).isSome) :
    (∃ database unopened opened disposed,
      (history backend session requests).map (·.lifecycle? name) =
        List.replicate (unopened + 1) (some .unopened) ++
          List.replicate opened (some (.opened database)) ++
            List.replicate disposed (some .disposed)) ∧
      DisposesOnce name (disposals backend session name requests) := by
  induction requests generalizing session with
  | nil => exact ⟨⟨⟨0⟩, 0, 0, 0, by simp [history, isUnopened]⟩, .inl rfl⟩
  | cons request rest induction =>
      rcases run_of_live isUnopened (by simp) isKept with
        ⟨later, lives, answers⟩ | ⟨next, isNext, continues, answers⟩
      · exact ⟨⟨⟨0⟩, 0, 0, later, by rw [history, List.map_cons, lives, isUnopened]; rfl⟩, answers⟩
      · cases continues with
        | refl =>
            rcases induction isNext (kept_rest isKept) with
              ⟨⟨database, unopened, opened, disposed, lives⟩, once⟩
            refine ⟨⟨database, unopened + 1, opened, disposed, ?_⟩, answers ▸ once⟩
            rw [history, List.map_cons, lives, isUnopened]
            rfl
        | opening database =>
            rcases run_of_opened isNext (kept_rest isKept) with ⟨⟨opened, disposed, lives⟩, once⟩
            refine ⟨⟨database, 0, opened + 1, disposed, ?_⟩, answers ▸ once⟩
            rw [history, List.map_cons, lives, isUnopened]
            rfl

end

/-- As long as a connection is held it goes from unopened over open to disposed, with the
same database as long as it is open. One request to dispose of it succeeds at most, and
once it is disposed all that can fail is refused without the engine. -/
theorem connection_lifecycle (isUnopened : session.lifecycle? name = some .unopened)
    (requests : List Request)
    (isKept : ∀ later ∈ history backend session requests, (later.lifecycle? name).isSome) :
    (∃ database unopened opened disposed,
      (history backend session requests).map (·.lifecycle? name) =
        List.replicate (unopened + 1) (some .unopened) ++
          List.replicate opened (some (.opened database)) ++
            List.replicate disposed (some .disposed)) ∧
      (disposals backend session name requests = [] ∨ ∃ later,
        disposals backend session name requests = .plain (.ok .nothing) ::
          List.replicate later (.plain (.error (.failed .useAfterDispose)))) ∧
      ∀ later ∈ history backend session requests, later.lifecycle? name = some .disposed →
        ∀ request, target? later request = some name → RefusesAlone later request := by
  rcases run_of_unopened isUnopened isKept with ⟨lives, once⟩
  exact ⟨lives, once, fun later _ isDisposed request isTarget =>
    refusesAlone_of_target later name isDisposed isTarget⟩

theorem connection_lifecycle_twice_disposed :
    let session : Session Storage.Store :=
      { engine := {}, connections := [("main", ⟨0, {}⟩)] }
    let requests : List Request :=
      [.connection "main" .ensureOpen,
        .connection "main" (.createCommand "one" (.ofString "SELECT 1")),
        .connection "main" .dispose, .command "one" .sql, .connection "main" .dispose]
    disposals Storage.backend session "main" requests =
      [.plain (.ok .nothing), .plain (.error (.failed .useAfterDispose))] := by
  intro session requests
  have areTwo : (disposals Storage.backend session "main" requests).length = 2 := by
    decide +kernel
  rcases (connection_lifecycle Storage.backend session "main" rfl requests
    (by decide +kernel)).2.1 with isNone | ⟨later, answers⟩
  · rw [isNone] at areTwo
    cases areTwo
  · rw [answers, List.length_cons, List.length_replicate] at areTwo
    obtain rfl : later = 1 := Nat.succ.inj areTwo
    exact answers

end EmbeddedSql.Session
