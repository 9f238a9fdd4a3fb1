import EmbeddedSql.Proofs.Query.Custody
import EmbeddedSql.Proofs.Session.Books
import EmbeddedSql.Proofs.Session.Link

/-! Sessions whose books are in order, followed on an engine and on one that is like it as
far as handles in use go. -/

namespace EmbeddedSql.Session

variable {σ τ ε α β : Type}

def withEngine (session : Session σ) (engine : τ) : Session τ where
  engine := engine
  pools := session.pools
  poolNames := session.poolNames
  buffers := session.buffers
  connections := session.connections
  commands := session.commands
  readers := session.readers

/-! ## The books of a session -/

def useOfCommand (held : HeldCommand) : Use :=
  ⟨held.connection, held.command.statement, none⟩

def useOfReader (held : HeldReader) : Use :=
  ⟨held.connection, held.reader.statement, held.command⟩

def books (session : Session σ) : Books where
  connection? name := (session.connections.get? name).map (·.connection)
  use?
    | .command name => (session.commands.get? name).map useOfCommand
    | .reader name => (session.readers.get? name).map useOfReader

section
variable (session : Session σ) (name : String)

theorem books_insertConnection (held : HeldConnection) :
    { session with connections := session.connections.insert name held }.books =
      session.books.withConnection name (some held.connection) := by
  unfold books Books.withConnection
  congr 1
  funext other
  rw [Function.update_apply, Registry.get?_insert]
  split <;> rfl

theorem books_eraseConnection :
    { session with connections := session.connections.erase name }.books =
      session.books.withConnection name none := by
  unfold books Books.withConnection
  congr 1
  funext other
  rw [Function.update_apply, Registry.get?_erase]
  split <;> rfl

theorem books_setLink {link : Link σ} (isLink : session.link? name = some link) (next : Link σ) :
    (session.setLink name next).books =
      session.books.withConnection name (some next.connection) := by
  rcases held_of_link? isLink with ⟨held, isHeld, -⟩
  rw [← session.books_insertConnection name { held with connection := next.connection }]
  simp [books, setLink, isHeld, setPool]

theorem books_insertCommand (held : HeldCommand) :
    { session with commands := session.commands.insert name held }.books =
      session.books.withUse (.command name) (some (useOfCommand held)) := by
  unfold books Books.withUse
  congr 1
  funext holder
  cases holder with
  | reader other => rfl
  | command other =>
      simp only [Function.update_apply, Registry.get?_insert, Holder.command.injEq]
      split <;> rfl

theorem books_eraseCommand :
    { session with commands := session.commands.erase name }.books =
      session.books.withUse (.command name) none := by
  unfold books Books.withUse
  congr 1
  funext holder
  cases holder with
  | reader other => rfl
  | command other =>
      simp only [Function.update_apply, Registry.get?_erase, Holder.command.injEq]
      split <;> rfl

theorem books_insertReader (held : HeldReader) :
    { session with readers := session.readers.insert name held }.books =
      session.books.withUse (.reader name) (some (useOfReader held)) := by
  unfold books Books.withUse
  congr 1
  funext holder
  cases holder with
  | command other => rfl
  | reader other =>
      simp only [Function.update_apply, Registry.get?_insert, Holder.reader.injEq]
      split <;> rfl

theorem books_eraseReader :
    { session with readers := session.readers.erase name }.books =
      session.books.withUse (.reader name) none := by
  unfold books Books.withUse
  congr 1
  funext holder
  cases holder with
  | command other => rfl
  | reader other =>
      simp only [Function.update_apply, Registry.get?_erase, Holder.reader.injEq]
      split <;> rfl

end

section
variable {session : Session σ} {name : String}

theorem use_of_command {held : HeldCommand}
    (isHeld : session.commands.get? name = some held) :
    session.books.use? (.command name) = some (useOfCommand held) := by
  simp [books, isHeld]

theorem use_of_reader {held : HeldReader}
    (isHeld : session.readers.get? name = some held) :
    session.books.use? (.reader name) = some (useOfReader held) := by
  simp [books, isHeld]

end

/-- A reader resets the statement that it has from a command, and finalizes its own. -/
def releaseOf (lender? : Option String) : Release :=
  if lender?.isSome then .reset else .finalize

structure Sound (ledger : Ledger σ) (session : Session σ) : Prop where
  valid : ledger.Valid session.engine
  accounts : Accounts (ledger.handles session.engine) session.books
  releases : ∀ {name held}, session.readers.get? name = some held →
    held.reader.release = releaseOf held.command

theorem Sound.ofSame {ledger : Ledger σ} {session after : Session σ}
    (sound : Sound ledger session) (objects : SameObjects session after) :
    Sound ledger after where
  valid := objects.engine ▸ sound.valid
  accounts := by
    have sameBooks : after.books = session.books := by
      rw [books, books, objects.connections, objects.commands, objects.readers]
    rw [objects.engine, sameBooks]
    exact sound.accounts
  releases isHeld := sound.releases (objects.readers ▸ isHeld)

/-! ## The same session on two engines -/

theorem link?_withEngine (session : Session σ) (state : τ) (name : String) :
    (session.withEngine state).link? name = (session.link? name).map (·.withEngine state) := by
  unfold link?
  rw [Option.map_map]
  rfl

theorem setLink_withEngine (session : Session σ) (state next : τ) (name : String)
    (link : Link σ) :
    (session.withEngine state).setLink name (link.withEngine next) =
      (session.setLink name link).withEngine next := by
  have sameConnections : (session.withEngine state).connections = session.connections := rfl
  unfold setLink
  rw [sameConnections]
  cases session.connections.get? name <;> rfl

theorem connection?_of_link {session : Session σ} {name : String} {link : Link σ}
    (isLink : session.link? name = some link) :
    session.books.connection? name = some link.connection := by
  rcases held_of_link? isLink with ⟨held, isHeld, rfl⟩
  simp [books, isHeld]

theorem engine_of_link {session : Session σ} {name : String} {link : Link σ}
    (isLink : session.link? name = some link) : link.engine = session.engine := by
  rcases held_of_link? isLink with ⟨held, -, rfl⟩
  rfl

section
variable {backend : Backend σ} {image : Backend τ} (mirror : Mirror backend.engine image.engine)

/-- Both sessions answer the same and are each other's image again. -/
def Performs (outcome : α × Session σ) (imageOutcome : α × Session τ) : Prop :=
  ∃ next, imageOutcome = (outcome.1, outcome.2.withEngine next) ∧
    mirror.Same outcome.2.engine next ∧ Sound mirror.toLedger outcome.2

variable {mirror} {session : Session σ} {state : τ}

theorem Performs.map {outcome : α × Session σ} {imageOutcome : α × Session τ}
    (performs : Performs mirror outcome imageOutcome) (answer : α → β) :
    Performs mirror (answer outcome.1, outcome.2) (answer imageOutcome.1, imageOutcome.2) := by
  rcases performs with ⟨next, rfl, same, sound⟩
  exact ⟨next, rfl, same, sound⟩

theorem Sound.setLink {name : String} {link next : Link σ}
    (sound : Sound mirror.toLedger session) (isLink : session.link? name = some link)
    (valid : mirror.Valid next.engine)
    (accounts : Accounts (mirror.situation next).handles
      (session.books.withConnection name (some (mirror.situation next).connection))) :
    Sound mirror.toLedger (session.setLink name next) where
  valid := by rwa [setLink_engine]
  accounts := by
    rw [setLink_engine, books_setLink session name isLink]
    exact accounts
  releases isHeld := sound.releases (by rwa [setLink_readers] at isHeld)

theorem Sound.setLink_same {name : String} {link next : Link σ}
    (sound : Sound mirror.toLedger session) (isLink : session.link? name = some link)
    (valid : mirror.Valid next.engine) (isSame : mirror.situation next = mirror.situation link) :
    Sound mirror.toLedger (session.setLink name next) := by
  refine sound.setLink isLink valid ?_
  rw [isSame, Mirror.situation, engine_of_link isLink,
    Books.withConnection_same (connection?_of_link isLink)]
  exact sound.accounts

theorem Sound.eraseConnection {ledger : Ledger σ} {name : String} {connection : Connection}
    (sound : Sound ledger session) (isThere : session.books.connection? name = some connection)
    (isDisposed : connection.lifecycle = .disposed)
    (isUnused : ∀ holder use, session.books.use? holder = some use → use.connection ≠ name) :
    Sound ledger { session with connections := session.connections.erase name } where
  valid := sound.valid
  accounts := by
    rw [books_eraseConnection]
    exact sound.accounts.disconnecting isThere (by simp [isDisposed]) isUnused
  releases := sound.releases

variable (sound : Sound mirror.toLedger session) (same : mirror.Same session.engine state)
include sound same

theorem Performs.unchanged (answer : α) :
    Performs mirror (answer, session) (answer, session.withEngine state) :=
  ⟨state, rfl, same, sound⟩

theorem Performs.commit {outcome : Except (Refusal ε) (α × Session σ)}
    {imageOutcome : Except (Refusal ε) (α × Session τ)}
    (images : imageOutcome = outcome.map fun (answer, after) => (answer, after.withEngine state))
    (leaves : ∀ answer after, outcome = .ok (answer, after) →
      after.engine = session.engine ∧ Sound mirror.toLedger after) :
    Performs mirror (commit session outcome) (commit (session.withEngine state) imageOutcome) := by
  subst images
  rcases outcome with refusal | ⟨answer, after⟩
  · exact ⟨state, rfl, same, sound⟩
  · rcases leaves answer after rfl with ⟨sameEngine, sound⟩
    exact ⟨state, rfl, by rwa [Session.commit, sameEngine], sound⟩

theorem link_runs {name : String} {link : Link σ} (isLink : session.link? name = some link)
    {call : ExceptT ε (StateM (Link σ)) α} {callImage : ExceptT ε (StateM (Link τ)) α}
    {Leaves : Except ε α → Situation → Prop}
    (runs : mirror.Runs ⟨link.connection, mirror.handles session.engine⟩ call callImage Leaves) :
    mirror.Reaches (call link) (callImage (link.withEngine state)) Leaves := by
  have sameEngine := engine_of_link isLink
  refine runs link state (sameEngine ▸ sound.valid) (sameEngine ▸ same) ?_
  exact Situation.ext rfl (congrArg mirror.handles sameEngine)

theorem onConnection_link {name : String} {link : Link σ}
    (isLink : session.link? name = some link) {call : ExceptT ε (StateM (Link σ)) α}
    {callImage : ExceptT ε (StateM (Link τ)) α} {Leaves : Except ε α → Situation → Prop}
    (runs : mirror.Runs ⟨link.connection, mirror.handles session.engine⟩ call callImage Leaves) :
    ∃ result after next,
      session.onConnection name call = (result.mapError .failed, session.setLink name after) ∧
        (session.withEngine state).onConnection name callImage =
            (result.mapError .failed, (session.setLink name after).withEngine next) ∧
          mirror.Same after.engine next ∧ mirror.Valid after.engine ∧
            Leaves result (mirror.situation after) := by
  have isImage : (session.withEngine state).link? name = some (link.withEngine state) := by
    rw [link?_withEngine, isLink]
    rfl
  rcases link_runs sound same isLink runs with ⟨next, images, same, valid, leaves⟩
  refine ⟨(call link).1, (call link).2, next, onConnection_of_link isLink call, ?_, same, valid,
    leaves⟩
  rw [onConnection_of_link isImage, images, setLink_withEngine]

omit sound same in
theorem onConnection_image_of_missing {name : String} (isMissing : session.link? name = none)
    (callImage : ExceptT ε (StateM (Link τ)) α) :
    (session.withEngine state).onConnection name callImage =
      (.error .noSuchHandle, session.withEngine state) :=
  onConnection_of_missing (by rw [link?_withEngine, isMissing]; rfl) _

theorem onConnection_runs {name : String} {call : ExceptT ε (StateM (Link σ)) α}
    {callImage : ExceptT ε (StateM (Link τ)) α}
    (Leaves : Connection → Except ε α → Situation → Prop)
    (runs : ∀ connection, session.books.connection? name = some connection →
      mirror.Runs ⟨connection, mirror.handles session.engine⟩ call callImage (Leaves connection))
    (accounts : ∀ connection result next, session.books.connection? name = some connection →
      Leaves connection result next →
        Accounts next.handles (session.books.withConnection name (some next.connection))) :
    Performs mirror (session.onConnection name call)
      ((session.withEngine state).onConnection name callImage) := by
  cases isLink : session.link? name with
  | none =>
      rw [onConnection_of_missing isLink, onConnection_image_of_missing isLink]
      exact .unchanged sound same _
  | some link =>
      have isThere := connection?_of_link isLink
      rcases onConnection_link sound same isLink (runs link.connection isThere) with
        ⟨result, after, next, performed, images, same, valid, leaves⟩
      rw [performed, images]
      exact ⟨next, rfl, by rwa [setLink_engine],
        sound.setLink isLink valid (accounts _ _ _ isThere leaves)⟩

theorem onConnection_opens {name : String} {call : ExceptT ε (StateM (Link σ)) α}
    {callImage : ExceptT ε (StateM (Link τ)) α}
    (opens : ∀ connection, session.books.connection? name = some connection →
      mirror.Opens ⟨connection, mirror.handles session.engine⟩ call callImage) :
    Performs mirror (session.onConnection name call)
      ((session.withEngine state).onConnection name callImage) :=
  onConnection_runs sound same
    (fun connection _ next =>
      Situation.Continues ⟨connection, mirror.handles session.engine⟩ next)
    opens fun _ _ _ isThere continues => sound.accounts.continues isThere continues

theorem onConnection_disposes {name : String} {call : ExceptT ε (StateM (Link σ)) α}
    {callImage : ExceptT ε (StateM (Link τ)) α}
    (disposes : ∀ connection, session.books.connection? name = some connection →
      mirror.Runs ⟨connection, mirror.handles session.engine⟩ call callImage fun _ next =>
        next = Situation.disposed ⟨connection, mirror.handles session.engine⟩) :
    Performs mirror (session.onConnection name call)
      ((session.withEngine state).onConnection name callImage) :=
  onConnection_runs sound same
    (fun connection _ next =>
      next = Situation.disposed ⟨connection, mirror.handles session.engine⟩)
    disposes fun _ _ _ isThere isNext => by
      subst isNext
      exact sound.accounts.disposing isThere

theorem keeping_performs {name : String} {holder : Holder} {call : Call σ α}
    {callImage : Call τ α} (Leaves : Connection → Except Error α → Situation → Prop)
    (useOf : α → Use) (put : Session σ → α → Session σ) (putImage : Session τ → α → Session τ)
    (runs : ∀ connection, session.books.connection? name = some connection →
      mirror.Runs ⟨connection, mirror.handles session.engine⟩ call callImage (Leaves connection))
    (failed : ∀ connection error next, session.books.connection? name = some connection →
      Leaves connection (.error error) next →
        Accounts next.handles (session.books.withConnection name (some next.connection)))
    (made : ∀ connection answer next, session.books.connection? name = some connection →
      Leaves connection (.ok answer) next →
        Accounts next.handles
          ((session.books.withConnection name (some next.connection)).withUse holder
            (some (useOf answer))))
    (images : ∀ session answer next,
      putImage (session.withEngine next) answer = (put session answer).withEngine next)
    (puts : ∀ session answer, (put session answer).engine = session.engine ∧
      (put session answer).books = session.books.withUse holder (some (useOf answer)))
    (releases : ∀ connection after answer next, after.readers = session.readers →
      Leaves connection (.ok answer) next →
        ∀ {reader held}, (put after answer).readers.get? reader = some held →
          held.reader.release = releaseOf held.command) :
    Performs mirror (keeping put (session.onConnection name call))
      (keeping putImage ((session.withEngine state).onConnection name callImage)) := by
  cases isLink : session.link? name with
  | none =>
      rw [onConnection_of_missing isLink, onConnection_image_of_missing isLink]
      exact .unchanged sound same _
  | some link =>
      have isThere := connection?_of_link isLink
      rcases onConnection_link sound same isLink (runs link.connection isThere) with
        ⟨error | answer, after, next, performed, image, same, valid, leaves⟩
      · rw [performed, image]
        exact ⟨next, rfl, by rwa [← setLink_engine session name after] at same,
          sound.setLink isLink valid (failed _ _ _ isThere leaves)⟩
      · rw [performed, image]
        rcases puts (session.setLink name after) answer with ⟨sameEngine, putBooks⟩
        rw [setLink_engine] at sameEngine
        have soundAfter : Sound mirror.toLedger (put (session.setLink name after) answer) := by
          refine ⟨sameEngine ▸ valid, ?_, releases _ _ answer _ (setLink_readers ..) leaves⟩
          rw [putBooks, books_setLink session name isLink, sameEngine]
          exact made _ _ _ isThere leaves
        exact ⟨next, Prod.ext rfl (images ..), sameEngine ▸ same, soundAfter⟩

end

end EmbeddedSql.Session
