import EmbeddedSql.Proofs.Connection.Opening
import EmbeddedSql.Proofs.Session.Custody.Run
import EmbeddedSql.Proofs.Session.Observing
import EmbeddedSql.Proofs.Session.Pools
import EmbeddedSql.Proofs.Session.Recovering
import EmbeddedSql.Proofs.Session.Ways
import EmbeddedSql.Proofs.Storage.Recovering

/-! Main result: databases that do not open and texts that do not compile leave everything as it
was. Whatever is asked afterwards is answered as if no database had failed to open, and a connection
that is still unopened is opened as soon as the engine lets it. After a text that does not compile
the same holds as far as the engine itself forgets it. -/

namespace EmbeddedSql.Session

open Call (Advances NeedsDatabase)

variable {σ ε α : Type} {backend : Backend σ} {session : Session σ} {name : String}
  {link last : Link σ} {request : Request} {sql? : Option Text} {error : Error}

/-! ## Requests that need the database -/

/-- What needs the database of a connection open, and the text that it has compiled then. Names
that it gives are new. -/
inductive Request.Opens (session : Session σ) (name : String) : Option Text → Request → Prop
  | ensureOpen : Opens session name none (.connection name .ensureOpen)
  | changes : Opens session name none (.connection name .changes)
  | lastInsertRowid : Opens session name none (.connection name .lastInsertRowid)
  | createCommand {command : String} (sql : Text) : session.commands.get? command = none →
      Opens session name (some sql) (.connection name (.createCommand command sql))
  | executeReader {reader : String} (sql : Text) : session.readers.get? reader = none →
      Opens session name (some sql) (.connection name (.executeReader reader sql))
  | executeNonQuery (sql : Text) :
      Opens session name (some sql) (.connection name (.executeNonQuery sql))
  | execute (sql : Text) (values : List Json) :
      Opens session name (some sql) (.query (.execute name sql values))
  | fetchAll (sql : Text) (values : List Json) :
      Opens session name (some sql) (.query (.fetchAll name sql values))
  | fetchOne (sql : Text) (values : List Json) :
      Opens session name (some sql) (.query (.fetchOne name sql values))
  | executeTransaction (statements : List (Text × List Json)) :
      Opens session name none (.query (.executeTransaction name statements))

def Request.fails : Request → Error → Response
  | .query _, error => .query (.error (.failed (.connection error)))
  | _, error => .plain (.error (.failed error))

/-- The request comes to a call on the connection, and fails as the call does. -/
structure Request.ComesTo (backend : Backend σ) (session : Session σ) (name : String)
    (request : Request) (wrap : Error → ε) (call : ExceptT ε (StateM (Link σ)) α) : Prop where
  fails : ∀ {error after},
    session.onConnection name call = (.error (.failed (wrap error)), after) →
      perform backend session request = (request.fails error, after)
  connections : (perform backend session request).2.connections =
    (session.onConnection name call).2.connections

namespace Request.ComesTo

theorem answering {asked : ConnectionRequest} {call : Call σ α} (answer : α → Answer)
    (performs : performConnection backend session name asked =
      Session.answering answer (session.onConnection name call)) :
    ComesTo backend session name (.connection name asked) id call where
  fails isError := by
    simp only [perform, performs, isError]
    rfl
  connections := by
    simp only [perform, performs]
    rfl

theorem keeping {asked : ConnectionRequest} {call : Call σ α} {put : Session σ → α → Session σ}
    (performs : performConnection backend session name asked =
      Session.keeping put (session.onConnection name call))
    (sameConnections : ∀ session made, (put session made).connections = session.connections) :
    ComesTo backend session name (.connection name asked) id call where
  fails isError := by
    simp only [perform, performs, isError]
    rfl
  connections := by
    simp only [perform, performs]
    rcases session.onConnection name call with ⟨refusal | made, after⟩
    · rfl
    · exact sameConnections after made

theorem replying {asked : QueryRequest} {call : Query.Call σ α} (answer : α → QueryAnswer)
    (performs : performQuery backend session asked =
      Session.replying answer (session.onConnection name call)) :
    ComesTo backend session name (.query asked) Query.Error.connection call where
  fails isError := by
    simp only [perform, performs, isError]
    rfl
  connections := by
    simp only [perform, performs]
    rfl

end Request.ComesTo

variable (backend) in
theorem Request.Opens.exists_call (opens : request.Opens session name sql?) :
    ∃ (ε α : Type) (wrap : Error → ε) (call : ExceptT ε (StateM (Link σ)) α),
      request.ComesTo backend session name wrap call ∧ NeedsDatabase backend sql? wrap call ∧
        Advances call := by
  cases opens with
  | ensureOpen =>
      exact ⟨_, _, _, _, .answering _ rfl, .ensureOpen backend,
        Connection.ensureOpen_advances backend.engine backend.growth⟩
  | changes =>
      exact ⟨_, _, _, _, .answering _ rfl, .changes backend,
        Connection.changes_advances backend.engine backend.growth⟩
  | lastInsertRowid =>
      exact ⟨_, _, _, _, .answering _ rfl, .lastInsertRowid backend,
        Connection.lastInsertRowid_advances backend.engine backend.growth⟩
  | @createCommand command sql isNew =>
      have isFree : newName (ε := Error) session.commands _ = .ok () := newName_of_missing isNew
      have performs : performConnection backend session name (.createCommand command sql) =
          keeping (fun session made =>
            { session with commands := session.commands.insert command ⟨name, made⟩ })
            (session.onConnection name (Connection.createCommand backend sql)) := by
        simp only [performConnection, isFree]
      exact ⟨_, _, _, _, .keeping performs fun _ _ => rfl, .createCommand backend sql,
        Connection.createCommand_advances backend sql⟩
  | @executeReader reader sql isNew =>
      have isFree : newName (ε := Error) session.readers _ = .ok () := newName_of_missing isNew
      have performs : performConnection backend session name (.executeReader reader sql) =
          keeping (fun session made =>
            { session with readers := session.readers.insert reader ⟨name, none, made⟩ })
            (session.onConnection name (Connection.executeReader backend sql)) := by
        simp only [performConnection, isFree]
      exact ⟨_, _, _, _, .keeping performs fun _ _ => rfl, .executeReader backend sql,
        Connection.executeReader_advances backend sql⟩
  | executeNonQuery sql =>
      exact ⟨_, _, _, _, .answering _ rfl, .executeNonQuery backend sql,
        Connection.executeNonQuery_advances backend sql⟩
  | execute sql values =>
      exact ⟨_, _, _, _, .replying _ rfl, .execute backend sql values,
        Query.execute_advances backend sql values⟩
  | fetchAll sql values =>
      exact ⟨_, _, _, _, .replying _ rfl, .fetchAll backend sql values,
        Query.fetchAll_advances backend sql values⟩
  | fetchOne sql values =>
      exact ⟨_, _, _, _, .replying _ rfl, .fetchOne backend sql values,
        Query.fetchOne_advances backend sql values⟩
  | executeTransaction statements =>
      exact ⟨_, _, _, _, .replying _ rfl, .executeTransaction backend statements,
        Query.executeTransaction_advances backend statements⟩

section
variable (opens : request.Opens session name sql?) (isLink : session.link? name = some link)
include opens isLink

theorem perform_of_unopened
    (fails : Connection.ensureOpen backend.engine backend.growth link = (.error error, last)) :
    perform backend session request = (request.fails error, session.setLink name last) := by
  obtain ⟨ε, α, wrap, call, comesTo, needs, -⟩ := opens.exists_call backend
  refine comesTo.fails ?_
  rw [onConnection_of_link isLink, needs.unopened fails]
  rfl

theorem perform_of_unprepared {sql : Text} (isText : sql? = some sql)
    (fails : Connection.prepare backend.engine backend.growth sql link = (.error error, last)) :
    perform backend session request = (request.fails error, session.setLink name last) := by
  obtain ⟨ε, α, wrap, call, comesTo, needs, -⟩ := opens.exists_call backend
  refine comesTo.fails ?_
  rw [onConnection_of_link isLink, needs.unprepared isText fails]
  rfl

theorem perform_of_opened {database : DatabaseHandle}
    (isOpen : Connection.ensureOpen backend.engine backend.growth link = (.ok (), last))
    (isOpened : last.connection.lifecycle = .opened database) :
    (perform backend session request).2.lifecycle? name = some (.opened database) := by
  obtain ⟨ε, α, wrap, call, comesTo, needs, advances⟩ := opens.exists_call backend
  have again := Connection.ensureOpen_of_opened backend.engine backend.growth isOpened
  have continues := (advances last).lifecycle
  rw [isOpened] at continues
  have sameLifecycle := lifecycle?_setLink session name isLink (call link).2
  rw [needs.opened isOpen again] at sameLifecycle
  rw [lifecycle?, comesTo.connections, ← lifecycle?, onConnection_of_link isLink,
    needs.opened isOpen again, sameLifecycle]
  generalize (call last).2.connection.lifecycle = lifecycle at continues ⊢
  cases continues
  rfl

end

/-! ## What is left of a failure -/

/-- Everybody has what they had, and whatever is asked later is answered the same. -/
structure Recovers (laws : Recovering backend.engine) (before after : Session σ) : Prop where
  connections : ∀ name, after.connections.get? name = before.connections.get? name
  commands : after.commands = before.commands
  readers : after.readers = before.readers
  buffers : after.buffers = before.buffers
  poolNames : after.poolNames = before.poolNames
  handles : laws.handles after.engine = laws.handles before.engine
  slots : ∀ statement, laws.slots after.engine statement = laws.slots before.engine statement
  rows : ∀ statement,
    backend.engine.row statement after.engine = backend.engine.row statement before.engine
  later : ∀ requests, List.zipWith Request.gist requests (run backend after requests).1 =
    List.zipWith Request.gist requests (run backend before requests).1

/-- What is asked opens the database, unless the engine says why not. -/
structure TriesToOpen (backend : Backend σ) (session : Session σ) (name : String)
    (connection : Connection) (request : Request) : Prop where
  opens : backend.engine.openError? connection session.engine = none → ∃ database,
    (perform backend session request).2.lifecycle? name = some (.opened database)
  fails : ∀ {error}, backend.engine.openError? connection session.engine = some error →
    (perform backend session request).1 = request.fails error

structure OpenFailed (laws : Recovering backend.engine) (session : Session σ) (name : String)
    (held : HeldConnection) (request : Request) : Prop where
  isAnswer : ∃ message, (perform backend session request).1 = request.fails
    (.openFailed (backend.engine.refusalCode held.connection session.engine)
      held.connection.path message)
  isUnopened : (perform backend session request).2.lifecycle? name = some .unopened
  recovers : Recovers laws session (perform backend session request).2
  pools : (perform backend session request).2.pools = session.pools.set held.pool
    ((session.pool held.pool).afterPath backend.growth held.connection.path)
  triesAgain : ∀ {again sql?}, again.Opens (perform backend session request).2 name sql? →
    TriesToOpen backend (perform backend session request).2 name held.connection again

/-- The database of a connection is open, and a text has not become a statement of it. -/
structure PrepareFailed (laws : Recovering backend.engine) (session : Session σ) (name : String)
    (database : DatabaseHandle) (sql : Text) (request : Request) (error : Error) : Prop where
  isAnswer : (perform backend session request).1 = request.fails error
  isOpened : (perform backend session request).2.lifecycle? name = some (.opened database)
  /-- Everything is as if the database had been opened, and no more. What is left of the text is
  left in the engine. -/
  leaves : (perform backend session request).2 =
    { (perform backend session (.connection name .ensureOpen)).2 with
      engine := backend.engine.afterCompiling database sql
        (perform backend session (.connection name .ensureOpen)).2.engine }
  /-- If the engine has forgotten the text, so has everybody. -/
  recovers :
    laws.Resembles (.refl _) (perform backend session (.connection name .ensureOpen)).2.engine
        (perform backend session request).2.engine →
      Recovers laws (perform backend session (.connection name .ensureOpen)).2
        (perform backend session request).2
  recovers_of_opened : session.lifecycle? name = some (.opened database) →
    laws.Resembles (.refl _) session.engine (perform backend session request).2.engine →
      Recovers laws session (perform backend session request).2
  statements : (laws.handles (perform backend session request).2.engine).owner? =
    (laws.handles session.engine).owner?
  commands : (perform backend session request).2.commands = session.commands
  readers : (perform backend session request).2.readers = session.readers
  slots : ∀ {statement}, (laws.handles session.engine).InUse statement →
    laws.slots (perform backend session request).2.engine statement =
      laws.slots session.engine statement
  rows : ∀ statement, backend.engine.row statement (perform backend session request).2.engine =
    backend.engine.row statement session.engine

section
variable {laws : Recovering backend.engine}

theorem setLink_get? (isLink : session.link? name = some link)
    (sameConnection : last.connection = link.connection) (other : String) :
    (session.setLink name last).connections.get? other = session.connections.get? other := by
  obtain ⟨held, isHeld, rfl⟩ := held_of_link? isLink
  rw [setLink_connections_of_held last isHeld, Registry.get?_insert, sameConnection]
  split
  case isTrue isName => rw [isName, isHeld]
  case isFalse => rfl

theorem setLink_rest (session : Session σ) (name : String) (link : Link σ) :
    session.setLink name link =
      { session with
        engine := (session.setLink name link).engine
        pools := (session.setLink name link).pools
        connections := (session.setLink name link).connections } := by
  unfold setLink
  split <;> rfl

theorem setLink_pools_length (session : Session σ) (name : String) (link : Link σ) :
    (session.setLink name link).pools.length = session.pools.length := by
  unfold setLink
  split
  · rfl
  · simp [setPool]

/-- Only the engine has gone on, and it cannot be told that it has. -/
theorem recovers_of_resembles (sound : Sound laws.toLedger session) (after : Session σ)
    (connections : ∀ other, after.connections.get? other = session.connections.get? other)
    (rest : after = { session with
      engine := after.engine, pools := after.pools, connections := after.connections })
    (samePools : after.pools.length = session.pools.length)
    (sameHandles : laws.handles after.engine = laws.handles session.engine)
    {rename : DatabaseHandle ↪ DatabaseHandle}
    (fixes : ∀ other, (laws.handles session.engine).isOpen other = true → rename other = other)
    (resembles : laws.Resembles rename session.engine after.engine) :
    Recovers laws session after := by
  have isItself {other : String} {held : HeldConnection}
      (isHeld : session.connections.get? other = some held) :
      held.connection.renamed rename = held.connection := by
    have isThere : session.books.connection? other = some held.connection := by
      simp [books, isHeld]
    rcases held with ⟨pool, path, config, lifecycle⟩
    cases lifecycle with
    | opened database =>
        have isOpen := sound.accounts.isOpen isThere rfl
        simp only [Connection.renamed, Lifecycle.renamed, fixes database isOpen]
    | _ => rfl
  have buffers : after.buffers = session.buffers := by rw [rest]
  have poolNames : after.poolNames = session.poolNames := by rw [rest]
  have commands : after.commands = session.commands := by rw [rest]
  have readers : after.readers = session.readers := by rw [rest]
  have alike : Resembles laws rename session after := {
    engine := resembles
    pools := samePools
    poolNames := poolNames
    buffers := by rw [buffers]; exact .itself fun _ => rfl
    connections := fun other => by
      rw [connections]
      exact Registry.Relates.itself (fun isHeld => ⟨rfl, (isItself isHeld).symm⟩) other
    commands := commands
    readers := readers }
  exact {
    connections := connections
    commands := commands
    readers := readers
    buffers := buffers
    poolNames := poolNames
    handles := sameHandles
    slots := fun statement => laws.resembles_slots statement resembles
    rows := fun statement => laws.resembles_row statement resembles
    later := fun requests => (alike.run requests).1 }

theorem recovers_withEngine (sound : Sound laws.toLedger session) {state : σ}
    (sameHandles : laws.handles state = laws.handles session.engine)
    (resembles : laws.Resembles (.refl _) session.engine state) :
    Recovers laws session { session with engine := state } :=
  recovers_of_resembles sound _ (fun _ => rfl) rfl rfl sameHandles (fun _ _ => rfl) resembles

/-! ## Databases that do not open -/

theorem Request.Opens.triesToOpen (opens : request.Opens session name sql?)
    (valid : laws.Valid session.engine) (isLink : session.link? name = some link)
    (isUnopened : link.connection.lifecycle = .unopened) :
    TriesToOpen backend session name link.connection request := by
  have sameEngine := engine_of_link isLink
  constructor
  case opens =>
    intro isOpened
    rw [← sameEngine] at isOpened
    obtain ⟨database, -, opensNow⟩ :=
      Connection.ensureOpen_of_opens backend.growth isUnopened isOpened
    exact ⟨database, perform_of_opened opens isLink opensNow rfl⟩
  case fails =>
    intro error isError
    rw [← sameEngine] at isError valid
    obtain ⟨state, rename, failsNow, -⟩ :=
      Connection.ensureOpen_of_openError laws backend.growth isUnopened valid isError
    rw [perform_of_unopened opens isLink failsNow]

theorem Request.Opens.openFailed (opens : request.Opens session name sql?)
    (sound : Sound laws.toLedger session) {held : HeldConnection}
    (isHeld : session.connections.get? name = some held)
    (isUnopened : held.connection.lifecycle = .unopened)
    (isError : backend.engine.openError? held.connection session.engine = some error) :
    OpenFailed laws session name held request := by
  obtain ⟨link, isLink, isConnection, isPool⟩ : ∃ link, session.link? name = some link ∧
      link.connection = held.connection ∧ link.pool = session.pool held.pool :=
    ⟨_, link?_of_held isHeld, rfl, rfl⟩
  have sameEngine := engine_of_link isLink
  rw [← isConnection] at isUnopened
  rw [← isConnection, ← sameEngine] at isError
  obtain ⟨state, rename, fails, shows, fixes, resembles⟩ :=
    Connection.ensureOpen_of_openError laws backend.growth isUnopened (sameEngine ▸ sound.valid)
      isError
  rw [sameEngine] at shows fixes resembles
  have performs := perform_of_unopened opens isLink fails
  obtain ⟨message, rfl⟩ := Engine.code_of_openError isError
  generalize isLast : ({ link with engine := state, pool := _ } : Link σ) = last at performs
  have sameConnection : last.connection = link.connection := by rw [← isLast]
  have isLater : (session.setLink name last).engine = state := by rw [setLink_engine, ← isLast]
  have pools : (session.setLink name last).pools = session.pools.set held.pool last.pool := by
    rw [Session.setLink, isHeld]
    rfl
  constructor
  case isAnswer => exact ⟨message, by rw [performs, isConnection, sameEngine]⟩
  case isUnopened =>
    rw [performs, lifecycle?_setLink session name isLink, sameConnection, isUnopened]
  case recovers =>
    rw [performs]
    exact recovers_of_resembles sound _ (setLink_get? isLink sameConnection) (setLink_rest ..)
      (setLink_pools_length ..) (isLater ▸ shows.2) fixes (isLater ▸ resembles)
  case pools => rw [performs, pools, ← isLast, isPool, isConnection]
  case triesAgain =>
    intro again sql? opensAgain
    obtain ⟨pool, isLinkLater⟩ := link?_setLink isLink last
    rw [performs] at opensAgain ⊢
    dsimp only at opensAgain ⊢
    rw [← isConnection, ← sameConnection]
    have tries := opensAgain.triesToOpen (isLater ▸ shows.1) isLinkLater
      (sameConnection ▸ isUnopened)
    exact tries

/-! ## Texts that do not compile -/

theorem opened_spares {opened : Link σ} (valid : laws.Valid link.engine)
    (opens : Connection.ensureOpen backend.engine backend.growth link = (.ok (), opened)) :
    (laws.handles opened.engine).owner? = (laws.handles link.engine).owner? ∧
      (∀ {statement}, (laws.handles link.engine).InUse statement →
        (laws.handles opened.engine).InUse statement ∧
          laws.slots opened.engine statement = laws.slots link.engine statement) ∧
        ∀ statement, backend.engine.row statement opened.engine =
          backend.engine.row statement link.engine := by
  have opening := Connection.ensureOpen_opening laws backend.growth valid
  rw [opens] at opening
  cases opening with
  | already => exact ⟨rfl, fun inUse => ⟨inUse, rfl⟩, fun _ => rfl⟩
  | opened _ isOpened =>
      obtain ⟨-, shows⟩ := laws.opened valid (congrArg Prod.fst isOpened)
      exact ⟨by rw [shows.2, Handles.opening_owner?],
        fun inUse => ⟨by rw [shows.2]; exact inUse.opening _,
          (laws.spares_slots _).openDatabase valid inUse rfl⟩,
        fun statement => laws.opened_row statement valid⟩

/-- Statements do not tell that a text has been compiled in vain. -/
theorem uncompiled {state : σ} {database : DatabaseHandle} {sql : Text}
    (valid : laws.Valid state) (isOpen : (laws.handles state).isOpen database = true)
    (isError : backend.engine.compileError? database sql state = some error) :
    laws.handles (backend.engine.afterCompiling database sql state) = laws.handles state ∧
      (∀ {statement}, (laws.handles state).InUse statement →
        laws.slots (backend.engine.afterCompiling database sql state) statement =
          laws.slots state statement) ∧
        ∀ statement, backend.engine.row statement
          (backend.engine.afterCompiling database sql state) =
            backend.engine.row statement state := by
  unfold Engine.afterCompiling
  split
  case isTrue => exact ⟨rfl, fun _ => rfl, fun _ => rfl⟩
  case isFalse fits =>
    have isNone := Engine.prepare_of_compileError laws.toCustody valid isOpen (Nat.not_lt.mp fits)
      isError
    exact ⟨(laws.unprepared valid isOpen isNone).2,
      fun inUse => (laws.spares_slots _).prepare valid isOpen inUse rfl,
      fun statement => laws.prepared_row statement valid isNone⟩

theorem ensureOpen_of_isOpened (valid : laws.Valid session.engine) {database : DatabaseHandle}
    (isOpened : (perform backend session (.connection name .ensureOpen)).2.lifecycle? name =
      some (.opened database)) :
    ∃ link opened, session.link? name = some link ∧
      Connection.ensureOpen backend.engine backend.growth link = (.ok (), opened) ∧
        opened.connection.lifecycle = .opened database ∧
          (perform backend session (.connection name .ensureOpen)).2 =
            session.setLink name opened := by
  cases isLink : session.link? name with
  | none =>
      rw [perform, performConnection, onConnection_of_missing isLink] at isOpened
      cases (Option.map_eq_none_iff.mpr (link?_eq_none.mp isLink)).symm.trans isOpened
  | some link =>
      have performs : (perform backend session (.connection name .ensureOpen)).2 =
          session.setLink name
            (Connection.ensureOpen backend.engine backend.growth link).2 := by
        rw [perform, performConnection, onConnection_of_link isLink]
        rfl
      rw [performs, lifecycle?_setLink session name isLink, Option.some.injEq] at isOpened
      refine ⟨link, _, rfl, ?_, isOpened, performs⟩
      have opening := Connection.ensureOpen_opening laws backend.growth
        (engine_of_link isLink ▸ valid)
      generalize Connection.ensureOpen backend.engine backend.growth link = outcome
        at opening isOpened ⊢
      cases opening with
      | refused isDisposed => cases isDisposed.symm.trans isOpened
      | failed isUnopened => cases isUnopened.symm.trans isOpened
      | _ => rfl

theorem Request.Opens.prepareFailed {sql : Text} (opens : request.Opens session name (some sql))
    (sound : Sound laws.toLedger session) {database : DatabaseHandle}
    (isOpened : (perform backend session (.connection name .ensureOpen)).2.lifecycle? name =
      some (.opened database))
    (isError : backend.engine.compileError? database sql
      (perform backend session (.connection name .ensureOpen)).2.engine = some error) :
    PrepareFailed laws session name database sql request error := by
  have soundOpened := perform_sound sound (.connection name .ensureOpen)
  obtain ⟨link, opened, isLink, opensNow, isOpenedNow, performsOpen⟩ :=
    ensureOpen_of_isOpened sound.valid isOpened
  rw [performsOpen] at isError soundOpened
  rw [setLink_engine] at isError
  have sameEngine := engine_of_link isLink
  obtain ⟨sameOwners, sameSlots, sameRows⟩ := opened_spares (sameEngine ▸ sound.valid) opensNow
  rw [sameEngine] at sameOwners sameSlots sameRows
  have isOpen : (laws.handles opened.engine).isOpen database = true := by
    have isThere : (session.setLink name opened).books.connection? name =
        some opened.connection := by
      rw [books_setLink session name isLink]
      simp [Books.withConnection]
    have isOpen := soundOpened.accounts.isOpen isThere isOpenedNow
    rwa [setLink_engine] at isOpen
  have valid := soundOpened.valid
  rw [setLink_engine] at valid
  obtain ⟨result, prepares, isResult⟩ :=
    Connection.prepare_of_opened backend.engine backend.growth isOpenedNow sql
  rw [← Transactions.prepare_of_opens backend.growth opensNow
    (Connection.ensureOpen_of_opened _ _ isOpenedNow)] at prepares
  rw [isError] at isResult
  subst isResult
  have performs := perform_of_unprepared opens isLink rfl prepares
  obtain ⟨sameHandles, sparesSlots, sparesRows⟩ := uncompiled valid isOpen isError
  constructor
  case isAnswer => rw [performs]
  case isOpened =>
    rw [performs, lifecycle?_setLink session name isLink, isOpenedNow]
  case leaves =>
    rw [performs, performsOpen, setLink_engine, setLink_withState]
  case recovers =>
    rw [performs, performsOpen, setLink_withState opened (backend.engine.afterCompiling ..)]
    exact recovers_withEngine soundOpened (by rw [setLink_engine, sameHandles])
  case recovers_of_opened =>
    intro wasOpened resembles
    rw [lifecycle?_of_link session name isLink, Option.some.injEq] at wasOpened
    rw [Connection.ensureOpen_of_opened _ _ wasOpened] at opensNow
    obtain rfl : link = opened := congrArg Prod.snd opensNow
    rw [performs] at resembles ⊢
    exact recovers_of_resembles sound _ (setLink_get? isLink rfl) (setLink_rest ..)
      (setLink_pools_length ..) (by rw [setLink_engine, sameHandles, sameEngine])
      (fun _ _ => rfl) resembles
  case statements => rw [performs, setLink_engine, sameHandles, sameOwners]
  case commands => rw [performs, setLink_commands]
  case readers => rw [performs, setLink_readers]
  case slots =>
    intro statement inUse
    obtain ⟨inUseStill, sameSlots⟩ := sameSlots inUse
    rw [performs, setLink_engine, sparesSlots inUseStill, sameSlots]
  case rows =>
    intro statement
    rw [performs, setLink_engine, sparesRows, sameRows]

end

/-! ## Failures in any session -/

/-- What needs the database of a connection fails at the two places where it can, and leaves the
rest alone. -/
structure FailsAlone (laws : Recovering backend.engine) (session : Session σ) (name : String)
    (sql? : Option Text) (request : Request) : Prop where
  unopened : ∀ {held error}, session.connections.get? name = some held →
    held.connection.lifecycle = .unopened →
      backend.engine.openError? held.connection session.engine = some error →
        OpenFailed laws session name held request
  unprepared : ∀ {sql database error}, sql? = some sql →
    (perform backend session (.connection name .ensureOpen)).2.lifecycle? name =
        some (.opened database) →
      backend.engine.compileError? database sql
          (perform backend session (.connection name .ensureOpen)).2.engine = some error →
        PrepareFailed laws session name database sql request error

theorem failures_recovered (laws : Recovering backend.engine) {state : σ}
    (valid : laws.Valid state) (isFresh : laws.handles state = .none) (requests : List Request) :
    let session := (run backend { engine := state } requests).2
    request.Opens session name sql? → FailsAlone laws session name sql? request := by
  intro session opens
  have sound : Sound laws.toLedger session := run_sound (sound_of_nothing valid isFresh) requests
  constructor
  case unopened => exact opens.openFailed sound
  case unprepared =>
    rintro sql database error rfl
    exact opens.prepareFailed sound

/-- Where the engine is a store, what is no pragma is forgotten. -/
theorem PrepareFailed.recovers_of_noPragma {session : Session Storage.Store}
    {database : DatabaseHandle} {sql : Text}
    (failed : PrepareFailed Storage.recovering session name database sql request error)
    (fits : sql.byteLength ≤ Engine.maxLength) (isNoPragma : Storage.textIsPragma sql = false)
    (isNone : ((perform Storage.backend session
      (.connection name .ensureOpen)).2.engine.prepare database sql).1.2 = none) :
    Recovers Storage.recovering (perform Storage.backend session (.connection name .ensureOpen)).2
      (perform Storage.backend session request).2 := by
  refine failed.recovers ?_
  rw [failed.leaves, Engine.afterCompiling, if_neg (Nat.not_lt.mpr fits)]
  exact Storage.forgets_prepared isNoPragma isNone

/-- One connection has a row under way, another one has a path that no file can have. -/
def halfOpened : List Request :=
  [.connection "c" (.connect none none none),
    .connection "c" (.createCommand "k" (.ofString "SELECT ?1 UNION ALL SELECT 2")),
    .command "k" (.bind (.index 1) (.integer 7)),
    .command "k" (.executeReader "r"),
    .reader "r" .read,
    .connection "d" (.connect (some "no\x00file") none none)]

theorem failures_recovered_halfOpened :
    let session := (run Storage.backend { engine := {} } halfOpened).2
    (∃ held, OpenFailed Storage.recovering session "d" held
        (.query (.execute "d" (.ofString "SELECT 1") []))) ∧
      (∃ database, PrepareFailed Storage.recovering session "c" database
        (.ofString "-- nothing")
        (.connection "c" (.createCommand "other" (.ofString "-- nothing"))) .emptyStatement) ∧
      Recovers Storage.recovering
        (perform Storage.backend session (.connection "c" .ensureOpen)).2
        (perform Storage.backend session
          (.connection "c" (.createCommand "other" (.ofString "-- nothing")))).2 := by
  intro session
  have isFresh : Storage.recovering.Shows {} .none := Storage.recovering_empty
  constructor
  · have alone : FailsAlone Storage.recovering session "d" (some (.ofString "SELECT 1"))
        (.query (.execute "d" (.ofString "SELECT 1") [])) :=
      failures_recovered Storage.recovering isFresh.1 isFresh.2 halfOpened (.execute _ _)
    have isHeld : session.connections.get? "d" = some ⟨0, { path := "no\x00file" }⟩ := by
      decide +kernel
    have isRefused : (Storage.backend.engine.openError? { path := "no\x00file" }
        session.engine).isSome := by
      decide +kernel
    obtain ⟨error, isError⟩ := Option.isSome_iff_exists.mp isRefused
    exact ⟨_, alone.unopened isHeld rfl isError⟩
  · have alone : FailsAlone Storage.recovering session "c" (some (.ofString "-- nothing"))
        (.connection "c" (.createCommand "other" (.ofString "-- nothing"))) :=
      failures_recovered Storage.recovering isFresh.1 isFresh.2 halfOpened
        (.createCommand _ (by decide +kernel))
    have isOpened : (perform Storage.backend session (.connection "c" .ensureOpen)).2.lifecycle?
        "c" = some (.opened ⟨0⟩) := by
      decide +kernel
    have isEmpty : Storage.backend.engine.compileError? ⟨0⟩ (.ofString "-- nothing")
        (perform Storage.backend session (.connection "c" .ensureOpen)).2.engine =
          some .emptyStatement := by
      decide +kernel
    have failed := alone.unprepared rfl isOpened isEmpty
    have isNone : ((perform Storage.backend session
        (.connection "c" .ensureOpen)).2.engine.prepare ⟨0⟩ (.ofString "-- nothing")).1.2 =
          none := by
      decide +kernel
    exact ⟨⟨_, failed⟩, failed.recovers_of_noPragma (by decide +kernel) (by decide +kernel) isNone⟩

/-- A table whose rows refer to a table without any, as long as nobody looks after that. -/
def withoutParents : List Request :=
  [.connection "c" (.connect none none none),
    .connection "c" (.executeNonQuery (.ofString "CREATE TABLE p(a PRIMARY KEY)")),
    .connection "c" (.executeNonQuery (.ofString "CREATE TABLE c(a REFERENCES p)")),
    .connection "c" (.executeNonQuery (.ofString "PRAGMA foreign_keys=OFF"))]

def Response.prepareCode? : Response → Option Int
  | .plain (.error (.failed (.prepareFailed code _))) => some code
  | _ => none

def Response.number? : Response → Option Int
  | .plain (.ok (.number number)) => some number
  | _ => none

def Response.stepCode? : Response → Option Int
  | .plain (.error (.failed (.stepFailed code _))) => some code
  | _ => none

/-- A pragma that does not compile is carried out up to where it goes wrong, and makes a valid
statement fail that would have had its row. -/
theorem insert_fails_after_unprepared :
    let session := (run Storage.backend { engine := {} } withoutParents).2
    let unprepared := perform Storage.backend session
      (.connection "c" (.executeNonQuery (.ofString "PRAGMA foreign_keys=ON garbage")))
    let insert (session : Session Storage.Store) := (perform Storage.backend session
      (.connection "c" (.executeNonQuery (.ofString "INSERT INTO c VALUES(1)")))).1
    unprepared.1.prepareCode? = some 1 ∧ (insert session).number? = some 0 ∧
      (insert unprepared.2).stepCode? = some 19 := by
  refine ⟨?_, ?_, ?_⟩ <;> decide +kernel

end EmbeddedSql.Session
