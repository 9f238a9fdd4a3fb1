import EmbeddedSql.Proofs.Connection.Recovering
import EmbeddedSql.Proofs.Session.Isolation

/-! Sessions that resemble each other: whatever is asked of both, what is answered in one is
answered in the other, and what fails in one fails in the other with the same code. -/

namespace EmbeddedSql

open Muting (muted)

instance {ε : Type} [Muting ε] : Muting (Refusal ε) where
  muted
    | .failed error => .failed (muted error)
    | refusal => refusal

theorem Connection.renamed_veiled (rename : DatabaseHandle ↪ DatabaseHandle)
    (connection : Connection) : (connection.renamed rename).veiled = connection.veiled := by
  rcases connection with ⟨path, config, lifecycle⟩
  cases lifecycle <;> rfl

/-! ## Registries -/

namespace Registry

variable {α β : Type} {R : α → β → Prop} {registry : Registry α} {image : Registry β}

def Relates (R : α → β → Prop) (registry : Registry α) (image : Registry β) : Prop :=
  ∀ name, Option.Rel R (registry.get? name) (image.get? name)

theorem Relates.contains (relates : Relates R registry image) (name : String) :
    image.contains name = registry.contains name := by
  have found := relates name
  unfold Registry.contains
  generalize registry.get? name = value at found ⊢
  generalize image.get? name = other at found ⊢
  cases found <;> rfl

theorem Relates.erase (relates : Relates R registry image) (name : String) :
    Relates R (registry.erase name) (image.erase name) := by
  intro other
  rw [get?_erase, get?_erase]
  split
  · exact .none
  · exact relates other

theorem Relates.insert (relates : Relates R registry image) (name : String) {value : α} {other : β}
    (related : R value other) : Relates R (registry.insert name value) (image.insert name other) := by
  intro sought
  rw [get?_insert, get?_insert]
  split
  · exact .some related
  · exact relates sought

theorem Relates.itself {R : α → α → Prop} {registry : Registry α}
    (related : ∀ {name value}, registry.get? name = some value → R value value) :
    Relates R registry registry := by
  intro name
  cases isHeld : registry.get? name with
  | none => exact .none
  | some value => exact .some (related isHeld)

end Registry

namespace Session

variable {σ ε α β : Type}

/-! ## What is compared -/

/-- What is the same whatever the numbers of databases and the buffers in pools are. Errors have
no messages. -/
def Request.gist : Request → Response → Response
  | .pool _, .plain result => .plain ((result.map fun _ => .nothing).mapError muted)
  | _, .plain result => .plain ((result.map Answer.veiled).mapError muted)
  | _, .query result => .query (result.mapError muted)

def Holding.isRented : Holding → Bool
  | .rented _ => true
  | .encoded _ => false

variable {backend : Backend σ} (laws : Recovering backend.engine)
  (rename : DatabaseHandle ↪ DatabaseHandle)

/-- The same names stand for the same. Only databases have other numbers, and buffers may be any
of their kind. -/
structure Resembles (session other : Session σ) : Prop where
  engine : laws.Resembles rename session.engine other.engine
  pools : other.pools.length = session.pools.length
  poolNames : other.poolNames = session.poolNames
  buffers : Registry.Relates (fun held image => image.holding.isRented = held.holding.isRented)
    session.buffers other.buffers
  connections : Registry.Relates
    (fun held image => image.pool = held.pool ∧ image.connection = held.connection.renamed rename)
    session.connections other.connections
  commands : other.commands = session.commands
  readers : other.readers = session.readers

/-- Both are answered the same, or fail for the same reason, and leave sessions that resemble each
other. -/
structure EndAlike [Muting ε] (outcome image : Except ε α × Session σ) : Prop where
  same : image.1.mapError muted = outcome.1.mapError muted
  resembles : Resembles laws rename outcome.2 image.2

variable {laws rename} {session other : Session σ}

theorem EndAlike.map [Muting ε] {outcome image : Except ε α × Session σ}
    (alike : EndAlike laws rename outcome image) (answer : α → β) :
    EndAlike laws rename (outcome.1.map answer, outcome.2) (image.1.map answer, image.2) := by
  refine ⟨?_, alike.resembles⟩
  have same := alike.same
  rcases outcome with ⟨error | value, last⟩ <;> rcases image with ⟨otherError | otherValue, otherLast⟩
  · exact congrArg Except.error (Except.error.inj same)
  · cases same
  · cases same
  · exact congrArg Except.ok (congrArg answer (Except.ok.inj same))

namespace Resembles

variable (resembles : Resembles laws rename session other)
include resembles

theorem unchanged [Muting ε] (result : Except ε α) :
    EndAlike laws rename (result, session) (result, other) :=
  ⟨rfl, resembles⟩

/-! ## What is found -/

theorem links (name : String) :
    Option.Rel (laws.Tied rename) (session.link? name) (other.link? name) := by
  have found := resembles.connections name
  unfold link?
  cases isHeld : session.connections.get? name <;>
    cases isImage : other.connections.get? name <;> rw [isHeld, isImage] at found
  · exact .none
  · cases found
  · cases found
  · cases found with
    | some same => exact .some ⟨same.2, resembles.engine⟩

theorem link_cases (name : String) :
    (session.link? name = none ∧ other.link? name = none) ∨
      ∃ link image, session.link? name = some link ∧ other.link? name = some image ∧
        laws.Tied rename link image := by
  have found := resembles.links name
  cases isLink : session.link? name <;> cases isImage : other.link? name <;>
    rw [isLink, isImage] at found
  · exact .inl ⟨rfl, rfl⟩
  · cases found
  · cases found
  · cases found with
    | some tied => exact .inr ⟨_, _, rfl, rfl, tied⟩

theorem commandIsRead (command : String) :
    other.commandIsRead command = session.commandIsRead command := by
  rw [Session.commandIsRead, Session.commandIsRead, resembles.readers]

theorem connectionIsUsed (connection : String) :
    other.connectionIsUsed connection = session.connectionIsUsed connection := by
  rw [Session.connectionIsUsed, Session.connectionIsUsed, resembles.readers, resembles.commands]

theorem freeCommand (command : String) :
    other.freeCommand (ε := ε) command = session.freeCommand command := by
  rw [Session.freeCommand, Session.freeCommand, resembles.commands, resembles.commandIsRead]

theorem findReader (reader : String) :
    other.findReader (ε := ε) reader = session.findReader reader := by
  rw [Session.findReader, Session.findReader, resembles.readers]

theorem poolNumber (pool : String) :
    other.poolNumber (ε := ε) pool = session.poolNumber pool := by
  rw [Session.poolNumber, Session.poolNumber, resembles.poolNames]

/-! ## Calls -/

theorem setLink {name : String} {link image last lastImage : Link σ}
    (isLink : session.link? name = some link) (isImage : other.link? name = some image)
    (tied : laws.Tied rename last lastImage) :
    Resembles laws rename (session.setLink name last) (other.setLink name lastImage) := by
  obtain ⟨held, isHeld, -⟩ := held_of_link? isLink
  obtain ⟨heldImage, isHeldImage, -⟩ := held_of_link? isImage
  have found := resembles.connections name
  rw [isHeld, isHeldImage] at found
  cases found with
  | some same =>
      unfold Session.setLink
      rw [isHeld, isHeldImage]
      exact {
        engine := tied.engine
        pools := by simp [setPool, resembles.pools]
        poolNames := resembles.poolNames
        buffers := resembles.buffers
        connections := resembles.connections.insert name ⟨same.1, tied.connection⟩
        commands := resembles.commands
        readers := resembles.readers }

theorem onConnection [Muting ε] (name : String) {call : ExceptT ε (StateM (Link σ)) α}
    (overlooks : laws.Overlooks rename call) :
    EndAlike laws rename (session.onConnection name call) (other.onConnection name call) := by
  rcases resembles.link_cases name with ⟨isMissing, isMissingImage⟩ |
    ⟨link, image, isLink, isImage, tied⟩
  · rw [onConnection_of_missing isMissing, onConnection_of_missing isMissingImage]
    exact resembles.unchanged _
  · have comes := overlooks tied
    rw [onConnection_of_link isLink, onConnection_of_link isImage]
    generalize call link = outcome at comes ⊢
    generalize call image = otherOutcome at comes ⊢
    cases comes with
    | ok same tied =>
        exact ⟨congrArg Except.ok same.symm, resembles.setLink isLink isImage tied⟩
    | error same tied =>
        exact ⟨congrArg (Except.error ∘ Refusal.failed) same,
          resembles.setLink isLink isImage tied⟩

theorem keeping (name : String) {call : Call σ α} (overlooks : laws.Overlooks rename call)
    {put : Session σ → α → Session σ}
    (puts : ∀ {last lastImage} (made : α), Resembles laws rename last lastImage →
      Resembles laws rename (put last made) (put lastImage made)) :
    EndAlike laws rename (Session.keeping put (session.onConnection name call))
      (Session.keeping put (other.onConnection name call)) := by
  obtain ⟨same, resembles⟩ := resembles.onConnection name overlooks
  generalize session.onConnection name call = outcome at same resembles ⊢
  generalize other.onConnection name call = image at same resembles ⊢
  rcases outcome with ⟨error | made, last⟩ <;> rcases image with ⟨otherError | otherMade, lastImage⟩
  · exact ⟨congrArg Except.error (Except.error.inj same), resembles⟩
  · cases same
  · cases same
  · obtain rfl : otherMade = made := Except.ok.inj same
    exact ⟨rfl, puts otherMade resembles⟩

/-! ## Names that come and go -/

theorem withConnections {connections image : Registry HeldConnection}
    (relates : Registry.Relates (fun held image => image.pool = held.pool ∧
      image.connection = held.connection.renamed rename) connections image) :
    Resembles laws rename { session with connections } { other with connections := image } :=
  { resembles with connections := relates }

theorem withCommands (commands : Registry HeldCommand) :
    Resembles laws rename { session with commands } { other with commands } :=
  { resembles with commands := rfl }

theorem withReaders (readers : Registry HeldReader) :
    Resembles laws rename { session with readers } { other with readers } :=
  { resembles with readers := rfl }

/-! ## Pools and buffers -/

theorem withBuffer (buffer : String) (number otherNumber : Nat) (pool otherPool : Scratch.Pool)
    {held image : HeldBuffer} (sameKind : image.holding.isRented = held.holding.isRented) :
    Resembles laws rename
      { session.setPool number pool with buffers := session.buffers.insert buffer held }
      { other.setPool otherNumber otherPool with buffers := other.buffers.insert buffer image } :=
  { resembles with
    pools := by simp [setPool, resembles.pools]
    buffers := resembles.buffers.insert buffer sameKind }

theorem withNewPool (pool : String) (made : Scratch.Pool) :
    Resembles laws rename
      { session with
        pools := session.pools ++ [made]
        poolNames := session.poolNames.insert pool session.pools.length }
      { other with
        pools := other.pools ++ [made]
        poolNames := other.poolNames.insert pool other.pools.length } :=
  { resembles with
    pools := by simp [resembles.pools]
    poolNames := by rw [resembles.poolNames, resembles.pools] }

theorem withPoolNames (names : Registry Nat) :
    Resembles laws rename { session with poolNames := names }
      { other with poolNames := names } :=
  { resembles with poolNames := rfl }

theorem withoutBuffer (buffer : String) (number otherNumber : Nat)
    (pool otherPool : Scratch.Pool) :
    Resembles laws rename
      { session.setPool number pool with buffers := session.buffers.erase buffer }
      { other.setPool otherNumber otherPool with buffers := other.buffers.erase buffer } :=
  { resembles with
    pools := by simp [setPool, resembles.pools]
    buffers := resembles.buffers.erase buffer }

theorem findBuffer_cases (buffer : String) :
    (session.findBuffer (ε := ε) buffer = .error .noSuchHandle ∧
        other.findBuffer (ε := ε) buffer = .error .noSuchHandle) ∨
      ∃ held image, session.findBuffer (ε := ε) buffer = .ok held ∧
        other.findBuffer (ε := ε) buffer = .ok image ∧
          image.holding.isRented = held.holding.isRented := by
  have found := resembles.buffers buffer
  unfold findBuffer
  cases isHeld : session.buffers.get? buffer <;>
    cases isImage : other.buffers.get? buffer <;> rw [isHeld, isImage] at found
  · exact .inl ⟨rfl, rfl⟩
  · cases found
  · cases found
  · cases found with
    | some same => exact .inr ⟨_, _, rfl, rfl, same⟩

theorem performPool (request : PoolRequest) :
    EndAlike laws rename
      ((performPool backend session request).1.map fun _ => Answer.nothing,
        (performPool backend session request).2)
      ((performPool backend other request).1.map fun _ => Answer.nothing,
        (performPool backend other request).2) := by
  have newPool (pool : String) : newName (ε := Error) other.poolNames pool =
      newName session.poolNames pool := by rw [resembles.poolNames]
  have newBuffer (buffer : String) : newName (ε := Error) other.buffers buffer =
      newName session.buffers buffer := by rw [newName, newName, resembles.buffers.contains]
  cases request with
  | create pool config =>
      unfold Session.performPool
      dsimp only
      rw [newPool]
      cases newName (ε := Error) session.poolNames pool with
      | error refusal => exact resembles.unchanged _
      | ok _ =>
          cases readConfig (ε := Error) Scratch.PoolConfig.format {} config with
          | error refusal => exact resembles.unchanged _
          | ok config =>
              have next := resembles.withNewPool pool { config }
              rw [resembles.poolNames] at next ⊢
              exact ⟨rfl, next⟩
  | share pool source =>
      unfold Session.performPool
      dsimp only
      rw [newPool, resembles.poolNumber]
      cases newName (ε := Error) session.poolNames pool with
      | error refusal => exact resembles.unchanged _
      | ok _ =>
          cases session.poolNumber (ε := Error) source with
          | error refusal => exact resembles.unchanged _
          | ok number =>
              rw [resembles.poolNames]
              exact ⟨rfl, resembles.withPoolNames _⟩
  | available pool =>
      unfold Session.performPool
      dsimp only
      rw [resembles.poolNumber]
      cases session.poolNumber (ε := Error) pool with
      | error refusal => exact resembles.unchanged _
      | ok number => exact ⟨rfl, resembles⟩
  | rent pool buffer minimum =>
      unfold Session.performPool
      dsimp only
      rw [newBuffer, resembles.poolNumber]
      cases newName (ε := Error) session.buffers buffer with
      | error refusal => exact resembles.unchanged _
      | ok _ =>
          cases session.poolNumber (ε := Error) pool with
          | error refusal => exact resembles.unchanged _
          | ok number => exact ⟨rfl, resembles.withBuffer buffer _ _ _ _ rfl⟩
  | append buffer bytes =>
      unfold Session.performPool
      dsimp only
      rcases resembles.findBuffer_cases (ε := Error) buffer with ⟨isMissing, isMissingImage⟩ |
        ⟨held, image, isFound, isFoundImage, sameKind⟩
      · rw [isMissing, isMissingImage]
        exact resembles.unchanged _
      · rw [isFound, isFoundImage]
        rcases held with ⟨number, rented | text⟩ <;> rcases image with ⟨otherNumber, other | text⟩
        · exact ⟨rfl, { resembles with buffers := resembles.buffers.insert buffer rfl }⟩
        · cases sameKind
        · cases sameKind
        · exact resembles.unchanged _
  | encode pool buffer encoding =>
      unfold Session.performPool
      dsimp only
      rw [newBuffer, resembles.poolNumber]
      cases newName (ε := Error) session.buffers buffer with
      | error refusal => exact resembles.unchanged _
      | ok _ =>
          cases session.poolNumber (ε := Error) pool with
          | error refusal => exact resembles.unchanged _
          | ok number => exact ⟨rfl, resembles.withBuffer buffer _ _ _ _ rfl⟩
  | contents buffer =>
      unfold Session.performPool
      dsimp only
      rcases resembles.findBuffer_cases (ε := Error) buffer with ⟨isMissing, isMissingImage⟩ |
        ⟨held, image, isFound, isFoundImage, -⟩
      · rw [isMissing, isMissingImage]
        exact resembles.unchanged _
      · rw [isFound, isFoundImage]
        exact ⟨rfl, resembles⟩
  | release buffer =>
      unfold Session.performPool
      dsimp only
      rcases resembles.findBuffer_cases (ε := Error) buffer with ⟨isMissing, isMissingImage⟩ |
        ⟨held, image, isFound, isFoundImage, -⟩
      · rw [isMissing, isMissingImage]
        exact resembles.unchanged _
      · rw [isFound, isFoundImage]
        exact ⟨rfl, resembles.withoutBuffer buffer _ _ _ _⟩

/-! ## Connections -/

omit resembles in
variable (laws rename) in
theorem overlooks_disposeQuietly : laws.Overlooks rename (disposeQuietly backend) := by
  intro link other tied
  have disposes := laws.overlooks_dispose rename tied
  unfold disposeQuietly
  rw [Call.bind_apply, Call.bind_apply, Call.get_apply, Call.get_apply]
  dsimp only
  rw [tied.isDisposed]
  split
  · exact .ok rfl tied
  · exact disposes

theorem performConnection (name : String) (request : ConnectionRequest) :
    EndAlike laws rename
      ((performConnection backend session name request).1.map Answer.veiled,
        (performConnection backend session name request).2)
      ((performConnection backend other name request).1.map Answer.veiled,
        (performConnection backend other name request).2) := by
  cases request with
  | connect path config pool =>
      have newConnection : newName (ε := Error) other.connections name =
          newName session.connections name := by
        rw [newName, newName, resembles.connections.contains]
      have samePool : other.poolNumber (ε := Error) = session.poolNumber :=
        funext resembles.poolNumber
      unfold Session.performConnection
      dsimp only
      rw [newConnection, samePool]
      cases newName (ε := Error) session.connections name with
      | error refusal => exact resembles.unchanged _
      | ok _ =>
          cases pool.elim (pure 0) (session.poolNumber (ε := Error)) with
          | error refusal => exact resembles.unchanged _
          | ok number =>
              cases readConfig (ε := Error) ConnectionConfig.format {} config with
              | error refusal => exact resembles.unchanged _
              | ok config =>
                  exact ⟨rfl, resembles.withConnections
                    (resembles.connections.insert name ⟨rfl, rfl⟩)⟩
  | state =>
      have found := resembles.connections name
      unfold Session.performConnection
      dsimp only
      cases isHeld : session.connections.get? name <;>
        cases isImage : other.connections.get? name <;> rw [isHeld, isImage] at found
      · exact resembles.unchanged _
      · cases found
      · cases found
      · cases found with
        | some same =>
            rename_i held image
            have sameShown : image.connection.veiled = held.connection.veiled := by
              rw [same.2, Connection.renamed_veiled]
            exact ⟨congrArg (Except.ok ∘ Answer.connection) sameShown, resembles⟩
  | drop =>
      unfold Session.performConnection
      dsimp only
      rw [resembles.connections.contains, resembles.connectionIsUsed]
      split
      · exact resembles.unchanged _
      split
      · exact resembles.unchanged _
      · have disposes := resembles.onConnection name (overlooks_disposeQuietly laws rename)
        have done := (disposes.map fun _ => Answer.nothing).map Answer.veiled
        exact ⟨done.same, done.resembles.withConnections (done.resembles.connections.erase name)⟩
  | ensureOpen =>
      exact ((resembles.onConnection name (laws.overlooks_ensureOpen rename _)).map _).map _
  | dispose => exact ((resembles.onConnection name (laws.overlooks_dispose rename)).map _).map _
  | changes =>
      exact ((resembles.onConnection name (laws.overlooks_changes rename _)).map _).map _
  | pendingStatements =>
      exact ((resembles.onConnection name (laws.overlooks_pendingStatements rename)).map _).map _
  | lastInsertRowid =>
      exact ((resembles.onConnection name (laws.overlooks_lastInsertRowid rename _)).map _).map _
  | executeNonQuery sql =>
      exact ((resembles.onConnection name (laws.overlooks_executeNonQuery rename sql)).map _).map _
  | executeReader reader sql =>
      refine EndAlike.map ?_ Answer.veiled
      unfold Session.performConnection
      dsimp only
      rw [resembles.readers]
      cases newName (ε := Error) session.readers reader with
      | error refusal => exact resembles.unchanged _
      | ok _ =>
          refine resembles.keeping name (laws.overlooks_executeReader rename sql)
            fun {last lastImage} made resembles => ?_
          rw [resembles.readers]
          exact resembles.withReaders _
  | createCommand command sql =>
      refine EndAlike.map ?_ Answer.veiled
      unfold Session.performConnection
      dsimp only
      rw [resembles.commands]
      cases newName (ε := Error) session.commands command with
      | error refusal => exact resembles.unchanged _
      | ok _ =>
          refine resembles.keeping name (laws.overlooks_createCommand rename sql)
            fun {last lastImage} made resembles => ?_
          rw [resembles.commands]
          exact resembles.withCommands _

/-! ## Commands -/

theorem useCommand (held : HeldCommand) (request : CommandRequest) :
    EndAlike laws rename (useCommand backend session held request)
      (useCommand backend other held request) := by
  have asks {α : Type} {call : Call σ α} (answer : α → Answer)
      (overlooks : laws.Overlooks rename call) :
      EndAlike laws rename (answering answer (session.onConnection held.connection call))
        (answering answer (other.onConnection held.connection call)) :=
    (resembles.onConnection held.connection overlooks).map answer
  cases request with
  | sql => exact asks _ (laws.overlooks_sql rename _)
  | executeNonQuery => exact asks _ (laws.overlooks_executeCommand rename _)
  | parameterCount => exact asks _ (laws.overlooks_count rename _)
  | clear => exact asks _ (laws.overlooks_clear rename _)
  | indexOf text => exact asks _ (laws.overlooks_resolve rename _ _ _)
  | nameOf index => exact asks _ (laws.overlooks_nameOf rename _ index)
  | bind parameter argument => exact asks _ (laws.overlooks_bind rename _ _ _ _)
  | bindText parameter text => exact asks _ (laws.overlooks_bindText rename _ _ _ _)
  | executeReader reader => exact resembles.unchanged _
  | finalize => exact resembles.unchanged _
  | drop => exact resembles.unchanged _

theorem performCommand (name : String) (request : CommandRequest) :
    EndAlike laws rename (performCommand backend session name request)
      (performCommand backend other name request) := by
  have consumes (held : HeldCommand) {call : Call σ Unit} (overlooks : laws.Overlooks rename call) :
      EndAlike laws rename
        (let outcome := session.onConnection held.connection call
         done (outcome.1, { outcome.2 with commands := outcome.2.commands.erase name }))
        (let outcome := other.onConnection held.connection call
         done (outcome.1, { outcome.2 with commands := outcome.2.commands.erase name })) := by
    have alike := (resembles.onConnection held.connection overlooks).map fun _ => Answer.nothing
    have sameCommands := alike.resembles.commands
    refine ⟨alike.same, ?_⟩
    dsimp only [done, answering] at sameCommands ⊢
    rw [sameCommands]
    exact alike.resembles.withCommands _
  unfold Session.performCommand
  rw [resembles.freeCommand]
  cases request
  case executeReader reader =>
    dsimp only
    rw [resembles.readers]
    cases newName (ε := Error) session.readers reader with
    | error refusal => exact resembles.unchanged _
    | ok _ =>
        dsimp only
        cases session.freeCommand (ε := Error) name with
        | error refusal => exact resembles.unchanged _
        | ok held =>
            refine resembles.keeping held.connection (laws.overlooks_commandReader rename _)
              fun {last lastImage} made resembles => ?_
            rw [resembles.readers]
            exact resembles.withReaders _
  all_goals
    dsimp only
    cases session.freeCommand (ε := Error) name with
    | error refusal => exact resembles.unchanged _
    | ok held => ?_
  case finalize => exact consumes held (laws.overlooks_finalizeCommand rename _)
  case drop => exact consumes held (laws.overlooks_dropCommand rename _)
  all_goals exact resembles.useCommand held _

/-! ## Readers -/

omit resembles in
theorem sees_of_tied {link image : Link σ} (tied : laws.Tied rename link image)
    (reader : Reader) : reader.SeesAlike backend.engine reader.statement link image where
  cells cells := (tied.sameColumns { reader with cells }).cell
  columnCount := (tied.sameColumns reader).columnCount
  name := (tied.sameColumns reader).name

theorem access [Muting ε] (name : String) (held : HeldReader)
    {accessor : Reader → Link σ → Except ε α × Reader}
    (sees : ∀ {link image}, laws.Tied rename link image →
      accessor held.reader image = accessor held.reader link) :
    EndAlike laws rename (access session name held accessor)
      (access other name held accessor) := by
  rcases resembles.link_cases held.connection with ⟨isMissing, isMissingImage⟩ |
    ⟨link, image, isLink, isImage, tied⟩
  · rw [Session.access, Session.access, isMissing, isMissingImage]
    exact resembles.unchanged _
  · rw [access_of_link isLink, access_of_link isImage, resembles.readers, sees tied]
    exact ⟨rfl, resembles.withReaders _⟩

omit resembles in
theorem accessor_tied {link image : Link σ} (tied : laws.Tied rename link image)
    (reader : Reader) {request : ReaderRequest} (isAccessor : request.isAccessor = true) :
    accessor backend request reader image = accessor backend request reader link := by
  have same := accessor_withStatement (sees_of_tied tied reader) isAccessor
  have isItself : (accessor backend request reader link).2.withStatement reader.statement =
      (accessor backend request reader link).2 := by
    rw [← accessor_statement backend request reader link]
    rfl
  rw [isItself] at same
  exact same

theorem performReader (name : String) (request : ReaderRequest) :
    EndAlike laws rename (performReader backend session name request)
      (performReader backend other name request) := by
  unfold Session.performReader
  rw [resembles.findReader]
  cases session.findReader (ε := Error) name with
  | error refusal => exact resembles.unchanged _
  | ok held =>
      dsimp only
      cases request
      case cursor => exact resembles.unchanged _
      case read =>
        unfold useReader
        dsimp only
        rcases resembles.link_cases held.connection with ⟨isMissing, isMissingImage⟩ |
          ⟨link, image, isLink, isImage, tied⟩
        · rw [isMissing, isMissingImage]
          exact resembles.unchanged _
        · rw [isLink, isImage]
          dsimp only
          obtain ⟨same, sameReader, tied⟩ := tied.read held.reader
          have next := resembles.setLink isLink isImage tied
          generalize held.reader.read backend.engine link = outcome at same sameReader next ⊢
          generalize held.reader.read backend.engine image = otherOutcome
            at same sameReader next ⊢
          rcases outcome with ⟨⟨result, reader⟩, after⟩
          rcases otherOutcome with ⟨⟨otherResult, otherReader⟩, otherAfter⟩
          obtain rfl : otherReader = reader := sameReader
          have nextReaders := next.withReaders
            (session.readers.insert name { held with reader := otherReader })
          dsimp only at same ⊢
          rw [resembles.readers]
          rcases result with error | found <;> rcases otherResult with otherError | otherFound
          · exact ⟨congrArg (Except.error ∘ Refusal.failed) (Except.error.inj same), nextReaders⟩
          · cases same
          · cases same
          · exact ⟨congrArg (Except.ok ∘ Answer.boolean) (Except.ok.inj same), nextReaders⟩
      case dispose =>
        unfold useReader
        dsimp only
        rcases resembles.link_cases held.connection with ⟨isMissing, isMissingImage⟩ |
          ⟨link, image, isLink, isImage, tied⟩
        · rw [isMissing, isMissingImage]
          exact resembles.unchanged _
        · rw [isLink, isImage]
          dsimp only
          have next := resembles.setLink isLink isImage (tied.dispose held.reader)
          rw [next.readers]
          exact ⟨rfl, next.withReaders _⟩
      all_goals
        rw [useReader_accessor backend _ _ _ rfl, useReader_accessor backend _ _ _ rfl]
        exact resembles.access name held fun tied => accessor_tied tied held.reader rfl

/-! ## Queries -/

theorem onCommand (name : String) {call : StatementHandle → Query.Call σ Unit}
    (overlooks : ∀ statement, laws.Overlooks rename (call statement)) :
    EndAlike laws rename (onCommand session name call) (onCommand other name call) := by
  unfold Session.onCommand
  rw [resembles.freeCommand]
  cases session.freeCommand (ε := Query.Error) name with
  | error refusal => exact resembles.unchanged _
  | ok held =>
      exact (resembles.onConnection held.connection (overlooks held.command.statement)).map _

theorem onReader (name : String) {view : Reader → Link σ → Except Query.Error α}
    (answer : α → QueryAnswer) (leave : List Cell → List Cell)
    (sees : ∀ ⦃reader link image⦄, laws.Tied rename link image →
      view reader image = view reader link) :
    EndAlike laws rename (onReader session name (takeOut answer view leave))
      (onReader other name (takeOut answer view leave)) := by
  unfold Session.onReader
  rw [resembles.findReader]
  cases session.findReader (ε := Query.Error) name with
  | error refusal => exact resembles.unchanged _
  | ok held =>
      refine resembles.access name held fun tied => ?_
      rw [takeOut, sees tied, takeOut]

theorem performQuery (request : QueryRequest) :
    EndAlike laws rename (performQuery backend session request)
      (performQuery backend other request) := by
  cases request with
  | execute connection sql values =>
      exact (resembles.onConnection connection (laws.overlooks_execute rename sql values)).map _
  | fetchAll connection sql values =>
      exact (resembles.onConnection connection (laws.overlooks_fetchAll rename sql values)).map _
  | fetchOne connection sql values =>
      exact (resembles.onConnection connection (laws.overlooks_fetchOne rename sql values)).map _
  | executeTransaction connection statements =>
      exact (resembles.onConnection connection
        (laws.overlooks_executeTransaction rename statements)).map _
  | bindValue command index value =>
      exact resembles.onCommand command fun statement =>
        laws.overlooks_bindValue rename statement index value
  | bindValues command values =>
      exact resembles.onCommand command fun statement =>
        laws.overlooks_bindValues rename statement values
  | columnJson reader column =>
      exact resembles.onReader reader _ _ fun reader _ _ tied => tied.columnJson reader column
  | decodeRow reader =>
      exact resembles.onReader reader _ _ fun reader _ _ tied => tied.decodeRow reader

/-! ## Sessions as a whole -/

theorem perform (request : Request) :
    request.gist (perform backend other request).1 =
        request.gist (perform backend session request).1 ∧
      Resembles laws rename (perform backend session request).2
        (perform backend other request).2 := by
  cases request with
  | pool request =>
      have alike := resembles.performPool request
      exact ⟨congrArg Response.plain alike.same, alike.resembles⟩
  | connection name request =>
      have alike := resembles.performConnection name request
      exact ⟨congrArg Response.plain alike.same, alike.resembles⟩
  | command name request =>
      have alike := (resembles.performCommand name request).map Answer.veiled
      exact ⟨congrArg Response.plain alike.same, alike.resembles⟩
  | reader name request =>
      have alike := (resembles.performReader name request).map Answer.veiled
      exact ⟨congrArg Response.plain alike.same, alike.resembles⟩
  | query request =>
      have alike := resembles.performQuery request
      exact ⟨congrArg Response.query alike.same, alike.resembles⟩

theorem run (requests : List Request) :
    List.zipWith Request.gist requests (run backend other requests).1 =
        List.zipWith Request.gist requests (run backend session requests).1 ∧
      Resembles laws rename (run backend session requests).2 (run backend other requests).2 := by
  induction requests generalizing session other with
  | nil => exact ⟨rfl, resembles⟩
  | cons request rest induction =>
      obtain ⟨sameFirst, next⟩ := resembles.perform request
      obtain ⟨sameRest, last⟩ := induction next
      exact ⟨congrArg₂ List.cons sameFirst sameRest, last⟩

end Resembles

end Session

end EmbeddedSql
