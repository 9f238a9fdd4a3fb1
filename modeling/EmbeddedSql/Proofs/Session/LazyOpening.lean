import EmbeddedSql.Proofs.Connection.Opening
import EmbeddedSql.Proofs.Session.Interleaving
import EmbeddedSql.Proofs.Session.Lifecycle

/-! Main result: nobody can tell whether the private database of a connection was opened when it
was first needed or before. -/

namespace EmbeddedSql

variable {σ ε α β : Type}

/-! ## Connections of which one is ahead -/

namespace Isolation

section
variable {engine : Engine σ} (laws : Isolation engine) (growth : Scratch.Growth)

/-- The other connection was in the same place, has opened its database, and has not been used
since. -/
def Ahead (link other : Link σ) : Prop :=
  ∃ before opened, laws.Tied .unopened link before ∧
    Connection.ensureOpen engine growth before = (.ok (), opened) ∧
      other = { opened with pool := other.pool }

variable {laws growth} {link other : Link σ}

theorem Ahead.withPools (ahead : laws.Ahead growth link other) (pool otherPool : Scratch.Pool) :
    laws.Ahead growth { link with pool } { other with pool := otherPool } := by
  rcases ahead with ⟨before, opened, tied, opens, same⟩
  exact ⟨before, opened, tied.withPools pool before.pool, opens, by rw [same]⟩

theorem Ahead.opens (ahead : laws.Ahead growth link other) :
    ∃ parts opened, parts.statements = [] ∧
      Connection.ensureOpen engine growth link = (.ok (), opened) ∧
        laws.Tied (.opened parts) opened other := by
  rcases ahead with ⟨before, last, tied, opens, same⟩
  have ends := laws.runs_ensureOpen growth link before tied
  rw [opens] at ends
  rcases outcome : Connection.ensureOpen engine growth link with ⟨error | answer, opened⟩ <;>
    rw [outcome] at ends
  · exact ends.elim
  · rcases ends with ⟨_, ⟨parts, rfl, follows⟩, tied⟩
    cases follows with
    | opening database image =>
        refine ⟨{ database, image }, opened, rfl, rfl, ?_⟩
        rw [same]
        exact tied.withPools opened.pool other.pool

theorem Tied.opening (growth : Scratch.Growth) (tied : laws.Tied .unopened link other)
    (opensMemory : laws.OpensMemory) :
    ∃ opened, Connection.ensureOpen engine growth other = (.ok (), opened) ∧
      laws.Ahead growth link opened := by
  suffices opens : ∃ opened, Connection.ensureOpen engine growth other = (.ok (), opened) by
    rcases opens with ⟨opened, opens⟩
    exact ⟨opened, opens, other, opened, tied, opens, rfl⟩
  cases tied with
  | @unopened config _ pool _ image _ valid =>
      rcases @opensMemory config.openMode image valid with ⟨database, isOpened⟩
      have noError : engine.openError? { config } image = none := by
        have isPath : Utf8.ofString ({ config } : Connection).path = memoryPath := rfl
        have noNul : 0 ∉ memoryPath := by decide
        rcases outcome : engine.openDatabase memoryPath config.openMode image with ⟨result, after⟩
        rw [outcome] at isOpened
        cases isOpened
        simp [Engine.openError?, isPath, noNul, outcome]
      have isUnopened : (⟨{ config }, pool, image⟩ : Link σ).connection.lifecycle = .unopened := rfl
      rcases Connection.ensureOpen_of_opens growth isUnopened noError with ⟨_, -, opens⟩
      exact ⟨_, opens⟩

theorem Ahead.connections (ahead : laws.Ahead growth link other) :
    ∃ config database, link.connection = { config } ∧
      other.connection = { config, lifecycle := .opened database } := by
  rcases ahead.opens with ⟨parts, opened, -, opens, tied⟩
  have sameConfig : opened.connection.config = link.connection.config := by
    have advances := (Connection.ensureOpen_advances engine growth link).config
    rwa [opens] at advances
  rcases ahead with ⟨before, last, tiedBefore, -, -⟩
  cases tied
  cases tiedBefore
  cases sameConfig
  exact ⟨_, parts.image, rfl, rfl⟩

theorem Ahead.pendingStatements (ahead : laws.Ahead growth link other) :
    Connection.pendingStatements engine link = (.ok 0, link) ∧
      Connection.pendingStatements engine other = (.ok 0, other) := by
  rcases ahead.opens with ⟨parts, opened, noStatements, -, tied⟩
  constructor
  · rcases ahead with ⟨before, last, tied, -, -⟩
    cases tied
    rfl
  · cases tied with
    | opened alike =>
        have isEmpty := (laws.alike_statements alike).2.length_eq
        rw [noStatements] at isEmpty
        rw [Connection.pendingStatements_apply]
        simp [isEmpty]

end

/-- A call that opens the database first makes up for the opening. -/
theorem Ahead.needing {backend : Backend σ} {laws : Isolation backend.engine} {link other : Link σ}
    {sql? : Option Text} {wrap : Error → ε} {call : ExceptT ε (StateM (Link σ)) α}
    {answers : α → α → Bond → Prop} (ahead : laws.Ahead backend.growth link other)
    (needs : Call.NeedsDatabase backend sql? wrap call)
    (runs : ∀ bond, laws.Runs bond call call bond.Follows answers) :
    Call.EndAlike (call link) (call other)
      (fun last otherLast => ∃ next, laws.Tied next last otherLast)
      (fun answer otherAnswer last otherLast =>
        ∃ next, answers answer otherAnswer next ∧ laws.Tied next last otherLast) := by
  rcases ahead.opens with ⟨parts, opened, -, opens, tied⟩
  have again : Connection.ensureOpen backend.engine backend.growth opened = (.ok (), opened) := by
    cases tied
    exact Connection.ensureOpen_of_opened _ _ rfl
  rw [needs.opened opens again]
  exact (runs (.opened parts) opened other tied).mono
    (fun _ _ ⟨next, _, tied⟩ => ⟨next, tied⟩) fun _ _ _ _ => id

end Isolation

/-! ## What is seen of an answer -/

def Lifecycle.withoutIsOpen : Lifecycle → Lifecycle
  | .opened _ => .unopened
  | lifecycle => lifecycle

def Connection.withoutIsOpen (connection : Connection) : Connection :=
  { connection with lifecycle := connection.lifecycle.withoutIsOpen }

namespace Session

def Answer.withoutIsOpen : Answer → Answer
  | .connection shown => .connection shown.withoutIsOpen
  | answer => answer

def Response.withoutIsOpen : Response → Response
  | .plain result => .plain (result.map Answer.withoutIsOpen)
  | response => response

theorem Answer.withoutIsOpen_veiled (answer : Answer) :
    answer.veiled.withoutIsOpen = answer.withoutIsOpen := by
  cases answer with
  | connection shown =>
      rcases shown with ⟨path, config, lifecycle⟩
      cases lifecycle <;> rfl
  | _ => rfl

theorem Response.withoutIsOpen_veiled (response : Response) :
    response.veiled.withoutIsOpen = response.withoutIsOpen := by
  rcases response with (refusal | answer) | result
  · rfl
  · exact congrArg (fun shown => Response.plain (.ok shown)) answer.withoutIsOpen_veiled
  · rfl

variable {backend : Backend σ} {laws : Isolation backend.engine} {name : String}
  {session solo : Session σ}

/-! ## Sessions of which one is ahead -/

/-- The session has one connection at most, and nothing has been made on it. -/
structure IsBare (name : String) (session : Session σ) : Prop where
  elsewhere : ∀ {other}, other ≠ name → session.link? other = none
  commands : session.commands = []
  readers : session.readers = []

theorem IsBare.setLink (isBare : IsBare name session) (link : Link σ) :
    IsBare name (session.setLink name link) where
  elsewhere isOther := by
    have isMissing := isBare.elsewhere isOther
    rw [link?_eq_none] at isMissing ⊢
    rw [setLink_connections_other _ isOther]
    exact isMissing
  commands := by rw [setLink_commands]; exact isBare.commands
  readers := by rw [setLink_readers]; exact isBare.readers

theorem IsBare.eraseConnection (isBare : IsBare name session) (connection : String) :
    IsBare name { session with connections := session.connections.erase connection } where
  elsewhere {other} isOther := by
    have isMissing := isBare.elsewhere isOther
    rw [link?_eq_none] at isMissing ⊢
    rw [Registry.get?_erase]
    split
    · rfl
    · exact isMissing
  commands := isBare.commands
  readers := isBare.readers

/-! What has not been made cannot be asked for anything. -/

theorem IsBare.freeCommand (isBare : IsBare name session) (command : String) :
    session.freeCommand (ε := ε) command = .error .noSuchHandle := by
  simp only [Session.freeCommand, isBare.commands, Registry.get?, List.lookup_nil]

theorem IsBare.findReader (isBare : IsBare name session) (reader : String) :
    session.findReader (ε := ε) reader = .error .noSuchHandle := by
  simp only [Session.findReader, isBare.readers, Registry.get?, List.lookup_nil]

theorem IsBare.performCommand (isBare : IsBare name session) (command : String)
    (request : CommandRequest) :
    performCommand backend session command request = (.error .noSuchHandle, session) := by
  cases request with
  | executeReader reader =>
      simp only [Session.performCommand, newName, Registry.contains, Registry.get?, isBare.readers,
        List.lookup_nil, Option.isSome_none, Bool.false_eq_true, if_false, isBare.freeCommand]
  | _ => simp only [Session.performCommand, isBare.freeCommand]

theorem IsBare.performReader (isBare : IsBare name session) (reader : String)
    (request : ReaderRequest) :
    performReader backend session reader request = (.error .noSuchHandle, session) := by
  simp only [Session.performReader, isBare.findReader]

theorem IsBare.paired {bond : Bond} {uses : StatementHandle → StatementHandle → Prop}
    (isBare : IsBare name session) (imageIsBare : IsBare name solo)
    (here : Option.Rel (laws.Tied bond) (session.link? name) (solo.link? name)) :
    Paired uses laws name bond session solo where
  here := here
  elsewhere isOther := ⟨isBare.elsewhere isOther, imageIsBare.elsewhere isOther⟩
  commands := by rw [isBare.commands, imageIsBare.commands]; exact .nil
  readers := by rw [isBare.readers, imageIsBare.readers]; exact .nil

theorem Paired.isBare (paired : Paired Bond.unopened.Uses laws name .unopened session solo) :
    IsBare name session ∧ IsBare name solo := by
  have noCommands : session.commands = [] ∧ solo.commands = [] := by
    have commands := paired.commands
    generalize session.commands = registry at commands ⊢
    generalize solo.commands = image at commands ⊢
    cases commands with
    | nil => exact ⟨rfl, rfl⟩
    | cons related _ => exact related.2.2.elim
  have noReaders : session.readers = [] ∧ solo.readers = [] := by
    have readers := paired.readers
    generalize session.readers = registry at readers ⊢
    generalize solo.readers = image at readers ⊢
    cases readers with
    | nil => exact ⟨rfl, rfl⟩
    | cons related _ => exact related.2.2.elim
  exact ⟨⟨fun isOther => (paired.elsewhere isOther).1, noCommands.1, noReaders.1⟩,
    ⟨fun isOther => (paired.elsewhere isOther).2, noCommands.2, noReaders.2⟩⟩

theorem Paired.again {bond : Bond} {uses : StatementHandle → StatementHandle → Prop}
    (paired : Paired uses laws name bond session solo) {image : Link σ}
    (isImage : solo.link? name = some image) :
    Paired uses laws name bond session (solo.setLink name image) where
  here := by
    have here := paired.here
    rcases link?_setLink isImage image with ⟨pool, isLast⟩
    rw [isImage] at here
    rw [isLast]
    generalize session.link? name = link? at here ⊢
    cases here with
    | some tied => exact .some (tied.withPools _ pool)
  elsewhere isOther := by
    rcases paired.elsewhere isOther with ⟨isMissing, isMissingImage⟩
    rw [link?_eq_none] at isMissingImage
    exact ⟨isMissing, link?_eq_none.mpr (by rwa [setLink_connections_other _ isOther])⟩
  commands := by rw [setLink_commands]; exact paired.commands
  readers := by rw [setLink_readers]; exact paired.readers

/-- The connection of the second session is ahead, and nothing has been made on either of them. -/
structure OneAhead (laws : Isolation backend.engine) (name : String) (session solo : Session σ) :
    Prop where
  here : ∃ link other, session.link? name = some link ∧ solo.link? name = some other ∧
    laws.Ahead backend.growth link other
  isBare : IsBare name session
  imageIsBare : IsBare name solo

def Level (laws : Isolation backend.engine) (name : String) (session solo : Session σ) : Prop :=
  OneAhead laws name session solo ∨
    ∃ bond : Bond, Paired bond.Uses laws name bond session solo

def StaysLevel (laws : Isolation backend.engine) (name : String) (outcome image : α × Session σ) :
    Prop :=
  image.1 = outcome.1 ∧ Level laws name outcome.2 image.2

theorem link?_eraseConnection (connection other : String) :
    { session with connections := session.connections.erase connection }.link? other =
      if other = connection then none else session.link? other := by
  unfold link?
  rw [Registry.get?_erase]
  split <;> rfl

theorem Level.eraseConnection (level : Level laws name session solo) (connection : String) :
    Level laws name { session with connections := session.connections.erase connection }
      { solo with connections := solo.connections.erase connection } := by
  rcases level with ahead | ⟨bond, paired⟩
  · have isBare := ahead.isBare.eraseConnection connection
    have imageIsBare := ahead.imageIsBare.eraseConnection connection
    by_cases isIt : name = connection
    · right
      use .disposed
      apply isBare.paired imageIsBare
      rw [link?_eraseConnection, link?_eraseConnection, if_pos isIt, if_pos isIt]
      exact .none
    · left
      refine ⟨?_, isBare, imageIsBare⟩
      rw [link?_eraseConnection, link?_eraseConnection, if_neg isIt, if_neg isIt]
      exact ahead.here
  · exact .inr ⟨bond, paired.eraseConnection connection⟩

theorem StaysLevel.map {outcome image : α × Session σ}
    (stays : StaysLevel laws name outcome image) (answer : α → β) :
    StaysLevel laws name (answer outcome.1, outcome.2) (answer image.1, image.2) :=
  ⟨congrArg answer stays.1, stays.2⟩

namespace OneAhead

variable (ahead : OneAhead laws name session solo)
include ahead

theorem unchanged (answer : α) : StaysLevel laws name (answer, session) (answer, solo) :=
  ⟨rfl, .inl ahead⟩

theorem link_cases (other : String) :
    (session.link? other = none ∧ solo.link? other = none) ∨
      other = name ∧ ∃ link image, session.link? other = some link ∧
        solo.link? other = some image ∧ laws.Ahead backend.growth link image := by
  by_cases isHere : other = name
  · subst isHere
    exact .inr ⟨rfl, ahead.here⟩
  · exact .inl ⟨ahead.isBare.elsewhere isHere, ahead.imageIsBare.elsewhere isHere⟩

theorem setLinks {R : Link σ → Link σ → Prop} {last lastImage : Link σ}
    (anyPools : ∀ pool otherPool, R { last with pool } { lastImage with pool := otherPool }) :
    ∃ next other, (session.setLink name last).link? name = some next ∧
      (solo.setLink name lastImage).link? name = some other ∧ R next other := by
  rcases ahead.here with ⟨link, image, isLink, isImage, -⟩
  rcases link?_setLink isLink last with ⟨pool, isLast⟩
  rcases link?_setLink isImage lastImage with ⟨poolImage, isLastImage⟩
  exact ⟨_, _, isLast, isLastImage, anyPools pool poolImage⟩

theorem setLink {last lastImage : Link σ} (staysAhead : laws.Ahead backend.growth last lastImage) :
    OneAhead laws name (session.setLink name last) (solo.setLink name lastImage) where
  here := ahead.setLinks staysAhead.withPools
  isBare := ahead.isBare.setLink last
  imageIsBare := ahead.imageIsBare.setLink lastImage

theorem caughtUp {bond : Bond} {uses : StatementHandle → StatementHandle → Prop}
    {last lastImage : Link σ} (tied : laws.Tied bond last lastImage) :
    Paired uses laws name bond (session.setLink name last) (solo.setLink name lastImage) := by
  apply (ahead.isBare.setLink last).paired (ahead.imageIsBare.setLink lastImage)
  rcases ahead.setLinks tied.withPools with ⟨next, other, isNext, isOther, tied⟩
  rw [isNext, isOther]
  exact .some tied

/-! ## Calls that need the database -/

section
variable {sql? : Option Text} {wrap : Error → ε} {call : ExceptT ε (StateM (Link σ)) α}
  (needs : Call.NeedsDatabase backend sql? wrap call) (connection : String)
include needs

theorem onConnection {answers : α → α → Bond → Prop}
    (runs : ∀ bond, laws.Runs bond call call bond.Follows answers) :
    Call.EndAlike (session.onConnection connection call) (solo.onConnection connection call)
      (Level laws name)
      (fun answer other last lastImage => ∃ next : Bond, answers answer other next ∧
        Paired next.Uses laws name next last lastImage) := by
  rcases ahead.link_cases connection with ⟨isMissing, isMissingImage⟩ |
    ⟨rfl, link, image, isLink, isImage, isAhead⟩
  · rw [onConnection_of_missing isMissing, onConnection_of_missing isMissingImage]
    exact ⟨rfl, .inl ahead⟩
  · have ends := isAhead.needing needs runs
    rw [onConnection_of_link isLink, onConnection_of_link isImage]
    rcases outcome : call link with ⟨error | answer, last⟩ <;>
      rcases otherOutcome : call image with ⟨otherError | otherAnswer, lastImage⟩ <;>
      rw [outcome, otherOutcome] at ends
    · rcases ends with ⟨rfl, next, tied⟩
      exact ⟨rfl, .inr ⟨next, ahead.caughtUp tied⟩⟩
    · exact ends.elim
    · exact ends.elim
    · rcases ends with ⟨next, isNext, tied⟩
      exact ⟨next, isNext, ahead.caughtUp tied⟩

theorem goesOn {answers : α → α → Bond → Prop}
    (runs : ∀ bond, laws.Runs bond call call bond.Follows answers)
    (same : ∀ answer other next, answers answer other next → other = answer) :
    StaysLevel laws name (session.onConnection connection call)
      (solo.onConnection connection call) := by
  rcases (ahead.onConnection needs connection runs).cases with
    ⟨answer, other, isAnswer, isOther, next, isNext, paired⟩ | ⟨error, isError, isOther, level⟩
  · rw [same answer other next isNext] at isOther
    exact ⟨isOther.trans isAnswer.symm, .inr ⟨next, paired⟩⟩
  · exact ⟨isOther.trans isError.symm, level⟩

theorem opens (opens : ∀ bond, laws.Opens bond call call) :
    StaysLevel laws name (session.onConnection connection call)
      (solo.onConnection connection call) :=
  ahead.goesOn needs connection
    (fun bond => (opens bond).mono (fun _ => id) fun _ _ _ => And.left) fun _ _ _ => id

end

theorem keeping {sql? : Option Text} {wrap : Error → Error} {call : Call σ α}
    (needs : Call.NeedsDatabase backend sql? wrap call) (connection : String)
    {put : Session σ → α → Session σ} {answers : α → α → Bond → Prop}
    (runs : ∀ bond, laws.Runs bond call call bond.Follows answers)
    (puts : ∀ answer other next, answers answer other next → ∀ {last lastImage},
      Paired next.Uses laws name next last lastImage →
        Paired next.Uses laws name next (put last answer) (put lastImage other)) :
    StaysLevel laws name (Session.keeping put (session.onConnection connection call))
      (Session.keeping put (solo.onConnection connection call)) := by
  have ends := (ahead.onConnection needs connection runs).cases
  generalize session.onConnection connection call = outcome at ends ⊢
  generalize solo.onConnection connection call = image at ends ⊢
  rcases outcome with ⟨result, last⟩
  rcases image with ⟨otherResult, lastImage⟩
  rcases ends with ⟨answer, other, rfl, rfl, next, isNext, paired⟩ | ⟨error, rfl, rfl, level⟩
  · exact ⟨rfl, .inr ⟨next, puts answer other next isNext paired⟩⟩
  · exact ⟨rfl, level⟩

/-! ## Calls that do without -/

theorem pendingStatements (connection : String) :
    StaysLevel laws name
      (session.onConnection connection (Connection.pendingStatements backend.engine))
      (solo.onConnection connection (Connection.pendingStatements backend.engine)) := by
  rcases ahead.link_cases connection with ⟨isMissing, isMissingImage⟩ |
    ⟨rfl, link, image, isLink, isImage, isAhead⟩
  · rw [onConnection_of_missing isMissing, onConnection_of_missing isMissingImage]
    exact ahead.unchanged _
  · rw [onConnection_of_link isLink, onConnection_of_link isImage]
    rw [isAhead.pendingStatements.1, isAhead.pendingStatements.2]
    exact ⟨rfl, .inl (ahead.setLink isAhead)⟩

theorem dispose {call : Call σ Unit} (connection : String)
    (disposes : ∀ {link : Link σ}, link.connection.lifecycle ≠ .disposed → ∃ state, call link =
      (.ok (), { link with
        connection := { link.connection with lifecycle := .disposed }, engine := state })) :
    StaysLevel laws name (session.onConnection connection call)
      (solo.onConnection connection call) := by
  rcases ahead.link_cases connection with ⟨isMissing, isMissingImage⟩ |
    ⟨rfl, link, image, isLink, isImage, isAhead⟩
  · rw [onConnection_of_missing isMissing, onConnection_of_missing isMissingImage]
    exact ahead.unchanged _
  · rcases isAhead.connections with ⟨config, database, isConnection, isImageConnection⟩
    rcases @disposes link (by rw [isConnection]; exact nofun) with ⟨state, isDisposed⟩
    rcases @disposes image (by rw [isImageConnection]; exact nofun) with ⟨other, imageIsDisposed⟩
    rw [onConnection_of_link isLink, onConnection_of_link isImage, isDisposed, imageIsDisposed,
      isConnection, isImageConnection]
    exact ⟨rfl, .inr ⟨.disposed, ahead.caughtUp .disposed⟩⟩

/-! ## Requests -/

theorem drop (connection : String) :
    StaysLevel laws name (Session.performConnection backend session connection .drop)
      (Session.performConnection backend solo connection .drop) := by
  have notUsed (session : Session σ) (isBare : IsBare name session) :
      session.connectionIsUsed connection = false := by
    simp [connectionIsUsed, isBare.commands, isBare.readers]
  have disposes : StaysLevel laws name
      (session.onConnection connection (disposeQuietly backend))
      (solo.onConnection connection (disposeQuietly backend)) := by
    apply ahead.dispose connection
    intro link isLive
    unfold disposeQuietly
    rw [Call.bind_apply, Call.get_apply]
    simp only [Connection.isDisposed, isLive, decide_false]
    exact Connection.dispose_of_live backend.engine isLive
  unfold Session.performConnection
  dsimp only
  rw [notUsed session ahead.isBare, notUsed solo ahead.imageIsBare]
  rcases ahead.link_cases connection with ⟨isMissing, isMissingImage⟩ |
    ⟨-, link, image, isLink, isImage, isAhead⟩
  · simp only [Registry.contains, link?_eq_none.mp isMissing, link?_eq_none.mp isMissingImage]
    exact ahead.unchanged _
  · rcases held_of_link? isLink with ⟨held, isHeld, -⟩
    rcases held_of_link? isImage with ⟨heldImage, isHeldImage, -⟩
    simp only [Registry.contains, isHeld, isHeldImage, Option.isSome_some, Bool.not_true,
      Bool.false_eq_true, if_false]
    exact ⟨congrArg (Except.map fun _ => Answer.nothing) disposes.1,
      disposes.2.eraseConnection connection⟩

theorem executeReader (connection reader : String) (sql : Text) :
    StaysLevel laws name
      (Session.performConnection backend session connection (.executeReader reader sql))
      (Session.performConnection backend solo connection (.executeReader reader sql)) := by
  unfold Session.performConnection
  dsimp only
  rw [ahead.isBare.readers, ahead.imageIsBare.readers]
  cases newName (ε := Error) ([] : Registry HeldReader) reader with
  | error refusal => exact ahead.unchanged _
  | ok _ =>
      have runs (bond : Bond) : laws.Runs bond (Connection.executeReader backend sql)
          (Connection.executeReader backend sql) bond.Follows fun made other next =>
            other = made.withStatement other.statement ∧
              next.Uses made.statement other.statement :=
        (laws.runs_connectionReader sql).mono (fun _ => id) fun _ _ _ isMade =>
          ⟨isMade.1, isMade.2.2.uses⟩
      apply ahead.keeping (.executeReader backend sql) connection runs
      intro made other next isMade last lastImage paired
      apply paired.insertReader reader
      constructor
      · rw [isMade.1]
        rfl
      · exact isMade.2

theorem createCommand (connection command : String) (sql : Text) :
    StaysLevel laws name
      (Session.performConnection backend session connection (.createCommand command sql))
      (Session.performConnection backend solo connection (.createCommand command sql)) := by
  unfold Session.performConnection
  dsimp only
  rw [ahead.isBare.commands, ahead.imageIsBare.commands]
  cases newName (ε := Error) ([] : Registry HeldCommand) command with
  | error refusal => exact ahead.unchanged _
  | ok _ =>
      have runs (bond : Bond) : laws.Runs bond (Connection.createCommand backend sql)
          (Connection.createCommand backend sql) bond.Follows fun made other next =>
            next.Uses made.statement other.statement :=
        (laws.runs_createCommand sql).mono (fun _ => id) fun _ _ _ => Bond.Lends.uses
      apply ahead.keeping (.createCommand backend sql) connection runs
      intro made other next uses last lastImage paired
      exact paired.insertCommand command ⟨rfl, uses⟩

theorem performConnection (connection : String) (request : ConnectionRequest)
    (isNoConnect : ∀ path config pool, request ≠ .connect path config pool) :
    StaysLevel laws name
      ((performConnection backend session connection request).1.map Answer.withoutIsOpen,
        (Session.performConnection backend session connection request).2)
      ((Session.performConnection backend solo connection request).1.map Answer.withoutIsOpen,
        (Session.performConnection backend solo connection request).2) := by
  cases request with
  | connect path config pool => exact absurd rfl (isNoConnect path config pool)
  | state =>
      unfold Session.performConnection
      rcases ahead.link_cases connection with ⟨isMissing, isMissingImage⟩ |
        ⟨-, link, image, isLink, isImage, isAhead⟩
      · simp only [link?_eq_none.mp isMissing, link?_eq_none.mp isMissingImage]
        exact ahead.unchanged _
      · rcases held_of_link? isLink with ⟨held, isHeld, rfl⟩
        rcases held_of_link? isImage with ⟨heldImage, isHeldImage, rfl⟩
        rcases isAhead.connections with ⟨config, database, isConnection, isImageConnection⟩
        dsimp only at isConnection isImageConnection
        simp only [isHeld, isHeldImage, isConnection, isImageConnection]
        exact ⟨rfl, .inl ahead⟩
  | ensureOpen =>
      have runs (bond : Bond) : laws.Runs bond
          (Connection.ensureOpen backend.engine backend.growth)
          (Connection.ensureOpen backend.engine backend.growth) bond.Follows fun _ _ _ => True :=
        (laws.runs_ensureOpen backend.growth).mono (fun _ => id) fun _ _ _ _ => trivial
      exact ((ahead.goesOn (.ensureOpen backend) connection runs fun _ _ _ _ => rfl).map _).map _
  | dispose =>
      apply (StaysLevel.map _ _).map
      exact ahead.dispose connection (Connection.dispose_of_live backend.engine)
  | drop => exact (ahead.drop connection).map (Except.map Answer.withoutIsOpen)
  | changes =>
      exact ((ahead.opens (.changes backend) connection fun _ => laws.opens_changes _).map _).map _
  | pendingStatements => exact ((ahead.pendingStatements connection).map _).map _
  | lastInsertRowid =>
      exact ((ahead.opens (.lastInsertRowid backend) connection
        fun _ => laws.opens_lastInsertRowid _).map _).map _
  | executeNonQuery sql =>
      exact ((ahead.opens (.executeNonQuery backend sql) connection
        fun _ => laws.opens_executeNonQuery sql).map _).map _
  | executeReader reader sql =>
      exact (ahead.executeReader connection reader sql).map (Except.map Answer.withoutIsOpen)
  | createCommand command sql =>
      exact (ahead.createCommand connection command sql).map (Except.map Answer.withoutIsOpen)

theorem performQuery (request : QueryRequest) :
    StaysLevel laws name (performQuery backend session request)
      (Session.performQuery backend solo request) := by
  cases request with
  | execute connection sql values =>
      exact (ahead.opens (.execute backend sql values) connection
        fun _ => laws.opens_execute sql values).map _
  | fetchAll connection sql values =>
      exact (ahead.opens (.fetchAll backend sql values) connection
        fun _ => laws.opens_fetchAll sql values).map _
  | fetchOne connection sql values =>
      exact (ahead.opens (.fetchOne backend sql values) connection
        fun _ => laws.opens_fetchOne sql values).map _
  | executeTransaction connection statements =>
      exact (ahead.opens (.executeTransaction backend statements) connection
        fun _ => laws.opens_executeTransaction statements).map _
  | bindValue | bindValues =>
      simp only [Session.performQuery, onCommand, ahead.isBare.freeCommand,
        ahead.imageIsBare.freeCommand]
      exact ahead.unchanged _
  | columnJson | decodeRow =>
      simp only [Session.performQuery, onReader, ahead.isBare.findReader,
        ahead.imageIsBare.findReader]
      exact ahead.unchanged _

theorem perform {share : Share} {request : Request} (isOwned : share.owns request = true) :
    StaysLevel laws name
      ((perform backend session request).1.withoutIsOpen,
        (Session.perform backend session request).2)
      ((Session.perform backend solo request).1.withoutIsOpen,
        (Session.perform backend solo request).2) := by
  cases request with
  | pool request => cases isOwned
  | connection connection request =>
      have isNoConnect (path config pool) : request ≠ .connect path config pool := by
        rintro rfl
        cases isOwned
      exact (ahead.performConnection connection request isNoConnect).map Response.plain
  | command command request =>
      simp only [Session.perform, ahead.isBare.performCommand, ahead.imageIsBare.performCommand]
      exact ahead.unchanged _
  | reader reader request =>
      simp only [Session.perform, ahead.isBare.performReader, ahead.imageIsBare.performReader]
      exact ahead.unchanged _
  | query request =>
      exact (ahead.performQuery request).map fun result => (Response.query result).withoutIsOpen

end OneAhead

/-! ## Explicit opening -/

/-- A connection that is not disposed can be opened at any time, and it is no more than ahead
then. -/
theorem Level.opening (level : Level laws name session solo) {link : Link σ}
    (isLink : session.link? name = some link) (isLive : link.connection.lifecycle ≠ .disposed)
    (opensMemory : laws.OpensMemory) :
    ∃ next, solo.onConnection (ε := Error) name
        (Connection.ensureOpen backend.engine backend.growth) = (.ok (), next) ∧
      Level laws name session next := by
  rcases level with ahead | ⟨bond, paired⟩
  · rcases ahead.here with ⟨_, image, isFound, isImage, isAhead⟩
    cases isLink.symm.trans isFound
    rcases isAhead.connections with ⟨config, database, -, isConnection⟩
    have isOpened : image.connection.lifecycle = .opened database := by rw [isConnection]
    use solo.setLink name image
    rw [onConnection_of_link isImage, Connection.ensureOpen_of_opened _ _ isOpened]
    rcases link?_setLink isImage image with ⟨pool, isLast⟩
    exact ⟨rfl, .inl ⟨⟨_, _, isLink, isLast, isAhead.withPools link.pool pool⟩, ahead.isBare,
      ahead.imageIsBare.setLink image⟩⟩
  · rcases paired.link_cases name with ⟨isMissing, -⟩ | ⟨-, _, image, isFound, isImage, tied⟩
    · cases isLink.symm.trans isMissing
    · cases isLink.symm.trans isFound
      rw [onConnection_of_link isImage]
      cases bond with
      | disposed =>
          cases tied
          exact absurd rfl isLive
      | opened parts =>
          have isOpened : image.connection.lifecycle = .opened parts.image := by
            cases tied
            rfl
          use solo.setLink name image
          rw [Connection.ensureOpen_of_opened _ _ isOpened]
          exact ⟨rfl, .inr ⟨.opened parts, paired.again isImage⟩⟩
      | unopened =>
          rcases tied.opening backend.growth opensMemory with ⟨opened, opens, isAhead⟩
          use solo.setLink name opened
          rw [opens]
          rcases link?_setLink isImage opened with ⟨pool, isLast⟩
          exact ⟨rfl, .inl ⟨⟨_, _, isLink, isLast, isAhead.withPools link.pool pool⟩,
            paired.isBare.1, paired.isBare.2.setLink opened⟩⟩

/-! ## Runs -/

/-- What is made under the names of the share is level with all that the other session has. -/
structure KeepsUp (laws : Isolation backend.engine) (share : Share) (name : String)
    (session solo : Session σ) : Prop where
  sound : Sound laws.toLedger session
  isUnique : session.HasUniqueNames
  isDivided : session.IsDivided share
  level : Level laws name (session.only share) solo

namespace KeepsUp

variable {share : Share} (keepsUp : KeepsUp laws share name session solo)
  (isOf : share.IsOf name)
include keepsUp isOf

theorem both {request : Request} (isOwned : share.owns request = true) :
    (perform backend solo request).1.withoutIsOpen =
        (perform backend session request).1.withoutIsOpen ∧
      KeepsUp laws share name (perform backend session request).2
        (perform backend solo request).2 := by
  rcases keepsUp with ⟨sound, isUnique, isDivided, ahead | paired⟩
  · have divides : Divides share session (perform backend session request) _ :=
      perform_divides isDivided request (Share.covers_of_owns isOwned)
    have stays := ahead.perform isOwned
    rw [divides.isPart] at stays
    exact ⟨stays.1, perform_sound sound request, perform_uniqueNames backend isUnique request,
      divides.isDivided, stays.2⟩
  · have along : GoesAlong laws share name session solo := ⟨sound, isUnique, isDivided, paired⟩
    rcases along.both isOf isOwned with ⟨same, sound, isUnique, isDivided, paired⟩
    have seen := congrArg Response.withoutIsOpen same
    rw [Response.withoutIsOpen_veiled, Response.withoutIsOpen_veiled] at seen
    exact ⟨seen, sound, isUnique, isDivided, .inr paired⟩

theorem opening {lifecycle : Lifecycle} (isThere : session.lifecycle? name = some lifecycle)
    (isLive : lifecycle ≠ .disposed) (opensMemory : laws.OpensMemory) :
    (perform backend solo (.connection name .ensureOpen)).1 = .plain (.ok .nothing) ∧
      KeepsUp laws share name session
        (perform backend solo (.connection name .ensureOpen)).2 := by
  rcases keepsUp with ⟨sound, isUnique, isDivided, level⟩
  rcases Option.map_eq_some_iff.mp isThere with ⟨held, isHeld, rfl⟩
  have isLink := (link?_only ((isOf name).mpr rfl)).trans (link?_of_held isHeld)
  rcases level.opening isLink isLive opensMemory with ⟨next, opens, level⟩
  simp only [perform, performConnection, opens]
  exact ⟨rfl, sound, isUnique, isDivided, level⟩

end KeepsUp

/-! ### Where it starts -/

theorem used_elsewhere {custody : Custody backend.engine} (sound : Sound custody.toLedger session)
    {number : Nat} {config : ConnectionConfig}
    (isThere : session.connections.get? name = some ⟨number, { config }⟩) {holder : Holder}
    {use : Use} (isUsed : session.books.use? holder = some use) : use.connection ≠ name := by
  intro isHere
  have isFound : session.books.connection? use.connection = some { config } := by
    simp [books, isHere, isThere]
  rcases sound.accounts.holds_of isUsed isFound with isDisposed | ⟨database, isOpened, -⟩
  · cases isDisposed
  · cases isOpened

section
variable {share : Share} (sound : Sound laws.toLedger session)
  (isUnique : session.HasUniqueNames) (isDivided : session.IsDivided share)
  (isOf : share.IsOf name) {number : Nat} {config : ConnectionConfig}
  (isThere : session.connections.get? name = some ⟨number, { config }⟩)
include sound isUnique isDivided isOf isThere

theorem isBare_only : IsBare name (session.only share) where
  elsewhere {other} isOther := by
    rw [link?_eq_none, ← Option.not_isSome_iff_eq_none, Option.isSome_iff_exists]
    rintro ⟨held, isHeld⟩
    exact isOther ((isOf other).mp ((Registry.get?_only_eq_some _).mp isHeld).1)
  commands := by
    apply List.filter_eq_nil_iff.mpr
    rintro ⟨command, held⟩ isHeld isKept
    rw [isDivided.commands isHeld, isOf] at isKept
    have isUsed : session.books.use? (.command command) = some (useOfCommand held) := by
      simp [books, Registry.get?_of_mem isUnique.commands isHeld]
    exact used_elsewhere sound isThere isUsed isKept
  readers := by
    apply List.filter_eq_nil_iff.mpr
    rintro ⟨reader, held⟩ isHeld isKept
    rw [isDivided.readers isHeld, isOf] at isKept
    have isUsed : session.books.use? (.reader reader) = some (useOfReader held) := by
      simp [books, Registry.get?_of_mem isUnique.readers isHeld]
    exact used_elsewhere sound isThere isUsed isKept

theorem KeepsUp.start : KeepsUp laws share name session (session.only share) where
  sound := sound
  isUnique := isUnique
  isDivided := isDivided
  level := by
    have isBare := isBare_only sound isUnique isDivided isOf isThere
    right
    use .unopened
    apply isBare.paired isBare
    rw [link?_only ((isOf name).mpr rfl), link?_of_held isThere]
    exact .some (.unopened sound.valid sound.valid)

end

/-! ### What comes of it -/

def isLive (session : Session σ) (name : String) : Bool :=
  (session.lifecycle? name).any (· ≠ .disposed)

/-- Wherever a program opens the connection (`none`), it can be used. -/
def opensInTime (backend : Backend σ) (name : String) (session : Session σ) :
    List (Option Request) → Bool
  | [] => true
  | none :: rest => session.isLive name && opensInTime backend name session rest
  | some request :: rest => opensInTime backend name (perform backend session request).2 rest

/-- The requests of the program, with those that open the connection in between. -/
def withOpenings (name : String) (program : List (Option Request)) : List Request :=
  program.map (·.getD (.connection name .ensureOpen))

/-- The answers of a run next to those of a run in which the connection was opened in some more
places. -/
inductive SameButOpenings : List (Option Request) → List Response → List Response → Prop
  | nil : SameButOpenings [] [] []
  | opening {program responses others} : SameButOpenings program responses others →
      SameButOpenings (none :: program) responses (.plain (.ok .nothing) :: others)
  | request {request response other program responses others} :
      other.withoutIsOpen = response.withoutIsOpen → SameButOpenings program responses others →
        SameButOpenings (some request :: program) (response :: responses) (other :: others)

theorem run_only {share : Share} (isDivided : session.IsDivided share) {requests : List Request}
    (isCovered : ∀ request ∈ requests, share.covers request = true) :
    (run backend (session.only share) requests).1 = (run backend session requests).1 := by
  induction requests generalizing session with
  | nil => rfl
  | cons request rest induction =>
      rcases List.forall_mem_cons.mp isCovered with ⟨isFirst, others⟩
      have divides : Divides share session (perform backend session request) _ :=
        perform_divides isDivided request isFirst
      rw [run_cons, run_cons, divides.isPart, induction divides.isDivided others]

section
variable {share : Share} (isOf : share.IsOf name) (opensMemory : laws.OpensMemory)
  {program : List (Option Request)}
  (isOwned : ∀ request ∈ program.reduceOption, share.owns request = true)
  (inTime : opensInTime backend name session program = true)
include isOf opensMemory isOwned inTime

theorem KeepsUp.run (keepsUp : KeepsUp laws share name session solo) :
    SameButOpenings program (run backend session program.reduceOption).1
      (Session.run backend solo (withOpenings name program)).1 := by
  induction program generalizing session solo with
  | nil => exact .nil
  | cons step rest induction =>
      cases step with
      | none =>
          rcases Bool.and_eq_true_iff.mp inTime with ⟨isLive, inTime⟩
          rcases (Option.any_eq_true _ _).mp isLive with ⟨lifecycle, isThere, isLive⟩
          rcases keepsUp.opening isOf isThere (of_decide_eq_true isLive) opensMemory with
            ⟨opens, keepsUp⟩
          have others := induction isOwned inTime keepsUp
          have turn : (Session.run backend solo (withOpenings name (none :: rest))).1 = _ :=
            run_cons solo (.connection name .ensureOpen) (withOpenings name rest)
          rw [turn, opens]
          exact .opening others
      | some request =>
          rcases List.forall_mem_cons.mp isOwned with ⟨isFirst, others⟩
          rcases keepsUp.both isOf isFirst with ⟨same, keepsUp⟩
          exact .request same (induction others inTime keepsUp)

/-- It does not show when the private database of a connection was opened, but in what the
connection says of itself. -/
theorem run_withOpenings (sound : Sound laws.toLedger session) (isUnique : session.HasUniqueNames)
    (isDivided : session.IsDivided share) {number : Nat} {config : ConnectionConfig}
    (isThere : session.connections.get? name = some ⟨number, { config }⟩) :
    SameButOpenings program (run backend session program.reduceOption).1
      (run backend session (withOpenings name program)).1 := by
  have isCovered (request : Request) (isAsked : request ∈ withOpenings name program) :
      share.covers request = true := by
    rcases List.mem_map.mp isAsked with ⟨_ | request, isStep, rfl⟩
    · exact (isOf name).mpr rfl
    · exact Share.covers_of_owns (isOwned request (List.mem_filterMap.mpr ⟨_, isStep, rfl⟩))
  rw [← run_only isDivided isCovered]
  exact (KeepsUp.start sound isUnique isDivided isOf isThere).run isOf opensMemory isOwned inTime

end

/-- A connection that is opened before it is first used, and again when it is open already. -/
def openingBeforeUse : List (Option Request) :=
  [none, some (.connection "c" .pendingStatements), some (.connection "c" .changes), none,
    some (.connection "c" (.createCommand "k" (.ofString "CREATE TABLE t(a)"))),
    some (.command "k" .executeNonQuery), none, some (.connection "c" .state),
    some (.connection "c" .dispose)]

theorem run_openingBeforeUse :
    let session := (run Storage.backend { engine := {} } sharingOnePool).2
    SameButOpenings openingBeforeUse (run Storage.backend session openingBeforeUse.reduceOption).1
      (run Storage.backend session (withOpenings "c" openingBeforeUse)).1 := by
  intro session
  have isFresh := Storage.isolation_empty
  have sound : Sound Storage.isolation.toLedger session :=
    run_sound (sound_of_nothing isFresh.1 isFresh.2) sharingOnePool
  have isUnique : session.HasUniqueNames :=
    run_uniqueNames Storage.backend (.ofNothing {}) sharingOnePool
  have noCommands : session.commands = [] := by decide +kernel
  have noReaders : session.readers.isEmpty = true := by decide +kernel
  have isThere : session.connections.get? "c" = some ⟨1, {}⟩ := by decide +kernel
  have inTime : opensInTime Storage.backend "c" session openingBeforeUse = true := by
    decide +kernel
  clear_value session
  have isDivided : session.IsDivided (Share.ofCommand "c" "k") := by
    rw [List.isEmpty_iff] at noReaders
    constructor <;> simp [noCommands, noReaders]
  have isOwned : ∀ request ∈ openingBeforeUse.reduceOption,
      (Share.ofCommand "c" "k").owns request = true := by
    decide +kernel
  apply run_withOpenings _ Storage.isolation_opensMemory isOwned inTime sound isUnique isDivided
    isThere
  exact fun _ => decide_eq_true_iff

end Session

end EmbeddedSql
