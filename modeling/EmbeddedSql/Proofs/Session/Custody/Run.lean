import EmbeddedSql.Proofs.Session.Custody.Command
import EmbeddedSql.Proofs.Session.Custody.Connection
import EmbeddedSql.Proofs.Session.Custody.Reader

/-! The books of a session stay in order however long it runs, and closing it leaves nothing on
them. -/

namespace EmbeddedSql.Session

variable {σ τ ε α β : Type} {backend : Backend σ} {image : Backend τ}
  {mirror : Mirror backend.engine image.engine} {session : Session σ} {state : τ}

section
variable (sound : Sound mirror.toLedger session) (same : mirror.Same session.engine state)
  (sameGrowth : image.growth = backend.growth)
include sound same

/-! ## Queries -/

theorem onCommand_performs (name : String) {call : StatementHandle → Query.Call σ Unit}
    {callImage : StatementHandle → Query.Call τ Unit}
    (keeps : ∀ (before : Situation) statement, before.Holds statement →
      mirror.Keeps before (call statement) (callImage statement)) :
    Performs mirror (onCommand session name call)
      (onCommand (session.withEngine state) name callImage) := by
  have sameFree : (session.withEngine state).freeCommand (ε := Query.Error) name =
      session.freeCommand name := rfl
  unfold onCommand
  rw [sameFree]
  cases isFree : session.freeCommand (ε := Query.Error) name with
  | error refusal => exact .unchanged sound same _
  | ok held =>
      rcases of_freeCommand isFree with ⟨isHeld, -⟩
      exact (commandCall_performs sound same isHeld fun before holds => keeps before _ holds).map _

theorem onReader_performs (name : String)
    {accessor : Reader → Link σ → Except Query.Error QueryAnswer × Reader}
    {accessorImage : Reader → Link τ → Except Query.Error QueryAnswer × Reader}
    (accesses : Accesses mirror accessor accessorImage) :
    Performs mirror (onReader session name accessor)
      (onReader (session.withEngine state) name accessorImage) := by
  have sameFound : (session.withEngine state).findReader (ε := Query.Error) name =
      session.findReader name := rfl
  unfold onReader
  rw [sameFound]
  cases isFound : session.findReader (ε := Query.Error) name with
  | error refusal => exact .unchanged sound same _
  | ok held => exact access_performs sound same (of_findReader isFound) accesses

/-! ## Pools -/

include sameGrowth

omit sound same in
theorem performPool_withEngine (request : PoolRequest) :
    performPool image (session.withEngine state) request =
      ((performPool backend session request).1,
        (performPool backend session request).2.withEngine state) := by
  have objects : SameObjects session _ := performPool_objects backend request
  rw [performPool_eq sameGrowth rfl rfl rfl]
  refine Prod.ext rfl ?_
  simp only [withEngine, objects.connections, objects.commands, objects.readers]

theorem performPool_performs (request : PoolRequest) :
    Performs mirror (performPool backend session request)
      (performPool image (session.withEngine state) request) := by
  have objects : SameObjects session _ := performPool_objects backend request
  exact ⟨state, performPool_withEngine sameGrowth request, objects.engine ▸ same,
    sound.ofSame objects⟩

theorem performQuery_performs (request : QueryRequest) :
    Performs mirror (performQuery backend session request)
      (performQuery image (session.withEngine state) request) := by
  have isSound {name : String} {connection : Connection}
      (isThere : session.books.connection? name = some connection) :=
    sound.accounts.isSound isThere
  unfold performQuery
  cases request with
  | execute connection sql values =>
      exact (onConnection_opens sound same fun _ isThere =>
        mirror.opens_execute (isSound isThere) sameGrowth sql values).map _
  | fetchAll connection sql values =>
      exact (onConnection_opens sound same fun _ isThere =>
        mirror.opens_fetchAll (isSound isThere) sameGrowth sql values).map _
  | fetchOne connection sql values =>
      exact (onConnection_opens sound same fun _ isThere =>
        mirror.opens_fetchOne (isSound isThere) sameGrowth sql values).map _
  | executeTransaction connection statements =>
      exact (onConnection_opens sound same fun _ isThere =>
        mirror.opens_executeTransaction (isSound isThere) sameGrowth statements).map _
  | bindValue command index value =>
      exact onCommand_performs sound same command fun before statement holds =>
        mirror.keeps_bindValue holds sameGrowth index value
  | bindValues command values =>
      exact onCommand_performs sound same command fun before statement holds =>
        mirror.keeps_bindValues holds sameGrowth values
  | columnJson reader column =>
      exact onReader_performs sound same reader (.takeOut _ _ fun suits => suits.columnJson column)
  | decodeRow reader =>
      exact onReader_performs sound same reader (.takeOut _ _ fun suits => suits.decodeRow)

/-! ## Runs -/

theorem perform_performs (request : Request) :
    Performs mirror (perform backend session request)
      (perform image (session.withEngine state) request) := by
  cases request with
  | pool request => exact (performPool_performs sound same sameGrowth request).map _
  | connection name request =>
      exact (performConnection_performs sound same sameGrowth name request).map _
  | command name request =>
      exact (performCommand_performs sound same sameGrowth name request).map _
  | reader name request => exact (performReader_performs sound same name request).map _
  | query request => exact (performQuery_performs sound same sameGrowth request).map _

omit sound same in
theorem run_performs (requests : List Request) (session : Session σ) (state : τ)
    (sound : Sound mirror.toLedger session) (same : mirror.Same session.engine state) :
    Performs mirror (run backend session requests)
      (run image (session.withEngine state) requests) := by
  induction requests generalizing session state with
  | nil => exact .unchanged sound same _
  | cons request rest induction =>
      rcases perform_performs sound same sameGrowth request with ⟨next, images, same, sound⟩
      rcases induction _ next sound same with ⟨last, rest, same, sound⟩
      refine ⟨last, ?_, same, sound⟩
      unfold run
      dsimp only
      rw [images, rest]

end

/-! ## One engine -/

theorem perform_sound {custody : Custody backend.engine} (sound : Sound custody.toLedger session)
    (request : Request) : Sound custody.toLedger (perform backend session request).2 := by
  have performs : Performs custody.itself (perform backend session request)
      (perform backend (session.withEngine session.engine) request) :=
    perform_performs sound rfl rfl request
  rcases performs with ⟨_, -, -, soundAfter⟩
  exact soundAfter

theorem run_sound {custody : Custody backend.engine} (sound : Sound custody.toLedger session)
    (requests : List Request) : Sound custody.toLedger (run backend session requests).2 := by
  induction requests generalizing session with
  | nil => exact sound
  | cons request rest induction => exact induction (perform_sound sound request)

end EmbeddedSql.Session

/-! ## Closing a session -/

namespace EmbeddedSql.Session

variable {σ τ α : Type} {backend : Backend σ} {image : Backend τ} {session : Session σ}

/-! ## One release after the other -/

theorem onConnection_erase {ε : Type} (name : String) (call : ExceptT ε (StateM (Link σ)) α) :
    (session.onConnection name call).2.connections.erase name =
      session.connections.erase name := by
  cases isLink : session.link? name with
  | none => rw [onConnection_of_missing isLink]
  | some link =>
      rcases held_of_link? isLink with ⟨held, isHeld, -⟩
      rw [onConnection_of_link isLink, setLink_connections_of_held _ isHeld,
        Registry.erase_insert]

theorem releaseReader_readers {ledger : Ledger σ} (sound : Sound ledger session) (name : String) :
    (performReader backend session name .dispose).2.readers = session.readers.erase name := by
  unfold performReader findReader
  cases isHeld : session.readers.get? name with
  | none => exact (Registry.erase_of_missing isHeld).symm
  | some held =>
      rcases sound.accounts.holds (use_of_reader isHeld) with ⟨connection, isThere, -⟩
      have isThere : session.books.connection? held.connection = some connection := isThere
      cases isLink : session.link? held.connection with
      | none => simp [books, link?_eq_none.mp isLink] at isThere
      | some link => simp [useReader, isLink]

theorem dropCommand_commands (areReleased : session.readers = []) (name : String) :
    (performCommand backend session name .drop).2.commands = session.commands.erase name := by
  unfold performCommand freeCommand
  cases isHeld : session.commands.get? name with
  | none => exact (Registry.erase_of_missing isHeld).symm
  | some held =>
      have isUnread : session.commandIsRead name = false := by
        rw [commandIsRead, areReleased, List.any_nil]
      simp [isUnread, done, answering, onConnection_commands]

theorem dropCommand_readers (name : String) :
    (performCommand backend session name .drop).2.readers = session.readers := by
  unfold performCommand
  cases session.freeCommand (ε := Error) name with
  | error refusal => rfl
  | ok held =>
      dsimp only
      exact onConnection_readers ..

theorem dropConnection_connections (areReleased : session.readers = [] ∧ session.commands = [])
    (name : String) :
    (performConnection backend session name .drop).2.connections =
      session.connections.erase name := by
  have isUnused : session.connectionIsUsed name = false := by
    rw [connectionIsUsed, areReleased.1, areReleased.2, List.any_nil, List.any_nil, Bool.or_false]
  cases isHeld : session.connections.get? name with
  | none =>
      rw [Registry.erase_of_missing isHeld]
      simp [performConnection, Registry.contains, isHeld]
  | some held =>
      simp [performConnection, Registry.contains, isHeld, isUnused, done, answering,
        onConnection_erase]

theorem dropConnection_others (name : String) :
    (performConnection backend session name .drop).2.readers = session.readers ∧
      (performConnection backend session name .drop).2.commands = session.commands := by
  unfold performConnection
  dsimp only
  split
  · exact ⟨rfl, rfl⟩
  split
  · exact ⟨rfl, rfl⟩
  · exact ⟨onConnection_readers .., onConnection_commands ..⟩

/-! ## All of them -/

section
variable {mirror : Mirror backend.engine image.engine}

theorem foldl_empties (registry : Session σ → Registry α) (P : Session σ → Prop)
    (release : Session σ → String → Session σ) (releaseImage : Session τ → String → Session τ)
    (performs : ∀ {session : Session σ} {state : τ} (name : String),
      Sound mirror.toLedger session → mirror.Same session.engine state →
        Performs mirror ((), release session name)
          ((), releaseImage (session.withEngine state) name))
    (erases : ∀ {session : Session σ} (name : String), Sound mirror.toLedger session →
      P session → P (release session name) ∧
        registry (release session name) = (registry session).erase name)
    (entries : Registry α) (session : Session σ) (state : τ)
    (sound : Sound mirror.toLedger session) (same : mirror.Same session.engine state)
    (holds : P session)
    (areListed : ∀ entry ∈ registry session, entry.1 ∈ entries.map Prod.fst) :
    Performs mirror ((), entries.foldl (fun session entry => release session entry.1) session)
        ((), entries.foldl (fun session entry => releaseImage session entry.1)
          (session.withEngine state)) ∧
      P (entries.foldl (fun session entry => release session entry.1) session) ∧
        registry (entries.foldl (fun session entry => release session entry.1) session) = [] := by
  induction entries generalizing session state with
  | nil =>
      refine ⟨.unchanged sound same _, holds, ?_⟩
      exact List.eq_nil_iff_forall_not_mem.mpr fun entry isThere =>
        List.not_mem_nil (areListed entry isThere)
  | cons entry rest induction =>
      rcases performs entry.1 sound same with ⟨next, images, sameNext, soundNext⟩
      rcases erases entry.1 sound holds with ⟨holdsNext, erased⟩
      have images : releaseImage (session.withEngine state) entry.1 =
          (release session entry.1).withEngine next := (Prod.mk.inj images).2
      rw [List.foldl_cons, List.foldl_cons, images]
      refine induction _ next soundNext sameNext holdsNext fun other isLeft => ?_
      rw [show registry (release session entry.1) = _ from erased] at isLeft
      rcases List.mem_filter.mp isLeft with ⟨wasThere, isOther⟩
      have isOther : other.1 ≠ entry.1 := by simpa using isOther
      simpa [isOther] using areListed other wasThere

/-! The three stages of closing a session. -/

def releasingReaders (backend : Backend σ) (session : Session σ) : Session σ :=
  session.readers.foldl (fun session entry =>
    (performReader backend session entry.1 .dispose).2) session

def droppingCommands (backend : Backend σ) (session : Session σ) : Session σ :=
  session.commands.foldl (fun session entry =>
    (performCommand backend session entry.1 .drop).2) session

def droppingConnections (backend : Backend σ) (session : Session σ) : Session σ :=
  session.connections.foldl (fun session entry =>
    (performConnection backend session entry.1 .drop).2) session

theorem close_eq (backend : Backend σ) (session : Session σ) :
    close backend session =
      droppingConnections backend (droppingCommands backend (releasingReaders backend session)) :=
  rfl

variable {session : Session σ} {state : τ} (sound : Sound mirror.toLedger session)
  (same : mirror.Same session.engine state) (sameGrowth : image.growth = backend.growth)
include sound same

theorem releasingReaders_performs :
    Performs mirror ((), releasingReaders backend session)
        ((), releasingReaders image (session.withEngine state)) ∧
      (releasingReaders backend session).readers = [] := by
  have empties := foldl_empties Session.readers (fun _ => True)
    (fun session name => (performReader backend session name .dispose).2)
    (fun session name => (performReader image session name .dispose).2)
    (fun name sound same => (performReader_performs sound same name .dispose).map fun _ => ())
    (fun name sound _ => ⟨trivial, releaseReader_readers sound name⟩)
    session.readers session state sound same trivial fun _ isThere => List.mem_map_of_mem isThere
  exact ⟨empties.1, empties.2.2⟩

include sameGrowth

theorem droppingCommands_performs (noReaders : session.readers = []) :
    Performs mirror ((), droppingCommands backend session)
        ((), droppingCommands image (session.withEngine state)) ∧
      (droppingCommands backend session).readers = [] ∧
        (droppingCommands backend session).commands = [] :=
  foldl_empties Session.commands (fun session => session.readers = [])
    (fun session name => (performCommand backend session name .drop).2)
    (fun session name => (performCommand image session name .drop).2)
    (fun name sound same =>
      (performCommand_performs sound same sameGrowth name .drop).map fun _ => ())
    (fun name _ areReleased =>
      ⟨(dropCommand_readers name).trans areReleased, dropCommand_commands areReleased name⟩)
    _ _ state sound same noReaders fun _ isThere => List.mem_map_of_mem isThere

theorem droppingConnections_performs (areReleased : session.readers = [] ∧ session.commands = []) :
    Performs mirror ((), droppingConnections backend session)
        ((), droppingConnections image (session.withEngine state)) ∧
      (droppingConnections backend session).connections = [] := by
  have empties := foldl_empties Session.connections
    (fun session => session.readers = [] ∧ session.commands = [])
    (fun session name => (performConnection backend session name .drop).2)
    (fun session name => (performConnection image session name .drop).2)
    (fun name sound same =>
      (performConnection_performs sound same sameGrowth name .drop).map fun _ => ())
    (fun name _ areReleased =>
      ⟨(dropConnection_others name).imp (·.trans areReleased.1) (·.trans areReleased.2),
        dropConnection_connections areReleased name⟩)
    _ _ state sound same areReleased fun _ isThere => List.mem_map_of_mem isThere
  exact ⟨empties.1, empties.2.2⟩

/-- The image of a closed session is the closed image, and no connection is left. -/
theorem close_performs :
    Performs mirror ((), close backend session) ((), close image (session.withEngine state)) ∧
      (close backend session).connections = [] := by
  rcases releasingReaders_performs sound same with ⟨⟨next, released, same, sound⟩, noReaders⟩
  rcases droppingCommands_performs sound same sameGrowth noReaders with
    ⟨⟨next, dropped, same, sound⟩, areReleased⟩
  rcases droppingConnections_performs sound same sameGrowth areReleased with
    ⟨⟨next, closed, same, sound⟩, noConnections⟩
  refine ⟨⟨next, ?_, same, sound⟩, noConnections⟩
  rw [close_eq, close_eq, (Prod.mk.inj released).2, (Prod.mk.inj dropped).2, closed]

end

end EmbeddedSql.Session
