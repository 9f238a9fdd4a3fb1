import EmbeddedSql.Proofs.Engine.Isolation
import EmbeddedSql.Proofs.Session.Custody.Run
import EmbeddedSql.Proofs.Session.Division
import EmbeddedSql.Proofs.Session.Holders
import EmbeddedSql.Proofs.Session.Pairing

/-! Connections to private databases do not interfere: each one is answered as if its program
ran alone. -/

namespace EmbeddedSql.Session

variable {σ : Type}

/-! ## The books without a connection -/

def Share.holds (share : Share) : Holder → Bool
  | .command name => share.commands name
  | .reader name => share.readers name

def Share.IsOf (share : Share) (connection : String) : Prop :=
  ∀ name, share.connections name = true ↔ name = connection

theorem Share.IsOf.others {share : Share} {connection name : String}
    (isOf : share.IsOf connection) :
    share.others.connections name = true ↔ name ≠ connection := by
  rw [ne_eq, ← isOf name]
  simp [Share.others]

section
variable {share : Share} {session : Session σ} {name : String} {holder : Holder} {use : Use}

theorem connection?_only {connection : Connection} :
    (session.only share).books.connection? name = some connection ↔
      share.connections name = true ∧ session.books.connection? name = some connection := by
  simp only [books, only, Option.map_eq_some_iff, Registry.get?_only_eq_some]
  constructor
  · rintro ⟨held, ⟨isKept, isHeld⟩, isIt⟩
    exact ⟨isKept, held, isHeld, isIt⟩
  · rintro ⟨isKept, held, isHeld, isIt⟩
    exact ⟨held, ⟨isKept, isHeld⟩, isIt⟩

theorem use?_only :
    (session.only share).books.use? holder = some use ↔
      share.holds holder = true ∧ session.books.use? holder = some use := by
  cases holder
  all_goals
    simp only [books, only, Option.map_eq_some_iff, Registry.get?_only_eq_some, Share.holds]
    constructor
    · rintro ⟨held, ⟨isKept, isHeld⟩, isIt⟩
      exact ⟨isKept, held, isHeld, isIt⟩
    · rintro ⟨isKept, held, isHeld, isIt⟩
      exact ⟨held, ⟨isKept, isHeld⟩, isIt⟩

variable (isDivided : session.IsDivided share)
include isDivided

theorem IsDivided.holds_iff (isUsed : session.books.use? holder = some use) :
    share.holds holder = share.connections use.connection := by
  cases holder
  all_goals
    simp only [books, Option.map_eq_some_iff] at isUsed
    obtain ⟨held, isHeld, rfl⟩ := isUsed
  · exact isDivided.commands (Registry.mem_of_get? isHeld)
  · exact isDivided.readers (Registry.mem_of_get? isHeld)

theorem IsDivided.lends_iff {command : String} (isUsed : session.books.use? holder = some use)
    (isLent : use.lender? = some command) : share.commands command = share.holds holder := by
  cases holder
  all_goals
    simp only [books, Option.map_eq_some_iff] at isUsed
    obtain ⟨held, isHeld, rfl⟩ := isUsed
  · cases isLent
  · exact isDivided.lenders (Registry.mem_of_get? isHeld) isLent

theorem IsDivided.accounts {handles : Handles} {connection : Connection}
    {database : DatabaseHandle} (isOf : share.IsOf name)
    (accounts : Accounts handles session.books)
    (isThere : session.books.connection? name = some connection)
    (isOpened : connection.lifecycle = .opened database) :
    Accounts (handles.concealing database) (session.only share.others).books := by
  have differs {other : String} {found : Connection} {another : DatabaseHandle}
      (isElsewhere : other ≠ name) (isFound : session.books.connection? other = some found)
      (isOpen : found.lifecycle = .opened another) : another ≠ database := by
    rintro rfl
    exact isElsewhere (accounts.separate isFound isOpen isThere isOpened)
  have isElsewhere {other : String} {found : Connection} {another : DatabaseHandle}
      (isOther : another ≠ database) (isFound : session.books.connection? other = some found)
      (isOpen : found.lifecycle = .opened another) : other ≠ name := by
    rintro rfl
    obtain rfl := Option.some.inj (isThere.symm.trans isFound)
    exact isOther (Lifecycle.opened.inj (isOpen.symm.trans isOpened))
  exact {
    isOpen := fun isFound isOpen => by
      obtain ⟨isKept, isFound⟩ := connection?_only.mp isFound
      exact Handles.concealing_isOpen.mpr
        ⟨differs (isOf.others.mp isKept) isFound isOpen, accounts.isOpen isFound isOpen⟩
    isOpened := fun isOpen => by
      obtain ⟨isOther, isOpen⟩ := Handles.concealing_isOpen.mp isOpen
      obtain ⟨other, found, isFound, isOpen⟩ := accounts.isOpened isOpen
      exact ⟨other, found, connection?_only.mpr
        ⟨isOf.others.mpr (isElsewhere isOther isFound isOpen), isFound⟩, isOpen⟩
    separate := fun isFirst firstOpened isSecond secondOpened =>
      accounts.separate (connection?_only.mp isFirst).2 firstOpened (connection?_only.mp isSecond).2
        secondOpened
    holds := fun {holder use} isUsed => by
      obtain ⟨isKept, isUsed⟩ := use?_only.mp isUsed
      have isKept := (isDivided.others.holds_iff isUsed).symm.trans isKept
      obtain ⟨found, isFound, holds⟩ := accounts.holds isUsed
      refine ⟨found, connection?_only.mpr ⟨isKept, isFound⟩, ?_⟩
      rcases holds with isDisposed | ⟨another, isOpen, isOwner, ownerIsOpen⟩
      · exact .inl isDisposed
      · have isOther := differs (isOf.others.mp isKept) isFound isOpen
        exact .inr ⟨another, isOpen, Handles.concealing_owner?.mpr ⟨isOther, isOwner⟩,
          Handles.concealing_isOpen.mpr ⟨isOther, ownerIsOpen⟩⟩
    distinct := fun isFirst isSecond isOwn isFound isLive =>
      accounts.distinct (use?_only.mp isFirst).2 (use?_only.mp isSecond).2 isOwn
        (connection?_only.mp isFound).2 isLive
    lent := fun isUsed isLent => by
      obtain ⟨isKept, isUsed⟩ := use?_only.mp isUsed
      exact use?_only.mpr ⟨(isDivided.others.lends_iff isUsed isLent).trans isKept,
        accounts.lent isUsed isLent⟩
    owned := fun isOwner => by
      obtain ⟨isOther, isOwner⟩ := Handles.concealing_owner?.mp isOwner
      obtain ⟨holder, use, found, isUsed, isOwn, isIt, isFound, isOpen⟩ := accounts.owned isOwner
      have isKept := isOf.others.mpr (isElsewhere isOther isFound isOpen)
      exact ⟨holder, use, found, use?_only.mpr ⟨(isDivided.others.holds_iff isUsed).trans isKept,
        isUsed⟩, isOwn, isIt, connection?_only.mpr ⟨isKept, isFound⟩, isOpen⟩ }

end

/-! ## Requests of others -/

section
variable {backend : Backend σ} (laws : Isolation backend.engine) {share : Share} {name : String}
  {session : Session σ} {request : Request}

/-- A private database does not notice what is asked of others. -/
theorem alike_beyond (isOf : share.IsOf name) (sound : Sound laws.toLedger session)
    (isDivided : session.IsDivided share) {connection : Connection} {parts : Counterparts}
    {image : σ} (isThere : session.books.connection? name = some connection)
    (isOpened : connection.lifecycle = .opened parts.database)
    (alike : laws.Alike parts session.engine image)
    (isCovered : share.others.covers request = true) :
    laws.Alike parts (perform backend session request).2.engine image := by
  have isSound : Sound (laws.concealing parts image).toLedger (session.only share.others) := {
    valid := ⟨sound.valid, sound.accounts.isOpen isThere isOpened, alike⟩
    accounts := isDivided.accounts isOf sound.accounts isThere isOpened
    releases := fun isHeld => sound.releases ((Registry.get?_only_eq_some _).mp isHeld).2 }
  have after := (perform_sound isSound request).valid
  have divides : Divides share.others session (perform backend session request) _ :=
    perform_divides isDivided.others request isCovered
  rw [divides.isPart] at after
  exact after.alike

end

end EmbeddedSql.Session

namespace EmbeddedSql

/-! ## What is seen of an answer -/

def Lifecycle.veiled : Lifecycle → Lifecycle
  | .opened _ => .opened ⟨0⟩
  | lifecycle => lifecycle

def Connection.veiled (connection : Connection) : Connection :=
  { connection with lifecycle := connection.lifecycle.veiled }

theorem Isolation.Tied.veiled {σ : Type} {engine : Engine σ} {laws : Isolation engine}
    {bond : Bond} {link other : Link σ} (tied : laws.Tied bond link other) :
    other.connection.veiled = link.connection.veiled := by
  cases tied <;> rfl

namespace Session

def Answer.veiled : Answer → Answer
  | .connection shown => .connection shown.veiled
  | answer => answer

def Response.veiled : Response → Response
  | .plain result => .plain (result.map Answer.veiled)
  | response => response

variable {σ ε α : Type} {backend : Backend σ} {laws : Isolation backend.engine} {name : String}
  {bond : Bond} {session solo : Session σ}

/-! ## Statements that are let go of -/

/-- A statement that its owner has lent to nobody has no other holder. -/
def OwnsApart (session : Session σ) : Prop :=
  ∀ {holder use}, session.books.use? holder = some use → use.lender? = none →
    (∀ command, holder = .command command → ∀ other otherUse,
      session.books.use? other = some otherUse → otherUse.lender? ≠ some command) →
    ∀ {other otherUse}, other ≠ holder → session.books.use? other = some otherUse →
      otherUse.statement ≠ use.statement

/-- Names are used once, and as long as there is a database, so are statements. -/
structure Orderly (bond : Bond) (session : Session σ) : Prop where
  isUnique : session.HasUniqueNames
  releases : ∀ {name held}, session.readers.get? name = some held →
    held.reader.release = releaseOf held.command
  ownsApart : (∃ parts, bond = .opened parts) → session.OwnsApart

namespace Orderly

variable (orderly : Orderly bond session)
include orderly

theorem isLeft {holder : Holder} {use : Use} (isUsed : session.books.use? holder = some use)
    (isOwn : use.lender? = none)
    (isUnlent : ∀ command, holder = .command command → ∀ other otherUse,
      session.books.use? other = some otherUse → otherUse.lender? ≠ some command)
    {after : Session σ}
    (commands : ∀ {name held}, (name, held) ∈ after.commands →
      Holder.command name ≠ holder ∧ (name, held) ∈ session.commands)
    (readers : ∀ {name held}, (name, held) ∈ after.readers →
      Holder.reader name ≠ holder ∧ (name, held) ∈ session.readers)
    (isOpened : ∃ parts, bond = .opened parts) : after.IsLeft use.statement where
  commands isThere := by
    obtain ⟨isOther, isThere⟩ := commands isThere
    have isHeld := (Registry.mem_iff_get? orderly.isUnique.commands).mp isThere
    exact orderly.ownsApart isOpened isUsed isOwn isUnlent isOther (use_of_command isHeld)
  readers isThere := by
    obtain ⟨isOther, isThere⟩ := readers isThere
    have isHeld := (Registry.mem_iff_get? orderly.isUnique.readers).mp isThere
    exact orderly.ownsApart isOpened isUsed isOwn isUnlent isOther (use_of_reader isHeld)

omit orderly in
theorem of_mem_erase {registry : Registry α} {key : String} {value : α}
    (isThere : (key, value) ∈ registry.erase name) : key ≠ name ∧ (key, value) ∈ registry := by
  obtain ⟨isThere, isOther⟩ := List.mem_filter.mp isThere
  exact ⟨of_decide_eq_true isOther, isThere⟩

theorem isLeft_command {held : HeldCommand}
    (isFree : session.freeCommand (ε := ε) name = .ok held)
    (isOpened : ∃ parts, bond = .opened parts) :
    { session with commands := session.commands.erase name }.IsLeft held.command.statement := by
  obtain ⟨isHeld, isUnread⟩ := of_freeCommand isFree
  refine orderly.isLeft (use_of_command isHeld) rfl
    (fun _ isCommand => isUnlent_of_unread isUnread isCommand) (fun isThere => ?_)
    (fun isThere => ⟨nofun, isThere⟩) isOpened
  obtain ⟨isOther, isThere⟩ := of_mem_erase isThere
  exact ⟨fun isSame => isOther (Holder.command.inj isSame), isThere⟩

theorem isLeft_reader {held : HeldReader} (isHeld : session.readers.get? name = some held)
    (isOwn : held.command = none) (isOpened : ∃ parts, bond = .opened parts) :
    { session with readers := session.readers.erase name }.IsLeft held.reader.statement := by
  refine orderly.isLeft (use_of_reader isHeld) isOwn nofun (fun isThere => ⟨nofun, isThere⟩)
    (fun isThere => ?_) isOpened
  obtain ⟨isOther, isThere⟩ := of_mem_erase isThere
  exact ⟨fun isSame => isOther (Holder.reader.inj isSame), isThere⟩

end Orderly

/-! ## Requests to either session -/

section
variable (paired : Paired bond.Uses laws name bond session solo)
include paired

theorem Paired.eraseConnection (connection : String) :
    Paired bond.Uses laws name bond
      { session with connections := session.connections.erase connection }
      { solo with connections := solo.connections.erase connection } := by
  have links (other : String) (before : Session σ) :
      { before with connections := before.connections.erase connection }.link? other =
        if other = connection then none else before.link? other := by
    unfold link?
    dsimp only
    rw [Registry.get?_erase]
    split <;> rfl
  refine ⟨?_, fun isOther => ?_, paired.commands, paired.readers⟩
  · rw [links, links]
    split
    · exact .none
    · exact paired.here
  · rw [links, links, (paired.elsewhere isOther).1, (paired.elsewhere isOther).2, ite_self]
    exact ⟨rfl, rfl⟩

theorem Paired.eraseCommand (command : String) :
    Paired bond.Uses laws name bond
      { session with commands := session.commands.erase command }
      { solo with commands := solo.commands.erase command } :=
  ⟨paired.here, paired.elsewhere, paired.commands.erase command, paired.readers⟩

theorem Paired.eraseReader (reader : String) :
    Paired bond.Uses laws name bond
      { session with readers := session.readers.erase reader }
      { solo with readers := solo.readers.erase reader } :=
  ⟨paired.here, paired.elsewhere, paired.commands, paired.readers.erase reader⟩

theorem Paired.insertCommand (command : String) {held other : HeldCommand}
    (related : CommandsMatch bond.Uses held other) :
    Paired bond.Uses laws name bond
      { session with commands := session.commands.insert command held }
      { solo with commands := solo.commands.insert command other } :=
  ⟨paired.here, paired.elsewhere, paired.commands.insert command related, paired.readers⟩

theorem Paired.insertReader (reader : String) {held other : HeldReader}
    (related : ReadersMatch bond.Uses held other) :
    Paired bond.Uses laws name bond
      { session with readers := session.readers.insert reader held }
      { solo with readers := solo.readers.insert reader other } :=
  ⟨paired.here, paired.elsewhere, paired.commands, paired.readers.insert reader related⟩

omit paired in
theorem tied_disposeQuietly :
    laws.Runs bond (disposeQuietly backend) (disposeQuietly backend) (· = .disposed)
      fun _ _ next => next = .disposed := by
  intro link other tied
  have disposes := laws.runs_dispose link other tied
  cases tied with
  | disposed => exact ⟨_, rfl, .disposed⟩
  | _ => exact disposes

theorem performConnection_goesOn (connection : String) (request : ConnectionRequest)
    (isNoConnect : ∀ path config pool, request ≠ .connect path config pool) :
    GoesOn laws name
      ((performConnection backend session connection request).1.map Answer.veiled,
        (performConnection backend session connection request).2)
      ((performConnection backend solo connection request).1.map Answer.veiled,
        (performConnection backend solo connection request).2) := by
  cases request with
  | connect path config pool => exact absurd rfl (isNoConnect path config pool)
  | state =>
      unfold performConnection
      rcases paired.link_cases connection with ⟨isMissing, isMissingImage⟩ |
        ⟨-, link, image, isLink, isImage, tied⟩
      · simp only [link?_eq_none.mp isMissing, link?_eq_none.mp isMissingImage]
        exact paired.unchanged _
      · obtain ⟨held, isHeld, rfl⟩ := held_of_link? isLink
        obtain ⟨heldImage, isHeldImage, rfl⟩ := held_of_link? isImage
        simp only [isHeld, isHeldImage]
        exact ⟨congrArg (fun shown => Except.ok (Answer.connection shown)) tied.veiled, bond, paired⟩
  | drop =>
      refine GoesOn.map ?_ (Except.map Answer.veiled)
      unfold performConnection
      dsimp only
      rw [paired.connections_contains, paired.connectionIsUsed]
      split
      · exact paired.unchanged _
      split
      · exact paired.unchanged _
      · obtain ⟨same, next, pairedNext⟩ := paired.goesOn connection tied_disposeQuietly
          (fun _ isNext => isNext ▸ bond.carries_disposed)
          fun _ _ _ isNext => ⟨rfl, isNext ▸ bond.carries_disposed⟩
        exact ⟨congrArg (Except.map fun _ => Answer.nothing) same, next,
          pairedNext.eraseConnection connection⟩
  | ensureOpen =>
      refine (GoesOn.map ?_ _).map _
      refine paired.goesOn connection (laws.runs_ensureOpen backend.growth)
        (fun _ follows => follows.carries) ?_
      rintro _ _ _ ⟨parts, -, follows⟩
      exact ⟨rfl, follows.carries⟩
  | dispose =>
      refine (GoesOn.map ?_ _).map _
      exact paired.goesOn connection laws.runs_dispose
        (fun _ isNext => isNext ▸ bond.carries_disposed)
        fun _ _ _ isNext => ⟨rfl, isNext ▸ bond.carries_disposed⟩
  | changes => exact ((paired.opens connection (laws.opens_changes _)).map _).map _
  | pendingStatements =>
      exact ((paired.keeps connection laws.keeps_pendingStatements).map _).map _
  | lastInsertRowid =>
      exact ((paired.opens connection (laws.opens_lastInsertRowid _)).map _).map _
  | executeNonQuery sql =>
      exact ((paired.opens connection (laws.opens_executeNonQuery sql)).map _).map _
  | executeReader reader sql =>
      refine GoesOn.map ?_ (Except.map Answer.veiled)
      unfold performConnection
      dsimp only
      rw [paired.newName_readers]
      cases newName (ε := Error) session.readers reader with
      | error refusal => exact paired.unchanged _
      | ok _ =>
          refine paired.keeping connection (laws.runs_connectionReader sql)
            (fun _ follows => follows.carries) ?_
          rintro made other next ⟨isOther, -, lends⟩
          refine ⟨lends.carries, fun paired => paired.insertReader reader ⟨?_, lends.uses⟩⟩
          rw [isOther]
          rfl
  | createCommand command sql =>
      refine GoesOn.map ?_ (Except.map Answer.veiled)
      unfold performConnection
      dsimp only
      rw [paired.newName_commands]
      cases newName (ε := Error) session.commands command with
      | error refusal => exact paired.unchanged _
      | ok _ =>
          refine paired.keeping connection (laws.runs_createCommand sql)
            (fun _ follows => follows.carries) ?_
          rintro made other next lends
          exact ⟨lends.carries, fun paired => paired.insertCommand command ⟨rfl, lends.uses⟩⟩

theorem useCommand_goesOn {held : HeldCommand} {image : StatementHandle}
    (uses : bond.Uses held.command.statement image) (request : CommandRequest) :
    GoesOn laws name (useCommand backend session held request)
      (useCommand backend solo { held with command := ⟨image⟩ } request) := by
  have onConnection {α : Type} {call callImage : Call σ α} (answer : α → Answer)
      (keeps : laws.Keeps bond call callImage) :
      GoesOn laws name (answering answer (session.onConnection held.connection call))
        (answering answer (solo.onConnection held.connection callImage)) :=
    (paired.keeps held.connection keeps).map _
  cases request with
  | sql => exact onConnection _ (laws.keeps_sql uses)
  | executeNonQuery => exact onConnection _ (laws.keeps_executeCommand uses)
  | parameterCount => exact onConnection _ (laws.keeps_count uses)
  | clear => exact onConnection _ (laws.keeps_clear uses)
  | indexOf text => exact onConnection _ (laws.keeps_resolve _ uses _)
  | nameOf index => exact onConnection _ (laws.keeps_nameOf uses index)
  | bind parameter argument => exact onConnection _ (laws.keeps_bind _ uses _ _)
  | bindText parameter text => exact onConnection _ (laws.keeps_bindText _ uses _ _)
  | executeReader reader => exact paired.unchanged _
  | finalize => exact paired.unchanged _
  | drop => exact paired.unchanged _

variable (orderly : Orderly bond session)
include orderly

theorem consume_goesOn {command : String} {held : HeldCommand} {image : StatementHandle}
    (isFree : session.freeCommand (ε := Error) command = .ok held) {call callImage : Call σ Unit}
    (runs : laws.Runs bond call callImage (· = bond.removing held.command.statement image)
      fun _ _ next => next = bond.removing held.command.statement image) :
    GoesOn laws name
      (let (result, session) := session.onConnection held.connection call
       done (result, { session with commands := session.commands.erase command }))
      (let (result, session) := solo.onConnection held.connection callImage
       done (result, { session with commands := session.commands.erase command })) := by
  have finalizes := (paired.eraseCommand command).finalizes (orderly.isLeft_command isFree)
    held.connection runs
  rw [@onConnection_withCommands _ _ session, @onConnection_withCommands _ _ solo] at finalizes
  dsimp only
  rw [onConnection_commands, onConnection_commands]
  exact finalizes.map _

theorem performCommand_goesOn (command : String) (request : CommandRequest) :
    GoesOn laws name (performCommand backend session command request)
      (performCommand backend solo command request) := by
  unfold performCommand
  cases request
  case executeReader reader =>
    dsimp only
    rw [paired.newName_readers]
    cases newName (ε := Error) session.readers reader with
    | error refusal => exact paired.unchanged _
    | ok _ =>
        rcases paired.freeCommand_cases (ε := Error) command with
          ⟨refusal, isRefused, isRefusedImage⟩ | ⟨held, image, isFree, isFreeImage, uses⟩
        · rw [isRefused, isRefusedImage]
          exact paired.unchanged _
        · rw [isFree, isFreeImage]
          refine paired.keeping held.connection (laws.runs_commandReader) ?_ ?_
          · rintro _ rfl _ _ uses
            exact uses
          · rintro _ _ _ ⟨rfl, rfl, rfl⟩
            exact ⟨id, fun paired => paired.insertReader reader ⟨rfl, uses⟩⟩
  all_goals
    dsimp only
    rcases paired.freeCommand_cases (ε := Error) command with
      ⟨refusal, isRefused, isRefusedImage⟩ | ⟨held, image, isFree, isFreeImage, uses⟩
    · rw [isRefused, isRefusedImage]
      exact paired.unchanged _
    rw [isFree, isFreeImage]
  case finalize =>
    have finalizes : laws.Runs bond (held.command.finalize backend) _
        (· = bond.removing held.command.statement image)
        fun _ _ next => next = bond.removing held.command.statement image :=
      (laws.runs_finalizeCommand uses).mono (fun _ => id) fun _ _ _ => And.right
    exact consume_goesOn paired orderly isFree finalizes
  case drop => exact consume_goesOn paired orderly isFree (laws.runs_dropCommand uses)
  all_goals exact useCommand_goesOn paired uses _

/-! ## Readers -/

omit orderly

omit paired in
theorem sees_of_tied {reader : Reader} {image : StatementHandle} {link other : Link σ}
    (tied : laws.Tied bond link other) (uses : bond.Uses reader.statement image) :
    reader.SeesAlike backend.engine image link other where
  cells cells := @Isolation.Tied.cell _ _ laws _ { reader with cells } _ _ _ tied uses
  columnCount := tied.columnCount uses
  name := tied.name uses

theorem access_goesOn {reader : String} {held : HeldReader} {image : StatementHandle}
    (uses : bond.Uses held.reader.statement image)
    {accessor : Reader → Link σ → Except ε α × Reader}
    (sees : ∀ {link other}, laws.Tied bond link other →
      accessor (held.reader.withStatement image) other =
        ((accessor held.reader link).1, (accessor held.reader link).2.withStatement image))
    (stays : ∀ link, (accessor held.reader link).2.statement = held.reader.statement) :
    GoesOn laws name (access session reader held accessor)
      (access solo reader { held with reader := held.reader.withStatement image } accessor) := by
  unfold access
  dsimp only
  rcases paired.link_cases held.connection with ⟨isMissing, isMissingImage⟩ |
    ⟨-, link, other, isLink, isImage, tied⟩
  · rw [isMissing, isMissingImage]
    exact paired.unchanged _
  · rw [isLink, isImage]
    dsimp only
    have stays := stays link
    rw [sees tied]
    rcases outcome : accessor held.reader link with ⟨error | answer, next⟩ <;>
      rw [outcome] at stays
    · exact ⟨rfl, bond, paired.insertReader reader ⟨rfl, stays.symm ▸ uses⟩⟩
    · exact ⟨rfl, bond, paired.insertReader reader ⟨rfl, stays.symm ▸ uses⟩⟩

theorem read_goesOn {reader : String} {held : HeldReader} {image : StatementHandle}
    (uses : bond.Uses held.reader.statement image) :
    GoesOn laws name (useReader backend session reader held .read)
      (useReader backend solo reader { held with reader := held.reader.withStatement image }
        .read) := by
  unfold useReader
  dsimp only
  rcases paired.link_cases held.connection with ⟨isMissing, isMissingImage⟩ |
    ⟨isHere, link, other, isLink, isImage, tied⟩
  · rw [isMissing, isMissingImage]
    exact paired.unchanged _
  · rw [isLink, isImage]
    dsimp only
    have stays := held.reader.read_statement backend.engine link
    obtain ⟨same, tied⟩ := tied.read uses
    subst isHere
    have pairedNext := paired.setLink isLink isImage tied
    generalize held.reader.read backend.engine link = outcome at stays same pairedNext ⊢
    generalize (held.reader.withStatement image).read backend.engine other = imageOutcome
      at same pairedNext ⊢
    rcases outcome with ⟨⟨result, next⟩, last⟩
    rcases imageOutcome with ⟨⟨_, _⟩, lastImage⟩
    obtain ⟨rfl, rfl⟩ := Prod.mk.inj same
    have inserted := @Paired.insertReader _ _ _ _ _ _ _ pairedNext reader
      { held with reader := next } { held with reader := next.withStatement image }
      ⟨rfl, stays.symm ▸ uses⟩
    rw [setLink_readers, setLink_readers] at inserted
    dsimp only
    split <;> exact ⟨rfl, bond, inserted⟩

theorem disposeReader_goesOn (orderly : Orderly bond session) {reader : String} {held : HeldReader}
    {image : StatementHandle} (isHeld : session.readers.get? reader = some held)
    (uses : bond.Uses held.reader.statement image) :
    GoesOn laws name (useReader backend session reader held .dispose)
      (useReader backend solo reader { held with reader := held.reader.withStatement image }
        .dispose) := by
  unfold useReader
  dsimp only
  rcases paired.link_cases held.connection with ⟨isMissing, isMissingImage⟩ |
    ⟨isHere, link, other, isLink, isImage, tied⟩
  · rw [isMissing, isMissingImage]
    exact paired.unchanged _
  · rw [isLink, isImage]
    dsimp only
    rw [setLink_readers, setLink_readers, ← setLink_withReaders, ← setLink_withReaders]
    have disposes := tied.dispose uses
    have erased := paired.eraseReader reader
    have isRelease := orderly.releases isHeld
    subst isHere
    cases isFrom : held.command with
    | none =>
        rw [if_pos (by rw [isRelease, isFrom]; rfl)] at disposes
        have isLeft := orderly.isLeft_reader isHeld isFrom
        exact ⟨rfl, _, (erased.removing image isLeft).setLink isLink isImage disposes⟩
    | some command =>
        rw [if_neg (by rw [isRelease, isFrom]; exact nofun)] at disposes
        exact ⟨rfl, _, erased.setLink isLink isImage disposes⟩

theorem performReader_goesOn (orderly : Orderly bond session) (reader : String)
    (request : ReaderRequest) :
    GoesOn laws name (performReader backend session reader request)
      (performReader backend solo reader request) := by
  unfold performReader
  rcases paired.findReader_cases (ε := Error) reader with ⟨isMissing, isMissingImage⟩ |
    ⟨held, image, isFound, isFoundImage, uses⟩
  · rw [isMissing, isMissingImage]
    exact paired.unchanged _
  · rw [isFound, isFoundImage]
    cases request
    case read => exact read_goesOn paired uses
    case dispose => exact disposeReader_goesOn paired orderly (of_findReader isFound) uses
    case cursor => exact paired.unchanged _
    all_goals
      dsimp only
      rw [useReader_accessor backend _ _ _ rfl, useReader_accessor backend _ _ _ rfl]
      exact access_goesOn paired uses
        (fun tied => accessor_withStatement (sees_of_tied tied uses) rfl)
        fun link => accessor_statement backend _ held.reader link

/-! ## Queries -/

theorem onCommand_goesOn (command : String) {call : StatementHandle → Query.Call σ Unit}
    (keeps : ∀ {statement image}, bond.Uses statement image →
      laws.Keeps bond (call statement) (call image)) :
    GoesOn laws name (onCommand session command call) (onCommand solo command call) := by
  unfold onCommand
  rcases paired.freeCommand_cases (ε := Query.Error) command with
    ⟨refusal, isRefused, isRefusedImage⟩ | ⟨held, image, isFree, isFreeImage, uses⟩
  · rw [isRefused, isRefusedImage]
    exact paired.unchanged _
  · rw [isFree, isFreeImage]
    exact (paired.keeps held.connection (keeps uses)).map _

theorem onReader_goesOn (reader : String) {view : Reader → Link σ → Except Query.Error α}
    (answer : α → QueryAnswer) (leave : List Cell → List Cell)
    (sees : ∀ {reader image link other}, laws.Tied bond link other →
      bond.Uses reader.statement image → view (reader.withStatement image) other = view reader link) :
    GoesOn laws name (onReader session reader (takeOut answer view leave))
      (onReader solo reader (takeOut answer view leave)) := by
  unfold onReader
  rcases paired.findReader_cases (ε := Query.Error) reader with ⟨isMissing, isMissingImage⟩ |
    ⟨held, image, isFound, isFoundImage, uses⟩
  · rw [isMissing, isMissingImage]
    exact paired.unchanged _
  · rw [isFound, isFoundImage]
    refine access_goesOn paired uses
      (fun tied => takeOut_withStatement (sees tied uses) answer leave) fun link => ?_
    obtain ⟨cells, same⟩ := takeOut_cells answer view leave held.reader link
    rw [same]

theorem performQuery_goesOn (request : QueryRequest) :
    GoesOn laws name (performQuery backend session request)
      (performQuery backend solo request) := by
  cases request with
  | execute connection sql values =>
      exact (paired.opens connection (laws.opens_execute sql values)).map _
  | fetchAll connection sql values =>
      exact (paired.opens connection (laws.opens_fetchAll sql values)).map _
  | fetchOne connection sql values =>
      exact (paired.opens connection (laws.opens_fetchOne sql values)).map _
  | executeTransaction connection statements =>
      exact (paired.opens connection (laws.opens_executeTransaction statements)).map _
  | bindValue command index value =>
      exact onCommand_goesOn paired command fun uses => laws.keeps_bindValue uses index value
  | bindValues command values =>
      exact onCommand_goesOn paired command fun uses => laws.keeps_bindValues uses values
  | columnJson reader column =>
      exact onReader_goesOn paired reader _ _ fun tied uses => tied.columnJson uses column
  | decodeRow reader =>
      exact onReader_goesOn paired reader _ _ fun tied uses => tied.decodeRow uses

theorem perform_goesOn (orderly : Orderly bond session) {share : Share} {request : Request}
    (isOwned : share.owns request = true) :
    GoesOn laws name
      ((perform backend session request).1.veiled, (perform backend session request).2)
      ((perform backend solo request).1.veiled, (perform backend solo request).2) := by
  cases request with
  | pool request => cases isOwned
  | connection connection request =>
      have isNoConnect (path config pool) : request ≠ .connect path config pool := by
        rintro rfl
        cases isOwned
      exact (performConnection_goesOn paired connection request isNoConnect).map Response.plain
  | command command request =>
      exact (performCommand_goesOn paired orderly command request).map
        fun result => (Response.plain result).veiled
  | reader reader request =>
      exact (performReader_goesOn paired orderly reader request).map
        fun result => (Response.plain result).veiled
  | query request =>
      exact (performQuery_goesOn paired request).map fun result => (Response.query result).veiled

end

end Session

end EmbeddedSql
