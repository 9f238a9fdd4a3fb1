import EmbeddedSql.Proofs.Connection.Repeating
import EmbeddedSql.Proofs.Session.Slots
import EmbeddedSql.Proofs.Storage.Repeating

/-! Main result: a command that is used again is executed like one that has just been made. -/

namespace EmbeddedSql.Session

variable {σ : Type} {backend : Backend σ} {sql : Text} {session other : Session σ}

/-! ## The text of a command -/

def madeOf? (session : Session σ) (name : String) : Request → Option Text
  | .connection _ (.createCommand other sql) =>
      if other = name ∧ session.commands.get? name = none then some sql else none
  | _ => none

/-- The text that a command was last made of in the course of a run. -/
def textOf? (backend : Backend σ) (name : String) :
    Session σ → List Request → Option Text → Option Text
  | _, [], text => text
  | session, request :: rest, text =>
      textOf? backend name (perform backend session request).2 rest
        ((session.madeOf? name request).or text)

/-- Made of the text in question, a command has a statement of it. -/
def HasText (laws : Repeating backend sql) (name : String) (session : Session σ)
    (text : Option Text) : Prop :=
  ∀ {held}, session.commands.get? name = some held → session.IsOpened held.connection →
    text = some sql → laws.IsOf session.engine held.command.statement

section
variable {laws : Repeating backend sql} {name : String} {held : HeldCommand} {request : Request}

theorem madeOf?_of_held (isHeld : session.commands.get? name = some held) (request : Request) :
    session.madeOf? name request = none := by
  unfold madeOf?
  split
  · rw [isHeld]
    exact if_neg nofun
  · rfl

section
variable (sound : Sound laws.toLedger session)
include sound

/-- A command that is there after a request has not let go of its statement, unless it was in
use and the request refused. -/
theorem stays_of_kept (isHeld : session.commands.get? name = some held)
    (isOpened : session.IsOpened held.connection)
    (isAfter : (perform backend session request).2.commands.get? name = some held)
    (isOpenedAfter : (perform backend session request).2.IsOpened held.connection) :
    ¬LetsGo laws.toRewinding session held.command.statement request ∨
      (perform backend session request).2 = session := by
  by_cases isAbout : session.IsAbout held.command.statement request
  case neg => exact .inl (stays_of_not_about sound isHeld isOpened isOpenedAfter isAbout)
  cases request with
  | pool request => exact .inl id
  | connection connection request => exact isAbout.elim
  | query request => exact .inl id
  | reader reader asked =>
      refine .inl ?_
      rintro ⟨-, found, isFound, isFoundOpened, isOwn, isSame⟩
      have isLender := lender_of_statement sound isHeld isOpened isFound isFoundOpened isSame
      cases isOwn.symm.trans isLender
  | command command asked =>
      obtain rfl := name_of_statement sound isHeld isOpened isAbout
      cases isFree : session.freeCommand (ε := Error) command with
      | error refusal =>
          obtain ⟨reason, isRefused⟩ : ∃ reason,
              performCommand backend session command asked = (.error reason, session) :=
            performCommand_of_refused isFree asked
          exact .inr (congrArg Prod.snd isRefused)
      | ok found =>
          refine .inl fun letsGo => ?_
          have isKept : (performCommand backend session command asked).2.commands.get? command =
              some held := isAfter
          unfold performCommand at isKept
          rcases letsGo.1 with rfl | rfl <;>
          · dsimp only at isKept
            rw [isFree] at isKept
            cases (Registry.get?_erase_self ..).symm.trans isKept

variable (rested : Rested laws.toRewinding session)
include rested

theorem perform_hasText (request : Request) {text : Option Text}
    (hasText : HasText laws name session text) :
    HasText laws name (perform backend session request).2
      ((session.madeOf? name request).or text) := by
  intro held isAfter isOpenedAfter isText
  have changes : HoldersChange request session _ := perform_holders backend request
  rcases changes.commands.of_after isAfter with isHeld | ⟨isNew, connection, made, isRequest⟩
  case inr =>
    subst isRequest
    rw [madeOf?, if_pos ⟨rfl, isNew⟩, Option.some_or, Option.some.injEq] at isText
    subst isText
    obtain ⟨link, last, isLink, creates, sameEngine⟩ := createCommand_made isNew isAfter
    have sits : laws.Sits (.nothing laws.toRewinding) link :=
      sits_of_link sound (.nothing sound.valid) isLink
    have ended := sits.createCommand_holds made laws.IsOf laws.prepared_isOf
    rw [creates] at ended
    exact (congrArg (laws.IsOf · _) sameEngine).mpr ended
  rw [madeOf?_of_held isHeld, Option.none_or] at isText
  have isOpened := opened_before sound isHeld isOpenedAfter
  have isOf := hasText isHeld isOpened isText
  rcases stays_of_kept sound isHeld isOpened isAfter isOpenedAfter with stays | isSame
  case inr => rwa [isSame]
  let watch : Watch laws.toCustody :=
    ⟨laws.IsOf, laws.spares_isOf, fun statement => statement = held.command.statement⟩
  have guards : watch.Guards session.engine := by
    refine ⟨sound.valid, ?_, ?_⟩
    · rintro _ rfl
      exact inUse_of_command sound isHeld isOpened
    · rintro _ rfl
      exact isOf
  refine (perform_guards sound guards rested request (fun _ _ => laws.endures_isOf) ?_).areKept rfl
  rintro _ rfl
  exact stays

theorem run_hasText (requests : List Request) {text : Option Text}
    (hasText : HasText laws name session text) :
    HasText laws name (run backend session requests).2
      (textOf? backend name session requests text) := by
  induction requests generalizing session text with
  | nil => exact hasText
  | cons request rest induction =>
      exact induction (perform_sound sound request) (perform_rested sound rested request)
        (perform_hasText sound rested request hasText)

end

end

/-! ## Two readers -/

def ReaderRequest.asksForRows (asked : ReaderRequest) : Bool :=
  asked.asksForValue || !asked.isAccessor

/-- Readers of two sessions in the same place of executions that are the same, until they are
disposed of. -/
inductive GoAlong (backend : Backend σ) (reader otherReader : String) (session other : Session σ) :
    Prop
  | gone : session.readers.get? reader = none → other.readers.get? otherReader = none →
      GoAlong backend reader otherReader session other
  | reading {held : HeldReader} {image : StatementHandle} {connection : String}
      {command : Option String} {link otherLink : Link σ} :
      session.readers.get? reader = some held →
        other.readers.get? otherReader =
            some ⟨connection, command, held.reader.withStatement image⟩ →
          session.link? held.connection = some link → other.link? connection = some otherLink →
            held.reader.GoesAlong backend image link otherLink →
              GoAlong backend reader otherReader session other

section
variable {reader otherReader : String}

theorem performReader_of_missing {name : String} (isMissing : session.readers.get? name = none)
    (asked : ReaderRequest) :
    perform backend session (.reader name asked) =
      (.plain (.error .noSuchHandle), session) := by
  simp only [perform, performReader, findReader, isMissing]

theorem perform_goAlong (along : GoAlong backend reader otherReader session other)
    {asked : ReaderRequest} (asks : asked.asksForRows = true) :
    (perform backend other (.reader otherReader asked)).1 =
        (perform backend session (.reader reader asked)).1 ∧
      GoAlong backend reader otherReader (perform backend session (.reader reader asked)).2
        (perform backend other (.reader otherReader asked)).2 := by
  cases along with
  | gone isGone isOtherGone =>
      rw [performReader_of_missing isGone, performReader_of_missing isOtherGone]
      exact ⟨rfl, .gone isGone isOtherGone⟩
  | @reading held image connection command link otherLink isHeld isOtherHeld isLink isOtherLink
      goes =>
      by_cases isAccessor : asked.isAccessor = true
      · have asksForValue : asked.asksForValue = true := by
          simpa [ReaderRequest.asksForRows, isAccessor] using asks
        have same := accessor_values goes.seesCells asksForValue
        obtain ⟨cells, isAfter⟩ := accessor_cells backend asked held.reader link
        rw [perform_accessor isHeld isLink isAccessor,
          perform_accessor isOtherHeld isOtherLink isAccessor, same]
        refine ⟨rfl, .reading (Registry.get?_insert_self ..) (Registry.get?_insert_self ..) isLink
          isOtherLink ?_⟩
        rw [isAfter]
        exact goes.withCells cells
      cases asked with
      | read =>
          obtain ⟨same, goes⟩ := goes.read
          obtain ⟨pool, isNext⟩ := link?_setLink isLink (held.reader.read backend.engine link).2
          obtain ⟨otherPool, isOtherNext⟩ := link?_setLink isOtherLink
            ((held.reader.withStatement image).read backend.engine otherLink).2
          rw [perform_read isHeld isLink, perform_read isOtherHeld isOtherLink]
          dsimp only
          rw [same]
          exact ⟨rfl, .reading (Registry.get?_insert_self ..) (Registry.get?_insert_self ..) isNext
            isOtherNext (goes.withPools pool otherPool)⟩
      | cursor =>
          rw [performReader_of_held isHeld, performReader_of_held isOtherHeld]
          exact ⟨rfl, .reading isHeld isOtherHeld isLink isOtherLink goes⟩
      | dispose =>
          rw [performReader_of_held isHeld, performReader_of_held isOtherHeld]
          unfold useReader
          dsimp only
          rw [isLink, isOtherLink]
          exact ⟨rfl, .gone (Registry.get?_erase_self ..) (Registry.get?_erase_self ..)⟩
      | _ => exact absurd rfl isAccessor

theorem run_goAlong (along : GoAlong backend reader otherReader session other)
    {asks : List ReaderRequest} (areOfRows : ∀ asked ∈ asks, asked.asksForRows = true) :
    (run backend other (asks.map (.reader otherReader))).1 =
      (run backend session (asks.map (.reader reader))).1 := by
  induction asks generalizing session other with
  | nil => rfl
  | cons asked rest induction =>
      obtain ⟨same, along⟩ := perform_goAlong along (areOfRows asked List.mem_cons_self)
      exact congrArg₂ List.cons same
        (induction along fun asked isThere => areOfRows asked (List.mem_cons_of_mem _ isThere))

end

/-! ## Executing -/

section
variable {name otherName : String} {held otherHeld : HeldCommand} {link otherLink : Link σ}
  (isFree : session.freeCommand (ε := Error) name = .ok held)
  (isLink : session.link? held.connection = some link)
include isFree isLink

theorem perform_executeNonQuery :
    (perform backend session (.command name .executeNonQuery)).1 =
      .plain (((held.command.executeNonQuery backend link).1.mapError .failed).map
        fun (count : Nat) => .number count) := by
  simp only [perform, performCommand, isFree, useCommand, answering, onConnection_of_link isLink]

theorem perform_executeReader (isLive : link.connection.isDisposed = false) {reader : String}
    (isNew : session.readers.get? reader = none) :
    perform backend session (.command name (.executeReader reader)) =
      (.plain (.ok .nothing),
        { session.setLink held.connection link with
          readers := session.readers.insert reader
            ⟨held.connection, some name, held.command.reader⟩ }) := by
  have isFreeName : newName (ε := Error) session.readers reader = .ok () := newName_of_missing isNew
  have executes : held.command.executeReader link = (.ok held.command.reader, link) := by
    unfold Command.executeReader
    rw [Call.bind_of_ok _ (Connection.ensureNotDisposed_of_live isLive)]
    rfl
  simp only [perform, performCommand, isFreeName, isFree, onConnection_of_link isLink, executes]
  simp only [keeping, Except.mapError, setLink_readers]

variable (isOtherFree : other.freeCommand (ε := Error) otherName = .ok otherHeld)
  (isOtherLink : other.link? otherHeld.connection = some otherLink)
  (alike : ExecuteAlike backend held.command.statement otherHeld.command.statement link otherLink)
include isOtherFree isOtherLink alike

theorem executeReader_alike {reader otherReader : String} {asks : List ReaderRequest}
    (isNew : session.readers.get? reader = none)
    (isOtherNew : other.readers.get? otherReader = none)
    (areOfRows : ∀ asked ∈ asks, asked.asksForRows = true) :
    (run backend other
        (.command otherName (.executeReader otherReader) :: asks.map (.reader otherReader))).1 =
      (run backend session
        (.command name (.executeReader reader) :: asks.map (.reader reader))).1 := by
  obtain ⟨isLive, isOtherLive⟩ := alike.isLive
  obtain ⟨pool, isNext⟩ := link?_setLink isLink link
  obtain ⟨otherPool, isOtherNext⟩ := link?_setLink isOtherLink otherLink
  have goes : held.command.reader.GoesAlong backend otherHeld.command.statement link otherLink :=
    ⟨alike.toAreOpen, fun _ => alike, nofun⟩
  unfold run
  rw [perform_executeReader isFree isLink isLive isNew,
    perform_executeReader isOtherFree isOtherLink isOtherLive isOtherNew]
  dsimp only
  refine congrArg (List.cons _) (run_goAlong ?_ areOfRows)
  exact .reading (Registry.get?_insert_self ..) (Registry.get?_insert_self ..) isNext isOtherNext
    (goes.withPools pool otherPool)

end

/-! ## Commands that are used again -/

/-- After the run the command is one of the text, nobody reads it, and its slots hold these
values. This is how its connection is set up, and the database as it sees it. -/
structure Ready (laws : Repeating backend sql) (state : σ) (requests : List Request)
    (name : String) (slots : Slots) (config : ConnectionConfig) (snapshot : laws.Snapshot) :
    Prop where
  valid : laws.Valid state
  isFresh : laws.handles state = .none
  text : textOf? backend name { engine := state } requests none = some sql
  isFree : ∃ held link database,
    (run backend { engine := state } requests).2.freeCommand (ε := Error) name = .ok held ∧
      (run backend { engine := state } requests).2.link? held.connection = some link ∧
        link.connection.lifecycle = .opened database ∧ link.connection.config = config ∧
          laws.snapshot database link.engine = snapshot ∧
            laws.slots link.engine held.command.statement = slots

variable {laws : Repeating backend sql} {state otherState : σ}
  {requests otherRequests : List Request} {name otherName : String} {slots : Slots}
  {config : ConnectionConfig} {snapshot : laws.Snapshot}

/-- Values that are not too long fill the slots in the order in which they are bound. -/
theorem slots_of_history (valid : laws.Valid state) (isFresh : laws.handles state = .none)
    (fit : ∀ request ∈ requests, request.fits = true) {held : HeldCommand} {link : Link σ}
    {database : DatabaseHandle}
    (isHeld : (run backend { engine := state } requests).2.commands.get? name = some held)
    (isLink : (run backend { engine := state } requests).2.link? held.connection = some link)
    (isOpened : link.connection.lifecycle = .opened database) :
    laws.slots link.engine held.command.statement =
      .after (slotHistory laws.toBinding name { engine := state } requests []) := by
  have isSound : Sound laws.toLedger { engine := state } := sound_of_nothing valid isFresh
  have fresh : Rested laws.toRewinding { engine := state } := fun isHeld => nomatch isHeld
  have recounts : Recounts laws.toBinding name (run backend { engine := state } requests).2
      (slotHistory laws.toBinding name { engine := state } requests []) :=
    run_recounts isSound fresh fit fun isHeld => nomatch isHeld
  rw [engine_of_link isLink]
  exact recounts isHeld ⟨database, by rw [lifecycle?_of_link _ _ isLink, isOpened]⟩

theorem Ready.stands (ready : Ready laws state requests name slots config snapshot) :
    let session := (run backend { engine := state } requests).2
    ∃ held link, session.freeCommand (ε := Error) name = .ok held ∧
      session.link? held.connection = some link ∧
        laws.Stands slots config snapshot held.command.statement link := by
  intro session
  obtain ⟨held, link, database, isFree, isLink, isOpened, isConfig, isSnapshot, areSlots⟩ :=
    ready.isFree
  have isSound : Sound laws.toLedger { engine := state } :=
    sound_of_nothing ready.valid ready.isFresh
  have fresh : Rested laws.toRewinding { engine := state } := fun isHeld => nomatch isHeld
  have sound : Sound laws.toLedger session := run_sound isSound requests
  have rested : Rested laws.toRewinding session := run_rested isSound fresh requests
  obtain ⟨isHeld, -⟩ := of_freeCommand isFree
  have opens : session.IsOpened held.connection :=
    ⟨database, by rw [lifecycle?_of_link _ _ isLink, isOpened]⟩
  have hasText : HasText laws name session (textOf? backend name { engine := state } requests none) :=
    run_hasText isSound fresh requests fun isHeld => nomatch isHeld
  have isOf := hasText isHeld opens ready.text
  obtain ⟨found, isFound, rests⟩ := rests_of_free sound isFree opens rested
  obtain rfl := Option.some.inj (isLink.symm.trans isFound)
  obtain ⟨owner, ownerIsOpened, isOwner⟩ := rests.isUsed
  cases isOpened.symm.trans ownerIsOpened
  rw [← engine_of_link isLink] at isOf
  exact ⟨held, link, isFree, isLink, rests.valid, ⟨database, isOpened, isOwner, isSnapshot⟩, isConfig,
    rests.isReset, isOf, areSlots⟩

/-- Two commands of one text with the same values are executed alike, on connections which are
set up alike and see the same database: both report the same, the readers of both find the same
rows with the same values, and come to the same end. This is so whatever either has been used for
before, so that a command which is used again is like one that has just been made. -/
theorem executed_alike (laws : Repeating backend sql)
    {snapshot : laws.Snapshot}
    (ready : Ready laws state requests name slots config snapshot)
    (otherReady : Ready laws otherState otherRequests otherName slots config snapshot) :
    let session := (run backend { engine := state } requests).2
    let other := (run backend { engine := otherState } otherRequests).2
    (perform backend other (.command otherName .executeNonQuery)).1 =
        (perform backend session (.command name .executeNonQuery)).1 ∧
      ∀ {reader otherReader : String} {asks : List ReaderRequest},
        session.readers.get? reader = none → other.readers.get? otherReader = none →
          (∀ asked ∈ asks, asked.asksForRows = true) →
            (run backend other (.command otherName (.executeReader otherReader) ::
                asks.map (.reader otherReader))).1 =
              (run backend session (.command name (.executeReader reader) ::
                asks.map (.reader reader))).1 := by
  intro session other
  obtain ⟨held, link, isFree, isLink, stands⟩ := ready.stands
  obtain ⟨otherHeld, otherLink, isOtherFree, isOtherLink, otherStands⟩ := otherReady.stands
  have alike := stands.alike otherStands
  refine ⟨?_, executeReader_alike isFree isLink isOtherFree isOtherLink alike⟩
  rw [perform_executeNonQuery isFree isLink, perform_executeNonQuery isOtherFree isOtherLink,
    Command.executeNonQuery_alike alike]

/-- One command is abandoned, fails and gets its values anew; another one is made after that. -/
def usedAgain : List Request :=
  [.connection "c" (.connect none none none),
    .connection "c" (.executeNonQuery (.ofString "CREATE TABLE t(a)")),
    .connection "c" (.createCommand "k" (.ofString "SELECT abs(?1) FROM t")),
    .connection "c" (.executeNonQuery (.ofString "INSERT INTO t VALUES(1), (2)")),
    .command "k" (.bind (.index 1) (.integer 5)),
    .command "k" (.executeReader "r"),
    .reader "r" .read,
    .reader "r" .dispose,
    .command "k" (.bind (.index 1) (.integer Int64.minValue)),
    .command "k" .executeNonQuery,
    .command "k" .clear,
    .command "k" (.bind (.index 1) (.integer (-3))),
    .connection "c" (.createCommand "l" (.ofString "SELECT abs(?1) FROM t")),
    .command "l" (.bind (.index 1) (.integer (-3)))]

theorem executed_alike_usedAgain :
    let session := (run Storage.backend { engine := {} } usedAgain).2
    (perform Storage.backend session (.command "l" .executeNonQuery)).1 =
        (perform Storage.backend session (.command "k" .executeNonQuery)).1 ∧
      (run Storage.backend session (.command "l" (.executeReader "s") ::
          [.read, .int64 0, .read, .read].map (.reader "s"))).1 =
        (run Storage.backend session (.command "k" (.executeReader "q") ::
          [.read, .int64 0, .read, .read].map (.reader "q"))).1 := by
  intro session
  let laws := Storage.repeating (.ofString "SELECT abs(?1) FROM t") (by decide +kernel)
  have isFresh : laws.Shows {} .none := Storage.repeating_empty _ _
  obtain ⟨areFree, isOpened, isNew, isOtherNew⟩ :
      (∀ name ∈ ["k", "l"], (session.freeCommand (ε := Error) name).toOption.any
        (fun held => held.connection = "c") = true) ∧
      (session.link? "c").any (fun link => link.connection.lifecycle = .opened ⟨0⟩) = true ∧
        session.readers.get? "q" = none ∧ session.readers.get? "s" = none := by
    decide +kernel
  have areTexts : ∀ name ∈ ["k", "l"], textOf? Storage.backend name { engine := {} } usedAgain none =
      some (.ofString "SELECT abs(?1) FROM t") := by
    decide +kernel
  have history : slotHistory laws.toBinding "k" { engine := {} } usedAgain [] =
      [.set 1 (.integer (-3)), .clear, .set 1 (.integer Int64.minValue), .set 1 (.integer 5)] := by
    decide +kernel
  have historyAnew : slotHistory laws.toBinding "l" { engine := {} } usedAgain [] =
      [.set 1 (.integer (-3))] := by
    decide +kernel
  obtain ⟨link, isLink, isOpened⟩ := (Option.any_eq_true _ _).mp isOpened
  have fit : ∀ request ∈ usedAgain, request.fits = true := by decide +kernel
  have ready (name : String) (isThere : name ∈ ["k", "l"])
      (slots : Slots.after (slotHistory laws.toBinding name { engine := {} } usedAgain []) =
        .after [.set 1 (.integer (-3))]) :
      Ready laws {} usedAgain name (.after [.set 1 (.integer (-3))]) link.connection.config
        (laws.snapshot ⟨0⟩ link.engine) := by
    refine ⟨isFresh.1, isFresh.2, areTexts name isThere, ?_⟩
    have isFree := areFree name isThere
    cases found : session.freeCommand (ε := Error) name with
    | error refusal => simp [found, Except.toOption] at isFree
    | ok held =>
        have isOn : held.connection = "c" := by simpa [found, Except.toOption] using isFree
        have isLinked : session.link? held.connection = some link := isOn ▸ isLink
        have isOpen : link.connection.lifecycle = .opened ⟨0⟩ := by simpa using isOpened
        exact ⟨held, link, ⟨0⟩, rfl, isLinked, isOpen, rfl, rfl,
          (slots_of_history isFresh.1 isFresh.2 fit (of_freeCommand found).1 isLinked
            isOpen).trans slots⟩
  have reused := ready "k" (by decide) ((congrArg Slots.after history).trans rfl)
  have made := ready "l" (by decide) (congrArg Slots.after historyAnew)
  obtain ⟨changes, reads⟩ := executed_alike laws reused made
  exact ⟨changes, reads isNew isOtherNew (by decide)⟩

end EmbeddedSql.Session
