import EmbeddedSql.Proofs.Connection.Run
import EmbeddedSql.Proofs.Json.Parsing
import EmbeddedSql.Proofs.Query.Fetching
import EmbeddedSql.Proofs.Query.Normal
import EmbeddedSql.Proofs.Session.Echoing
import EmbeddedSql.Proofs.Session.Slots

/-! Main result: an array or an object that goes through `SELECT ?1` comes back as a text that is
read as the value that it was. -/

namespace EmbeddedSql.Query

variable {σ : Type} {backend : Backend σ} {laws : EchoingOnce backend.engine} {command : Command}
  {held : Value} {link : Link σ}

/-! ## The only row -/

section
variable (echoes : Echoes laws.toEchoing command held link)
include echoes

theorem Echoes.columns :
    ∃ name, currentColumns backend.engine command.statement
        (backend.engine.step command.statement link.engine).2 = [(name, jsonOf held)] := by
  obtain ⟨-, isRow, isSingle⟩ := laws.stepped echoes.holds
  have isOne : (backend.engine.columnCount command.statement
      (backend.engine.step command.statement link.engine).2).toNatClampNeg = 1 := by
    rw [Engine.columnCount, isSingle]
    rfl
  have sameValue : (Cell.ofValue held).toValue = held := by cases held <;> rfl
  rw [currentColumns, shownColumns, isOne, isRow, List.map_singleton, sameValue]
  exact ⟨_, rfl⟩

theorem Echoes.readRows :
    ∃ name after, Query.readRows backend none command link =
        (.ok [[(name, jsonOf held)]], after) ∧
      Echoes laws.toEchoing command held after := by
  obtain ⟨name, areColumns⟩ := echoes.columns
  let onRow : Reader := { command.reader with cursor := .onRow, cells := [.ofValue held] }
  let row : Link σ :=
    { link with engine := (backend.engine.step command.statement link.engine).2 }
  let ended : Reader := { command.reader with cursor := .done, cells := [] }
  let past : Link σ :=
    { link with engine := (backend.engine.step command.statement row.engine).2 }
  have reads : command.reader.read backend.engine link = ((.ok true, onRow), row) := echoes.reads
  have readsPast : onRow.read backend.engine row = ((.ok false, ended), past) := by
    have isDone : (backend.engine.step onRow.statement row.engine).1 = Status.done :=
      laws.ended echoes.holds
    have isOpen : onRow.cursor ≠ .done := nofun
    have isLive : row.connection.isDisposed = false := echoes.isLive
    rw [Reader.read_of_live backend.engine isLive isOpen, isDone]
    rfl
  have takes : takeRow backend.engine onRow row [] = .ok [[(name, jsonOf held)]] := by
    rw [takeRow_of_row [] reads]
    show Except.ok [Row.ofColumns (currentColumns backend.engine command.statement row.engine)] = _
    rw [areColumns]
    rfl
  have gathers : Stage.gather backend (isWanted none) (takeRow backend.engine) Error.connection
      ⟨command.reader, [], link⟩ = ((.ok [[(name, jsonOf held)]], ended), past) := by
    rw [Stage.gather, Reader.gather_of_row rfl reads, takes]
    exact Reader.gather_of_end rfl readsPast
  refine ⟨name, ended.dispose backend.engine past, ?_, ?_⟩
  · rw [readRows_apply backend none command echoes.isLive, gathers]
  · have isLive : ¬past.connection.isDisposed = true := by simp [past, echoes.isLive]
    rw [Reader.dispose, if_neg isLive]
    exact ⟨echoes.isLive, laws.rewoundEnd echoes.holds⟩

theorem Echoes.finalizes :
    ∃ after, Call.ofConnection (command.finalize backend) link = (.ok (), after) := by
  unfold Call.ofConnection Command.finalize
  rw [EmbeddedSql.Call.bind_of_ok _ (Connection.ensureNotDisposed_of_live echoes.isLive),
    EmbeddedSql.Call.bind_apply, EmbeddedSql.Call.request_apply, laws.finalized echoes.holds]
  exact ⟨_, rfl⟩

end

/-! ## Queries -/

section
variable {database : DatabaseHandle} (isOpened : link.connection.lifecycle = .opened database)
  (keeps : laws.Keeps database link.engine)
include isOpened keeps

theorem prepare_echo {value : Json} (isProper : value.isProper)
    (fits : (argumentOf value).fits = true) :
    ∃ command bound, prepare backend echoSql [value] link = (.ok command, bound) ∧
      Echoes laws.toEchoing command (argumentOf value).value bound := by
  obtain ⟨command, created, creates, echoes⟩ := echoes_create isOpened keeps
  obtain ⟨state, binds, isBound⟩ := echoes.bindValue isProper fits
  refine ⟨command, _, ?_, isBound⟩
  have bindsAll : bindValues backend.engine backend.growth command.statement [value] created =
      (.ok (), { created with engine := state }) := by
    rw [bindValues, bindFrom, if_neg (by decide)]
    show ((bindValue backend.engine backend.growth command.statement 1 value >>= fun _ => pure ())
      created) = _
    rw [EmbeddedSql.Call.bind_of_ok _ binds]
    rfl
  rw [prepare, EmbeddedSql.Call.bind_of_ok _ creates, EmbeddedSql.Call.bind_apply,
    Command.dropOnError, bindsAll]
  rfl

theorem fetchAll_echo {value : Json} (isProper : value.isProper)
    (fits : (argumentOf value).fits = true) :
    ∃ name, (fetchAll backend echoSql [value] link).1 = .ok [[(name, value.normal)]] := by
  obtain ⟨command, bound, prepares, echoes⟩ := prepare_echo isOpened keeps isProper fits
  obtain ⟨name, read, readsAll, echoesRead⟩ := echoes.readRows
  obtain ⟨after, finalizes⟩ := echoesRead.finalizes
  refine ⟨name, ?_⟩
  rw [fetchAll, fetch_eq, EmbeddedSql.Call.bind_of_ok _ prepares, EmbeddedSql.Call.bind_apply,
    Command.dropOnError, readsAll]
  dsimp only
  rw [EmbeddedSql.Call.bind_of_ok _ finalizes, (argumentOf_exact isProper).2]
  rfl

theorem fetchAll_echo_long {value : Json} (isLong : (argumentOf value).fits = false) :
    (fetchAll backend echoSql [value] link).1 =
      .error (.connection (.bindFailed Status.tooBig)) := by
  obtain ⟨command, created, creates, echoes⟩ := echoes_create isOpened keeps
  obtain ⟨after, refuses⟩ := echoes.refuses isLong
  have bindsNone : bindValues backend.engine backend.growth command.statement [value] created =
      (.error (.connection (.bindFailed Status.tooBig)), after) := by
    rw [bindValues, bindFrom, if_neg (by decide)]
    exact EmbeddedSql.Call.bind_of_error _ refuses
  have prepares : ∃ last, prepare backend echoSql [value] link =
      (.error (.connection (.bindFailed Status.tooBig)), last) := by
    rw [prepare, EmbeddedSql.Call.bind_of_ok _ creates, EmbeddedSql.Call.bind_apply,
      Command.dropOnError, bindsNone]
    exact ⟨_, rfl⟩
  obtain ⟨last, prepares⟩ := prepares
  rw [fetchAll, fetch_eq, EmbeddedSql.Call.bind_of_error _ prepares]

end

end EmbeddedSql.Query

namespace EmbeddedSql

def Json.isStructured : Json → Bool
  | .array _ | .object _ => true
  | _ => false

theorem Json.of_isStructured {value : Json} (isStructured : value.isStructured = true) :
    value.isProper = true ∧ value.normal = .string value.toText ∧
      (Query.argumentOf value).value = .text (Utf8.ofString value.toText) := by
  cases value with
  | array elements => exact ⟨rfl, rfl, rfl⟩
  | object members => exact ⟨rfl, rfl, rfl⟩
  | _ => cases isStructured

namespace Session

variable {σ : Type} {backend : Backend σ} {session : Session σ} {command reader : String}
  {held : HeldCommand} {value : Value}

/-- A value is bound to a new command for `SELECT ?1`, and its row is read back. -/
def sending (connection command reader : String) (value : Json) : List Request :=
  [.connection connection (.createCommand command echoSql),
    .query (.bindValue command 1 value),
    .command command (.executeReader reader),
    .reader reader .read,
    .query (.columnJson reader 0)]

def sentBack (text : String) : List Response :=
  [.plain (.ok .nothing), .query (.ok .nothing), .plain (.ok .nothing),
    .plain (.ok (.boolean true)), .query (.ok (.value (.string text)))]

def refusedAtOnce : List Response :=
  [.plain (.ok .nothing), .query (.error (.failed (.connection (.bindFailed Status.tooBig))))]

theorem Echoes.bindValue {laws : Echoing backend.engine}
    (echoes : Echoes laws command reader held value session) {json : Json}
    (isProper : json.isProper) (fits : (Query.argumentOf json).fits = true) :
    ∃ after, perform backend session (.query (.bindValue command 1 json)) =
        (.query (.ok .nothing), after) ∧
      Echoes laws command reader held (Query.argumentOf json).value after := by
  obtain ⟨link, isLink, echoesHere⟩ := echoes.link
  obtain ⟨state, binds, isBound⟩ := echoesHere.bindValue isProper fits
  have isFree : session.freeCommand (ε := Query.Error) command = .ok held := by
    obtain ⟨isHeld, isUnread⟩ := of_freeCommand echoes.isFree
    exact freeCommand_of_unread isHeld isUnread
  refine ⟨session.setLink held.connection { link with engine := state }, ?_, ?_, ?_, ?_⟩
  · rw [perform_query, performQuery, onCommand_of_free isFree isLink, binds]
    rfl
  · rw [freeCommand_congr (setLink_commands ..) (setLink_readers ..)]
    exact echoes.isFree
  · rw [setLink_readers]
    exact echoes.isNew
  · obtain ⟨pool, isLast⟩ := link?_setLink isLink { link with engine := state }
    exact ⟨_, isLast, isBound.isLive, isBound.holds⟩

theorem Echoes.bindValue_long {laws : Echoing backend.engine}
    (echoes : Echoes laws command reader held value session) {json : Json}
    (isLong : (Query.argumentOf json).fits = false) :
    (perform backend session (.query (.bindValue command 1 json))).1 =
      .query (.error (.failed (.connection (.bindFailed Status.tooBig)))) := by
  obtain ⟨link, isLink, echoesHere⟩ := echoes.link
  obtain ⟨after, refuses⟩ := echoesHere.refuses isLong
  have isFree : session.freeCommand (ε := Query.Error) command = .ok held := by
    obtain ⟨isHeld, isUnread⟩ := of_freeCommand echoes.isFree
    exact freeCommand_of_unread isHeld isUnread
  rw [perform_query, performQuery, onCommand_of_free isFree isLink, refuses]
  rfl

theorem OnRow.columnJson {laws : Echoing backend.engine} {others : Registry HeldReader}
    {link : Link σ} {units : Utf16.Units}
    (onRow : OnRow laws command reader held value others link units session) :
    (perform backend session (.query (.columnJson reader 0))).1 =
      .query (.ok (.value (.string (Utf16.toString units)))) := by
  obtain ⟨form, spells, areReaders⟩ := onRow.readers
  let row : HeldReader := ⟨held.connection, some command,
    { held.command.reader with cursor := .onRow, cells := [.text form] }⟩
  have isFound : session.findReader (ε := Query.Error) reader = .ok row := by
    rw [findReader, areReaders, Registry.get?_insert_self]
  have isBelow : 0 < row.reader.count backend.engine
      { link with engine := (backend.engine.step held.command.statement link.engine).2 } :=
    onRow.echoes.isColumn rfl
  have isJson : Query.columnJson backend.engine row.reader 0
      { link with engine := (backend.engine.step held.command.statement link.engine).2 } =
        .ok (.string (Utf16.toString units)) := by
    rw [Query.columnJson, Reader.cell_of_row (by simp [onRow.echoes.isLive]) rfl isBelow,
      ← spells.toString]
    rfl
  rw [perform_query, performQuery, onReader_of_held isFound, access_takeOut_of_ok onRow.isLink isJson]

section
variable (laws : EchoingOnce backend.engine) {connection : String} {database : DatabaseHandle}
  (isOpened : session.lifecycle? connection = some (.opened database))
  (keeps : laws.Keeps database session.engine)
include isOpened keeps

theorem run_sending (isNew : session.commands.get? command = none)
    (isUnread : session.commandIsRead command = false)
    (isNewReader : session.readers.get? reader = none) {value : Json}
    (isStructured : value.isStructured = true) (fits : (Query.argumentOf value).fits = true) :
    (run backend session (sending connection command reader value)).1 =
      sentBack value.toText := by
  obtain ⟨isProper, -, isText⟩ := Json.of_isStructured isStructured
  obtain ⟨held, created, creates, echoes⟩ :=
    perform_createCommand_echo isOpened keeps isNew isUnread isNewReader
  obtain ⟨bound, binds, echoesBound⟩ := echoes.bindValue isProper fits
  rw [isText, ← Utf16.toUtf8_ofString] at echoesBound
  obtain ⟨link, onRow, reads, isOnRow⟩ :=
    echoesBound.read (Utf16.isWellFormed_encode value.toText.toList)
  have isString : Utf16.toString (Utf16.ofString value.toText) = value.toText := by
    rw [Utf16.toString, Utf16.ofString, Utf16.decode_encode, String.ofList_toList]
  have begins : run backend session
      [.connection connection (.createCommand command echoSql),
        .query (.bindValue command 1 value)] =
      ([.plain (.ok .nothing), .query (.ok .nothing)], bound) := by
    simp only [run, creates, binds]
  have ends : (run backend onRow [.query (.columnJson reader 0)]).1 =
      [.query (.ok (.value (.string value.toText)))] := by
    simp only [run, isOnRow.columnJson, isString]
  have isSplit : sending connection command reader value =
      ([.connection connection (.createCommand command echoSql),
        .query (.bindValue command 1 value)] : List Request) ++
      ([.command command (.executeReader reader), .reader reader .read] : List Request) ++
      ([.query (.columnJson reader 0)] : List Request) := rfl
  rw [isSplit, run_append, run_append, begins, reads]
  dsimp only
  rw [ends]
  rfl

theorem run_sending_long (isNew : session.commands.get? command = none)
    (isUnread : session.commandIsRead command = false)
    (isNewReader : session.readers.get? reader = none) {value : Json}
    (isLong : (Query.argumentOf value).fits = false) :
    (run backend session (sending connection command reader value)).1.take 2 = refusedAtOnce := by
  obtain ⟨held, created, creates, echoes⟩ :=
    perform_createCommand_echo isOpened keeps isNew isUnread isNewReader
  simp only [sending, run, creates, echoes.bindValue_long isLong]
  rfl

theorem perform_fetchAll_long {value : Json} (isLong : (Query.argumentOf value).fits = false) :
    (perform backend session (.query (.fetchAll connection echoSql [value]))).1 =
      .query (.error (.failed (.connection (.bindFailed Status.tooBig)))) := by
  obtain ⟨found, isFound, isLifecycle⟩ := Option.map_eq_some_iff.mp isOpened
  let link : Link σ := ⟨found.connection, session.pool found.pool, session.engine⟩
  have isLink : session.link? connection = some link := link?_of_held isFound
  have isLinked : link.connection.lifecycle = .opened database := isLifecycle
  have fails := Query.fetchAll_echo_long isLinked keeps isLong
  rw [perform_query, performQuery, onConnection_of_link isLink, replying]
  dsimp only
  rw [fails]
  rfl

theorem perform_fetchAll_echo {value : Json} (isStructured : value.isStructured = true)
    (fits : (Query.argumentOf value).fits = true) :
    ∃ name, (perform backend session (.query (.fetchAll connection echoSql [value]))).1 =
      .query (.ok (.rows [[(name, .string value.toText)]])) := by
  obtain ⟨isProper, isNormal, -⟩ := Json.of_isStructured isStructured
  obtain ⟨found, isFound, isLifecycle⟩ := Option.map_eq_some_iff.mp isOpened
  let link : Link σ := ⟨found.connection, session.pool found.pool, session.engine⟩
  have isLink : session.link? connection = some link := link?_of_held isFound
  have isLinked : link.connection.lifecycle = .opened database := isLifecycle
  obtain ⟨name, fetches⟩ := Query.fetchAll_echo isLinked keeps isProper fits
  refine ⟨name, ?_⟩
  rw [perform_query, performQuery, onConnection_of_link isLink, replying]
  dsimp only
  rw [fetches, isNormal]
  rfl

end

/-- An array or an object, whatever is in it, comes back as a text that is read as the value that
it was, by its column and in all rows. No other value comes back as the same text. A value whose
text is too long is refused when it is bound. -/
theorem structured_kept (laws : EchoingOnce backend.engine) {connection command reader : String}
    {database : DatabaseHandle} (isOpened : session.lifecycle? connection = some (.opened database))
    (keeps : laws.Keeps database session.engine) (isNew : session.commands.get? command = none)
    (isUnread : session.commandIsRead command = false)
    (isNewReader : session.readers.get? reader = none) {value : Json}
    (isStructured : value.isStructured = true) (isPlain : value.IsPlain) :
    let send (value : Json) := (run backend session (sending connection command reader value)).1
    let fetch (value : Json) :=
      (perform backend session (.query (.fetchAll connection echoSql [value]))).1
    ((Query.argumentOf value).fits = true →
      (∃ text, Json.ofText? text = some value ∧ send value = sentBack text ∧
        ∃ name, fetch value = .query (.ok (.rows [[(name, .string text)]]))) ∧
      ∀ other : Json, other.isStructured = true → other.IsPlain → other ≠ value →
        send other ≠ send value ∧ fetch other ≠ fetch value) ∧
    ((Query.argumentOf value).fits = false →
      (send value).take 2 = refusedAtOnce ∧
        fetch value = .query (.error (.failed (.connection (.bindFailed Status.tooBig))))) := by
  intro send fetch
  have sends {value : Json} (isStructured : value.isStructured = true)
      (fits : (Query.argumentOf value).fits = true) : send value = sentBack value.toText :=
    run_sending laws isOpened keeps isNew isUnread isNewReader isStructured fits
  have fetches {value : Json} (isStructured : value.isStructured = true)
      (fits : (Query.argumentOf value).fits = true) :
      ∃ name, fetch value = .query (.ok (.rows [[(name, .string value.toText)]])) :=
    perform_fetchAll_echo laws isOpened keeps isStructured fits
  have refuses {value : Json} (isLong : (Query.argumentOf value).fits = false) :
      (send value).take 2 = refusedAtOnce ∧
        fetch value = .query (.error (.failed (.connection (.bindFailed Status.tooBig)))) :=
    ⟨run_sending_long laws isOpened keeps isNew isUnread isNewReader isLong,
      perform_fetchAll_long laws isOpened keeps isLong⟩
  refine ⟨fun fits => ⟨?_, ?_⟩, refuses⟩
  · exact ⟨value.toText, isPlain.ofText?_toText, sends isStructured fits,
      fetches isStructured fits⟩
  intro other isOtherStructured isOtherPlain isOther
  obtain ⟨name, isFetched⟩ := fetches isStructured fits
  cases isOtherLong : (Query.argumentOf other).fits with
  | false =>
      obtain ⟨isRefused, fails⟩ := refuses isOtherLong
      constructor
      · intro same
        rw [same, sends isStructured fits] at isRefused
        simp [sentBack, refusedAtOnce] at isRefused
      · rw [fails, isFetched]
        simp
  | true =>
      have isOtherText : other.toText ≠ value.toText := by
        intro same
        have isRead := isOtherPlain.ofText?_toText
        rw [same, isPlain.ofText?_toText] at isRead
        exact isOther (Option.some.inj isRead).symm
      constructor
      · rw [sends isOtherStructured isOtherLong, sends isStructured fits]
        simpa [sentBack] using isOtherText
      · obtain ⟨otherName, isOtherFetched⟩ := fetches isOtherStructured isOtherLong
        rw [isFetched, isOtherFetched]
        simp [isOtherText]

/-- Quotes, backslashes, a control, a line separator and a pair, in keys and in texts. -/
def oddObject : Json :=
  .object [("\"\u2028", .array [.integer (-7), .string "\\\x01😀", .boolean true]), ("k", .null)]

theorem oddObject_isPlain : oddObject.IsPlain := by
  refine .object (by decide) (List.forall_mem_cons.mpr ⟨.array ?_, ?_⟩)
  · exact List.forall_mem_cons.mpr
      ⟨.integer, List.forall_mem_cons.mpr ⟨.string, List.forall_mem_singleton.mpr .boolean⟩⟩
  · exact List.forall_mem_singleton.mpr .null

example : oddObject.toText =
    "\x7b\"\\\"\u2028\":[-7,\"\\\\\\u0001😀\",true],\"k\":null\x7d" := by
  decide +kernel

theorem structured_kept_oddObject :
    ∃ text, Json.ofText? text = some oddObject ∧
      (run Storage.backend opened (sending "c" "k" "r" oddObject)).1 = sentBack text ∧
      (∃ name, (perform Storage.backend opened
        (.query (.fetchAll "c" echoSql [oddObject]))).1 =
          .query (.ok (.rows [[(name, .string text)]]))) ∧
      (run Storage.backend opened (sending "c" "k" "r" (.array []))).1 ≠ sentBack text := by
  have isFresh : Storage.custody.Shows {} .none := Storage.custody_empty
  have sound : Sound Storage.custody.toLedger opened :=
    run_sound (sound_of_nothing isFresh.1 isFresh.2) _
  have isOpened : opened.lifecycle? "c" = some (.opened ⟨0⟩) := by decide +kernel
  have keeps : Storage.echoingOnce.Keeps ⟨0⟩ opened.engine := ⟨sound.valid, _, rfl, rfl, rfl⟩
  have isNew : opened.commands.get? "k" = none := rfl
  have isNewReader : opened.readers.get? "r" = none := rfl
  have fits : (Query.argumentOf oddObject).fits = true := by decide +kernel
  obtain ⟨⟨text, isRead, sends, fetches⟩, differs⟩ := (structured_kept Storage.echoingOnce
    isOpened keeps isNew rfl isNewReader rfl oddObject_isPlain).1 fits
  have isOther := (differs (.array []) rfl (.array nofun) nofun).1
  exact ⟨text, isRead, sends, fetches, sends ▸ isOther⟩

end Session

end EmbeddedSql
