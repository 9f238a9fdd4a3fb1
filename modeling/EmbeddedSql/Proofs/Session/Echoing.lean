import EmbeddedSql.Proofs.Connection.Cell
import EmbeddedSql.Proofs.Query.Normal
import EmbeddedSql.Proofs.Session.Naming
import EmbeddedSql.Proofs.Session.Repeating

/-! Main result: well-formed UTF-16 text that goes through `SELECT ?1` comes back as it was, but
for U+FFFE and U+FFFF, which its UTF-16 form loses. -/

namespace EmbeddedSql

/-! ## Texts in a cell -/

def Utf16.toString (units : Utf16.Units) : String :=
  String.ofList (decode units)

structure TextForm.Spells (units : Utf16.Units) (form : TextForm) : Prop where
  isWellFormed : Utf16.IsWellFormed units
  utf8 : form.toUtf8 = Utf16.toUtf8 units
  utf16 : form.toUtf16 = units.map Lenient.keptUnit

namespace TextForm.Spells

variable {units : Utf16.Units} {form : TextForm}

theorem ofUtf8 (isWellFormed : Utf16.IsWellFormed units) :
    Spells units ⟨.utf8, Utf16.toUtf8 units⟩ :=
  ⟨isWellFormed, rfl, Lenient.toUtf16_of_wellFormed isWellFormed⟩

theorem narrow (spells : Spells units form) : Spells units (form.into .utf8) := by
  have converted := TextForm.texts_into .utf8 form
  refine ⟨spells.isWellFormed, (congrArg Prod.fst converted).trans spells.utf8, ?_⟩
  refine (congrArg Prod.snd converted).trans ?_
  show Lenient.toUtf16 form.toUtf8 = _
  rw [spells.utf8]
  exact Lenient.toUtf16_of_wellFormed spells.isWellFormed

theorem wide (spells : Spells units form) :
    Spells (units.map Lenient.keptUnit) (form.into .utf16LittleEndian) := by
  have isWellFormed := Lenient.isWellFormed_map_keptUnit spells.isWellFormed
  have converted := TextForm.texts_into .utf16LittleEndian form
  refine ⟨isWellFormed, ?_, ?_⟩
  · refine (congrArg Prod.fst converted).trans ?_
    show Lenient.toUtf8 form.toUtf16 = _
    rw [spells.utf16]
    exact Lenient.toUtf8_of_wellFormed isWellFormed
  · refine (congrArg Prod.snd converted).trans ?_
    show form.toUtf16 = _
    rw [spells.utf16, List.map_map]
    exact List.map_congr_left fun unit _ => (Lenient.keptUnit_keptUnit unit).symm

theorem toString (spells : Spells units form) : Utf8.toString form.toUtf8 = Utf16.toString units := by
  rw [spells.utf8, Utf8.toString, Utf16.toUtf8, Utf8.decode_encode]
  rfl

end TextForm.Spells

namespace Session

/-! ## Trips -/

inductive Form where
  | narrow
  | wide
deriving DecidableEq

namespace Form

def request : Form → ReaderRequest
  | .narrow => .string 0
  | .wide => .utf16 0

def answer (units : Utf16.Units) : Form → Answer
  | .narrow => .string (some (Utf16.toString units))
  | .wide => .utf16 (units.map Lenient.keptUnit)

def left (units : Utf16.Units) : Form → Utf16.Units
  | .narrow => units
  | .wide => units.map Lenient.keptUnit

end Form

/-- A text is bound, the command is run, and the text of its row is taken in these forms, one
after the other. -/
structure Trip where
  units : Utf16.Units
  forms : List Form

namespace Trip

def argument (trip : Trip) : Argument :=
  .text (.utf8 (Utf16.toUtf8 trip.units))

def requests (command reader : String) (trip : Trip) : List Request :=
  [.command command (.bindText (.index 1) (.utf16 trip.units)),
      .command command (.executeReader reader), .reader reader .read] ++
    trip.forms.map (fun form => .reader reader form.request) ++ [.reader reader .dispose]

/-- What is taken of a text. To take it as UTF-16 replaces the two noncharacters, from then on
in both forms. -/
def taken : Utf16.Units → List Form → List Answer
  | _, [] => []
  | units, form :: rest => form.answer units :: taken (form.left units) rest

def answers (trip : Trip) : List Answer :=
  [.nothing, .nothing, .boolean true] ++ taken trip.units trip.forms ++ [.nothing]

end Trip

/-! ## Runs -/

variable {σ : Type} {backend : Backend σ} {session : Session σ}

theorem run_append (session : Session σ) (requests rest : List Request) :
    run backend session (requests ++ rest) =
      ((run backend session requests).1 ++ (run backend (run backend session requests).2 rest).1,
        (run backend (run backend session requests).2 rest).2) := by
  induction requests generalizing session with
  | nil => rfl
  | cons request requests induction => simp only [List.cons_append, run, induction]

def answered (answers : List Answer) : List Response :=
  answers.map fun answer => .plain (.ok answer)

variable {laws : Echoing backend.engine} {command reader : String} {held : HeldCommand}
  {value : Value}

/-- The command is one of the query, and nobody reads it. -/
structure Echoes (laws : Echoing backend.engine) (command reader : String) (held : HeldCommand)
    (value : Value) (session : Session σ) : Prop where
  isFree : session.freeCommand (ε := Error) command = .ok held
  isNew : session.readers.get? reader = none
  link : ∃ link, session.link? held.connection = some link ∧
    Query.Echoes laws held.command value link

theorem Echoes.bindText (echoes : Echoes laws command reader held value session)
    {units : Utf16.Units} (fits : (Argument.text (.utf8 (Utf16.toUtf8 units))).fits = true) :
    ∃ after, perform backend session (.command command (.bindText (.index 1) (.utf16 units))) =
        (.plain (.ok .nothing), after) ∧
      Echoes laws command reader held (.text (Utf16.toUtf8 units)) after := by
  obtain ⟨link, isLink, echoesHere⟩ := echoes.link
  obtain ⟨pool, binds⟩ := perform_binding backend echoes.isFree isLink echoesHere.isLive
    (.index 1) (.inr (.utf16 units))
  let argument : Argument := .text (.utf8 (Utf16.toUtf8 units))
  let bound := backend.engine.give held.command.statement 1 argument link.engine
  obtain ⟨isOk, holds⟩ : bound.1 = Status.ok ∧
      laws.Holds held.command.statement argument.value bound.2 := by
    rw [show bound = _ from congrFun (backend.engine.give_of_fits fits _ _) link.engine]
    exact laws.bound echoesHere.holds rfl fits
  let last : Link σ := { link with pool, engine := bound.2 }
  refine ⟨session.setLink held.connection last, ?_, ?_, ?_, ?_⟩
  · refine binds.trans (Prod.ext ?_ rfl)
    show Response.plain (((Parameter.result bound.1).mapError .failed).map fun _ => .nothing) = _
    rw [isOk]
    rfl
  · rw [freeCommand_congr (setLink_commands ..) (setLink_readers ..)]
    exact echoes.isFree
  · rw [setLink_readers]
    exact echoes.isNew
  · obtain ⟨pool, isLast⟩ := link?_setLink isLink last
    exact ⟨_, isLast, echoesHere.isLive, holds⟩

/-- The reader is on the row of the query, whose text is kept in some form. -/
structure OnRow (laws : Echoing backend.engine) (command reader : String) (held : HeldCommand)
    (value : Value) (others : Registry HeldReader) (link : Link σ) (units : Utf16.Units)
    (session : Session σ) : Prop where
  isHeld : session.commands.get? command = some held
  isUnread : others.any (·.2.command = some command) = false
  isNew : others.get? reader = none
  isLink : session.link? held.connection = some
    { link with engine := (backend.engine.step held.command.statement link.engine).2 }
  echoes : Query.Echoes laws held.command value link
  readers : ∃ form : TextForm, form.Spells units ∧
    session.readers = others.insert reader ⟨held.connection, some command,
      { held.command.reader with cursor := .onRow, cells := [.text form] }⟩

theorem Echoes.read {units : Utf16.Units}
    (echoes : Echoes laws command reader held (.text (Utf16.toUtf8 units)) session)
    (isWellFormed : Utf16.IsWellFormed units) :
    ∃ link last,
      run backend session [.command command (.executeReader reader), .reader reader .read] =
          (answered [.nothing, .boolean true], last) ∧
        OnRow laws command reader held (.text (Utf16.toUtf8 units)) session.readers link units
          last := by
  obtain ⟨isHeld, isUnread⟩ := of_freeCommand echoes.isFree
  obtain ⟨link, isLink, echoesHere⟩ := echoes.link
  obtain ⟨pool, isNext⟩ := link?_setLink isLink link
  have echoesNext : Query.Echoes laws held.command (.text (Utf16.toUtf8 units)) { link with pool } :=
    ⟨echoesHere.isLive, echoesHere.holds⟩
  let made : HeldReader := ⟨held.connection, some command, held.command.reader⟩
  let next : Session σ := { session.setLink held.connection link with
    readers := session.readers.insert reader made }
  have executes : perform backend session (.command command (.executeReader reader)) =
      (.plain (.ok .nothing), next) :=
    perform_executeReader echoes.isFree isLink echoesHere.isLive echoes.isNew
  have isMade : next.readers.get? reader = some made := Registry.get?_insert_self ..
  have isNextLink : next.link? held.connection = some { link with pool } := isNext
  let stepped : Link σ :=
    { link with pool, engine := (backend.engine.step held.command.statement link.engine).2 }
  let onRow : HeldReader := { made with
    reader := { held.command.reader with
      cursor := .onRow, cells := [.text ⟨.utf8, Utf16.toUtf8 units⟩] } }
  let last : Session σ := { next.setLink held.connection stepped with
    readers := next.readers.insert reader onRow }
  have reads : perform backend next (.reader reader .read) =
      (.plain (.ok (.boolean true)), last) := by
    rw [perform_read isMade isNextLink, echoesNext.reads]
    rfl
  obtain ⟨lastPool, isLast⟩ := link?_setLink isNextLink stepped
  refine ⟨{ link with pool := lastPool }, last, ?_, ?_, isUnread, echoes.isNew, isLast,
    ⟨echoesHere.isLive, echoesHere.holds⟩, _, .ofUtf8 isWellFormed, Registry.insert_insert ..⟩
  · simp only [run, executes, reads]
    rfl
  · show (next.setLink held.connection stepped).commands.get? command = some held
    rw [setLink_commands]
    show (session.setLink held.connection link).commands.get? command = some held
    rw [setLink_commands, isHeld]

namespace OnRow

variable {others : Registry HeldReader} {link : Link σ} {units : Utf16.Units}

theorem take (onRow : OnRow laws command reader held value others link units session)
    (form : Form) :
    ∃ last, perform backend session (.reader reader form.request) =
        (.plain (.ok (form.answer units)), last) ∧
      OnRow laws command reader held value others link (form.left units) last := by
  obtain ⟨kept, spells, isRow⟩ := onRow.readers
  let now : Link σ :=
    { link with engine := (backend.engine.step held.command.statement link.engine).2 }
  let row (form : TextForm) : HeldReader := ⟨held.connection, some command,
    { held.command.reader with cursor := .onRow, cells := [.text form] }⟩
  have isThere : session.readers.get? reader = some (row kept) := by
    rw [isRow]
    exact Registry.get?_insert_self ..
  have isBelow : 0 < (row kept).reader.count backend.engine now := onRow.echoes.isColumn rfl
  have isIndex : (row kept).reader.rowColumn backend.engine 0 now = .ok (.ofNat 0) :=
    Reader.rowColumn_of_row (by simp [now, onRow.echoes.isLive]) rfl isBelow
  have becomes (next : TextForm) (spells : next.Spells (form.left units)) :
      OnRow laws command reader held value others link (form.left units)
        { session with readers := session.readers.insert reader (row next) } :=
    { onRow with readers := ⟨next, spells, by rw [isRow, Registry.insert_insert]⟩ }
  have isCell : (row kept).reader.cellAt (.ofNat 0) = .text kept := Reader.cellAt_narrowed isBelow
  have keeps (next : TextForm) :
      (row kept).reader.keepCell (.ofNat 0) (.text next) = (row next).reader :=
    Reader.keepCell_narrowed isBelow _
  have isColumn : form.request.column? = some 0 := by cases form <;> rfl
  rw [perform_accessor isThere onRow.isLink (ReaderRequest.isAccessor_of_column isColumn),
    accessor_eq isColumn]
  cases form with
  | narrow =>
      have isFound : index backend.engine Form.narrow.request (row kept).reader 0 now =
          .ok (.ofNat 0) := isIndex
      refine ⟨_, ?_, becomes _ spells.narrow⟩
      have isText : (Cell.text kept).utf8.1 = kept.toUtf8 := Cell.utf8_of_held rfl
      have isLeft : (Cell.text kept).utf8.2 = .text (kept.into .utf8) := rfl
      rw [isFound]
      simp only [Form.request, found, isCell, Form.answer, ← spells.toString, isText, isLeft, keeps]
      rfl
  | wide =>
      have isFound : index backend.engine Form.wide.request (row kept).reader 0 now =
          .ok (.ofNat 0) := isIndex
      refine ⟨_, ?_, becomes _ spells.wide⟩
      have isText : (Cell.text kept).utf16.1 = kept.toUtf16 := Cell.utf16_of_held rfl
      have isLeft : (Cell.text kept).utf16.2 = .text (kept.into .utf16LittleEndian) := rfl
      rw [isFound]
      simp only [Form.request, found, isCell, Form.answer, ← spells.utf16, isText, isLeft, keeps]
      rfl

theorem takeEach (onRow : OnRow laws command reader held value others link units session)
    (forms : List Form) :
    ∃ left last, run backend session (forms.map fun form => .reader reader form.request) =
        (answered (Trip.taken units forms), last) ∧
      OnRow laws command reader held value others link left last := by
  induction forms generalizing session units with
  | nil => exact ⟨units, session, rfl, onRow⟩
  | cons form rest induction =>
      obtain ⟨next, takes, onNext⟩ := onRow.take form
      obtain ⟨left, last, takesRest, onLast⟩ := induction onNext
      refine ⟨left, last, ?_, onLast⟩
      simp only [List.map_cons, run, takes, takesRest]
      rfl

theorem dispose (onRow : OnRow laws command reader held value others link units session) :
    ∃ last, perform backend session (.reader reader .dispose) = (.plain (.ok .nothing), last) ∧
      Echoes laws command reader held value last := by
  obtain ⟨kept, -, isRow⟩ := onRow.readers
  let row : HeldReader := ⟨held.connection, some command,
    { held.command.reader with cursor := .onRow, cells := [.text kept] }⟩
  have isThere : session.readers.get? reader = some row := by
    rw [isRow]
    exact Registry.get?_insert_self ..
  have isGone : session.readers.erase reader = others := by
    rw [isRow, Registry.erase_insert, Registry.erase_of_missing onRow.isNew]
  let disposed : Link σ := row.reader.dispose backend.engine
    { link with engine := (backend.engine.step held.command.statement link.engine).2 }
  let last : Session σ := { session.setLink held.connection disposed with readers := others }
  have echoes : Query.Echoes laws held.command value disposed := onRow.echoes.disposes rfl rfl
  obtain ⟨pool, isLast⟩ := link?_setLink onRow.isLink disposed
  have isHeld : last.commands.get? command = some held := by
    show (session.setLink held.connection disposed).commands.get? command = some held
    rw [setLink_commands, onRow.isHeld]
  refine ⟨last, ?_, freeCommand_of_unread isHeld onRow.isUnread, onRow.isNew, _, isLast,
    echoes.isLive, echoes.holds⟩
  rw [performReader_of_held isThere]
  unfold useReader
  dsimp only
  rw [onRow.isLink]
  dsimp only
  rw [setLink_readers, isGone]

end OnRow

theorem Echoes.trip (echoes : Echoes laws command reader held value session) {trip : Trip}
    (isWellFormed : Utf16.IsWellFormed trip.units) (fits : trip.argument.fits = true) :
    ∃ last, run backend session (trip.requests command reader) = (answered trip.answers, last) ∧
      ∃ value, Echoes laws command reader held value last := by
  obtain ⟨bound, binds, echoesBound⟩ := echoes.bindText fits
  obtain ⟨link, opened, reads, onRow⟩ := echoesBound.read isWellFormed
  obtain ⟨left, taken, takes, onLast⟩ := onRow.takeEach trip.forms
  obtain ⟨last, disposes, echoesLast⟩ := onLast.dispose
  refine ⟨last, ?_, _, echoesLast⟩
  have begins : run backend session [.command command (.bindText (.index 1) (.utf16 trip.units)),
      .command command (.executeReader reader), .reader reader .read] =
        (answered [.nothing, .nothing, .boolean true], opened) := by
    rw [run, binds]
    dsimp only
    rw [reads]
    rfl
  rw [Trip.requests, run_append, run_append, begins]
  dsimp only
  rw [takes, run, disposes]
  simp [run, answered, Trip.answers]

section
variable {connection : String} {database : DatabaseHandle}
  (isOpened : session.lifecycle? connection = some (.opened database))
  (keeps : laws.Keeps database session.engine) (isNew : session.commands.get? command = none)
  (isUnread : session.commandIsRead command = false)
  (isNewReader : session.readers.get? reader = none)
include isOpened keeps isNew isUnread isNewReader

theorem perform_createCommand_echo :
    ∃ held last, perform backend session
        (.connection connection (.createCommand command echoSql)) =
          (.plain (.ok .nothing), last) ∧
      Echoes laws command reader held .null last := by
  obtain ⟨found, isFound, isLifecycle⟩ := Option.map_eq_some_iff.mp isOpened
  let link : Link σ := ⟨found.connection, session.pool found.pool, session.engine⟩
  have isLink : session.link? connection = some link := link?_of_held isFound
  have keepsLink : laws.Keeps database link.engine := keeps
  obtain ⟨made, after, creates, echoes⟩ := Query.echoes_createCommand isLifecycle keepsLink
  have isFreeName : newName (ε := Error) session.commands command = .ok () :=
    newName_of_missing isNew
  let held : HeldCommand := ⟨connection, made⟩
  let last : Session σ := { session.setLink connection after with
    commands := session.commands.insert command held }
  obtain ⟨pool, isLast⟩ := link?_setLink isLink after
  have isUnreadLast : last.commandIsRead command = false := by
    show (session.setLink connection after).commandIsRead command = false
    rw [commandIsRead, setLink_readers]
    exact isUnread
  refine ⟨held, last, ?_, freeCommand_of_unread (Registry.get?_insert_self ..) isUnreadLast, ?_, _,
    isLast, echoes.isLive, echoes.holds⟩
  · simp only [perform, performConnection, isFreeName, onConnection_of_link isLink, creates]
    simp only [keeping, Except.mapError, setLink_commands]
    rfl
  · show (session.setLink connection after).readers.get? reader = none
    rw [setLink_readers, isNewReader]

end

def opened : Session Storage.Store :=
  (run Storage.backend { engine := {} }
    [.connection "c" (.connect none none none), .connection "c" .ensureOpen]).2

end Session

end EmbeddedSql
