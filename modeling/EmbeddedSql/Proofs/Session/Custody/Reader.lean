import EmbeddedSql.Proofs.Query.Custody
import EmbeddedSql.Proofs.Session.Sound

/-! Whatever is asked of a reader, the books stay in order. -/

namespace EmbeddedSql.Session

variable {σ τ ε α β : Type} {backend : Backend σ} {image : Backend τ}

/-! ## Accessors -/

section
variable (mirror : Mirror backend.engine image.engine)

/-- What is read depends on nothing but what the engines agree on, and the reader keeps its
statement. -/
structure Accesses (accessor : Reader → Link σ → α × Reader)
    (accessorImage : Reader → Link τ → α × Reader) : Prop where
  same : ∀ {reader link state}, mirror.Suits reader.statement link state →
    accessorImage reader (link.withEngine state) = accessor reader link
  statement : ∀ reader link, (accessor reader link).2.statement = reader.statement
  release : ∀ reader link, (accessor reader link).2.release = reader.release

namespace Accesses

variable {mirror} {accessor : Reader → Link σ → α × Reader}
  {accessorImage : Reader → Link τ → α × Reader}

theorem pure (answer : α) :
    Accesses mirror (fun reader _ => (answer, reader)) (fun reader _ => (answer, reader)) where
  same _ := rfl
  statement _ _ := rfl
  release _ _ := rfl

theorem bind {next : α → Reader → Link σ → β × Reader} {nextImage : α → Reader → Link τ → β × Reader}
    (first : Accesses mirror accessor accessorImage)
    (rest : ∀ answer, Accesses mirror (next answer) (nextImage answer)) :
    Accesses mirror
      (fun reader link => next (accessor reader link).1 (accessor reader link).2 link)
      (fun reader link =>
        nextImage (accessorImage reader link).1 (accessorImage reader link).2 link) where
  same {reader link state} suits := by
    have stays : mirror.Suits (accessor reader link).2.statement link state := by
      rwa [first.statement]
    rw [first.same suits, (rest _).same stays]
  statement reader link := by
    rw [(rest _).statement, first.statement]
  release reader link := by
    rw [(rest _).release, first.release]

theorem map (first : Accesses mirror accessor accessorImage) (answer : α → β) :
    Accesses mirror
      (fun reader link => (answer (accessor reader link).1, (accessor reader link).2))
      (fun reader link =>
        (answer (accessorImage reader link).1, (accessorImage reader link).2)) :=
  first.bind fun value => .pure (answer value)

theorem look {view : Reader → Link σ → Except Error α} {viewImage : Reader → Link τ → Except Error α}
    (answer : α → Answer)
    (same : ∀ {reader link state}, mirror.Suits reader.statement link state →
      viewImage reader (link.withEngine state) = view reader link) :
    Accesses mirror (look answer view) (look answer viewImage) where
  same suits := by rw [Session.look, same suits, Session.look]
  statement _ _ := rfl
  release _ _ := rfl

theorem takeOut {view : Reader → Link σ → Except ε α} {viewImage : Reader → Link τ → Except ε α}
    (answer : α → QueryAnswer) (leave : List Cell → List Cell)
    (same : ∀ {reader link state}, mirror.Suits reader.statement link state →
      viewImage reader (link.withEngine state) = view reader link) :
    Accesses mirror (takeOut answer view leave) (takeOut answer viewImage leave) where
  same suits := by rw [Session.takeOut, same suits, Session.takeOut]
  statement reader link := by
    obtain ⟨cells, isKept⟩ := takeOut_cells answer view leave reader link
    rw [isKept]
  release reader link := by
    obtain ⟨cells, isKept⟩ := takeOut_cells answer view leave reader link
    rw [isKept]

theorem name (answer : α → Answer) (column : Nat) (view : Except Error Bytes → Except Error α) :
    Accesses mirror
      (Session.look answer fun reader link => view (reader.name backend.engine column link))
      (Session.look answer fun reader link => view (reader.name image.engine column link)) :=
  look answer fun suits => by rw [suits.name]

theorem cell (answer : α → Answer) (column : Nat) (view : Except Error Cell → Except Error α) :
    Accesses mirror
      (Session.look answer fun reader link => view (reader.cell backend.engine column link))
      (Session.look answer fun reader link => view (reader.cell image.engine column link)) :=
  look answer fun suits => by rw [suits.cell]

theorem cellReport (column : Nat) (report : Except Error Cell → Except Error Answer) :
    Accesses mirror
      (fun reader link => (report (reader.cell backend.engine column link), reader))
      (fun reader link => (report (reader.cell image.engine column link), reader)) where
  same suits := by rw [suits.cell]
  statement _ _ := rfl
  release _ _ := rfl

theorem take (accessor : Cell → α × Cell) (column : Nat) :
    Accesses mirror (fun reader => reader.take backend.engine accessor column)
      (fun reader => reader.take image.engine accessor column) where
  same suits := suits.take accessor column
  statement reader link := by
    rw [Reader.take_eq]
    split <;> rfl
  release reader link := by
    rw [Reader.take_eq]
    split <;> rfl

theorem string (column : Nat) :
    Accesses mirror (fun reader => reader.string backend.engine column)
      (fun reader => reader.string image.engine column) :=
  (take Cell.utf8 column).map (Except.map Utf8.toString)

theorem utf16 (column : Nat) :
    Accesses mirror (fun reader => reader.utf16 backend.engine column)
      (fun reader => reader.utf16 image.engine column) :=
  take Cell.utf16 column

/-! ## Whole rows -/

theorem columnReport (withBytes : Bool) (column : Nat) :
    Accesses mirror (fun reader => columnReport backend withBytes reader column)
      (fun reader => columnReport image withBytes reader column) := by
  have strings : Accesses mirror (fun reader => reader.string backend.engine column) _ :=
    string column
  have wides : Accesses mirror (fun reader => reader.utf16 backend.engine column) _ :=
    utf16 column
  refine ⟨fun {reader link state} suits => ?_, fun reader link => ?_, fun reader link => ?_⟩
  · unfold Session.columnReport
    simp only [Reader.storageClass, Reader.isNull, Reader.int32, Reader.int64, Reader.real,
      Reader.bytes, suits.cell]
    split
    · rfl
    · have stays : mirror.Suits (reader.string backend.engine column link).2.statement link state := by
        rwa [strings.statement]
      rw [strings.same suits, wides.same stays]
  · unfold Session.columnReport
    dsimp only
    split
    · rfl
    · exact (wides.statement _ link).trans (strings.statement reader link)
  · unfold Session.columnReport
    dsimp only
    split
    · rfl
    · exact (wides.release _ link).trans (strings.release reader link)

theorem columnReports (withBytes : Bool) (left column : Nat) :
    Accesses mirror
      (fun reader link => columnReports backend withBytes link left column reader)
      (fun reader link => columnReports image withBytes link left column reader) := by
  induction left generalizing column with
  | zero => exact pure _
  | succ left induction =>
      have first : Accesses mirror (fun reader => Session.columnReport backend withBytes reader column)
          _ := columnReport withBytes column
      have rest := induction (column + 1)
      refine ⟨fun {reader link state} suits => ?_, fun reader link => ?_, fun reader link => ?_⟩
      · have stays : mirror.Suits
            (Session.columnReport backend withBytes reader column link).2.statement link state := by
          rwa [first.statement]
        unfold Session.columnReports
        rw [first.same suits]
        rcases outcome : Session.columnReport backend withBytes reader column link with
          ⟨error | report, next⟩
        · rfl
        · rw [outcome] at stays
          dsimp only
          rw [rest.same stays]
      · unfold Session.columnReports
        have kept := first.statement reader link
        split <;> rename_i outcome <;> rw [outcome] at kept
        · exact kept
        · exact (rest.statement _ link).trans kept
      · unfold Session.columnReports
        have kept := first.release reader link
        split <;> rename_i outcome <;> rw [outcome] at kept
        · exact kept
        · exact (rest.release _ link).trans kept

theorem row (withBytes : Bool) :
    Accesses mirror
      (fun reader link =>
        match reader.columnCount backend.engine link with
        | .error error => (.error error, reader)
        | .ok count =>
            let (reports, reader) := Session.columnReports backend withBytes link count 0 reader
            (reports.map Answer.row, reader))
      (fun reader link =>
        match reader.columnCount image.engine link with
        | .error error => (.error error, reader)
        | .ok count =>
            let (reports, reader) := Session.columnReports image withBytes link count 0 reader
            (reports.map Answer.row, reader)) where
  same {reader link state} suits := by
    dsimp only
    rw [suits.columnCount]
    cases reader.columnCount backend.engine link with
    | error error => rfl
    | ok count =>
        dsimp only
        rw [(columnReports withBytes count 0).same suits]
  statement reader link := by
    dsimp only
    split
    · rfl
    · rename_i count _
      have reports : Accesses mirror _ _ := columnReports withBytes count 0
      exact reports.statement reader link
  release reader link := by
    dsimp only
    split
    · rfl
    · rename_i count _
      have reports : Accesses mirror _ _ := columnReports withBytes count 0
      exact reports.release reader link

theorem names :
    Accesses mirror
      (Session.look .strings fun reader link => do
        let count ← reader.columnCount backend.engine link
        (List.range count).mapM (reader.nameString backend.engine · link))
      (Session.look .strings fun reader link => do
        let count ← reader.columnCount image.engine link
        (List.range count).mapM (reader.nameString image.engine · link)) :=
  look _ fun suits => by
    simp only [suits.columnCount, Reader.nameString, suits.name]

end Accesses

end

/-! ## Readers in a session -/

section
variable {mirror : Mirror backend.engine image.engine} {session : Session σ} {state : τ}
  (sound : Sound mirror.toLedger session) (same : mirror.Same session.engine state)
include sound same

theorem suits_of_reader {name : String} {held : HeldReader} {link : Link σ}
    (isHeld : session.readers.get? name = some held)
    (isLink : session.link? held.connection = some link) :
    mirror.Suits held.reader.statement link state := by
  have sameEngine := engine_of_link isLink
  have holds := sound.accounts.holds_of (use_of_reader isHeld) (connection?_of_link isLink)
  refine ⟨sameEngine ▸ sound.valid, sameEngine ▸ same, ?_⟩
  rw [Mirror.situation, sameEngine]
  exact holds

omit sound same in
theorem Sound.insertReader {ledger : Ledger σ} {session : Session σ} {name : String}
    {held : HeldReader} (sound : Sound ledger session)
    (isHeld : session.readers.get? name = some held) {reader : Reader}
    (statement : reader.statement = held.reader.statement)
    (release : reader.release = held.reader.release) :
    Sound ledger
      { session with readers := session.readers.insert name { held with reader } } where
  valid := sound.valid
  accounts := by
    have sameUse : useOfReader { held with reader } = useOfReader held := by
      rw [useOfReader, statement, useOfReader]
    rw [books_insertReader, sameUse, Books.withUse_same (use_of_reader isHeld)]
    exact sound.accounts
  releases {other found} isFound := by
    dsimp only at isFound
    rw [Registry.get?_insert] at isFound
    split at isFound
    · obtain rfl := Option.some.inj isFound
      exact release.trans (sound.releases isHeld)
    · exact sound.releases isFound

theorem access_performs {name : String} {held : HeldReader}
    (isHeld : session.readers.get? name = some held)
    {accessor : Reader → Link σ → Except ε α × Reader}
    {accessorImage : Reader → Link τ → Except ε α × Reader}
    (accesses : Accesses mirror accessor accessorImage) :
    Performs mirror (access session name held accessor)
      (access (session.withEngine state) name held accessorImage) := by
  unfold access
  rw [link?_withEngine]
  cases isLink : session.link? held.connection with
  | none => exact .unchanged sound same _
  | some link =>
      dsimp only [Option.map_some]
      rw [accesses.same (suits_of_reader sound same isHeld isLink)]
      have statement := accesses.statement held.reader link
      have release := accesses.release held.reader link
      rcases outcome : accessor held.reader link with ⟨error | answer, reader⟩ <;>
        rw [outcome] at statement release <;>
        exact ⟨state, rfl, same, sound.insertReader isHeld statement release⟩

theorem read_performs {name : String} {held : HeldReader}
    (isHeld : session.readers.get? name = some held) :
    Performs mirror (useReader backend session name held .read)
      (useReader image (session.withEngine state) name held .read) := by
  unfold useReader
  dsimp only
  rw [link?_withEngine]
  cases isLink : session.link? held.connection with
  | none => exact .unchanged sound same _
  | some link =>
      have suits := suits_of_reader sound same isHeld isLink
      rcases outcome : held.reader.read backend.engine link with ⟨⟨result, reader⟩, after⟩
      rcases suits.read_of outcome with ⟨next, images, stays, isSame, statement, release⟩
      have soundAfter := (sound.setLink_same isLink stays.valid isSame).insertReader
        (by rwa [setLink_readers]) statement release
      rw [setLink_readers] at soundAfter
      have sameAfter : mirror.Same (session.setLink held.connection after).engine next := by
        rw [setLink_engine]
        exact stays.same
      dsimp only [Option.map_some]
      rw [images, outcome]
      dsimp only
      rw [setLink_withEngine]
      cases result <;> exact ⟨next, rfl, sameAfter, soundAfter⟩

omit same in
theorem accounts_of_release {name : String} {held : HeldReader} {link after : Link σ}
    (isHeld : session.readers.get? name = some held)
    (isLink : session.link? held.connection = some link)
    (isLeft : mirror.situation after =
      match held.reader.release with
      | .finalize => (mirror.situation link).without held.reader.statement
      | .reset => mirror.situation link) :
    after.connection = link.connection ∧
      Accounts (mirror.handles after.engine) (session.books.withUse (.reader name) none) := by
  have isSeen : mirror.situation link = ⟨link.connection, mirror.handles session.engine⟩ := by
    rw [Mirror.situation, engine_of_link isLink]
  rw [isSeen, sound.releases isHeld] at isLeft
  cases lender : held.command with
  | none =>
      have isLeft : mirror.situation after =
          Situation.without ⟨link.connection, mirror.handles session.engine⟩
            held.reader.statement := by
        simpa [releaseOf, lender] using isLeft
      refine ⟨congrArg Situation.connection isLeft, ?_⟩
      rw [show mirror.handles after.engine = _ from congrArg Situation.handles isLeft]
      exact sound.accounts.finalizing (use_of_reader isHeld) lender
        (fun _ isCommand => by cases isCommand) (connection?_of_link isLink)
  | some command =>
      have isLeft : mirror.situation after =
          ⟨link.connection, mirror.handles session.engine⟩ := by
        simpa [releaseOf, lender] using isLeft
      refine ⟨congrArg Situation.connection isLeft, ?_⟩
      rw [show mirror.handles after.engine = _ from congrArg Situation.handles isLeft]
      refine sound.accounts.returning fun use isUsed => ?_
      rw [use_of_reader isHeld, Option.some.injEq] at isUsed
      simp [← isUsed, useOfReader, lender]

theorem release_performs {name : String} {held : HeldReader}
    (isHeld : session.readers.get? name = some held) :
    Performs mirror (useReader backend session name held .dispose)
      (useReader image (session.withEngine state) name held .dispose) := by
  unfold useReader
  dsimp only
  rw [link?_withEngine]
  cases isLink : session.link? held.connection with
  | none => exact .unchanged sound same _
  | some link =>
      have suits := suits_of_reader sound same isHeld isLink
      rcases suits.dispose with ⟨next, disposes, sameAfter, valid, isLeft⟩
      rcases accounts_of_release sound isHeld isLink isLeft with ⟨sameConnection, accounts⟩
      dsimp only [Option.map_some]
      rw [(Prod.mk.inj disposes).2, setLink_withEngine]
      refine ⟨next, rfl, by rwa [← setLink_engine session held.connection] at sameAfter, ?_⟩
      refine ⟨(setLink_engine session _ _).symm ▸ valid, ?_, fun {other found} isFound => ?_⟩
      · rw [books_eraseReader, books_setLink session _ isLink, sameConnection,
          Books.withConnection_same (connection?_of_link isLink)]
        show Accounts (mirror.handles (session.setLink held.connection _).engine) _
        rw [setLink_engine]
        exact accounts
      · dsimp only at isFound
        rw [setLink_readers, Registry.get?_erase] at isFound
        split at isFound
        · cases isFound
        · exact sound.releases isFound

theorem useReader_performs {name : String} {held : HeldReader}
    (isHeld : session.readers.get? name = some held) (request : ReaderRequest) :
    Performs mirror (useReader backend session name held request)
      (useReader image (session.withEngine state) name held request) := by
  have performs {accessor : Reader → Link σ → Except Error Answer × Reader}
      {accessorImage : Reader → Link τ → Except Error Answer × Reader}
      (accesses : Accesses mirror accessor accessorImage) :=
    access_performs sound same isHeld accesses
  cases request with
  | read => exact read_performs sound same isHeld
  | dispose => exact release_performs sound same isHeld
  | cursor => exact .unchanged sound same _
  | columnCount => exact performs (.look _ fun suits => suits.columnCount)
  | names => exact performs .names
  | row withBytes => exact performs (.row withBytes)
  | name column => exact performs (.name _ column (Except.map Utf8.toString))
  | nameUtf16 column => exact performs (.name _ column (Except.map Lenient.toUtf16))
  | storageClass column => exact performs (.cell _ column (Except.map Cell.storageClass))
  | isNull column =>
      exact performs
        (.cell _ column fun cell =>
          (cell.map Cell.storageClass).map fun found => decide (found = .null))
  | int32 column => exact performs (.cell _ column (Except.map Cell.toInt32))
  | int64 column => exact performs (.cell _ column (Except.map Cell.toInt64))
  | real column => exact performs (.cell _ column (Except.map Cell.toReal))
  | bytes column => exact performs (.cell _ column (Except.map Cell.toBytes))
  | string column =>
      exact performs ((Accesses.string column).map (Except.map fun text => .string (some text)))
  | utf16 column => exact performs ((Accesses.utf16 column).map (Except.map .utf16))
  | copyBytes column destination =>
      exact performs (.cellReport column fun cell =>
        reportCopy .copiedBytes (Reader.copy destination (cell.map Cell.toBytes)))
  | copyUtf8 column destination =>
      exact performs ((Accesses.take Cell.utf8 column).map fun text =>
        reportCopy .copiedBytes (Reader.copy destination text))
  | copyUtf16 column destination =>
      exact performs ((Accesses.utf16 column).map fun text =>
        reportCopy .copiedUtf16 (Reader.copy destination text))

theorem performReader_performs (name : String) (request : ReaderRequest) :
    Performs mirror (performReader backend session name request)
      (performReader image (session.withEngine state) name request) := by
  have sameFound : (session.withEngine state).findReader (ε := Error) name =
      session.findReader name := rfl
  unfold performReader
  rw [sameFound]
  cases isFound : session.findReader (ε := Error) name with
  | error refusal => exact .unchanged sound same _
  | ok held => exact useReader_performs sound same (of_findReader isFound) request

end

end EmbeddedSql.Session
