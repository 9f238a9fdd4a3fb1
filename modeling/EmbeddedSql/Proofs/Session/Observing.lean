import EmbeddedSql.Proofs.Connection.Cell
import EmbeddedSql.Proofs.Session.Columns

/-! Main result: looking at the values of a row does not change what is seen of them, in
whatever order and however often they are looked at. The one exception is text that has been
taken in another encoding than the one in which SQLite holds it, and then comes back from there.
That differs for bytes that are not well-formed and for two noncharacters. -/

namespace EmbeddedSql

namespace Session

variable {σ : Type}

/-! ## Observers -/

namespace ReaderRequest

def observes : ReaderRequest → Bool
  | .int32 _ | .int64 _ | .real _ | .bytes _ | .string _ | .utf16 _ | .copyBytes _ _
  | .copyUtf8 _ _ | .copyUtf16 _ _ => true
  | _ => false

def asksForBytes : ReaderRequest → Bool
  | .bytes _ | .copyBytes _ _ => true
  | _ => false

def textEncoding? : ReaderRequest → Option TextEncoding
  | .string _ | .copyUtf8 _ _ => some .utf8
  | .utf16 _ | .copyUtf16 _ _ => some .utf16LittleEndian
  | _ => none

theorem column_of_observes {request : ReaderRequest} (observes : request.observes = true) :
    ∃ column, request.column? = some column := by
  cases request <;> first | exact ⟨_, rfl⟩ | cases observes

def seesSame (cell other : Cell) : ReaderRequest → Prop
  | .int32 _ | .int64 _ => cell.toInt64 = other.toInt64
  | .real _ => cell.toReal = other.toReal
  | .bytes _ | .copyBytes _ _ => cell.toBytes = other.toBytes
  | .string _ | .copyUtf8 _ _ => cell.utf8.1 = other.utf8.1
  | .utf16 _ | .copyUtf16 _ _ => cell.utf16.1 = other.utf16.1
  | _ => True

end ReaderRequest

/-- The encodings in which the text of the column has been taken, one after the other. -/
def taken (earlier : List ReaderRequest) (column? : Option Nat) : List TextEncoding :=
  earlier.filterMap fun request =>
    if request.column? = column? then request.textEncoding? else none

section
variable (earlier : List ReaderRequest) {request : ReaderRequest} {column? : Option Nat}

theorem taken_append : taken (earlier ++ [request]) column? =
    taken earlier column? ++
      (if request.column? = column? then request.textEncoding? else none).toList := by
  rw [taken, List.filterMap_append]
  congr 1

theorem taken_append_none (isNone : request.textEncoding? = none) :
    taken (earlier ++ [request]) column? = taken earlier column? := by
  rw [taken_append, isNone, ite_self, Option.toList_none, List.append_nil]

theorem taken_append_other (isOther : request.column? ≠ column?) :
    taken (earlier ++ [request]) column? = taken earlier column? := by
  rw [taken_append, if_neg isOther, Option.toList_none, List.append_nil]

theorem taken_append_text {encoding : TextEncoding} (isColumn : request.column? = column?)
    (asks : request.textEncoding? = some encoding) :
    taken (earlier ++ [request]) column? = taken earlier column? ++ [encoding] := by
  rw [taken_append, if_pos isColumn, asks]
  rfl

end

end Session

namespace Cell

theorem after_append (cell : Cell) (taken : List TextEncoding) (encoding : TextEncoding) :
    cell.after (taken ++ [encoding]) = (cell.after taken).into encoding := by
  rw [after, List.foldl_append]
  rfl

/-- What is seen of a cell after others have looked at it, and where that is seen at first. -/
theorem seesSame_before {request : Session.ReaderRequest} (cell : Cell) {taken : List TextEncoding}
    (areSame : request.asksForBytes = true → ∀ encoding ∈ taken, encoding = cell.form.encoding) :
    request.seesSame (cell.after taken)
      (match request.textEncoding? with
        | some encoding => cell.before taken encoding
        | none => cell) := by
  cases request
  case int32 | int64 => exact cell.toInt64_after taken
  case real => exact cell.toReal_after taken
  case bytes | copyBytes => exact congrArg TextForm.bytes (form_after (areSame rfl))
  case string | copyUtf8 => exact cell.utf8_after taken
  case utf16 | copyUtf16 => exact cell.utf16_after taken
  all_goals trivial

/-- Text that comes back from the other encoding, and UTF-16 text of a cell in UTF-8, are always
what they were at first. -/
theorem seesSame_of_comesBack {request : Session.ReaderRequest} {cell : Cell}
    {taken : List TextEncoding}
    (areSame : request.asksForBytes = true → ∀ encoding ∈ taken, encoding = cell.form.encoding)
    (keeps : cell.ComesBack ∨
      cell.form.encoding = .utf8 ∧ request.textEncoding? = some .utf16LittleEndian) :
    request.seesSame (cell.after taken) cell := by
  have same := cell.seesSame_before areSame
  cases request
  case string | copyUtf8 =>
    rcases keeps with comesBack | ⟨-, ⟨⟩⟩
    exact same.trans (comesBack.utf8_before taken .utf8)
  case utf16 | copyUtf16 =>
    rcases keeps with comesBack | ⟨isNarrow, -⟩
    · exact same.trans (comesBack.utf16_before taken .utf16LittleEndian)
    · exact same.trans (cell.utf16_before taken isNarrow .utf16LittleEndian)
  all_goals exact same

end Cell

namespace Session

/-! ## Rows that have been looked at -/

/-- Cells of a row in such forms as the requests leave them in. Only columns that can be reached
count, since nothing is taken from others. -/
def Keeps (engine : Engine σ) (reader : Reader) (link : Link σ) (original : List Cell)
    (earlier : List ReaderRequest) (cells : List Cell) : Prop :=
  ∀ {column index}, reader.rowColumn engine column link = .ok index →
    cells[column]?.getD .null =
      (original[column]?.getD .null).after (taken earlier (some column))

namespace Keeps

variable {engine : Engine σ} {reader : Reader} {link : Link σ} {original : List Cell}
  {earlier : List ReaderRequest} {cells : List Cell} {request : ReaderRequest} {column : Nat}

theorem start : Keeps engine reader link original [] original :=
  fun _ => rfl

variable (keeps : Keeps engine reader link original earlier cells)
include keeps

theorem noText (isNone : request.textEncoding? = none) :
    Keeps engine reader link original (earlier ++ [request]) cells := by
  intro column index isReached
  rw [taken_append_none earlier isNone]
  exact keeps isReached

theorem unreached (isColumn : request.column? = some column) {error : Error}
    (isRefused : reader.rowColumn engine column link = .error error) :
    Keeps engine reader link original (earlier ++ [request]) cells := by
  intro other index isReached
  have isOther : request.column? ≠ some other := by
    rw [isColumn]
    rintro ⟨⟩
    cases isReached.symm.trans isRefused
  rw [taken_append_other earlier isOther]
  exact keeps isReached

theorem set (isColumn : request.column? = some column) {encoding : TextEncoding}
    (asks : request.textEncoding? = some encoding) :
    Keeps engine reader link original (earlier ++ [request])
      (cells.set column ((cells[column]?.getD .null).into encoding)) := by
  intro other index isReached
  by_cases isOther : column = other
  · subst isOther
    rw [taken_append_text earlier isColumn asks, Cell.after_append, ← keeps isReached,
      List.getElem?_set_self']
    -- Beyond the row there is null, which stays null.
    cases cells[column]? <;> rfl
  · have isElsewhere : request.column? ≠ some other := by simpa [isColumn] using isOther
    rw [taken_append_other earlier isElsewhere, List.getElem?_set_ne isOther]
    exact keeps isReached

/-- An answer leaves the row in such a form that the next one can be told from the row as it was
read. -/
theorem found (isColumn : request.column? = some column) {index : Int32}
    (isReached : reader.rowColumn engine column link = .ok index) (state : σ) :
    ∃ next, (Session.found engine request { reader with cells } index state).2 =
        { reader with cells := next } ∧
      Keeps engine reader link original (earlier ++ [request]) next := by
  have isIndex := Reader.ofNat_of_columnIndex (Reader.columnIndex_of_rowColumn isReached)
  have isBelow : column < Reader.count engine { reader with cells } link :=
    (Reader.rowColumn_ok isReached).2
  rw [isIndex]
  cases request
  case string | copyUtf8 | utf16 | copyUtf16 =>
    obtain rfl := Option.some.inj isColumn
    simp only [Session.found]
    rw [Reader.keepCell_narrowed isBelow, Reader.cellAt_narrowed isBelow]
    exact ⟨_, rfl, keeps.set rfl rfl⟩
  all_goals exact ⟨cells, rfl, keeps.noText rfl⟩

end Keeps

/-! ## Answers -/

variable {engine : Engine σ} {request : ReaderRequest}

theorem found_of_same (engine : Engine σ) (observes : request.observes = true)
    {reader other : Reader} {index : Int32}
    (same : request.seesSame (reader.cellAt index) (other.cellAt index)) (state : σ) :
    (found engine request reader index state).1 = (found engine request other index state).1 := by
  cases request
  case int32 | int64 =>
    have isInt64 : (reader.cellAt index).toInt64 = (other.cellAt index).toInt64 := same
    simp only [found, Cell.toInt32, isInt64]
  case real =>
    have isReal : (reader.cellAt index).toReal = (other.cellAt index).toReal := same
    simp only [found, isReal]
  case bytes | copyBytes =>
    have areBytes : (reader.cellAt index).toBytes = (other.cellAt index).toBytes := same
    simp only [found, areBytes]
  case string | copyUtf8 =>
    have isText : (reader.cellAt index).utf8.1 = (other.cellAt index).utf8.1 := same
    simp only [found, isText]
  case utf16 | copyUtf16 =>
    have isText : (reader.cellAt index).utf16.1 = (other.cellAt index).utf16.1 := same
    simp only [found, isText]
  all_goals cases observes

theorem index_of_observes (observes : request.observes = true) (reader : Reader) (column : Nat)
    (link : Link σ) :
    index engine request reader column link = reader.rowColumn engine column link := by
  cases request <;> first | rfl | cases observes

section
variable {backend : Backend σ} {session next : Session σ} {name : String} {held : HeldReader}
  {link : Link σ} {column : Nat}

theorem perform_observer (others : next = { session with readers := next.readers })
    (isLink : session.link? held.connection = some link) {cells : List Cell}
    (isHeld : next.readers.get? name = some { held with reader := { held.reader with cells } })
    (observes : request.observes = true) (isColumn : request.column? = some column) :
    perform backend next (.reader name request) =
      match held.reader.rowColumn backend.engine column link with
      | .error error =>
          (.plain (.error (.failed error)),
            { next with
              readers := next.readers.insert name
                { held with reader := { held.reader with cells } } })
      | .ok index =>
          let (answer, reader) :=
            found backend.engine request { held.reader with cells } index link.engine
          (.plain (.ok answer),
            { next with readers := next.readers.insert name { held with reader } }) := by
  have isNextLink : next.link? held.connection = some link := by
    rw [others]
    exact isLink
  rw [perform_accessor isHeld isNextLink (ReaderRequest.isAccessor_of_column isColumn),
    accessor_eq isColumn, index_of_observes observes]
  have sameGuard : Reader.rowColumn backend.engine { held.reader with cells } column link =
    held.reader.rowColumn backend.engine column link := rfl
  dsimp only
  rw [sameGuard]
  cases held.reader.rowColumn backend.engine column link <;> rfl

/-- A session in which the row of a reader has been looked at. -/
structure Observed (backend : Backend σ) (session next : Session σ) (name : String)
    (held : HeldReader) (link : Link σ) (earlier : List ReaderRequest) : Prop where
  others : next = { session with readers := next.readers }
  row : ∃ cells, next.readers.get? name = some { held with reader := { held.reader with cells } } ∧
    Keeps backend.engine held.reader link held.reader.cells earlier cells

namespace Observed

variable {earlier : List ReaderRequest}
  (observed : Observed backend session next name held link earlier)
  (isLink : session.link? held.connection = some link)
  (observes : request.observes = true) (isColumn : request.column? = some column)
include observed isLink observes isColumn

theorem after : Observed backend session (perform backend next (.reader name request)).2 name held
    link (earlier ++ [request]) := by
  obtain ⟨cells, isHeld, keeps⟩ := observed.row
  rw [perform_observer observed.others isLink isHeld observes isColumn]
  cases isReached : held.reader.rowColumn backend.engine column link with
  | error error =>
      exact ⟨by rw [observed.others], cells, Registry.get?_insert_self ..,
        keeps.unreached isColumn isReached⟩
  | ok index =>
      obtain ⟨kept, same, keepsNext⟩ := keeps.found isColumn isReached link.engine
      refine ⟨by rw [observed.others], kept, ?_, keepsNext⟩
      dsimp only
      rw [same]
      exact Registry.get?_insert_self ..

theorem response {other : Session σ} (others : other = { session with readers := other.readers })
    {cells : List Cell}
    (isHeld : other.readers.get? name = some { held with reader := { held.reader with cells } })
    (same : request.seesSame
      ((held.reader.cells[column]?.getD .null).after (taken earlier (some column)))
      (cells[column]?.getD .null)) :
    (perform backend next (.reader name request)).1 =
      (perform backend other (.reader name request)).1 := by
  obtain ⟨looked, isLooked, keeps⟩ := observed.row
  rw [perform_observer observed.others isLink isLooked observes isColumn,
    perform_observer others isLink isHeld observes isColumn]
  cases isReached : held.reader.rowColumn backend.engine column link with
  | error error => rfl
  | ok index =>
      obtain rfl := Reader.ofNat_of_columnIndex (Reader.columnIndex_of_rowColumn isReached)
      have cellAt (cells : List Cell) :
          Reader.cellAt { held.reader with cells } (.ofNat column) = cells[column]?.getD .null :=
        have isBelow : column < Reader.count backend.engine { held.reader with cells } link :=
          (Reader.rowColumn_ok isReached).2
        Reader.cellAt_narrowed isBelow
      rw [← keeps isReached, ← cellAt looked, ← cellAt cells] at same
      exact congrArg (fun answer => Response.plain (.ok answer))
        (found_of_same backend.engine observes same link.engine)

end Observed

theorem read_of_row
    (isRow : (perform backend session (.reader name .read)).1 = .plain (.ok (.boolean true))) :
    ∃ (held : HeldReader) (link : Link σ), session.readers.get? name = some held ∧
      session.link? held.connection = some link ∧
        (held.reader.read backend.engine link).1.1 = .ok true := by
  cases isHeld : session.readers.get? name with
  | none =>
      rw [Tracks.perform_missing isHeld] at isRow
      cases isRow
  | some held =>
      cases isLink : session.link? held.connection with
      | none =>
          rw [performReader_of_held isHeld] at isRow
          unfold useReader at isRow
          rw [isLink] at isRow
          cases isRow
      | some link =>
          rw [perform_read isHeld isLink] at isRow
          refine ⟨held, link, rfl, isLink, ?_⟩
          rcases isFound : (held.reader.read backend.engine link).1.1 with error | (_ | _)
          · rw [isFound] at isRow
            cases isRow
          · rw [isFound] at isRow
            cases isRow
          · rfl

theorem row_of_read
    (isRow : (perform backend session (.reader name .read)).1 = .plain (.ok (.boolean true))) :
    ∃ (held : HeldReader) (link : Link σ),
      (perform backend session (.reader name .read)).2.readers.get? name = some held ∧
        (perform backend session (.reader name .read)).2.link? held.connection = some link := by
  obtain ⟨held, link, isHeld, isLink, isTrue⟩ := read_of_row isRow
  obtain ⟨pool, isNext⟩ := link?_setLink isLink (held.reader.read backend.engine link).2
  rw [perform_read isHeld isLink]
  exact ⟨_, _, Registry.get?_insert_self .., isNext⟩

end

/-! ## Rows -/

section
variable {backend : Backend σ} {session next : Session σ} {name : String} {held : HeldReader}
  {link : Link σ} {earlier asked : List ReaderRequest}

/-- Before each of the requests the row has been looked at as the ones before it leave it. -/
theorem Observed.run (isLink : session.link? held.connection = some link)
    (observed : Observed backend session next name held link earlier)
    (observe : ∀ request ∈ asked, request.observes = true) (number : Nat)
    (isAsked : number < asked.length) :
    ∃ reached, Observed backend session reached name held link
        (earlier ++ asked.take number) ∧
      (Session.run backend next (asked.map (.reader name))).1[number]? =
        some (perform backend reached (.reader name asked[number])).1 := by
  induction asked generalizing next earlier number with
  | nil => cases isAsked
  | cons request rest induction =>
      cases number with
      | zero => exact ⟨next, by simpa using observed, rfl⟩
      | succ number =>
          obtain ⟨observes, observeRest⟩ := List.forall_mem_cons.mp observe
          obtain ⟨column, isColumn⟩ := ReaderRequest.column_of_observes observes
          obtain ⟨reached, isReached, answer⟩ :=
            induction (observed.after isLink observes isColumn) observeRest number
              (Nat.lt_of_succ_lt_succ isAsked)
          rw [List.append_assoc] at isReached
          exact ⟨reached, isReached, answer⟩

end

/-- A column of the row that the reader is on. Where there is none there is null. -/
def cellAt (session : Session σ) (name : String) (column? : Option Nat) : Cell :=
  match session.readers.get? name, column? with
  | some held, some column => held.reader.cells[column]?.getD .null
  | _, _ => .null

theorem cellAt_of_held {session : Session σ} {name : String} {held : HeldReader}
    (isHeld : session.readers.get? name = some held) (column : Nat) :
    session.cellAt name (some column) = held.reader.cells[column]?.getD .null := by
  unfold cellAt
  rw [isHeld]

/-- The reader's row as its text comes back from the other encoding. -/
def returned (session : Session σ) (name : String) : Session σ :=
  match session.readers.get? name with
  | none => session
  | some held => session.withReader name held (held.reader.cells.map Cell.returned)

/-- Once a reader has found a row, its values are asked for in any order and number, and the bytes
of a column as long as its text is only taken in the encoding in which it is held. Each answer is
the one that the request would have been given first, unless it asks for text that has come back
from the other encoding. That is what is first read of the row as it comes back, and so no
exception either if the text does come back as it was, or if text in UTF-8 is taken as UTF-16. -/
theorem row_observed (backend : Backend σ) {before : Session σ} {name : String}
    (isRow : (perform backend before (.reader name .read)).1 = .plain (.ok (.boolean true)))
    {asked : List ReaderRequest} (observe : ∀ request ∈ asked, request.observes = true)
    (bytesFirst : ∀ number (isAsked : number < asked.length),
      asked[number].asksForBytes = true →
        ∀ encoding ∈ taken (asked.take number) asked[number].column?,
          encoding = ((perform backend before (.reader name .read)).2.cellAt name
            asked[number].column?).form.encoding) :
    let session := (perform backend before (.reader name .read)).2
    let answers := (run backend session (asked.map (.reader name))).1
    ∀ number (isAsked : number < asked.length),
      let request := asked[number]
      let cell := session.cellAt name request.column?
      let isReturned := ∃ encoding ∈ request.textEncoding?,
        TextEncoding.returns cell.form.encoding.isWide
          (taken (asked.take number) request.column? ++ [encoding]) = true
      (¬isReturned →
        answers[number]? = some (perform backend session (.reader name request)).1) ∧
      (isReturned →
        answers[number]? =
          some (perform backend (session.returned name) (.reader name request)).1) ∧
      ((cell.ComesBack ∨
          cell.form.encoding = .utf8 ∧ request.textEncoding? = some .utf16LittleEndian) →
        answers[number]? = some (perform backend session (.reader name request)).1) := by
  intro session answers number isAsked request cell isReturned
  obtain ⟨held, link, isHeld, isLink⟩ := row_of_read isRow
  have observes : request.observes = true := observe _ (List.getElem_mem isAsked)
  obtain ⟨column, isColumn⟩ := ReaderRequest.column_of_observes observes
  have isCell : cell = held.reader.cells[column]?.getD .null := by
    show session.cellAt name request.column? = _
    rw [isColumn]
    exact cellAt_of_held isHeld column
  have start : Observed backend session session name held link [] :=
    ⟨rfl, held.reader.cells, isHeld, Keeps.start⟩
  obtain ⟨reached, observed, isAnswer⟩ := start.run isLink observe number isAsked
  rw [List.nil_append] at observed
  have areSame : request.asksForBytes = true →
      ∀ encoding ∈ taken (asked.take number) request.column?, encoding = cell.form.encoding :=
    bytesFirst number isAsked
  have sees := cell.seesSame_before areSame
  have first (same : request.seesSame (cell.after (taken (asked.take number) request.column?)) cell) :
      answers[number]? = some (perform backend session (.reader name request)).1 := by
    rw [isColumn, isCell] at same
    exact isAnswer.trans (congrArg some (observed.response isLink observes isColumn rfl isHeld same))
  refine ⟨fun isPlain => first ?_, fun isLate => ?_, fun keeps => first ?_⟩
  · cases asks : request.textEncoding? with
    | none => simpa only [asks] using sees
    | some encoding =>
        have stays : ¬TextEncoding.returns cell.form.encoding.isWide
            (taken (asked.take number) request.column? ++ [encoding]) = true :=
          fun returns => isPlain ⟨encoding, asks, returns⟩
        simpa only [asks, Cell.before, if_neg stays] using sees
  · obtain ⟨encoding, asks, returns⟩ := isLate
    have isReturned : session.returned name =
        session.withReader name held (held.reader.cells.map Cell.returned) := by
      rw [Session.returned, isHeld]
    have isBack : (held.reader.cells.map Cell.returned)[column]?.getD .null = cell.returned := by
      rw [isCell, List.getElem?_map]
      cases held.reader.cells[column]? <;> rfl
    have asks : request.textEncoding? = some encoding := asks
    rw [asks] at sees
    dsimp only at sees
    rw [Cell.before, if_pos returns, isColumn, ← isBack, isCell] at sees
    rw [isReturned]
    exact isAnswer.trans (congrArg some
      (observed.response isLink observes isColumn rfl (Registry.get?_insert_self ..) sees))
  · exact Cell.seesSame_of_comesBack areSame keeps

def querying (sql : String) : Session Storage.Store :=
  (run Storage.backend { engine := {} }
    [.connection "c" (.connect none none none),
      .connection "c" (.executeReader "r" (.ofString sql))]).2

theorem row_observed_comingBack :
    let asked : List ReaderRequest := [.bytes 0, .utf16 0, .int64 1, .string 0]
    let session := (perform Storage.backend (querying "SELECT 'é', 12") (.reader "r" .read)).2
    let answers := (run Storage.backend session (asked.map (.reader "r"))).1
    answers[3]? = some (perform Storage.backend session (.reader "r" (.string 0))).1 ∧
      answers[3]? = some (.plain (.ok (.string (some "é")))) := by
  intro asked session answers
  have isRow : (perform Storage.backend (querying "SELECT 'é', 12") (.reader "r" .read)).1 =
      .plain (.ok (.boolean true)) :=
    Response.of_answer? (by decide +kernel)
  have isCell : session.cellAt "r" (some 0) = .text ⟨.utf8, Utf8.encode ['é']⟩ := by
    decide +kernel
  have observe : ∀ request ∈ asked, request.observes = true := by decide
  have bytesFirst : ∀ number (isAsked : number < asked.length),
      asked[number].asksForBytes = true →
        ∀ encoding ∈ taken (asked.take number) asked[number].column?,
          encoding = (session.cellAt "r" asked[number].column?).form.encoding := by
    decide +kernel
  have comesBack : (session.cellAt "r" (some 0)).ComesBack := by
    rw [isCell]
    rintro form ⟨⟩
    exact ⟨['é'], rfl, by simp⟩
  have first := (row_observed Storage.backend isRow observe bytesFirst 3 (by decide)).2.2
    (.inl comesBack)
  have isAnswer : (perform Storage.backend session (.reader "r" (.string 0))).1 =
      .plain (.ok (.string (some "é"))) :=
    Response.of_answer? (by decide +kernel)
  exact ⟨first, first.trans (congrArg some isAnswer)⟩

/-- A byte that is no text by itself reads as U+FFFD, and as the character of its number once
UTF-16 text has been taken. -/
theorem text_changed_by_utf16 :
    let session := (perform Storage.backend (querying "SELECT X'80'") (.reader "r" .read)).2
    (perform Storage.backend (querying "SELECT X'80'") (.reader "r" .read)).1.answer? =
        some (.boolean true) ∧
      (perform Storage.backend session (.reader "r" (.string 0))).1.answer? =
        some (.string (some "\uFFFD")) ∧
      ((run Storage.backend session [.reader "r" (.utf16 0), .reader "r" (.string 0)]).1.map
          Response.answer?) =
        [some (.utf16 [0x80]), some (.string (some "\u0080"))] := by
  refine ⟨?_, ?_, ?_⟩ <;> decide +kernel

end Session

end EmbeddedSql
