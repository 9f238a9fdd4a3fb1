import EmbeddedSql.Proofs.Connection.Cell
import EmbeddedSql.Proofs.Session.Columns
import EmbeddedSql.Proofs.Text.Utf8

/-! Main result: an accessor that copies a column to a buffer of the caller copies what the
accessor that allocates gives, all of it or nothing. -/

namespace EmbeddedSql

namespace Reader

variable {α : Type}

/-! ## Copies -/

/-- What becomes of a destination: it gets the value at its front and keeps what lies behind that,
if there is room for all of the value. Otherwise it keeps everything. -/
structure IsCopy (value destination : List α) (written : Option Nat) (after : List α) : Prop where
  written_some : ∀ count,
    written = some count ↔ value.length ≤ destination.length ∧ count = value.length
  copied : ∀ count, written = some count → after = value ++ destination.drop count
  kept : written = none → after = destination
  length : after.length = destination.length

theorem isCopy_copyInto (value destination : List α) :
    IsCopy value destination (copyInto value destination).1 (copyInto value destination).2 := by
  unfold copyInto
  split
  case isTrue fits =>
    constructor
    case written_some => simp [fits, eq_comm]
    case copied =>
      intro count isCount
      rw [← Option.some.inj isCount]
    case kept => nofun
    case length => simp [fits]
  case isFalse isLong =>
    constructor
    case written_some => simp [isLong]
    case copied => nofun
    case kept => intro _; rfl
    case length => rfl

theorem copyInto_nil (destination : List α) : copyInto [] destination = (some 0, destination) :=
  rfl

/-! ## Cells that are kept in another form -/

variable (reader : Reader) (index : Int32) (cell : Cell)

theorem cellAt_keepCell : (reader.keepCell index cell).cellAt index = cell ∨
    (reader.keepCell index cell).cellAt index = reader.cellAt index := by
  simp only [keepCell, cellAt]
  split
  · right; rfl
  · by_cases isThere : index.toNatClampNeg < reader.cells.length
    · left; simp [isThere]
    · right; simp [isThere]

end Reader

namespace Cell

variable (cell : Cell)

theorem utf8_utf8 : cell.utf8.2.utf8.1 = cell.utf8.1 :=
  congrArg (fun cell => cell.form.toUtf8) (into_into .utf8 cell)

theorem utf16_utf16 : cell.utf16.2.utf16.1 = cell.utf16.1 :=
  congrArg (fun cell => cell.form.toUtf16) (into_into .utf16LittleEndian cell)

end Cell

namespace Session

open Reader (IsCopy copyInto)

variable {σ α : Type}

/-! ## Pairs of accessors -/

/-- An accessor that allocates and the one that copies the same value. -/
structure Accessors (α : Type) where
  value : Cell → List α
  kept : Reader → Int32 → Reader
  get : Nat → ReaderRequest
  copy : Nat → List α → ReaderRequest
  given : List α → Answer
  copied : Option Nat → List α → Answer

namespace Accessors

def bytes : Accessors UInt8 where
  value := Cell.toBytes
  kept reader _ := reader
  get := .bytes
  copy := .copyBytes
  given := .bytes
  copied := .copiedBytes

/-- The one that allocates gives a string, decoded from the bytes that the other one copies. -/
def utf8 : Accessors UInt8 where
  value cell := cell.utf8.1
  kept reader index := reader.keepCell index (reader.cellAt index).utf8.2
  get := .string
  copy := .copyUtf8
  given text := .string (some (Utf8.toString text))
  copied := .copiedBytes

def utf16 : Accessors UInt16 where
  value cell := cell.utf16.1
  kept reader index := reader.keepCell index (reader.cellAt index).utf16.2
  get := .utf16
  copy := .copyUtf16
  given := .utf16
  copied := .copiedUtf16

/-- Both ask for the same column, and find the same there, before and after. -/
structure Lawful (accessors : Accessors α) : Prop where
  column_get : ∀ column, (accessors.get column).column? = some column
  column_copy : ∀ column destination, (accessors.copy column destination).column? = some column
  found_get : ∀ {σ : Type} (engine : Engine σ) (reader : Reader) (index : Int32) (state : σ) column,
    found engine (accessors.get column) reader index state =
      (accessors.given (accessors.value (reader.cellAt index)), accessors.kept reader index)
  found_copy : ∀ {σ : Type} (engine : Engine σ) (reader : Reader) (index : Int32) (state : σ) column
      destination,
    found engine (accessors.copy column destination) reader index state =
      (accessors.copied (copyInto (accessors.value (reader.cellAt index)) destination).1
        (copyInto (accessors.value (reader.cellAt index)) destination).2,
        accessors.kept reader index)
  kept_cells : ∀ reader index, ∃ cells, accessors.kept reader index = { reader with cells }
  kept_value : ∀ reader index, accessors.value ((accessors.kept reader index).cellAt index) =
    accessors.value (reader.cellAt index)
  value_null : accessors.value .null = []

theorem keepCell_cells (reader : Reader) (index : Int32) (cell : Cell) :
    ∃ cells, reader.keepCell index cell = { reader with cells } := by
  unfold Reader.keepCell
  split
  · exact ⟨reader.cells, rfl⟩
  · exact ⟨_, rfl⟩

theorem lawful_bytes : bytes.Lawful where
  column_get _ := rfl
  column_copy _ _ := rfl
  found_get _ _ _ _ _ := rfl
  found_copy _ _ _ _ _ _ := rfl
  kept_cells reader _ := ⟨reader.cells, rfl⟩
  kept_value _ _ := rfl
  value_null := rfl

theorem lawful_utf8 : utf8.Lawful where
  column_get _ := rfl
  column_copy _ _ := rfl
  found_get _ _ _ _ _ := rfl
  found_copy _ _ _ _ _ _ := rfl
  kept_cells reader index := keepCell_cells reader index _
  kept_value reader index := by
    rcases reader.cellAt_keepCell index (reader.cellAt index).utf8.2 with isKept | isSame
    · exact (congrArg (·.utf8.1) isKept).trans (Cell.utf8_utf8 _)
    · exact congrArg (·.utf8.1) isSame
  value_null := rfl

theorem lawful_utf16 : utf16.Lawful where
  column_get _ := rfl
  column_copy _ _ := rfl
  found_get _ _ _ _ _ := rfl
  found_copy _ _ _ _ _ _ := rfl
  kept_cells reader index := keepCell_cells reader index _
  kept_value reader index := by
    rcases reader.cellAt_keepCell index (reader.cellAt index).utf16.2 with isKept | isSame
    · exact (congrArg (·.utf16.1) isKept).trans (Cell.utf16_utf16 _)
    · exact congrArg (·.utf16.1) isSame
  value_null := rfl

end Accessors

/-! ## Columns of a current row -/

/-- A reader on a row that has the column, on a connection that is not disposed of. -/
structure HasColumn (backend : Backend σ) (session : Session σ) (name : String) (held : HeldReader)
    (column : Nat) : Prop where
  isHeld : session.readers.get? name = some held
  isLive : ∃ lifecycle, session.lifecycle? held.connection = some lifecycle ∧
    lifecycle ≠ .disposed
  isOnRow : held.reader.cursor = .onRow
  isBelow : column <
    (backend.engine.columnCount held.reader.statement session.engine).toNatClampNeg

/-- What two accessors of a column are answered, and what they leave, if the column has this
value. -/
structure Copies (backend : Backend σ) (session : Session σ) (name : String) (column : Nat)
    (accessors : Accessors α) (value : List α) : Prop where
  gets : (perform backend session (.reader name (accessors.get column))).1 =
    .plain (.ok (accessors.given value))
  copies : ∀ destination, ∃ written after,
    (perform backend session (.reader name (accessors.copy column destination))).1 =
        .plain (.ok (accessors.copied written after)) ∧
      IsCopy value destination written after
  copiesNothing : value = [] → ∀ destination,
    (perform backend session (.reader name (accessors.copy column destination))).1 =
      .plain (.ok (accessors.copied (some 0) destination))
  leaves : ∀ destination,
    (perform backend session (.reader name (accessors.copy column destination))).2 =
      (perform backend session (.reader name (accessors.get column))).2

section
variable {backend : Backend σ} {session : Session σ} {name : String} {held : HeldReader}
  {column : Nat} (hasColumn : HasColumn backend session name held column)
include hasColumn

theorem HasColumn.index (request : ReaderRequest) :
    ∃ link, session.link? held.connection = some link ∧
      index backend.engine request held.reader column link = .ok (.ofNat column) := by
  rcases hasColumn.isLive with ⟨lifecycle, isThere, isLive⟩
  rcases Option.map_eq_some_iff.mp isThere with ⟨connection, isConnection, -⟩
  have ⟨link, isLink⟩ : ∃ link, session.link? held.connection = some link :=
    ⟨_, link?_of_held isConnection⟩
  have isUsable : ¬link.connection.isDisposed = true := by
    rw [lifecycle?_of_link session _ isLink, Option.some.injEq] at isThere
    rw [Connection.isDisposed_iff, isThere]
    exact isLive
  have isBelow : column < held.reader.count backend.engine link := by
    rw [Reader.count, engine_of_link isLink]
    exact hasColumn.isBelow
  use link, isLink
  rw [index_eq, if_neg isUsable, if_neg (by simp [hasColumn.isOnRow]), if_pos isBelow]

theorem HasColumn.perform {request : ReaderRequest} (isColumn : request.column? = some column) :
    Session.perform backend session (.reader name request) =
      (.plain (.ok (found backend.engine request held.reader (.ofNat column) session.engine).1),
        { session with
          readers := session.readers.insert name { held with
            reader := (found backend.engine request held.reader (.ofNat column)
              session.engine).2 } }) := by
  rcases hasColumn.index request with ⟨link, isLink, isIndex⟩
  rw [perform_accessor hasColumn.isHeld isLink (ReaderRequest.isAccessor_of_column isColumn),
    accessor_eq isColumn, isIndex, engine_of_link isLink]
  rfl

variable {accessors : Accessors α} (lawful : accessors.Lawful)
include lawful

theorem HasColumn.copies : Copies backend session name column accessors
    (accessors.value (held.reader.cellAt (.ofNat column))) := by
  have performGet := hasColumn.perform (lawful.column_get column)
  have performCopy (destination : List α) :=
    hasColumn.perform (lawful.column_copy column destination)
  simp only [lawful.found_get] at performGet
  simp only [lawful.found_copy] at performCopy
  constructor
  case gets => rw [performGet]
  case copies =>
    intro destination
    rw [performCopy]
    exact ⟨_, _, rfl, Reader.isCopy_copyInto _ destination⟩
  case copiesNothing =>
    intro isEmpty destination
    rw [performCopy, isEmpty, Reader.copyInto_nil]
  case leaves =>
    intro destination
    rw [performCopy, performGet]

theorem HasColumn.after_get :
    ∃ next, HasColumn backend
        (Session.perform backend session (.reader name (accessors.get column))).2 name next column ∧
      accessors.value (next.reader.cellAt (.ofNat column)) =
        accessors.value (held.reader.cellAt (.ofNat column)) := by
  have performGet := hasColumn.perform (lawful.column_get column)
  simp only [lawful.found_get] at performGet
  rcases lawful.kept_cells held.reader (.ofNat column) with ⟨cells, isKept⟩
  refine ⟨{ held with reader := accessors.kept held.reader (.ofNat column) }, ?_,
    lawful.kept_value held.reader _⟩
  rw [performGet]
  constructor
  case isHeld => exact Registry.get?_insert_self ..
  case isLive => exact hasColumn.isLive
  case isOnRow => rw [isKept]; exact hasColumn.isOnRow
  case isBelow => rw [isKept]; exact hasColumn.isBelow

end

/-! ## Copies of the columns of a row -/

/-- Whatever the destination is: a copy of a column of the current row is what the accessor that
allocates gives, if it fits, and leaves the destination alone if it does not. Null and what is empty
fit into everything. Text is copied as it is, well-formed or not. Neither accessor changes what
they are answered next. -/
theorem copies_agree {backend : Backend σ} {session : Session σ} {name : String} {held : HeldReader}
    {column : Nat} (hasColumn : HasColumn backend session name held column) :
    let cell := held.reader.cellAt (.ofNat column)
    let after (request : ReaderRequest) := (perform backend session (.reader name request)).2
    Copies backend session name column .bytes cell.toBytes ∧
    Copies backend (after (.bytes column)) name column .bytes cell.toBytes ∧
    Copies backend session name column .utf8 cell.utf8.1 ∧
    Copies backend (after (.string column)) name column .utf8 cell.utf8.1 ∧
    Copies backend session name column .utf16 cell.utf16.1 ∧
    Copies backend (after (.utf16 column)) name column .utf16 cell.utf16.1 ∧
    (∀ string, (perform backend session (.reader name (.string column))).1 =
        .plain (.ok (.string (some string))) →
      cell.utf8.1.toByteArray.IsValidUTF8 → Utf8.ofString string = cell.utf8.1) ∧
    ((perform backend session (.reader name (.isNull column))).1 =
        .plain (.ok (.boolean true)) →
      cell.toBytes = [] ∧ cell.utf8.1 = [] ∧ cell.utf16.1 = []) := by
  intro cell after
  have copiesAll {α : Type} {accessors : Accessors α} (lawful : accessors.Lawful) :
      Copies backend session name column accessors (accessors.value cell) ∧
        Copies backend (after (accessors.get column)) name column accessors
          (accessors.value cell) := by
    constructor
    · exact hasColumn.copies lawful
    · rcases hasColumn.after_get lawful with ⟨next, hasNext, sameValue⟩
      rw [← sameValue]
      exact hasNext.copies lawful
  rcases copiesAll Accessors.lawful_bytes with ⟨bytes, bytesAfter⟩
  rcases copiesAll Accessors.lawful_utf8 with ⟨text, textAfter⟩
  rcases copiesAll Accessors.lawful_utf16 with ⟨units, unitsAfter⟩
  refine ⟨bytes, bytesAfter, text, textAfter, units, unitsAfter, ?_, ?_⟩
  · intro string isString isValid
    have isDecoded := text.gets.symm.trans isString
    simp only [Accessors.utf8, Response.plain.injEq, Except.ok.injEq, Answer.string.injEq,
      Option.some.injEq] at isDecoded
    rw [← isDecoded]
    exact Utf8.ofString_toString isValid
  · intro isNull
    rw [hasColumn.perform rfl] at isNull
    have isNull : cell.storageClass = .null := by simpa [found] using isNull
    cases isCell : cell with
    | null => exact ⟨rfl, rfl, rfl⟩
    | _ => rw [isCell] at isNull; cases isNull

theorem copies_agree_withZero :
    let session := (run Storage.backend { engine := {} }
      [.connection "c" (.connect none none none),
        .connection "c" (.executeReader "r"
          (.ofString "SELECT 'a' || char(0) || 'é', NULL")), .reader "r" .read]).2
    Copies Storage.backend session "r" 0 .utf8 [0x61, 0, 0xC3, 0xA9] ∧
      Copies Storage.backend session "r" 0 .utf16 [0x61, 0, 0xE9] ∧
      Copies Storage.backend session "r" 1 .bytes [] := by
  intro session
  have hasColumns (column : Nat) (isColumn : column < 2) : HasColumn Storage.backend session "r"
      { connection := "c", command := none, reader :=
          { statement := ⟨0⟩, release := .finalize, cursor := .onRow,
            cells := [.text ⟨.utf8, [0x61, 0, 0xC3, 0xA9]⟩, .null] } } column := by
    constructor
    case isHeld => decide +kernel
    case isLive =>
      have isThere : session.lifecycle? "c" = some (.opened ⟨0⟩) := by decide +kernel
      exact ⟨_, isThere, nofun⟩
    case isOnRow => rfl
    case isBelow =>
      have isTwo : (Storage.engine.columnCount ⟨0⟩ session.engine).toNatClampNeg = 2 := by
        decide +kernel
      exact Nat.lt_of_lt_of_eq isColumn isTwo.symm
  rcases copies_agree (hasColumns 0 (by decide)) with ⟨-, -, text, -, units, -⟩
  rcases copies_agree (hasColumns 1 (by decide)) with ⟨none, -⟩
  exact ⟨text, units, none⟩

end Session

end EmbeddedSql
