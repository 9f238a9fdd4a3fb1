import EmbeddedSql.Proofs.Connection.Columns
import EmbeddedSql.Proofs.SideBySide
import EmbeddedSql.Session.Perform

/-! Readers in the same place of two statements: what is asked about the row comes to the same
if columns are seen alike. -/

namespace EmbeddedSql

namespace Reader

variable {σ α : Type} (engine : Engine σ)

/-- The values of the row are seen alike, however they have been read before. -/
def SeesCells (reader : Reader) (image : StatementHandle) (link other : Link σ) : Prop :=
  ∀ cells column, { reader.withStatement image with cells }.cell engine column other =
    { reader with cells }.cell engine column link

structure SeesAlike (reader : Reader) (image : StatementHandle) (link other : Link σ) : Prop where
  cells : reader.SeesCells engine image link other
  columnCount : (reader.withStatement image).columnCount engine other =
    reader.columnCount engine link
  name : ∀ column, (reader.withStatement image).name engine column other =
    reader.name engine column link

variable {engine} {reader : Reader} {image : StatementHandle} {link other : Link σ}

theorem SeesCells.cell (sees : reader.SeesCells engine image link other) (column : Nat) :
    (reader.withStatement image).cell engine column other = reader.cell engine column link :=
  sees reader.cells column

theorem SeesCells.withCells (sees : reader.SeesCells engine image link other)
    (cells : List Cell) : { reader with cells }.SeesCells engine image link other :=
  sees

theorem SeesCells.take (sees : reader.SeesCells engine image link other)
    (accessor : Cell → α × Cell) (column : Nat) :
    (reader.withStatement image).take engine accessor column other =
        ((reader.take engine accessor column link).1,
          (reader.take engine accessor column link).2.withStatement image) ∧
      (reader.take engine accessor column link).2.SeesCells engine image link other := by
  rw [Reader.take_eq, Reader.take_eq, sees.cell]
  cases reader.cell engine column link with
  | error error => exact ⟨rfl, sees⟩
  | ok cell => exact ⟨rfl, sees.withCells _⟩

theorem SeesCells.utf8 (sees : reader.SeesCells engine image link other) (column : Nat) :
    (reader.withStatement image).utf8 engine column other =
      ((reader.utf8 engine column link).1, (reader.utf8 engine column link).2.withStatement image) :=
  (sees.take Cell.utf8 column).1

theorem SeesCells.utf16 (sees : reader.SeesCells engine image link other) (column : Nat) :
    (reader.withStatement image).utf16 engine column other =
        ((reader.utf16 engine column link).1,
          (reader.utf16 engine column link).2.withStatement image) ∧
      (reader.utf16 engine column link).2.SeesCells engine image link other :=
  sees.take Cell.utf16 column

theorem SeesCells.string (sees : reader.SeesCells engine image link other) (column : Nat) :
    (reader.withStatement image).string engine column other =
        ((reader.string engine column link).1,
          (reader.string engine column link).2.withStatement image) ∧
      (reader.string engine column link).2.SeesCells engine image link other := by
  refine ⟨?_, (sees.take Cell.utf8 column).2⟩
  unfold Reader.string
  rw [sees.utf8]

end Reader

namespace Session

variable {σ : Type} (backend : Backend σ)

/-! ## Accessors -/

/-- What is asked about the row of a reader, or about its columns. -/
def ReaderRequest.isAccessor : ReaderRequest → Bool
  | .read | .dispose | .cursor => false
  | _ => true

def ReaderRequest.asksForValue : ReaderRequest → Bool
  | .columnCount | .names | .row _ | .name _ | .nameUtf16 _ => false
  | request => request.isAccessor

/-- The answer to a request that only looks at a reader, and the reader then. -/
def accessor : ReaderRequest → Reader → Link σ → Except Error Answer × Reader
  | .read | .dispose | .cursor => fun reader _ => (.ok .nothing, reader)
  | .columnCount => look (fun (count : Nat) => .number count) (·.columnCount backend.engine)
  | .names =>
      look .strings fun reader link => do
        let count ← reader.columnCount backend.engine link
        (List.range count).mapM (reader.nameString backend.engine · link)
  | .row withBytes => fun reader link =>
      match reader.columnCount backend.engine link with
      | .error error => (.error error, reader)
      | .ok count =>
          let (reports, reader) := columnReports backend withBytes link count 0 reader
          (reports.map .row, reader)
  | .name column => look (fun text => .string (some text)) (·.nameString backend.engine column)
  | .nameUtf16 column => look .utf16 (·.nameUtf16 backend.engine column)
  | .storageClass column => look .storageClass (·.storageClass backend.engine column)
  | .isNull column => look .boolean (·.isNull backend.engine column)
  | .int32 column => look (fun value => .number value.toInt) (·.int32 backend.engine column)
  | .int64 column => look .int64 (·.int64 backend.engine column)
  | .real column => look .real (·.real backend.engine column)
  | .bytes column => look .bytes (·.bytes backend.engine column)
  | .string column => fun reader link =>
      let (text, reader) := reader.string backend.engine column link
      (text.map fun text => .string (some text), reader)
  | .utf16 column => fun reader link =>
      let (units, reader) := reader.utf16 backend.engine column link
      (units.map .utf16, reader)
  | .copyBytes column destination => fun reader link =>
      (reportCopy .copiedBytes (reader.copyBytes backend.engine column destination link), reader)
  | .copyUtf8 column destination => fun reader link =>
      let (copied, reader) := reader.copyUtf8 backend.engine column destination link
      (reportCopy .copiedBytes copied, reader)
  | .copyUtf16 column destination => fun reader link =>
      let (copied, reader) := reader.copyUtf16 backend.engine column destination link
      (reportCopy .copiedUtf16 copied, reader)

theorem useReader_accessor (session : Session σ) (name : String) (held : HeldReader)
    {request : ReaderRequest} (isAccessor : request.isAccessor = true) :
    useReader backend session name held request =
      access session name held (accessor backend request) := by
  cases request <;> first | rfl | cases isAccessor

variable {backend} {reader : Reader} {image : StatementHandle} {link other : Link σ}

theorem columnReport_withStatement (sees : reader.SeesCells backend.engine image link other)
    (withBytes : Bool) (column : Nat) :
    columnReport backend withBytes (reader.withStatement image) column other =
        ((columnReport backend withBytes reader column link).1,
          (columnReport backend withBytes reader column link).2.withStatement image) ∧
      (columnReport backend withBytes reader column link).2.SeesCells backend.engine image link
        other := by
  unfold columnReport
  simp only [Reader.storageClass, Reader.isNull, Reader.int32, Reader.int64, Reader.real,
    Reader.bytes, sees.cell]
  obtain ⟨sameString, seesNext⟩ := sees.string column
  obtain ⟨sameUnits, seesLast⟩ := seesNext.utf16 column
  split
  · exact ⟨rfl, sees⟩
  · rw [sameString, sameUnits]
    exact ⟨rfl, seesLast⟩

theorem columnReports_withStatement (sees : reader.SeesCells backend.engine image link other)
    (withBytes : Bool) (left column : Nat) :
    columnReports backend withBytes other left column (reader.withStatement image) =
      ((columnReports backend withBytes link left column reader).1,
        (columnReports backend withBytes link left column reader).2.withStatement image) := by
  induction left generalizing reader column with
  | zero => rfl
  | succ left induction =>
      obtain ⟨same, seesNext⟩ := columnReport_withStatement sees withBytes column
      unfold columnReports
      rw [same]
      rcases outcome : columnReport backend withBytes reader column link with
        ⟨error | report, next⟩
      · rfl
      · rw [outcome] at seesNext
        dsimp only
        rw [induction seesNext]

theorem accessor_values (sees : reader.SeesCells backend.engine image link other)
    {request : ReaderRequest} (asks : request.asksForValue = true) :
    accessor backend request (reader.withStatement image) other =
      ((accessor backend request reader link).1,
        (accessor backend request reader link).2.withStatement image) := by
  cases request
  case string column =>
    dsimp only [accessor]
    rw [(sees.string column).1]
  case utf16 column =>
    dsimp only [accessor]
    rw [(sees.utf16 column).1]
  case copyUtf8 column destination =>
    dsimp only [accessor, Reader.copyUtf8]
    rw [sees.utf8]
  case copyUtf16 column destination =>
    dsimp only [accessor, Reader.copyUtf16]
    rw [(sees.utf16 column).1]
  all_goals first
    | simp only [accessor, look, Reader.storageClass, Reader.isNull, Reader.int32, Reader.int64,
        Reader.real, Reader.bytes, Reader.copyBytes, sees.cell]
      done
    | cases asks

theorem takeOut_withStatement {view : Reader → Link σ → Except Query.Error α}
    (sees : view (reader.withStatement image) other = view reader link)
    (answer : α → QueryAnswer) (leave : List Cell → List Cell) :
    takeOut answer view leave (reader.withStatement image) other =
      ((takeOut answer view leave reader link).1,
        (takeOut answer view leave reader link).2.withStatement image) := by
  unfold takeOut
  rw [sees]
  cases view reader link <;> rfl

theorem accessor_withStatement (sees : reader.SeesAlike backend.engine image link other)
    {request : ReaderRequest} (isAccessor : request.isAccessor = true) :
    accessor backend request (reader.withStatement image) other =
      ((accessor backend request reader link).1,
        (accessor backend request reader link).2.withStatement image) := by
  cases request
  case columnCount => simp only [accessor, look, sees.columnCount]
  case names => simp only [accessor, look, sees.columnCount, Reader.nameString, sees.name]
  case row withBytes =>
    dsimp only [accessor]
    rw [sees.columnCount]
    cases reader.columnCount backend.engine link with
    | error error => rfl
    | ok count =>
        dsimp only
        rw [columnReports_withStatement sees.cells]
  case name column => simp only [accessor, look, Reader.nameString, sees.name]
  case nameUtf16 column => simp only [accessor, look, Reader.nameUtf16, sees.name]
  all_goals first
    | exact accessor_values sees.cells rfl
    | cases isAccessor

/-! ## Readers after accessors -/

variable (backend)

theorem take_cells (take : Cell → α × Cell) (reader : Reader) (column : Nat) (link : Link σ) :
    ∃ cells, (reader.take backend.engine take column link).2 = { reader with cells } := by
  rw [Reader.take_eq]
  cases reader.cell backend.engine column link with
  | error error => exact ⟨reader.cells, rfl⟩
  | ok cell => exact ⟨_, rfl⟩

theorem columnReport_cells (withBytes : Bool) (reader : Reader) (column : Nat) (link : Link σ) :
    ∃ cells, (columnReport backend withBytes reader column link).2 = { reader with cells } := by
  unfold columnReport
  dsimp only
  split
  · exact ⟨reader.cells, rfl⟩
  · obtain ⟨first, isFirst⟩ := take_cells backend Cell.utf8 reader column link
    obtain ⟨last, isLast⟩ := take_cells backend Cell.utf16 { reader with cells := first } column link
    refine ⟨last, ?_⟩
    show (Reader.take backend.engine Cell.utf16 (Reader.take backend.engine Cell.utf8 reader column
      link).2 column link).2 = _
    rw [isFirst, isLast]

theorem columnReports_cells (withBytes : Bool) (link : Link σ) (left column : Nat)
    (reader : Reader) :
    ∃ cells, (columnReports backend withBytes link left column reader).2 =
      { reader with cells } := by
  induction left generalizing reader column with
  | zero => exact ⟨reader.cells, rfl⟩
  | succ left induction =>
      obtain ⟨cells, isNext⟩ := columnReport_cells backend withBytes reader column link
      unfold columnReports
      rcases outcome : columnReport backend withBytes reader column link with
        ⟨error | report, next⟩ <;> rw [outcome] at isNext
      · exact ⟨cells, isNext⟩
      · obtain ⟨rest, isLast⟩ := induction (column + 1) next
        have isNext : next = { reader with cells } := isNext
        exact ⟨rest, isLast.trans (by rw [isNext])⟩

/-- Whatever is asked about a row, only the form changes in which its cells are kept. -/
theorem accessor_cells (request : ReaderRequest) (reader : Reader) (link : Link σ) :
    ∃ cells, (accessor backend request reader link).2 = { reader with cells } := by
  cases request
  case row withBytes =>
    dsimp only [accessor]
    cases reader.columnCount backend.engine link with
    | error error => exact ⟨reader.cells, rfl⟩
    | ok count => exact columnReports_cells backend withBytes link count 0 reader
  case string column => exact take_cells backend Cell.utf8 reader column link
  case utf16 column => exact take_cells backend Cell.utf16 reader column link
  case copyUtf8 column destination => exact take_cells backend Cell.utf8 reader column link
  case copyUtf16 column destination => exact take_cells backend Cell.utf16 reader column link
  all_goals exact ⟨reader.cells, rfl⟩

theorem accessor_statement (request : ReaderRequest) (reader : Reader) (link : Link σ) :
    (accessor backend request reader link).2.statement = reader.statement := by
  obtain ⟨cells, same⟩ := accessor_cells backend request reader link
  rw [same]

end Session

end EmbeddedSql
