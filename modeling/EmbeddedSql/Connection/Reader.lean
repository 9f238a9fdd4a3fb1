import EmbeddedSql.Connection.Basic

/-! Reading the rows of a statement, forwards and one at a time. -/

namespace EmbeddedSql

inductive Cursor where
  | beforeFirst
  | onRow
  | done
deriving DecidableEq, Repr

/-- What becomes of the statement when its reader is released. -/
inductive Release where
  | finalize
  | reset
deriving DecidableEq, Repr

structure Reader where
  statement : StatementHandle
  release : Release
  cursor : Cursor := .beforeFirst
  cells : List Cell := []
deriving DecidableEq, Repr

namespace Reader

variable {σ α : Type} (engine : Engine σ)

/-! ## Rows -/

/-- What an answer of the engine to a step means for the reader. -/
def settle (reader : Reader) (code : Int) (link : Link σ) : Except Error Bool × Reader :=
  let ended := { reader with cursor := .done, cells := [] }
  if code = Status.row then
    (.ok true,
      { reader with cursor := .onRow, cells := engine.row reader.statement link.engine })
  else if code = Status.done then (.ok false, ended)
  else if code = Status.misuse then (.error .misuse, ended)
  else if code ≠ Status.error ∧ link.connection.config.lenientStepStatus then
    (.ok false, ended)
  else (.error (.stepFailed code (Connection.errorMessage engine link)), ended)

/-- Moves to the next row and says whether there is one. A reader that has seen
the end, or a failure, does not step its statement again. -/
def read (reader : Reader) (link : Link σ) : (Except Error Bool × Reader) × Link σ :=
  if link.connection.isDisposed then
    ((.error .useAfterDispose, reader), link)
  else if reader.cursor = .done then
    ((.ok false, reader), link)
  else
    let stepped := engine.step reader.statement link.engine
    let link := { link with engine := stepped.2 }
    (reader.settle engine stepped.1 link, link)

theorem settle_statement (reader : Reader) (code : Int) (link : Link σ) :
    (reader.settle engine code link).2.statement = reader.statement := by
  unfold settle
  dsimp only
  repeat' split
  all_goals rfl

theorem read_statement (reader : Reader) (link : Link σ) :
    (reader.read engine link).1.2.statement = reader.statement := by
  unfold read
  split
  · rfl
  split
  · rfl
  · exact settle_statement ..

theorem settle_release (reader : Reader) (code : Int) (link : Link σ) :
    (reader.settle engine code link).2.release = reader.release := by
  unfold settle
  dsimp only
  repeat' split
  all_goals rfl

theorem read_release (reader : Reader) (link : Link σ) :
    (reader.read engine link).1.2.release = reader.release := by
  unfold read
  split
  · rfl
  split
  · rfl
  · exact settle_release ..

theorem settle_eq_true {reader : Reader} {code : Int} {link : Link σ}
    (isRow : (reader.settle engine code link).1 = .ok true) : code = Status.row := by
  unfold settle at isRow
  dsimp only at isRow
  split at isRow
  · assumption
  · repeat' split at isRow
    all_goals exact nomatch isRow

theorem step_of_read {reader : Reader} {link : Link σ}
    (isRow : (reader.read engine link).1.1 = .ok true) :
    (engine.step reader.statement link.engine).1 = Status.row ∧
      (reader.read engine link).2.engine =
        (engine.step reader.statement link.engine).2 := by
  unfold read at isRow ⊢
  split at isRow
  · exact nomatch isRow
  rename_i isLive
  split at isRow
  · exact nomatch isRow
  rename_i isNotDone
  rw [if_neg isLive, if_neg isNotDone]
  exact ⟨settle_eq_true engine isRow, rfl⟩

/-- Lets go of the statement, unless the connection already has. -/
def dispose (reader : Reader) (link : Link σ) : Link σ :=
  if link.connection.isDisposed then link
  else
    match reader.release with
    | .finalize => { link with engine := (engine.finalize reader.statement link.engine).2 }
    | .reset => { link with engine := (engine.reset reader.statement link.engine).2 }

/-! ## Columns

A disposed connection is reported first, then a missing row, then an index out
of range. Names can be had without a row. The engine takes indices of 32 bits;
one that does not fit is out of range. -/

def count (reader : Reader) (link : Link σ) : Nat :=
  (engine.columnCount reader.statement link.engine).toNatClampNeg

def columnCount (reader : Reader) (link : Link σ) : Except Error Nat :=
  if link.connection.isDisposed then .error .useAfterDispose
  else .ok (reader.count engine link)

def columnIndex (reader : Reader) (column : Nat) (link : Link σ) : Except Error Int32 :=
  if link.connection.isDisposed then .error .useAfterDispose
  else
    let count := reader.count engine link
    if column ≥ count then .error (.columnOutOfRange column count)
    else .ok (.ofNat column)

def rowColumn (reader : Reader) (column : Nat) (link : Link σ) : Except Error Int32 :=
  if link.connection.isDisposed then .error .useAfterDispose
  else if reader.cursor ≠ .onRow then .error .noCurrentRow
  else reader.columnIndex engine column link

def name (reader : Reader) (column : Nat) (link : Link σ) : Except Error Bytes :=
  (reader.columnIndex engine column link).map fun index =>
    (engine.columnName? reader.statement index link.engine).getD []

def nameString (reader : Reader) (column : Nat) (link : Link σ) : Except Error String :=
  (reader.name engine column link).map Utf8.toString

def nameUtf16 (reader : Reader) (column : Nat) (link : Link σ) : Except Error Utf16.Units :=
  (reader.name engine column link).map Lenient.toUtf16

/-- The cell that the engine finds at an index. Where there is none it finds
null. -/
def cellAt (reader : Reader) (index : Int32) : Cell :=
  if index < 0 then .null else reader.cells[index.toNatClampNeg]?.getD .null

def keepCell (reader : Reader) (index : Int32) (cell : Cell) : Reader :=
  if index < 0 then reader
  else { reader with cells := reader.cells.set index.toNatClampNeg cell }

def cell (reader : Reader) (column : Nat) (link : Link σ) : Except Error Cell :=
  (reader.rowColumn engine column link).map reader.cellAt

def storageClass (reader : Reader) (column : Nat) (link : Link σ) :
    Except Error StorageClass :=
  (reader.cell engine column link).map Cell.storageClass

def isNull (reader : Reader) (column : Nat) (link : Link σ) : Except Error Bool :=
  (reader.storageClass engine column link).map (· = .null)

def int32 (reader : Reader) (column : Nat) (link : Link σ) : Except Error Int32 :=
  (reader.cell engine column link).map Cell.toInt32

def int64 (reader : Reader) (column : Nat) (link : Link σ) : Except Error Int64 :=
  (reader.cell engine column link).map Cell.toInt64

def real (reader : Reader) (column : Nat) (link : Link σ) : Except Error Binary64 :=
  (reader.cell engine column link).map Cell.toReal

def bytes (reader : Reader) (column : Nat) (link : Link σ) : Except Error Bytes :=
  (reader.cell engine column link).map Cell.toBytes

/-! ## Text

Reading text leaves the cell in the encoding asked for. -/

def take (accessor : Cell → α × Cell) (reader : Reader) (column : Nat)
    (link : Link σ) : Except Error α × Reader :=
  match reader.rowColumn engine column link with
  | .error error => (.error error, reader)
  | .ok index =>
      let (answer, cell) := accessor (reader.cellAt index)
      (.ok answer, reader.keepCell index cell)

def utf8 (reader : Reader) (column : Nat) (link : Link σ) : Except Error Bytes × Reader :=
  reader.take engine Cell.utf8 column link

def string (reader : Reader) (column : Nat) (link : Link σ) : Except Error String × Reader :=
  let (text, reader) := reader.utf8 engine column link
  (text.map Utf8.toString, reader)

def utf16 (reader : Reader) (column : Nat) (link : Link σ) :
    Except Error Utf16.Units × Reader :=
  reader.take engine Cell.utf16 column link

/-! ## Copying -/

/-- Copies a value to the front of the destination if it has room for all of it,
and says how long the value is. -/
def copyInto (source destination : List α) : Option Nat × List α :=
  if source.length ≤ destination.length then
    (some source.length, source ++ destination.drop source.length)
  else (none, destination)

example : copyInto [1, 2] [7, 8, 9] = (some 2, [1, 2, 9]) := rfl
example : copyInto [1, 2] [7] = (none, [7]) := rfl

structure Copied (α : Type) where
  written : Except Error (Option Nat)
  destination : List α

def copy (destination : List α) : Except Error (List α) → Copied α
  | .error error => ⟨.error error, destination⟩
  | .ok value =>
      let (written, destination) := copyInto value destination
      ⟨.ok written, destination⟩

def copyBytes (reader : Reader) (column : Nat) (destination : Bytes) (link : Link σ) :
    Copied UInt8 :=
  copy destination (reader.bytes engine column link)

def copyUtf8 (reader : Reader) (column : Nat) (destination : Bytes) (link : Link σ) :
    Copied UInt8 × Reader :=
  let (text, reader) := reader.utf8 engine column link
  (copy destination text, reader)

def copyUtf16 (reader : Reader) (column : Nat) (destination : Utf16.Units) (link : Link σ) :
    Copied UInt16 × Reader :=
  let (text, reader) := reader.utf16 engine column link
  (copy destination text, reader)

end Reader

end EmbeddedSql
