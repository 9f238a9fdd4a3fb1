import EmbeddedSql.Connection.Cell
import EmbeddedSql.Connection.Config
import EmbeddedSql.Error

/-! What a connection asks of a database engine. The engine's whole state is one
value; a request is a function of it. -/

namespace EmbeddedSql

structure DatabaseHandle where
  number : Nat
deriving DecidableEq, Repr

structure StatementHandle where
  number : Nat
deriving DecidableEq, Repr

structure Engine (σ : Type) where
  -- Databases

  /-- Without memory for it there is no handle. With a code other than `Status.ok` the
  database is not usable and the handle is only good for its message. -/
  openDatabase : (path : Bytes) → OpenMode → StateM σ (Option DatabaseHandle × Int)
  closeDatabase : DatabaseHandle → StateM σ Int
  errorMessage : DatabaseHandle → σ → Bytes
  codeMessage : (code : Int) → Bytes
  /-- Rows changed by the last statement that changes rows. -/
  changes : DatabaseHandle → σ → Nat
  lastInsertRowid : DatabaseHandle → σ → Int64
  /-- The statements of a database that are not finalized. -/
  statements : DatabaseHandle → σ → List StatementHandle

  -- Statements

  /-- Compiles the first statement of a text; there may be none. -/
  prepare : DatabaseHandle → Text → StateM σ (Int × Option StatementHandle)
  step : StatementHandle → StateM σ Int
  reset : StatementHandle → StateM σ Int
  finalize : StatementHandle → StateM σ Int
  sqlText : StatementHandle → σ → Bytes

  -- Parameters

  parameterCount : StatementHandle → σ → Nat
  /-- Zero stands for no parameter. -/
  parameterIndex : StatementHandle → (name : Bytes) → σ → Int
  parameterName? : StatementHandle → (index : Int) → σ → Option Bytes
  bind : StatementHandle → (index : Int) → Argument → StateM σ Int
  clearBindings : StatementHandle → StateM σ Int

  -- Columns

  columnNames : StatementHandle → σ → List Bytes
  /-- The current row, as nobody has looked at it yet. -/
  row : StatementHandle → σ → List Cell

namespace Engine

variable {σ : Type} (engine : Engine σ)

/-! An engine takes lengths in 32 bits. It counts columns in as many, and is asked for one so. -/

def maxLength : Nat := 0x7FFFFFFF

/-- Binds a value, unless it is so long that its length cannot be told. -/
def give (statement : StatementHandle) (index : Int) (argument : Argument) : StateM σ Int :=
  fun state =>
    if maxLength < argument.byteLength then (Status.tooBig, state)
    else engine.bind statement index argument state

section
variable {engine} {statement : StatementHandle} {index : Int} {argument : Argument}

theorem give_of_long (isLong : maxLength < argument.byteLength) :
    engine.give statement index argument = fun state => (Status.tooBig, state) := by
  funext state
  rw [give, if_pos isLong]

theorem give_of_le (fits : argument.byteLength ≤ maxLength) :
    engine.give statement index argument = engine.bind statement index argument := by
  funext state
  rw [give, if_neg (Nat.not_lt.mpr fits)]

end

def columnCount (statement : StatementHandle) (state : σ) : Int32 :=
  .ofNat (engine.columnNames statement state).length

def columnName? (statement : StatementHandle) (index : Int32) (state : σ) : Option Bytes :=
  if index < 0 then none else (engine.columnNames statement state)[index.toNatClampNeg]?

end Engine

/-- Assumed of SQLite: every result set is finite, so that there is a bound on the rows that a
statement still has. -/
structure RowBound {σ : Type} (engine : Engine σ) where
  remaining : StatementHandle → σ → Nat
  remaining_step : ∀ statement state,
    (engine.step statement state).1 = Status.row →
      remaining statement (engine.step statement state).2 < remaining statement state

end EmbeddedSql
