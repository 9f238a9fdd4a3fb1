import EmbeddedSql.Proofs.Call
import EmbeddedSql.Proofs.Connection.Cell
import EmbeddedSql.Proofs.Connection.Columns
import EmbeddedSql.Proofs.Connection.Reading
import EmbeddedSql.Query.Row
import Mathlib.Data.List.Induction

/-! Rows as they are decoded: a name has the place of the first column that bears it and the
value of the last one. Queries decode them in a loop. -/

namespace EmbeddedSql

/-! ## Columns put together -/

namespace Query.Row

def ofColumns (columns : List (String × Json)) : Row :=
  columns.foldl (fun row column => Row.insert row column.1 column.2) []

theorem ofColumns_concat (columns : List (String × Json)) (column : String × Json) :
    ofColumns (columns ++ [column]) = Row.insert (ofColumns columns) column.1 column.2 :=
  List.foldl_append

theorem lookup_cons_eq (name other : String) (value : Json) (row : Row) :
    List.lookup name ((other, value) :: row) =
      if name = other then some value else row.lookup name := by
  by_cases isSame : name = other
  · simp [isSame]
  · have isSkipped : (name == other) = false := by simp [isSame]
    rw [List.lookup_cons, isSkipped, if_neg isSame]

theorem names_insert (row : Row) (name : String) (value : Json) :
    (Row.insert row name value).map Prod.fst =
      if name ∈ row.map Prod.fst then row.map Prod.fst else row.map Prod.fst ++ [name] := by
  induction row with
  | nil => rfl
  | cons column rest induction =>
      obtain ⟨other, current⟩ := column
      unfold Row.insert
      by_cases isSame : other = name
      · simp [isSame]
      · rw [if_neg isSame, List.map_cons, List.map_cons, induction, apply_ite (List.cons other)]
        simp only [List.mem_cons, Ne.symm isSame, false_or, List.cons_append]

theorem lookup_insert (row : Row) (name other : String) (value : Json) :
    (Row.insert row name value).lookup other =
      if other = name then some value else row.lookup other := by
  induction row with
  | nil => exact lookup_cons_eq ..
  | cons column rest induction =>
      obtain ⟨key, current⟩ := column
      unfold Row.insert
      by_cases isSame : key = name
      · subst isSame
        rw [if_pos rfl, lookup_cons_eq, lookup_cons_eq]
        split <;> rfl
      · rw [if_neg isSame, lookup_cons_eq, lookup_cons_eq, induction]
        by_cases isKey : other = key
        · rw [if_pos isKey, if_pos isKey, if_neg (isKey ▸ isSame)]
        · rw [if_neg isKey, if_neg isKey]

theorem insert_of_new {row : Row} {name : String} (isNew : name ∉ row.map Prod.fst) (value : Json) :
    Row.insert row name value = row ++ [(name, value)] := by
  induction row with
  | nil => rfl
  | cons column rest induction =>
      obtain ⟨isOther, isNewer⟩ := not_or.mp (List.mem_cons.not.mp isNew)
      rw [Row.insert, if_neg (Ne.symm isOther), induction isNewer]
      rfl

structure Collects (columns : List (String × Json)) (row : Row) : Prop where
  names : row.map Prod.fst = (columns.map Prod.fst).eraseDups
  latest : ∀ name, row.lookup name = columns.reverse.lookup name
  distinct : (columns.map Prod.fst).Nodup → row = columns

theorem ofColumns_collects (columns : List (String × Json)) :
    Collects columns (ofColumns columns) := by
  -- The columns are taken off at the end, where the latest one has been put in.
  induction columns using List.reverseRecOn with
  | nil => exact ⟨rfl, fun _ => rfl, fun _ => rfl⟩
  | append_singleton columns column induction =>
      rw [ofColumns_concat]
      refine ⟨?_, fun name => ?_, fun areDistinct => ?_⟩
      · rw [names_insert, induction.names, List.map_append, List.eraseDups_append]
        by_cases isThere : column.1 ∈ columns.map Prod.fst <;>
          simp [List.removeAll, List.eraseDups_cons, isThere]
      · rw [lookup_insert, induction.latest, List.reverse_append]
        exact (lookup_cons_eq ..).symm
      · rw [List.map_append, List.nodup_append] at areDistinct
        obtain ⟨areDistinct, -, isNew⟩ := areDistinct
        rw [induction.distinct areDistinct]
        refine insert_of_new (fun isThere => ?_) _
        exact isNew _ isThere _ (List.mem_singleton_self _) rfl

end Query.Row

/-! ## Columns of a reader -/

namespace Query

variable {σ : Type} (engine : Engine σ)

/-- The name and the value of a column, or the error of the one that cannot be had. -/
def columnOf (reader : Reader) (link : Link σ) (column : Nat) : Except Error (String × Json) := do
  let name ← (reader.nameString engine column link).mapError .connection
  let value ← columnJson engine reader column link
  return (name, value)

def columnsOf (reader : Reader) (link : Link σ) : Except Error (List (String × Json)) := do
  let count ← (reader.columnCount engine link).mapError .connection
  (List.range count).mapM (columnOf engine reader link)

theorem decodeFrom_eq (reader : Reader) (link : Link σ) (left column : Nat) (row : Row) :
    decodeFrom engine reader link left column row =
      ((List.range' column left).mapM (columnOf engine reader link)).map fun columns =>
        columns.foldl (fun row column => Row.insert row column.1 column.2) row := by
  induction left generalizing column row with
  | zero => rfl
  | succ left induction =>
      rw [List.range'_succ, List.mapM_cons, decodeFrom, columnOf]
      rcases reader.nameString engine column link with error | name
      · rfl
      rcases columnJson engine reader column link with error | value
      · rfl
      dsimp only
      rw [induction]
      show _ = Except.map _ (Except.bind _ _)
      rcases (List.range' (column + 1) left).mapM (columnOf engine reader link) with
        error | columns <;> rfl

theorem decodeRow_eq (reader : Reader) (link : Link σ) :
    decodeRow engine reader link = (columnsOf engine reader link).map Row.ofColumns := by
  rw [decodeRow, columnsOf]
  rcases reader.columnCount engine link with error | count
  · rfl
  · dsimp only
    rw [decodeFrom_eq, ← List.range_eq_range']
    rfl

/-! ## Current rows -/

def shownColumns (statement : StatementHandle) (values : List Value) (state : σ) :
    List (String × Json) :=
  (List.range (engine.columnCount statement state).toNatClampNeg).map fun column =>
    (Utf8.toString ((engine.columnNames statement state)[column]?.getD []),
      jsonOf (values[column]?.getD .null))

def currentColumns (statement : StatementHandle) (state : σ) : List (String × Json) :=
  shownColumns engine statement ((engine.row statement state).map Cell.toValue) state

theorem mapM_of_ok {α β : Type} {each : α → Except Error β} {answer : α → β} {items : List α}
    (areOk : ∀ item ∈ items, each item = .ok (answer item)) :
    items.mapM each = .ok (items.map answer) := by
  induction items with
  | nil => rfl
  | cons item rest induction =>
      rw [List.mapM_cons, areOk item List.mem_cons_self,
        induction fun other isThere => areOk other (List.mem_cons_of_mem _ isThere)]
      rfl

variable {engine} {reader next : Reader} {link after : Link σ}

section
variable (isLive : ¬link.connection.isDisposed = true) (isOnRow : reader.cursor = .onRow)
include isLive isOnRow

theorem columnOf_of_row {column : Nat} (isBelow : column < reader.count engine link) :
    columnOf engine reader link column =
      .ok (Utf8.toString ((engine.columnNames reader.statement link.engine)[column]?.getD []),
        jsonOf ((reader.cells.map Cell.toValue)[column]?.getD .null)) := by
  have isIndex := Reader.columnIndex_of_rowColumn
    (Reader.rowColumn_of_row isLive isOnRow isBelow)
  have sameValue : (reader.cells[column]?.getD .null).toValue =
      (reader.cells.map Cell.toValue)[column]?.getD .null := by
    rw [List.getElem?_map]
    cases reader.cells[column]? <;> rfl
  rw [columnOf, Reader.nameString, Reader.name, isIndex, columnJson,
    Reader.cell_of_row isLive isOnRow isBelow, ← sameValue]
  dsimp only [Except.map]
  rw [Engine.columnName?, if_neg (Reader.narrowed_nonneg isBelow), Reader.narrowed_eq isBelow]
  rfl

theorem columnsOf_of_row : columnsOf engine reader link =
    .ok (shownColumns engine reader.statement (reader.cells.map Cell.toValue) link.engine) := by
  rw [columnsOf, Reader.columnCount, if_neg isLive]
  exact mapM_of_ok fun column isThere =>
    columnOf_of_row isLive isOnRow (List.mem_range.mp isThere)

end

theorem columnsOf_of_disposed (isDisposed : link.connection.isDisposed = true) :
    columnsOf engine reader link = .error (.connection .useAfterDispose) := by
  rw [columnsOf, Reader.columnCount, if_pos isDisposed]
  rfl

theorem columnsOf_of_noRow (isLive : ¬link.connection.isDisposed = true)
    (isNoRow : reader.cursor ≠ .onRow) : columnsOf engine reader link =
      if reader.count engine link = 0 then .ok [] else .error (.connection .noCurrentRow) := by
  rw [columnsOf, Reader.columnCount, if_neg isLive]
  cases counts : reader.count engine link with
  | zero => rfl
  | succ rest =>
      have isBelow : 0 < reader.count engine link := by omega
      have isIndex : reader.columnIndex engine 0 link = .ok (.ofNat 0) := by
        rw [Reader.columnIndex, if_neg isLive]
        exact if_neg (Nat.not_le.mpr isBelow)
      have isRefused : columnOf engine reader link 0 = .error (.connection .noCurrentRow) := by
        rw [columnOf, Reader.nameString, Reader.name, isIndex, columnJson, Reader.cell,
          Reader.rowColumn, if_neg isLive, if_pos isNoRow]
        rfl
      show (List.range (rest + 1)).mapM (columnOf engine reader link) = _
      rw [List.range_succ_eq_map, List.mapM_cons, isRefused, if_neg (Nat.succ_ne_zero rest)]
      rfl

theorem columnsOf_of_read (reads : reader.read engine link = ((.ok true, next), after)) :
    columnsOf engine next after = .ok (currentColumns engine reader.statement after.engine) := by
  have isTrue : (reader.read engine link).1.1 = .ok true := congrArg (·.1.1) reads
  have wasLive := Reader.isLive_of_row isTrue
  have isOnRow := (Reader.read_onRow wasLive).mpr isTrue
  have areCells := Reader.cells_of_read engine isTrue
  have sameConnection := reader.read_connection engine link
  have sameStatement := reader.read_statement engine link
  rw [reads] at isOnRow areCells sameConnection sameStatement
  have isLive : ¬after.connection.isDisposed = true := by
    rw [sameConnection]
    simp [wasLive]
  rw [columnsOf_of_row isLive isOnRow, areCells, sameStatement, currentColumns]

end Query

end EmbeddedSql

namespace EmbeddedSql.Query

variable {σ : Type}

/-! ## One row -/

section
variable (engine : Engine σ) {reader next : Reader} {link after : Link σ}

def takeRow (reader : Reader) (link : Link σ) (rows : List Row) : Except Error (List Row) :=
  (decodeRow engine reader link).map (· :: rows)

variable {engine}

theorem takeRow_of_row (rows : List Row)
    (reads : reader.read engine link = ((.ok true, next), after)) :
    takeRow engine next after rows =
      .ok (Row.ofColumns (currentColumns engine reader.statement after.engine) :: rows) := by
  rw [takeRow, decodeRow_eq, columnsOf_of_read reads]
  rfl

end

/-! ## Loops -/

def isWanted (limit : Option Nat) (rows : List Row) : Bool :=
  match limit with
  | some limit => rows.length < limit
  | none => true

theorem exists_lastRow (backend : Backend σ) (stage : Stage σ (List Row))
    (wanted : List Row → Bool) :
    ∃ last, Stage.Goes backend.engine wanted (takeRow backend.engine) stage last ∧
      (wanted last.gathered = false ∨ wanted last.gathered = true ∧
        ∃ answer next after,
          last.reader.read backend.engine last.link = ((answer, next), after) ∧
            answer ≠ .ok true) :=
  Stage.exists_last (fun rows reads => ⟨_, takeRow_of_row rows reads⟩) wanted stage

/-- The loop of a command over its rows, which rewinds the command at its end. -/
def readRows (backend : Backend σ) (limit : Option Nat) (command : Command) :
    Call σ (List Row) := do
  let reader ← Call.ofConnection command.executeReader
  fun link =>
    let ((rows, reader), link) := reader.gather backend (isWanted limit)
      (takeRow backend.engine) .connection [] link
    (rows, reader.dispose backend.engine link)

theorem fetch_eq (backend : Backend σ) (sql : Text) (values : List Json) (limit : Option Nat) :
    fetch backend sql values limit = (do
      let command ← prepare backend sql values
      let rows ← command.dropOnError backend (readRows backend limit command)
      Call.ofConnection (command.finalize backend)
      pure rows.reverse) := rfl

/-- Less than two rows are good for an answer. -/
theorem fetchOne_apply (backend : Backend σ) (sql : Text) (values : List Json) (link : Link σ) :
    fetchOne backend sql values link =
      ((fetch backend sql values (some 2) link).1.bind fun rows =>
          if 2 ≤ rows.length then .error (.multipleRowsReturned rows.length) else .ok rows.head?,
        (fetch backend sql values (some 2) link).2) := by
  unfold fetchOne
  rw [EmbeddedSql.Call.bind_apply]
  rcases fetch backend sql values (some 2) link with ⟨error | (_ | ⟨row, _ | _⟩), last⟩ <;>
    simp [Except.bind] <;> rfl

end EmbeddedSql.Query
