import EmbeddedSql.Connection.Reader

/-! The columns of a reader: which index the engine is asked for, and what it finds. -/

namespace EmbeddedSql.Reader

variable {σ α : Type} {engine : Engine σ} {reader : Reader} {column : Nat} {link : Link σ}

/-! ## Indices -/

theorem count_lt : reader.count engine link < 2147483648 :=
  Int32.toNatClampNeg_lt _

section
variable (isBelow : column < reader.count engine link)
include isBelow

theorem narrowed_eq : (Int32.ofNat column).toNatClampNeg = column :=
  Int32.toNatClampNeg_ofNat_of_lt (Nat.lt_trans isBelow count_lt)

theorem narrowed_toInt : (Int32.ofNat column).toInt = column :=
  Int32.toInt_ofNat_of_lt (Nat.lt_trans isBelow count_lt)

theorem narrowed_nonneg : ¬Int32.ofNat column < 0 := by
  rw [Int32.lt_iff_toInt_lt, narrowed_toInt isBelow]
  simp

theorem cellAt_narrowed :
    reader.cellAt (.ofNat column) = reader.cells[column]?.getD .null := by
  rw [cellAt, if_neg (narrowed_nonneg isBelow), narrowed_eq isBelow]

theorem keepCell_narrowed (cell : Cell) :
    reader.keepCell (.ofNat column) cell =
      { reader with cells := reader.cells.set column cell } := by
  rw [keepCell, if_neg (narrowed_nonneg isBelow), narrowed_eq isBelow]

end

theorem columnIndex_eq (reader : Reader) (column : Nat) (link : Link σ) :
    reader.columnIndex engine column link =
      (reader.columnCount engine link).bind fun count =>
        if column < count then .ok (.ofNat column) else .error (.columnOutOfRange column count) := by
  unfold columnIndex columnCount
  by_cases isDisposed : link.connection.isDisposed = true
  · rw [if_pos isDisposed, if_pos isDisposed]
    rfl
  rw [if_neg isDisposed, if_neg isDisposed]
  by_cases isBelow : column < reader.count engine link
  · exact (if_neg (Nat.not_le.mpr isBelow)).trans (if_pos isBelow).symm
  · exact (if_pos (Nat.not_lt.mp isBelow)).trans (if_neg isBelow).symm

theorem columnIndex_ok {index : Int32} (isOk : reader.columnIndex engine column link = .ok index) :
    index.toInt = column ∧ column < reader.count engine link := by
  unfold columnIndex at isOk
  dsimp only at isOk
  repeat' split at isOk
  all_goals cases isOk
  rename_i isInRange
  have isBelow := Nat.not_le.mp isInRange
  exact ⟨narrowed_toInt isBelow, isBelow⟩

theorem columnIndex_of_rowColumn {index : Int32}
    (isOk : reader.rowColumn engine column link = .ok index) :
    reader.columnIndex engine column link = .ok index := by
  unfold rowColumn at isOk
  repeat' split at isOk
  all_goals first
    | exact isOk
    | cases isOk

theorem rowColumn_ok {index : Int32} (isOk : reader.rowColumn engine column link = .ok index) :
    index.toInt = column ∧ column < reader.count engine link :=
  columnIndex_ok (columnIndex_of_rowColumn isOk)

theorem ofNat_of_columnIndex {index : Int32}
    (isOk : reader.columnIndex engine column link = .ok index) : index = .ofNat column := by
  obtain ⟨same, isBelow⟩ := columnIndex_ok isOk
  exact Int32.toInt_inj.mp (same.trans (narrowed_toInt isBelow).symm)

/-! ## Cells -/

theorem rowColumn_of_row (isLive : ¬link.connection.isDisposed = true)
    (isOnRow : reader.cursor = .onRow) (isBelow : column < reader.count engine link) :
    reader.rowColumn engine column link = .ok (.ofNat column) := by
  rw [rowColumn, if_neg isLive, if_neg (by simp [isOnRow]), columnIndex, if_neg isLive]
  exact if_neg (Nat.not_le.mpr isBelow)

theorem cell_of_row (isLive : ¬link.connection.isDisposed = true) (isOnRow : reader.cursor = .onRow)
    (isBelow : column < reader.count engine link) :
    reader.cell engine column link = .ok (reader.cells[column]?.getD .null) := by
  rw [cell, rowColumn_of_row isLive isOnRow isBelow]
  exact congrArg Except.ok (cellAt_narrowed isBelow)

theorem take_eq (accessor : Cell → α × Cell) (reader : Reader) (column : Nat) (link : Link σ) :
    reader.take engine accessor column link =
      match reader.cell engine column link with
      | .error error => (.error error, reader)
      | .ok cell =>
          (.ok (accessor cell).1, { reader with cells := reader.cells.set column (accessor cell).2 })
      := by
  unfold take cell
  cases isColumn : reader.rowColumn engine column link with
  | error error => rfl
  | ok index =>
      have isIndex := ofNat_of_columnIndex (columnIndex_of_rowColumn isColumn)
      have isBelow := (rowColumn_ok isColumn).2
      subst isIndex
      dsimp only [Except.map]
      rw [keepCell_narrowed isBelow]

/-! ## What is asked of the engine -/

variable {τ : Type} {other : Engine τ} {image : StatementHandle} {elsewhere : Link τ}

/-- As far as columns go, names and the state of the connection are all that is seen. -/
structure SameColumns (engine : Engine σ) (other : Engine τ) (reader : Reader)
    (image : StatementHandle) (link : Link σ) (elsewhere : Link τ) : Prop where
  isDisposed : elsewhere.connection.isDisposed = link.connection.isDisposed
  names : ¬link.connection.isDisposed = true →
    other.columnNames image elsewhere.engine = engine.columnNames reader.statement link.engine

namespace SameColumns

variable (same : SameColumns engine other reader image link elsewhere)
include same

theorem columnCount : { reader with statement := image }.columnCount other elsewhere =
    reader.columnCount engine link := by
  unfold Reader.columnCount
  rw [same.isDisposed]
  by_cases isDisposed : link.connection.isDisposed = true
  · rw [if_pos isDisposed, if_pos isDisposed]
  · rw [if_neg isDisposed, if_neg isDisposed, count, count, Engine.columnCount,
      Engine.columnCount, same.names isDisposed]

theorem columnIndex (column : Nat) :
    { reader with statement := image }.columnIndex other column elsewhere =
      reader.columnIndex engine column link := by
  rw [columnIndex_eq, columnIndex_eq, same.columnCount]

theorem rowColumn (column : Nat) :
    { reader with statement := image }.rowColumn other column elsewhere =
      reader.rowColumn engine column link := by
  unfold Reader.rowColumn
  rw [same.isDisposed, same.columnIndex]

theorem cell (column : Nat) :
    { reader with statement := image }.cell other column elsewhere =
      reader.cell engine column link := by
  unfold Reader.cell
  rw [same.rowColumn]
  rfl

theorem name (column : Nat) :
    { reader with statement := image }.name other column elsewhere =
      reader.name engine column link := by
  unfold Reader.name
  rw [same.columnIndex]
  by_cases isDisposed : link.connection.isDisposed = true
  · rw [Reader.columnIndex, if_pos isDisposed]
    rfl
  · simp only [Engine.columnName?, same.names isDisposed]

end SameColumns

end EmbeddedSql.Reader
