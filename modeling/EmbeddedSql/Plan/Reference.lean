import EmbeddedSql.Database.ForeignKey
import EmbeddedSql.Plan.Effect

/-! Taking rows away and replacing them, and what becomes of the rows that refer to
them. -/

namespace EmbeddedSql.Plan

def brokenReference : Bytes := Bytes.ofAscii "FOREIGN KEY constraint failed"

def referenceLimit : Nat := 1000

private def withValues (row : Row) (columns : List Nat) (values : List Value) : Row :=
  { row with
    values := row.values.zipIdx.map fun (value, place) =>
      ((columns.zip values).lookup place).getD value }

private def valuesAt (row : Row) (columns : List Nat) : List Value :=
  columns.map fun column => row.values[column]?.getD .null

private def checkNulls (table : Table) (row : Row) : Effect Unit := do
  for (column, value) in table.columns.zip row.values do
    if column.notNull.isSome ∧ value = .null then
      Effect.violate .abort
        (Bytes.ofAscii "NOT NULL constraint failed: " ++ table.name ++ [0x2E] ++ column.name)

private def defaultOf (table : Table) (column : Nat) : Value :=
  match (table.column? column).bind (·.default) with
  | some (.integer digits) => .integer (Int64.ofNat (Numeral.ofDigits digits))
  | some (.string bytes) => .text bytes
  | _ => .null

/-- Whether a change of a row leaves the columns that others refer to as they are. -/
private def keepsKey (columns : List Nat) (old : Row) : Option Row → Bool
  | some new => valuesAt old columns = valuesAt new columns
  | none => false

/-- What becomes of the rows of a child that refer to a row, once that row is replaced
or gone. -/
private def follow (replace : Bytes → Row → Option Row → Effect Unit) (parent : Table)
    (childName : Bytes) (key : ForeignKey) (columns : List Nat) (old : Row)
    (new : Option Row) : Effect Unit := do
  let database := (← get).database
  match database.table? childName with
  | none => pure ()
  | some child =>
      let rows := key.referrers database.encoding child parent columns old
      let action := if new.isSome then key.reference.onUpdate else key.reference.onDelete
      let change (values : List Value) (row : Row) : Effect Unit := do
        let changed := withValues row key.columns values
        checkNulls child changed
        replace childName row (some changed)
      match action, new with
      | .noAction, _ => pure ()
      | .restrict, _ => unless rows.isEmpty do Effect.violate .abort brokenReference
      | .setNull, _ => rows.forM (change (key.columns.map fun _ => .null))
      | .setDefault, _ => rows.forM (change (key.columns.map (defaultOf child)))
      | .cascade, none => rows.forM fun row => replace childName row none
      | .cascade, some new => rows.forM (change (valuesAt new columns))

/-- Replaces a row, or takes it away if there is nothing to replace it with. -/
def replaceRow : (left : Nat) → (table : Bytes) → (old : Row) → (new : Option Row) →
    Effect Unit
  | 0, _, _, _ => pure ()
  | left + 1, name, old, new => do
      let database := (← get).database
      match database.table? name with
      | none => pure ()
      | some table =>
          let erased := table.eraseRow old.rowid
          Effect.setTable <|
            match new with
            | some new => erased.insertRow database.encoding new
            | none => erased
          for (child, key) in database.foreignKeys do
            if Bytes.sameName key.reference.table name then
              let columns := (key.parentColumns? table).getD []
              unless columns.isEmpty || keepsKey columns old new do
                follow (replaceRow left) table child.name key columns old new

def eraseRow (foreignKeys : Bool) (table : Bytes) (row : Row) : Effect Unit := do
  if foreignKeys then replaceRow referenceLimit table row none
  else
    match ← Effect.table? table with
    | some table => Effect.setTable (table.eraseRow row.rowid)
    | none => pure ()

def changeRow (foreignKeys : Bool) (table : Bytes) (old new : Row) : Effect Unit := do
  if foreignKeys then replaceRow referenceLimit table old (some new)
  else
    match ← Effect.table? table with
    | some table =>
        let encoding := (← get).database.encoding
        Effect.setTable ((table.eraseRow old.rowid).insertRow encoding new)
    | none => pure ()

end EmbeddedSql.Plan
