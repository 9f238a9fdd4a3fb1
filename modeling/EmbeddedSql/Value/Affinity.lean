import EmbeddedSql.Value

/-! The affinity of a column: the kind of value it would rather hold. Values are
converted when nothing is lost by it, and stay what they are otherwise. -/

namespace EmbeddedSql

inductive Affinity where
  | blob
  | text
  | numeric
  | integer
  | real
deriving DecidableEq, Repr, Inhabited

namespace Affinity

def isNumeric : Affinity → Bool
  | .numeric => true
  | .integer => true
  | .real => true
  | .text => false
  | .blob => false

private def containsWord (word : String) : Bytes → Bool
  | [] => false
  | byte :: rest => (Bytes.ofAscii word).isPrefixOf (byte :: rest) || containsWord word rest

/-- The affinity that a type's name stands for. A column without a type has none. -/
def ofType (type : Bytes) : Affinity :=
  let type := type.map Bytes.toUpper
  if containsWord "INT" type then .integer
  else if containsWord "CHAR" type || containsWord "CLOB" type || containsWord "TEXT" type then
    .text
  else if containsWord "BLOB" type || type.isEmpty then .blob
  else if containsWord "REAL" type || containsWord "FLOA" type || containsWord "DOUB" type then
    .real
  else .numeric

example : ofType (Bytes.ofAscii "VARCHAR(3)") = .text := by decide +kernel
example : ofType (Bytes.ofAscii "boolean") = .numeric := by decide +kernel

end Affinity

namespace Value

/-! ## Numbers -/

/-- The integer that a real is the same as. Only values that are far from the limits
of exact integers count. -/
private def sameInteger? (value : Binary64) : Option Int64 :=
  let whole := value.toInt64
  if value.isZero then some whole
  else if Binary64.ofInt64 whole = value ∧ -2251799813685248 ≤ whole ∧
      whole < 2251799813685248 then
    some whole
  else none

private def integerFromReal (value : Binary64) : Value :=
  let whole := value.toInt64
  if Binary64.compareInt whole value = .eq ∧ whole ≠ Int64.minValue ∧
      whole ≠ Int64.maxValue then
    .integer whole
  else .real value

def numberFromText (bytes : Bytes) : Option Value :=
  let reading := Numeral.readReal bytes
  match reading.fit with
  | .none => none
  | .leading => none
  | .integer =>
      match sameInteger? reading.value with
      | some whole => some (.integer whole)
      | none =>
          let whole := Numeral.readInteger bytes
          if whole.fit = .exact then some (.integer whole.value)
          else some (.real reading.value)
  | .real => some (.real reading.value)

/-- A real as a column of reals keeps it: whole numbers are kept as integers, so that zero
has no sign. -/
private def keptReal (value : Binary64) : Value :=
  .real (integerFromReal value).toReal

def withAffinity (value : Value) (affinity : Affinity) : Value :=
  match affinity, value with
  | .blob, _ => value
  | .text, .integer _ => .text value.toBytes
  | .text, .real _ => .text value.toBytes
  | .text, _ => value
  | .real, .integer whole => .real (.ofInt64 whole)
  | .real, .text bytes =>
      match numberFromText bytes with
      | some number => keptReal number.toReal
      | none => value
  | .real, .real number => keptReal number
  | .real, _ => value
  | _, .real number => integerFromReal number
  | _, .text bytes =>
      match numberFromText bytes with
      | some (.real number) => integerFromReal number
      | some number => number
      | none => value
  | _, _ => value

example : withAffinity (.integer 7) .text = .text (Bytes.ofAscii "7") := by decide +kernel

private def numberAtFront (bytes : Bytes) : Value :=
  let reading := Numeral.readReal bytes
  let whole := Numeral.readInteger bytes
  match reading.fit with
  | .none =>
      if whole.fit = .absent ∨ whole.fit = .exact ∨ whole.fit = .trailing then
        .integer whole.value
      else .real reading.value
  | .integer => if whole.fit = .exact then .integer whole.value else .real reading.value
  | .leading => .real reading.value
  | .real => .real reading.value

def toNumber : Value → Value
  | .text bytes => numberAtFront bytes
  | .blob bytes => numberAtFront bytes
  | value => value

/-! ## Casts -/

private def castToNumeric (bytes : Bytes) : Value :=
  let reading := Numeral.readReal bytes
  let whole := Numeral.readInteger bytes
  let readsAsInteger :=
    (reading.fit = .none ∨ reading.fit = .integer) ∧
      (whole.fit = .absent ∨ whole.fit = .exact ∨ whole.fit = .trailing)
  if readsAsInteger then .integer whole.value
  else
    match sameInteger? reading.value with
    | some whole => .integer whole
    | none => .real reading.value

def cast (value : Value) (affinity : Affinity) : Value :=
  if value = .null then .null
  else
    match affinity with
    | .blob => .blob value.toBytes
    | .text => .text value.toBytes
    | .integer => .integer value.toInt64
    | .real => .real value.toReal
    | .numeric =>
        match value with
        | .text bytes => castToNumeric bytes
        | .blob bytes => castToNumeric bytes
        | value => value

end Value

end EmbeddedSql
