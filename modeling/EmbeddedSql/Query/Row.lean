import EmbeddedSql.Connection.Reader
import EmbeddedSql.Json.Basic
import EmbeddedSql.Query.Error
import EmbeddedSql.Text.Base64

/-! Rows as JSON: one member per column name. -/

namespace EmbeddedSql.Query

variable {σ : Type} (engine : Engine σ)

/-- Numbers and text stay what they are; a blob becomes base64, and a real that
JSON cannot write becomes null. -/
def jsonOf : Value → Json
  | .null => .null
  | .integer value => .integer value.toInt
  | .real value => if value.isFinite then .real value else .null
  | .text bytes => .string (Utf8.toString bytes)
  | .blob bytes => .string (String.ofList (Base64.encode bytes))

def leave : Cell → Cell
  | .text form => .text (form.into .utf8)
  | cell => cell

def columnJson (reader : Reader) (column : Nat) (link : Link σ) : Except Error Json :=
  match reader.cell engine column link with
  | .ok cell => .ok (jsonOf cell.toValue)
  | .error error => .error (.connection error)

abbrev Row := List (String × Json)

namespace Row

/-- A name that is there already keeps its place and gets the new value. -/
def insert (row : Row) (name : String) (value : Json) : Row :=
  match row with
  | [] => [(name, value)]
  | (other, current) :: rest =>
      if other = name then (name, value) :: rest
      else (other, current) :: insert rest name value

example : insert [("a", .null), ("b", .null)] "a" (.integer 1) =
    [("a", .integer 1), ("b", .null)] := rfl

end Row

/-- The columns from `column` on, put into a row one after the other. -/
def decodeFrom (reader : Reader) (link : Link σ) :
    (left : Nat) → (column : Nat) → Row → Except Error Row
  | 0, _, row => .ok row
  | left + 1, column, row =>
      match reader.nameString engine column link with
      | .error error => .error (.connection error)
      | .ok name =>
          match columnJson engine reader column link with
          | .error error => .error error
          | .ok value => decodeFrom reader link left (column + 1) (row.insert name value)

def decodeRow (reader : Reader) (link : Link σ) : Except Error Row :=
  match reader.columnCount engine link with
  | .error error => .error (.connection error)
  | .ok count => decodeFrom engine reader link count 0 []

end EmbeddedSql.Query
