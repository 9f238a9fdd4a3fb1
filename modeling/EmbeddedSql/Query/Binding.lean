import EmbeddedSql.Connection.Parameter
import EmbeddedSql.Json.Printer
import EmbeddedSql.Query.Error

/-! JSON values as the values of parameters. -/

namespace EmbeddedSql.Query

variable {σ α : Type}

abbrev Call (σ : Type) := ExceptT Error (StateM (Link σ))

def Call.ofConnection (call : EmbeddedSql.Call σ α) : Call σ α := fun link =>
  match call link with
  | (.ok answer, link) => (.ok answer, link)
  | (.error error, link) => (.error (.connection error), link)

/-- The argument that stands for a JSON value. Truth values are numbers, integers
too large for 64 bits become reals, and arrays and objects their JSON text. -/
def argumentOf : Json → Argument
  | .null => .null
  | .boolean value => .integer (if value then 1 else 0)
  | .integer value =>
      if -0x8000000000000000 ≤ value ∧ value ≤ 0x7FFFFFFFFFFFFFFF then
        .integer (Int64.ofInt value)
      else .real (.ofUInt64 value.toNat.toUInt64)
  | .real value => .real value
  | .string value => .text (.ofString value)
  | .array elements => .text (.ofString (Json.array elements).toText)
  | .object members => .text (.ofString (Json.object members).toText)

variable (engine : Engine σ) (growth : Scratch.Growth) (statement : StatementHandle)

def bindValue (index : Int32) (value : Json) : Call σ Unit :=
  Call.ofConnection
    (Parameter.bind engine growth statement (.index index) (argumentOf value))

/-- Binds values to the positions from `position` on, as far as positions go. -/
def bindFrom (count position : Nat) : List Json → Call σ Unit
  | [] => pure ()
  | value :: rest => do
      if 0x7FFFFFFF < position then throw (.tooManyValues count)
      bindValue engine growth statement (Int32.ofNat position) value
      bindFrom count (position + 1) rest

/-- Binds the values in order, the first one to the first parameter. -/
def bindValues (values : List Json) : Call σ Unit :=
  bindFrom engine growth statement values.length 1 values

end EmbeddedSql.Query
