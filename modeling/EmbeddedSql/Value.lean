import EmbeddedSql.Number.Numeral
import EmbeddedSql.Number.Significant
import EmbeddedSql.Text.Basic

/-! Values as a database stores them. -/

namespace EmbeddedSql

inductive Value where
  | null
  | integer (value : Int64)
  | real (value : Binary64)
  | text (bytes : Bytes)
  | blob (bytes : Bytes)
deriving DecidableEq, Repr, Inhabited

/-- What a slot of a statement can be given. Wide text is handed over as it is. -/
inductive Argument where
  | null
  | integer (value : Int64)
  | real (value : Binary64)
  | text (text : Text)
  | blob (bytes : Bytes)
deriving DecidableEq, Repr

/-- The number of bytes that are handed over for an argument. -/
def Argument.byteLength : Argument → Nat
  | .text written => written.byteLength
  | .blob bytes => bytes.length
  | _ => 0

inductive StorageClass where
  | integer
  | real
  | text
  | blob
  | null
deriving DecidableEq, Repr

namespace Value

def storageClass : Value → StorageClass
  | .null => .null
  | .integer _ => .integer
  | .real _ => .real
  | .text _ => .text
  | .blob _ => .blob

/-! ## Conversions

Every value reads as an integer, as a real and as text. Text that is no number
reads as the number it starts with. -/

def decimal (value : Int64) : Bytes :=
  Utf8.ofString (toString value.toInt)

def toInt64 : Value → Int64
  | .null => 0
  | .integer value => value
  | .real value => value.toInt64
  | .text bytes => (Numeral.readInteger bytes).value
  | .blob bytes => (Numeral.readInteger bytes).value

def toReal : Value → Binary64
  | .null => .zero
  | .integer value => .ofInt64 value
  | .real value => value
  | .text bytes => (Numeral.readReal bytes).value
  | .blob bytes => (Numeral.readReal bytes).value

def toBytes : Value → Bytes
  | .null => []
  | .integer value => decimal value
  | .real value => Utf8.encode (Significant.render .text value)
  | .text bytes => bytes
  | .blob bytes => bytes

example : (Value.integer (-12)).toBytes = Bytes.ofAscii "-12" := by decide +kernel
example : (Value.text (Bytes.ofAscii "12 apples")).toInt64 = 12 := by decide +kernel

end Value

end EmbeddedSql
