import EmbeddedSql.Value.Affinity

/-! The order of values: nulls first, then numbers, then text, then blobs. Text is
compared by a collation. -/

namespace EmbeddedSql

inductive Collation where
  | binary
  | noCase
  | trimmed
deriving DecidableEq, Repr, Inhabited

namespace Collation

def ofName? (name : Bytes) : Option Collation :=
  if Bytes.sameName name (Bytes.ofAscii "BINARY") then some .binary
  else if Bytes.sameName name (Bytes.ofAscii "NOCASE") then some .noCase
  else if Bytes.sameName name (Bytes.ofAscii "RTRIM") then some .trimmed
  else none

private def trimmedText (text : Bytes) : Bytes :=
  (text.reverse.dropWhile (· = 0x20)).reverse

def compare (collation : Collation) (encoding : TextEncoding) (left right : Bytes) : Ordering :=
  match collation with
  | .binary => Bytes.compare (encoding.encode left) (encoding.encode right)
  | .noCase => Bytes.compare (Bytes.fold left) (Bytes.fold right)
  | .trimmed => Bytes.compare (trimmedText left) (trimmedText right)

end Collation

namespace Value

private def rank : Value → Nat
  | .null => 0
  | .integer _ => 1
  | .real _ => 1
  | .text _ => 2
  | .blob _ => 3

def compare (encoding : TextEncoding) (collation : Collation) (left right : Value) : Ordering :=
  match left, right with
  | .integer left, .integer right => Ord.compare left.toInt right.toInt
  | .integer left, .real right => Binary64.compareInt left right
  | .real left, .integer right => (Binary64.compareInt right left).swap
  | .real left, .real right => Binary64.compare left right
  | .text left, .text right => collation.compare encoding left right
  | .blob left, .blob right => Bytes.compare left right
  | left, right => Ord.compare left.rank right.rank

example : compare .utf8 .binary (.integer 2) (.text []) = .lt := rfl

/-! ## Comparing operands -/

/-- Operands as they are compared. With a numeric affinity text that is a number
counts as that number; with that of text a number beside text counts as text. -/
def aligned (affinity : Affinity) (left right : Value) : Value × Value :=
  let isText (value : Value) : Bool := value.storageClass = .text
  if !isText left && !isText right then (left, right)
  else if affinity.isNumeric then
    let number (value : Value) : Value :=
      match value with
      | .text bytes => (numberFromText bytes).getD value
      | value => value
    (number left, number right)
  else if affinity = .text then (left.withAffinity .text, right.withAffinity .text)
  else (left, right)

end Value

end EmbeddedSql
