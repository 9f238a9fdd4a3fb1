import EmbeddedSql.Value

/-! The columns of a current row. Asking a cell for text changes the form it is kept in.
Text that is not well-formed may not come back from another encoding as it was. -/

namespace EmbeddedSql

/-- What the storage engine has for a column. The text that stands for a number is written in
UTF-8 at first. A blob has an encoding, too, which counts once it is taken for text. -/
inductive Cell where
  | null
  | integer (value : Int64) (written : TextEncoding)
  | real (value : Binary64) (written : TextEncoding)
  | text (form : TextForm)
  | blob (form : TextForm)
deriving DecidableEq, Repr

namespace Cell

/-- The cell of a value in a database that encodes its text so. -/
def stored (encoding : TextEncoding) : Value → Cell
  | .null => .null
  | .integer value => .integer value .utf8
  | .real value => .real value .utf8
  | .text bytes => .text ⟨encoding, encoding.encode bytes⟩
  | .blob bytes => .blob ⟨encoding, bytes⟩

/-- The cell of a value in a database in UTF-8. -/
def ofValue (value : Value) : Cell :=
  stored .utf8 value

def form : Cell → TextForm
  | .null => ⟨.utf8, []⟩
  | .integer value written => ⟨written, written.encode (Value.integer value).toBytes⟩
  | .real value written => ⟨written, written.encode (Value.real value).toBytes⟩
  | .text form => form
  | .blob form => form

def toValue : Cell → Value
  | .null => .null
  | .integer value _ => .integer value
  | .real value _ => .real value
  | .text form => .text form.toUtf8
  | .blob form => .blob form.bytes

def storageClass (cell : Cell) : StorageClass :=
  cell.toValue.storageClass

def toInt64 : Cell → Int64
  | .blob form => (Value.text form.toUtf8).toInt64
  | cell => cell.toValue.toInt64

def toInt32 (cell : Cell) : Int32 :=
  cell.toInt64.toInt32

def toReal : Cell → Binary64
  | .blob form => (Value.text form.toUtf8).toReal
  | cell => cell.toValue.toReal

/-- Bytes are given in the encoding of the moment. -/
def toBytes (cell : Cell) : Bytes :=
  cell.form.bytes

/-! ## Text

A cell is kept in the encoding that was asked for last, and a blob that was read as text is
text from then on. Numbers stay numbers. -/

def into (encoding : TextEncoding) : Cell → Cell
  | .null => .null
  | .integer value _ => .integer value encoding
  | .real value _ => .real value encoding
  | .text form => .text (form.into encoding)
  | .blob form => .text (form.into encoding)

def utf8 (cell : Cell) : Bytes × Cell :=
  let cell := cell.into .utf8
  (cell.form.toUtf8, cell)

def utf16 (cell : Cell) : Utf16.Units × Cell :=
  let cell := cell.into .utf16LittleEndian
  (cell.form.toUtf16, cell)

end Cell

end EmbeddedSql
