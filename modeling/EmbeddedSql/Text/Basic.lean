import EmbeddedSql.Text.Lenient

/-! Text as callers hand it over, which is bytes that are usually UTF-8 or UTF-16 code
units, and text as the storage engine holds it, which is bytes in an encoding. -/

namespace EmbeddedSql

inductive Text where
  | utf8 (bytes : Bytes)
  | utf16 (units : Utf16.Units)
deriving DecidableEq, Repr

namespace Text

def ofString (text : String) : Text :=
  .utf8 (Utf8.ofString text)

def wideOfString (text : String) : Text :=
  .utf16 (Utf16.ofString text)

def byteLength : Text → Nat
  | .utf8 bytes => bytes.length
  | .utf16 units => 2 * units.length

end Text

/-- How text is encoded in a database. Code units that are handed over are in the byte
order of the machine, which is taken to be little-endian. -/
inductive TextEncoding where
  | utf8
  | utf16LittleEndian
  | utf16BigEndian
deriving DecidableEq, Repr, Inhabited

namespace TextEncoding

def isWide (encoding : TextEncoding) : Bool := encoding ≠ .utf8

def unitBytes (encoding : TextEncoding) (unit : UInt16) : Bytes :=
  let low := (unit % 0x100).toUInt8
  let high := (unit / 0x100).toUInt8
  if encoding = .utf16BigEndian then [high, low] else [low, high]

def unit (encoding : TextEncoding) (first second : UInt8) : UInt16 :=
  if encoding = .utf16BigEndian then first.toUInt16 * 0x100 + second.toUInt16
  else second.toUInt16 * 0x100 + first.toUInt16

def unitsBytes (encoding : TextEncoding) (units : Utf16.Units) : Bytes :=
  units.flatMap encoding.unitBytes

def units (encoding : TextEncoding) : Bytes → Utf16.Units
  | first :: second :: rest => encoding.unit first second :: encoding.units rest
  | _ => []

def encode (encoding : TextEncoding) (text : Bytes) : Bytes :=
  if encoding = .utf8 then text else encoding.unitsBytes (Lenient.toUtf16 text)

end TextEncoding

structure TextForm where
  encoding : TextEncoding
  bytes : Bytes
deriving DecidableEq, Repr

namespace TextForm

def toUtf8 (form : TextForm) : Bytes :=
  if form.encoding = .utf8 then form.bytes
  else Lenient.toUtf8 (form.encoding.units form.bytes)

def toUtf16 (form : TextForm) : Utf16.Units :=
  if form.encoding = .utf8 then Lenient.toUtf16 form.bytes
  else form.encoding.units form.bytes

def swapPairs : Bytes → Bytes
  | first :: second :: rest => second :: first :: swapPairs rest
  | rest => rest

/-- The text in another encoding. Between the two byte orders of UTF-16 nothing but the
order changes. -/
def into (encoding : TextEncoding) (form : TextForm) : TextForm :=
  if form.encoding = encoding then form
  else if encoding = .utf8 then ⟨.utf8, form.toUtf8⟩
  else if form.encoding = .utf8 then ⟨encoding, encoding.encode form.bytes⟩
  else ⟨encoding, swapPairs form.bytes⟩

example : into .utf16BigEndian ⟨.utf8, [0x41]⟩ = ⟨.utf16BigEndian, [0x00, 0x41]⟩ := by decide
example : into .utf8 ⟨.utf16LittleEndian, [0x41, 0x00, 0x42]⟩ = ⟨.utf8, [0x41]⟩ := by decide

end TextForm

end EmbeddedSql
