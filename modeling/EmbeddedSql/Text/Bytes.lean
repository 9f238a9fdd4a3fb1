/-! Byte strings. SQL text, identifiers and text values are bytes first: they
are usually UTF-8, but nothing in the library relies on that. -/

namespace EmbeddedSql

abbrev Bytes := List UInt8

namespace Bytes

/-! Letters, digits and blanks are those of ASCII. Bytes above 0x7F belong to
identifiers and never to any of these classes. -/

def isDigit (byte : UInt8) : Bool :=
  0x30 ≤ byte && byte ≤ 0x39

def isUpper (byte : UInt8) : Bool :=
  0x41 ≤ byte && byte ≤ 0x5A

def isLower (byte : UInt8) : Bool :=
  0x61 ≤ byte && byte ≤ 0x7A

def isHexDigit (byte : UInt8) : Bool :=
  isDigit byte || (0x41 ≤ byte && byte ≤ 0x46) || (0x61 ≤ byte && byte ≤ 0x66)

/-- A blank is a space or one of the controls from tab to carriage return. -/
def isBlank (byte : UInt8) : Bool :=
  byte = 0x20 || (0x09 ≤ byte && byte ≤ 0x0D)

def toLower (byte : UInt8) : UInt8 :=
  if isUpper byte then byte + 0x20 else byte

def toUpper (byte : UInt8) : UInt8 :=
  if isLower byte then byte - 0x20 else byte

/-- The text with its ASCII letters in lower case. Two identifiers name the
same thing when their folded texts agree. -/
def fold (bytes : Bytes) : Bytes :=
  bytes.map toLower

def sameName (left right : Bytes) : Bool :=
  fold left == fold right

/-- The byte of an ASCII character; other characters lose their upper bits. -/
def ofAscii (text : String) : Bytes :=
  text.toList.map fun character => character.val.toUInt8

def hexDigitValue (byte : UInt8) : Nat :=
  if isDigit byte then byte.toNat - 0x30
  else if isUpper byte then byte.toNat - 0x37
  else byte.toNat - 0x57

/-- The longest prefix before a zero byte: what a zero-terminated reader sees. -/
def beforeZero (bytes : Bytes) : Bytes :=
  bytes.takeWhile (· ≠ 0)

def trimBlank (bytes : Bytes) : Bytes :=
  ((bytes.dropWhile isBlank).reverse.dropWhile isBlank).reverse

/-- Byte order, shorter first among texts that agree as far as they go. -/
def compare : Bytes → Bytes → Ordering
  | [], [] => .eq
  | [], _ :: _ => .lt
  | _ :: _, [] => .gt
  | left :: lefts, right :: rights =>
      if left < right then .lt
      else if right < left then .gt
      else compare lefts rights

private def hexDigit (letters : UInt8) (value : UInt8) : UInt8 :=
  if value < 10 then 0x30 + value else letters + (value - 10)

def toHexUpper (bytes : Bytes) : Bytes :=
  bytes.flatMap fun (byte : UInt8) => [hexDigit 0x41 (byte >>> 4), hexDigit 0x41 (byte &&& 0x0F)]

def toHexLower (bytes : Bytes) : Bytes :=
  bytes.flatMap fun (byte : UInt8) => [hexDigit 0x61 (byte >>> 4), hexDigit 0x61 (byte &&& 0x0F)]

/-- Pairs of hexadecimal digits; `none` for another digit or a lone one. -/
def ofHex? : Bytes → Option Bytes
  | [] => some []
  | [_] => none
  | high :: low :: rest =>
      if isHexDigit high && isHexDigit low then
        (ofHex? rest).map
          ((hexDigitValue high * 16 + hexDigitValue low).toUInt8 :: ·)
      else none

example : ofHex? (ofAscii "0aFF") = some [0x0A, 0xFF] := rfl
example : toHexUpper [0x0A, 0xFF] = ofAscii "0AFF" := rfl

end Bytes

end EmbeddedSql
