import EmbeddedSql.Text.Utf8

/-! UTF-16: code units, their decoding with replacement of unpaired surrogates,
and the transcoding to UTF-8 built from it. -/

namespace EmbeddedSql.Utf16

abbrev Units := List UInt16

def isHigh (unit : UInt16) : Bool :=
  0xD800 ≤ unit && unit < 0xDC00

def isLow (unit : UInt16) : Bool :=
  0xDC00 ≤ unit && unit < 0xE000

def isSurrogate (unit : UInt16) : Bool :=
  isHigh unit || isLow unit

def encodeChar (character : Char) : Units :=
  let value := character.toNat
  if value < 0x10000 then
    [value.toUInt16]
  else
    [(0xD800 + (value - 0x10000) / 0x400).toUInt16,
      (0xDC00 + (value - 0x10000) % 0x400).toUInt16]

def encode (characters : List Char) : Units :=
  characters.flatMap encodeChar

def ofString (text : String) : Units :=
  encode text.toList

def pair (high low : UInt16) : Char :=
  Char.ofNat (0x10000 + (high.toNat - 0xD800) * 0x400 + (low.toNat - 0xDC00))

/-- A high surrogate is paired exactly when the very next unit is a low one;
every other surrogate is read as a replacement character. -/
def decode : Units → List Char
  | [] => []
  | [unit] =>
      [if isSurrogate unit then Utf8.replacement else Char.ofNat unit.toNat]
  | unit :: next :: rest =>
      if isHigh unit && isLow next then
        pair unit next :: decode rest
      else if isSurrogate unit then
        Utf8.replacement :: decode (next :: rest)
      else
        Char.ofNat unit.toNat :: decode (next :: rest)

def toUtf8 (units : Units) : Bytes :=
  Utf8.encode (decode units)

example : decode [0xD83D, 0xD83D, 0xDE00, 0xDC00] =
    [Utf8.replacement, '😀', Utf8.replacement] := rfl

end EmbeddedSql.Utf16
