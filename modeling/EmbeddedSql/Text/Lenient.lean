import EmbeddedSql.Text.Utf16

/-! The storage engine converts text between its two encodings without judging
it. A lead byte takes every continuation byte that follows, whatever the count;
a surrogate takes the unit after it, whatever that is. On well-formed text both
conversions agree with the strict ones. -/

namespace EmbeddedSql.Lenient

def isContinuation (byte : UInt8) : Bool :=
  0x80 ≤ byte && byte < 0xC0

/-! ## From bytes to units -/

def leadBits (byte : UInt8) : Nat :=
  if byte < 0xE0 then byte.toNat % 0x20
  else if byte < 0xF0 then byte.toNat % 0x10
  else if byte < 0xF8 then byte.toNat % 0x08
  else if byte < 0xFC then byte.toNat % 0x04
  else if byte < 0xFE then byte.toNat % 0x02
  else 0

/-- Values that no sequence of several bytes may stand for are replaced: the
ASCII range, surrogates, U+FFFE and U+FFFF. -/
def scalar (value : Nat) : Nat :=
  if value < 0x80 ∨ value / 0x800 = 0x1B ∨ value / 2 = 0x7FFF then 0xFFFD
  else value

/-- Values above U+10FFFF, which only a broken sequence yields, lose the bits
that a pair has no room for. -/
def unitsOfScalar (value : Nat) : Utf16.Units :=
  if value ≤ 0xFFFF then
    [value.toUInt16]
  else
    let above := value - 0x10000
    [(0xD800 + above / 0x40000 % 4 * 0x100 + above / 0x10000 % 4 * 0x40 +
        value / 0x400 % 0x40).toUInt16,
      (0xDC00 + value % 0x400).toUInt16]

/-- The values of a byte text. `current` is that of a sequence whose
continuation bytes are still being taken; it is kept in 32 bits. -/
def scalarsFrom : Option Nat → Bytes → List Nat
  | none, [] => []
  | some value, [] => [scalar value]
  | some value, byte :: rest =>
      if isContinuation byte then
        scalarsFrom (some ((value * 0x40 + byte.toNat % 0x40) % 0x100000000)) rest
      else if byte < 0xC0 then
        scalar value :: byte.toNat :: scalarsFrom none rest
      else
        scalar value :: scalarsFrom (some (leadBits byte)) rest
  | none, byte :: rest =>
      if byte < 0xC0 then byte.toNat :: scalarsFrom none rest
      else scalarsFrom (some (leadBits byte)) rest

def scalars (bytes : Bytes) : List Nat :=
  scalarsFrom none bytes

def toUtf16 (bytes : Bytes) : Utf16.Units :=
  (scalars bytes).flatMap unitsOfScalar

/-! ## From units to bytes -/

/-- A surrogate is joined with the unit after it as if the two were a pair; at
the end of the text it stands for itself. -/
def toUtf8 : Utf16.Units → Bytes
  | [] => []
  | [unit] => Utf8.encodeScalar unit.toNat
  | unit :: next :: rest =>
      if Utf16.isSurrogate unit then
        let bits := unit.toNat
        Utf8.encodeScalar
            (next.toNat % 0x400 + bits % 0x40 * 0x400 + (bits / 0x40 % 0x10 + 1) * 0x10000) ++
          toUtf8 rest
      else
        Utf8.encodeScalar unit.toNat ++ toUtf8 (next :: rest)

def swapBytes (unit : UInt16) : UInt16 :=
  (unit.toNat % 0x100 * 0x100 + unit.toNat / 0x100).toUInt16

/-- A byte-order mark at the front of wide text is taken off, and a reversed one
turns every unit after it around. -/
def dropByteOrderMark : Utf16.Units → Utf16.Units
  | [] => []
  | unit :: rest =>
      if unit = 0xFEFF then rest
      else if unit = 0xFFFE then rest.map swapBytes
      else unit :: rest

example : toUtf16 [0xDE, 0xAD, 0xBE, 0xEF] = [0xD83A, 0xDF7E, 0xFFFD] := rfl
example : toUtf8 [0xD83D, 0xDE00] = Utf8.encode ['😀'] := rfl
example : toUtf8 [0xD800] = [0xED, 0xA0, 0x80] := rfl

end EmbeddedSql.Lenient
