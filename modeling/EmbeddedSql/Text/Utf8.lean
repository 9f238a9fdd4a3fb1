import EmbeddedSql.Text.Bytes

/-! UTF-8: the encoding of a character, and decoding that never fails. Every
maximal piece of a broken sequence is read as one replacement character. -/

namespace EmbeddedSql.Utf8

def replacement : Char := '\uFFFD'

/-! ## Encoding -/

/-- The bytes of a scalar value below 2^21, shortest form first. -/
def encodeScalar (value : Nat) : Bytes :=
  if value < 0x80 then
    [value.toUInt8]
  else if value < 0x800 then
    [(0xC0 + value / 0x40).toUInt8, (0x80 + value % 0x40).toUInt8]
  else if value < 0x10000 then
    [(0xE0 + value / 0x1000).toUInt8, (0x80 + value / 0x40 % 0x40).toUInt8,
      (0x80 + value % 0x40).toUInt8]
  else
    [(0xF0 + value / 0x40000 % 8).toUInt8, (0x80 + value / 0x1000 % 0x40).toUInt8,
      (0x80 + value / 0x40 % 0x40).toUInt8, (0x80 + value % 0x40).toUInt8]

def encodeChar (character : Char) : Bytes :=
  encodeScalar character.toNat

def encode (characters : List Char) : Bytes :=
  characters.flatMap encodeChar

example : encode ['é', '€', '😀'] =
    [0xC3, 0xA9, 0xE2, 0x82, 0xAC, 0xF0, 0x9F, 0x98, 0x80] := rfl

/-! ## Decoding -/

/-- A sequence begun and not yet complete: the value so far, how many bytes are
still to come, and between which bounds the next one lies. -/
structure Partial where
  value : Nat
  missing : Nat
  low : UInt8
  high : UInt8

inductive Lead where
  | complete (character : Char)
  | begun (partialSequence : Partial)
  | invalid

/-- What a byte starts. The bounds on the byte that follows exclude overlong
forms, surrogates and values above U+10FFFF. -/
def lead (byte : UInt8) : Lead :=
  if byte < 0x80 then .complete (Char.ofNat byte.toNat)
  else if byte < 0xC2 then .invalid
  else if byte < 0xE0 then .begun ⟨byte.toNat - 0xC0, 1, 0x80, 0xBF⟩
  else if byte = 0xE0 then .begun ⟨0, 2, 0xA0, 0xBF⟩
  else if byte = 0xED then .begun ⟨0xD, 2, 0x80, 0x9F⟩
  else if byte < 0xF0 then .begun ⟨byte.toNat - 0xE0, 2, 0x80, 0xBF⟩
  else if byte = 0xF0 then .begun ⟨0, 3, 0x90, 0xBF⟩
  else if byte < 0xF4 then .begun ⟨byte.toNat - 0xF0, 3, 0x80, 0xBF⟩
  else if byte = 0xF4 then .begun ⟨4, 3, 0x80, 0x8F⟩
  else .invalid

/-- The characters of a byte text whose begun sequence, if there is one, is known. -/
def decodeFrom : Option Partial → Bytes → List Char
  | none, [] => []
  | some _, [] => [replacement]
  | none, byte :: rest =>
      match lead byte with
      | .complete character => character :: decodeFrom none rest
      | .begun next => decodeFrom (some next) rest
      | .invalid => replacement :: decodeFrom none rest
  | some current, byte :: rest =>
      if current.low ≤ byte ∧ byte ≤ current.high then
        let value := current.value * 0x40 + (byte.toNat - 0x80)
        if current.missing ≤ 1 then
          Char.ofNat value :: decodeFrom none rest
        else
          decodeFrom (some ⟨value, current.missing - 1, 0x80, 0xBF⟩) rest
      else
        replacement ::
          match lead byte with
          | .complete character => character :: decodeFrom none rest
          | .begun next => decodeFrom (some next) rest
          | .invalid => replacement :: decodeFrom none rest

def decode (bytes : Bytes) : List Char :=
  decodeFrom none bytes

def toString (bytes : Bytes) : String :=
  String.ofList (decode bytes)

def ofString (text : String) : Bytes :=
  encode text.toList

example : decode [0xC3, 0xA9, 0xED, 0xA0, 0x80, 0x41] =
    ['é', replacement, replacement, replacement, 'A'] := rfl

/-- A cut sequence is one replacement character, and the byte that cut it is
read again. -/
example : decode [0xF0, 0x9F, 0x41] = [replacement, 'A'] := rfl

end EmbeddedSql.Utf8
