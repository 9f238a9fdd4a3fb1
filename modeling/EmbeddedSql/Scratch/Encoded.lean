import EmbeddedSql.Scratch.Pool
import EmbeddedSql.Text.Utf16

/-! UTF-8 text held in a rented buffer, with or without a terminating zero. -/

namespace EmbeddedSql.Scratch

def maxSize : Nat := 0xFFFFFFFFFFFFFFFF

/-- Room that always suffices for `units` code units: one unit takes at most
three bytes, and the two units of a pair take four. -/
def utf8Capacity (units : Nat) : Nat :=
  min (3 * units) maxSize

structure Encoded where
  buffer : Buffer
  terminated : Bool
deriving DecidableEq, Repr

namespace Encoded

def ofUtf16 (growth : Growth) (units : Utf16.Units) (pool : Pool) : Encoded × Pool :=
  let (buffer, pool) := pool.rent growth (utf8Capacity units.length)
  (⟨buffer.append growth (Utf16.toUtf8 units), false⟩, pool)

def ofUtf16Terminated (growth : Growth) (units : Utf16.Units) (pool : Pool) :
    Encoded × Pool :=
  let (buffer, pool) := pool.rent growth (utf8Capacity units.length + 1)
  (⟨(buffer.append growth (Utf16.toUtf8 units)).append growth [0], true⟩, pool)

def ofUtf8Terminated (growth : Growth) (bytes : Bytes) (pool : Pool) : Encoded × Pool :=
  let (buffer, pool) := pool.rent growth (bytes.length + 1)
  (⟨(buffer.append growth bytes).append growth [0], true⟩, pool)

def bytes (encoded : Encoded) : Bytes :=
  if encoded.terminated then encoded.buffer.contents.dropLast
  else encoded.buffer.contents

def bytesWithTerminator (encoded : Encoded) : Bytes :=
  encoded.buffer.contents

/-- A terminated text that a zero-terminated reader sees whole. -/
def cString? (encoded : Encoded) : Option Bytes :=
  if encoded.terminated && !encoded.bytes.contains 0 then some encoded.bytes
  else none

def length (encoded : Encoded) : Nat :=
  encoded.bytes.length

def isEmpty (encoded : Encoded) : Bool :=
  encoded.length = 0

end Encoded

end EmbeddedSql.Scratch
