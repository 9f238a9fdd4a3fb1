/-! Real numbers as 64-bit floating-point words. A value is its word, so two
values are equal exactly when nothing can tell them apart. -/

namespace EmbeddedSql

structure Binary64 where
  bits : UInt64
deriving DecidableEq, Repr, Inhabited

namespace Binary64

def toFloat (value : Binary64) : Float :=
  Float.ofBits value.bits

def ofFloat (value : Float) : Binary64 :=
  ⟨value.toBits⟩

def zero : Binary64 := ⟨0⟩

def infinity : Binary64 := ⟨0x7FF0000000000000⟩

def largest : Binary64 := ⟨0x7FEFFFFFFFFFFFFF⟩

/-! ## Fields -/

def isNegative (value : Binary64) : Bool :=
  0x8000000000000000 ≤ value.bits.toNat

def magnitudeBits (value : Binary64) : Nat :=
  value.bits.toNat % 0x8000000000000000

def exponentBits (value : Binary64) : Nat :=
  value.magnitudeBits / 0x10000000000000

def fractionBits (value : Binary64) : Nat :=
  value.bits.toNat % 0x10000000000000

def isFinite (value : Binary64) : Bool :=
  value.exponentBits < 0x7FF

def isNaN (value : Binary64) : Bool :=
  value.exponentBits = 0x7FF && value.fractionBits ≠ 0

def isInfinite (value : Binary64) : Bool :=
  value.exponentBits = 0x7FF && value.fractionBits = 0

def isZero (value : Binary64) : Bool :=
  value.magnitudeBits = 0

def significand (value : Binary64) : Nat :=
  if value.exponentBits = 0 then value.fractionBits
  else 0x10000000000000 + value.fractionBits

def scale (value : Binary64) : Int :=
  if value.exponentBits = 0 then -1074 else (value.exponentBits : Int) - 1075

def negate (value : Binary64) : Binary64 :=
  ⟨value.bits ^^^ 0x8000000000000000⟩

def magnitude (value : Binary64) : Binary64 :=
  ⟨value.bits &&& 0x7FFFFFFFFFFFFFFF⟩

example : (ofFloat 1.5).significand = 0x18000000000000 ∧ (ofFloat 1.5).scale = -52 := by
  decide

/-! ## Integers and reals -/

def ofInt64 (value : Int64) : Binary64 :=
  ofFloat value.toFloat

def ofUInt64 (value : UInt64) : Binary64 :=
  ofFloat value.toFloat

/-- The nearest 64-bit integer toward zero; values outside the range are
clamped to its ends. -/
def toInt64 (value : Binary64) : Int64 :=
  if value.isNaN then 0
  else
    let truncated : Int :=
      if value.isInfinite then 0x8000000000000000
      else match value.scale with
        | .ofNat left => (value.significand <<< left : Nat)
        | .negSucc right => (value.significand >>> (right + 1) : Nat)
    let signed := if value.isNegative then -truncated else truncated
    Int64.ofInt (max (-0x8000000000000000) (min signed 0x7FFFFFFFFFFFFFFF))

def compare (left right : Binary64) : Ordering :=
  let key (value : Binary64) : Int :=
    if value.isNegative then -(value.magnitudeBits : Int) else value.magnitudeBits
  Ord.compare (key left) (key right)

def compareInt (left : Int64) (right : Binary64) : Ordering :=
  if right.isInfinite then
    if right.isNegative then .gt else .lt
  else
    let signed : Int :=
      if right.isNegative then -(right.significand : Int) else right.significand
    match right.scale with
    | .ofNat shift => Ord.compare left.toInt (signed * (1 <<< shift : Nat))
    | .negSucc shift => Ord.compare (left.toInt * (1 <<< (shift + 1) : Nat)) signed

/-! ## Arithmetic -/

def add (left right : Binary64) : Binary64 :=
  ofFloat (left.toFloat + right.toFloat)

def subtract (left right : Binary64) : Binary64 :=
  ofFloat (left.toFloat - right.toFloat)

def multiply (left right : Binary64) : Binary64 :=
  ofFloat (left.toFloat * right.toFloat)

def divide (left right : Binary64) : Binary64 :=
  ofFloat (left.toFloat / right.toFloat)

end Binary64

end EmbeddedSql
