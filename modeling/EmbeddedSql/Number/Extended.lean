import EmbeddedSql.Number.Binary64

/-! Non-negative numbers of 64 significant bits. Decimal text is scaled by powers
of ten in this precision, and rounded to a real once, at the end. -/

namespace EmbeddedSql

/-- The value is `significand * 2 ^ exponent`; unless it is zero, the
significand has exactly 64 bits. -/
structure Extended where
  significand : Nat
  exponent : Int
deriving DecidableEq, Repr

def roundDivision (numerator denominator : Nat) : Nat :=
  let quotient := numerator / denominator
  let remainder := numerator % denominator
  if 2 * remainder < denominator then quotient
  else if denominator < 2 * remainder then quotient + 1
  else if quotient % 2 = 0 then quotient
  else quotient + 1

example : roundDivision 5 2 = 2 ∧ roundDivision 7 2 = 4 ∧ roundDivision 8 3 = 3 := by decide

namespace Extended

def ofRatio (numerator denominator : Nat) : Extended :=
  if numerator = 0 then ⟨0, 0⟩
  else
    -- The shift makes the quotient fall between 2^63 and 2^65.
    let shift : Int := 64 + (denominator.log2 : Int) - numerator.log2
    let quotientAt (shift : Int) : Nat × Nat :=
      match shift with
      | .ofNat left => (numerator <<< left, denominator)
      | .negSucc right => (numerator, denominator <<< (right + 1))
    let wide := quotientAt shift
    let shift := if 1 <<< 64 ≤ wide.1 / wide.2 then shift - 1 else shift
    let exact := quotientAt shift
    let rounded := roundDivision exact.1 exact.2
    if rounded < 1 <<< 64 then ⟨rounded, -shift⟩ else ⟨rounded / 2, 1 - shift⟩

def ofNat (value : Nat) : Extended :=
  ofRatio value 1

def tenTo : (power : Int) → Extended
  | .ofNat power => ofRatio (Nat.pow 10 power) 1
  | .negSucc power => ofRatio 1 (Nat.pow 10 (power + 1))

def multiply (left right : Extended) : Extended :=
  let product := ofNat (left.significand * right.significand)
  { product with exponent := product.exponent + left.exponent + right.exponent }

def ofBinary64 (value : Binary64) : Extended :=
  let exact := ofNat value.significand
  if exact.significand = 0 then exact
  else { exact with exponent := exact.exponent + value.scale }

def floor (value : Extended) : Nat :=
  match value.exponent with
  | .ofNat left => value.significand <<< left
  | .negSucc right => value.significand >>> (right + 1)

/-- Both numbers have the same number of bits, so the exponents decide first. -/
def isLess (left right : Extended) : Bool :=
  if left.significand = 0 then right.significand ≠ 0
  else if right.significand = 0 then false
  else left.exponent < right.exponent ||
    (left.exponent = right.exponent && left.significand < right.significand)

def toBinary64 (value : Extended) : Binary64 :=
  if value.significand = 0 then .zero
  else
    -- A normal real keeps 53 of the 64 bits; a subnormal one keeps fewer.
    let exponent := max (value.exponent + 11) (-1074)
    let dropped := (exponent - value.exponent).toNat
    let kept := roundDivision value.significand (1 <<< dropped)
    let bits := (exponent + 1074) * 0x10000000000000 + kept
    if 0x7FF0000000000000 ≤ bits then .infinity
    else ⟨bits.toNat.toUInt64⟩

/-- Multiplies by a power of ten in steps of a hundred, ten and one decimal
places. -/
def scaleByTens (value : Extended) : (power : Int) → Extended
  | .ofNat power => steps value (tenTo 100) (tenTo 10) (tenTo 1) power
  | .negSucc power =>
      steps value (tenTo (-100)) (tenTo (-10)) (tenTo (-1)) (power + 1)
where
  times (factor : Extended) : (count : Nat) → Extended → Extended
    | 0, value => value
    | count + 1, value => times factor count (value.multiply factor)
  steps (value hundred ten one : Extended) (power : Nat) : Extended :=
    times one (power % 10)
      (times ten (power % 100 / 10) (times hundred (power / 100) value))

end Extended

end EmbeddedSql
