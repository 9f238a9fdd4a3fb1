import EmbeddedSql.Number.Extended
import EmbeddedSql.Text.Bytes

/-! Decimal text of a real with a limited number of significant digits. The digits
come from a number scaled between 10^17 and 10^19, cut to an integer and rounded
half up. -/

namespace EmbeddedSql.Significant

/-- The value is `0.d₁d₂… * 10 ^ point`; the digits end in no zero. -/
structure Digits where
  digits : List Nat
  point : Int
deriving DecidableEq, Repr

private def lower (power : Int) (value : Extended) (bound factor : Extended) (step : Int) :
    (fuel : Nat) → Extended × Int
  | 0 => (value, power)
  | fuel + 1 =>
      if value.isLess bound then (value, power)
      else lower (power + step) (value.multiply factor) bound factor step fuel

private def raise (power : Int) (value : Extended) (bound factor : Extended) (step : Int) :
    (fuel : Nat) → Extended × Int
  | 0 => (value, power)
  | fuel + 1 =>
      if value.isLess bound then
        raise (power - step) (value.multiply factor) bound factor step fuel
      else (value, power)

private def whole (value : Extended) : Nat × Int :=
  let (value, power) :=
    if value.isLess (.tenTo 19) then
      let (value, power) := raise 0 value (.tenTo (-97)) (.tenTo 100) 100 4
      let (value, power) := raise power value (.tenTo 7) (.tenTo 10) 10 20
      raise power value (.tenTo 17) (.tenTo 1) 1 20
    else
      let (value, power) := lower 0 value (.tenTo 119) (.tenTo (-100)) 100 4
      let (value, power) := lower power value (.tenTo 29) (.tenTo (-10)) 10 20
      lower power value (.tenTo 19) (.tenTo (-1)) 1 20
  (value.floor, power)

private def decimalDigits (value : Nat) : List Nat :=
  (toString value).toList.map fun character => character.toNat - 0x30

/-- Adds one to the last digit; a carry out of the first digit is reported. -/
private def increment : List Nat → List Nat × Bool
  | [] => ([], true)
  | digit :: rest =>
      let (rest, carry) := increment rest
      if carry then (if digit = 9 then (0 :: rest, true) else ((digit + 1) :: rest, false))
      else (digit :: rest, false)

private def dropTrailingZeros (digits : List Nat) : List Nat :=
  (digits.reverse.dropWhile (· = 0)).reverse

/-- The digits of the magnitude of a finite real, `limit` of them at most. -/
def ofBinary64 (limit : Nat) (value : Binary64) : Digits :=
  if value.isZero then ⟨[0], 1⟩
  else
    let (integer, power) := whole (.ofBinary64 value)
    let digits := decimalDigits integer
    let point := (digits.length : Int) + power
    if digits.length ≤ limit then ⟨dropTrailingZeros digits, point⟩
    else
      let kept := digits.take limit
      if 5 ≤ (digits[limit]?).getD 0 then
        match increment kept with
        | (kept, true) => ⟨dropTrailingZeros (1 :: kept), point + 1⟩
        | (kept, false) => ⟨dropTrailingZeros kept, point⟩
      else ⟨dropTrailingZeros kept, point⟩

private def characters (digits : List Nat) : List Char :=
  digits.map fun digit => Char.ofNat (digit + 0x30)

private def padded (digits : List Nat) (width : Nat) : List Nat :=
  digits ++ List.replicate (width - digits.length) 0

/-- One digit before the point and `places` after it, then an exponent of at
least two digits. -/
def scientific (value : Digits) (places : Nat) : List Char :=
  let exponent := value.point - 1
  let magnitude := exponent.natAbs
  let digits := characters (padded value.digits (places + 1))
  digits.take 1 ++ ['.'] ++ (digits.drop 1).take places ++
    ['e', if exponent < 0 then '-' else '+'] ++
    (if magnitude < 10 then ['0'] else []) ++ (toString magnitude).toList

/-- How the engine writes reals: 15 significant digits, a point always, and an
exponent for magnitudes below 10^-4 or from 10^15 on. -/
structure Style where
  significant : Nat := 15
  smallestPlain : Int := -4
  infinity : List Char := "Inf".toList

def Style.text : Style := {}

def Style.literal : Style := { infinity := "9.0e+999".toList }

def render (style : Style) (value : Binary64) : List Char :=
  let sign := if value.isNegative && !value.isZero then ['-'] else []
  if value.isInfinite then sign ++ style.infinity
  else
    let digits := ofBinary64 style.significant value
    let exponent := digits.point - 1
    sign ++
      if exponent < style.smallestPlain ∨ (style.significant : Int) ≤ exponent then
        scientific digits (max 1 (digits.digits.length - 1))
      else if exponent < 0 then
        "0.".toList ++ List.replicate (exponent.natAbs - 1) '0' ++ characters digits.digits
      else
        let whole := exponent.toNat + 1
        let digits := padded digits.digits (whole + 1)
        characters (digits.take whole) ++ ['.'] ++ characters (digits.drop whole)

/-- Twenty places after the point, for a real that fifteen digits do not tell
from its neighbours. -/
def renderExact (value : Binary64) : List Char :=
  let sign := if value.isNegative then ['-'] else []
  let digits := ofBinary64 21 value
  sign ++ scientific digits (max 1 (digits.digits.length - 1))

end EmbeddedSql.Significant
