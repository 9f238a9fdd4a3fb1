import EmbeddedSql.Number.Binary64

/-! The shortest decimal text of a real: the fewest digits that read back as the
same word, and of those the ones nearest to its value. The search works on exact
integers; every real of the interval that rounds to the word is a candidate. -/

namespace EmbeddedSql.Shortest

structure Decimal where
  digits : Nat
  power : Int
deriving DecidableEq, Repr

/-- The reals that round to a word lie between `low / denominator` and
`high / denominator`, around `value / denominator`. The ends belong to the
interval when the significand is even. -/
structure Interval where
  low : Nat
  value : Nat
  high : Nat
  denominator : Nat
  closed : Bool

/-- Below a power of two the neighbouring word is only half as far away. -/
def interval (real : Binary64) : Interval :=
  let significand := real.significand
  let below := if real.fractionBits = 0 ∧ 1 < real.exponentBits then 1 else 2
  let closed := significand % 2 = 0
  match real.scale - 2 with
  | .ofNat shift =>
      let unit := 1 <<< shift
      ⟨(4 * significand - below) * unit, 4 * significand * unit,
        (4 * significand + 2) * unit, 1, closed⟩
  | .negSucc shift =>
      ⟨4 * significand - below, 4 * significand, 4 * significand + 2, 1 <<< (shift + 1), closed⟩

namespace Interval

def inUnits (bounds : Interval) : (power : Int) → Interval
  | .ofNat power => { bounds with denominator := bounds.denominator * Nat.pow 10 power }
  | .negSucc power =>
      let unit := Nat.pow 10 (power + 1)
      { bounds with
        low := bounds.low * unit, value := bounds.value * unit, high := bounds.high * unit }

def contains (bounds : Interval) (candidate : Nat) : Bool :=
  let scaled := candidate * bounds.denominator
  if bounds.closed then bounds.low ≤ scaled && scaled ≤ bounds.high
  else bounds.low < scaled && scaled < bounds.high

/-- Of the two grid points around the value, the nearest one inside; an exact
middle goes to the even point. -/
def nearest? (bounds : Interval) : Option Nat :=
  let floor := bounds.value / bounds.denominator
  let below := bounds.value - floor * bounds.denominator
  let above := bounds.denominator - below
  let preferred :=
    if below < above ∨ (below = above ∧ floor % 2 = 0) then floor else floor + 1
  let other := if preferred = floor then floor + 1 else floor
  if bounds.contains preferred ∧ 0 < preferred then some preferred
  else if bounds.contains other ∧ 0 < other then some other
  else none

end Interval

def leadingPower (numerator denominator : Nat) : Int :=
  if denominator ≤ numerator then
    ((toString (numerator / denominator)).length : Int) - 1
  else
    -- The quotient of the reversed fraction has at most one digit too few.
    let steps := (toString (denominator / numerator)).length
    if denominator ≤ numerator * Nat.pow 10 (steps - 1) then -((steps : Int) - 1) else -(steps : Int)

private def search (bounds : Interval) (lead : Int) : (digits : Nat) → (left : Nat) → Decimal
  | _, 0 => ⟨0, 0⟩
  | digits, left + 1 =>
      let power := lead - digits
      match (bounds.inUnits power).nearest? with
      | some found => ⟨found, power⟩
      | none => search bounds lead (digits + 1) left

private def trim (decimal : Decimal) : (fuel : Nat) → Decimal
  | 0 => decimal
  | fuel + 1 =>
      if decimal.digits ≠ 0 ∧ decimal.digits % 10 = 0 then
        trim ⟨decimal.digits / 10, decimal.power + 1⟩ fuel
      else decimal

/-- Seventeen digits tell all words apart, so the search ends before its bound. -/
def digits (real : Binary64) : Decimal :=
  if real.isZero then ⟨0, 0⟩
  else
    let bounds := interval real
    trim (search bounds (leadingPower bounds.value bounds.denominator) 0 20) 20

end EmbeddedSql.Shortest
