import EmbeddedSql.Number.Extended
import EmbeddedSql.Text.Bytes

/-! Reading numbers from text. A number is looked for at the front, after blanks;
what follows it decides how far the text counts as a number. -/

namespace EmbeddedSql.Numeral

def digitValue (byte : UInt8) : Nat :=
  byte.toNat - 0x30

def ofDigits (digits : Bytes) : Nat :=
  digits.foldl (fun value digit => value * 10 + digitValue digit) 0

def sign : Bytes → Bool × Bytes
  | [] => (false, [])
  | byte :: rest =>
      if byte = 0x2D then (true, rest)
      else if byte = 0x2B then (false, rest)
      else (false, byte :: rest)

/-! ## Integers -/

inductive IntegerFit where
  /-- No digit stands at the front. -/
  | absent
  /-- The whole text is an integer of 64 bits. -/
  | exact
  /-- Something other than blanks follows the digits. -/
  | trailing
  /-- The magnitude is exactly 2^63 and the sign is missing. -/
  | boundary
  /-- The digits go beyond 64 bits. -/
  | tooLarge
deriving DecidableEq, Repr

structure IntegerReading where
  /-- Clamped to the 64-bit range; zero when there are no digits. -/
  value : Int64
  fit : IntegerFit
deriving DecidableEq, Repr

def readInteger (text : Bytes) : IntegerReading :=
  let (negative, text) := sign (text.dropWhile Bytes.isBlank)
  let digits := text.takeWhile Bytes.isDigit
  let rest := text.dropWhile Bytes.isDigit
  let magnitude := ofDigits digits
  let ending : IntegerFit := if rest.all Bytes.isBlank then .exact else .trailing
  if digits.isEmpty then ⟨0, .absent⟩
  else if magnitude < 0x8000000000000000 then
    ⟨Int64.ofInt (if negative then -magnitude else magnitude), ending⟩
  else
    ⟨if negative then Int64.minValue else Int64.maxValue,
      if 0x8000000000000000 < magnitude then .tooLarge
      else if negative then ending else .boundary⟩

/-! ## Reals -/

inductive RealFit where
  /-- The text does not start with a number that has a point or an exponent. -/
  | none
  /-- Such a number is followed by something else. -/
  | leading
  /-- The whole text is digits. -/
  | integer
  /-- The whole text is a number with a point or an exponent. -/
  | real
deriving DecidableEq, Repr

structure RealReading where
  value : Binary64
  fit : RealFit
deriving DecidableEq, Repr

/-- Digits are taken into the significand while it has room; further ones before
the point only raise the power of ten. -/
private def takeWhole (significand : Nat) : Bytes → Nat × Nat
  | [] => (significand, 0)
  | digit :: rest =>
      let significand := significand * 10 + digitValue digit
      if 1844674407370955160 ≤ significand then (significand, rest.length)
      else takeWhole significand rest

private def takeFraction (significand : Nat) (power : Int) : Bytes → Nat × Int
  | [] => (significand, power)
  | digit :: rest =>
      if significand < 1844674407370955160 then
        takeFraction (significand * 10 + digitValue digit) (power - 1) rest
      else takeFraction significand power rest

private def absorbPower (significand : Nat) : (power : Nat) → Nat × Nat
  | 0 => (significand, 0)
  | power + 1 =>
      if significand < 1844674407370955161 then absorbPower (significand * 10) power
      else (significand, power + 1)

private def absorbZeros (significand : Nat) : (power : Nat) → Nat × Nat
  | 0 => (significand, 0)
  | power + 1 =>
      if significand % 10 = 0 then absorbZeros (significand / 10) power
      else (significand, power + 1)

/-- What is larger than the largest real, if only by a little, becomes infinite. -/
private def nearestReal (value : Extended) : Binary64 :=
  if (Extended.ofBinary64 .largest).isLess value then .infinity else value.toBinary64

def scaled (significand : Nat) (power : Int) : Binary64 :=
  if significand = 0 then .zero
  else
    let (significand, power) : Nat × Int :=
      match power with
      | .ofNat power =>
          let (significand, left) := absorbPower significand power
          (significand, left)
      | .negSucc power =>
          let (significand, left) := absorbZeros significand (power + 1)
          (significand, -left)
    let exact := Extended.ofNat significand
    if power = 0 then exact.toBinary64 else nearestReal (exact.scaleByTens power)

structure Exponent where
  present : Bool
  /-- An exponent letter without digits makes the number incomplete. -/
  valid : Bool
  power : Int
  rest : Bytes

def readExponent : Bytes → Exponent
  | [] => ⟨false, true, 0, []⟩
  | byte :: rest =>
      if byte = 0x65 ∨ byte = 0x45 then
        let (negative, digitsOn) := sign rest
        let digits := digitsOn.takeWhile Bytes.isDigit
        let power := min (ofDigits digits) 100000
        ⟨true, !digits.isEmpty, if negative then -power else power,
          digitsOn.dropWhile Bytes.isDigit⟩
      else ⟨false, true, 0, byte :: rest⟩

/-- Whether there is a point, the digits after it, and what follows them. -/
def splitFraction : Bytes → Bool × Bytes × Bytes
  | [] => (false, [], [])
  | byte :: rest =>
      if byte = 0x2E then (true, rest.takeWhile Bytes.isDigit, rest.dropWhile Bytes.isDigit)
      else (false, [], byte :: rest)

def readReal (text : Bytes) : RealReading :=
  let (negative, text) := sign (text.dropWhile Bytes.isBlank)
  let whole := text.takeWhile Bytes.isDigit
  let afterWhole := text.dropWhile Bytes.isDigit
  let (significand, skipped) := takeWhole 0 whole
  let (point, fraction, afterFraction) := splitFraction afterWhole
  let (significand, power) := takeFraction significand skipped fraction
  let exponent := readExponent afterFraction
  let magnitude := scaled significand (power + exponent.power)
  let value := if negative then magnitude.negate else magnitude
  let hasDigits := !whole.isEmpty || !fraction.isEmpty
  let fit : RealFit :=
    if !hasDigits then .none
    else if exponent.valid && exponent.rest.all Bytes.isBlank then
      if point || exponent.present then .real else .integer
    else if point && exponent.present then .leading
    else if (point || exponent.present) && exponent.valid then .leading
    else .none
  ⟨value, fit⟩

/-! ## Either -/

example : readInteger (Bytes.ofAscii " -12 ") = ⟨-12, .exact⟩ := by decide
example : (readInteger (Bytes.ofAscii "12ab")).fit = .trailing := by decide
example : (readInteger (Bytes.ofAscii "9223372036854775808")).fit = .boundary := by decide
example : (readReal (Bytes.ofAscii "1.5e2")).fit = .real := by decide

end EmbeddedSql.Numeral
