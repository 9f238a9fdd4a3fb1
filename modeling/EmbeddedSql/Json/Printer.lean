import EmbeddedSql.Json.Basic
import EmbeddedSql.Number.Shortest

/-! Compact JSON text: no blanks, and no escape that is not needed. -/

namespace EmbeddedSql.Json

/-! ## Strings -/

private def hexDigit (value : Nat) : Char :=
  Char.ofNat (if value < 10 then 0x30 + value else 0x57 + value)

/-- Quotes, backslashes and controls are escaped; every other character stands
for itself. -/
def escape (character : Char) : List Char :=
  if character = '"' then ['\\', '"']
  else if character = '\\' then ['\\', '\\']
  else if character = '\x08' then ['\\', 'b']
  else if character = '\x0C' then ['\\', 'f']
  else if character = '\n' then ['\\', 'n']
  else if character = '\r' then ['\\', 'r']
  else if character = '\t' then ['\\', 't']
  else if character.toNat < 0x20 then
    ['\\', 'u', '0', '0', hexDigit (character.toNat / 0x10), hexDigit (character.toNat % 0x10)]
  else [character]

def quoted (text : List Char) : List Char :=
  '"' :: text.flatMap escape ++ ['"']

/-! ## Numbers -/

def printInteger (value : Int) : List Char :=
  if value < 0 then '-' :: Nat.toDigits 10 value.natAbs
  else Nat.toDigits 10 value.natAbs

/-- How a real is laid out: positionally for leading powers of ten within these
bounds, and with an exponent outside them. -/
structure RealLayout where
  lowestPlain : Int := -5
  highestPlain : Int := 15

def realLayout : RealLayout := {}

/-- The shortest digits, always with a point or an exponent. -/
def printReal (value : Binary64) : List Char :=
  let sign := if value.isNegative then ['-'] else []
  let decimal := Shortest.digits value
  let digits := Nat.toDigits 10 decimal.digits
  let lead : Int := digits.length - 1 + decimal.power
  sign ++
    if decimal.digits = 0 then ['0', '.', '0']
    else if lead < realLayout.lowestPlain ∨ realLayout.highestPlain < lead then
      let fraction := digits.drop 1
      digits.take 1 ++ (if fraction.isEmpty then [] else '.' :: fraction) ++
        ['e', if lead < 0 then '-' else '+'] ++ Nat.toDigits 10 lead.natAbs
    else if 0 ≤ decimal.power then
      digits ++ List.replicate decimal.power.toNat '0' ++ ['.', '0']
    else if 0 ≤ lead then
      digits.take (lead.toNat + 1) ++ '.' :: digits.drop (lead.toNat + 1)
    else
      ['0', '.'] ++ List.replicate (lead.natAbs - 1) '0' ++ digits

/-! ## Values -/

mutual
def print : Json → List Char
  | .null => ['n', 'u', 'l', 'l']
  | .boolean true => ['t', 'r', 'u', 'e']
  | .boolean false => ['f', 'a', 'l', 's', 'e']
  | .integer value => printInteger value
  | .real value => printReal value
  | .string value => quoted value.toList
  | .array elements => '[' :: printElements elements ++ [']']
  | .object members => '\x7B' :: printMembers members ++ ['\x7D']

def printElements : List Json → List Char
  | [] => []
  | [element] => print element
  | element :: next :: rest => print element ++ ',' :: printElements (next :: rest)

def printMembers : List (String × Json) → List Char
  | [] => []
  | [(key, value)] => quoted key.toList ++ ':' :: print value
  | (key, value) :: next :: rest =>
      quoted key.toList ++ ':' :: print value ++ ',' :: printMembers (next :: rest)
end

def toText (value : Json) : String :=
  String.ofList value.print

end EmbeddedSql.Json
