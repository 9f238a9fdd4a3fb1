import EmbeddedSql.Value.Affinity

/-! Arithmetic and logic on values. A null operand makes the result null, and
integers that grow too large become reals. -/

namespace EmbeddedSql.Value

/-! ## Truth -/

def ofBool (value : Bool) : Value :=
  .integer (if value then 1 else 0)

def truth? : Value → Option Bool
  | .null => none
  | .integer value => some (value ≠ 0)
  | value => some (!value.toReal.isZero)

def isTrue (value : Value) : Bool :=
  value.truth? = some true

def ofTruth : Option Bool → Value
  | none => .null
  | some value => ofBool value

def not (value : Value) : Value :=
  ofTruth (value.truth?.map (!·))

def and (left right : Value) : Value :=
  match left.truth?, right.truth? with
  | some false, _ => ofBool false
  | _, some false => ofBool false
  | some true, some true => ofBool true
  | _, _ => .null

def or (left right : Value) : Value :=
  match left.truth?, right.truth? with
  | some true, _ => ofBool true
  | _, some true => ofBool true
  | some false, some false => ofBool false
  | _, _ => .null

/-! ## Numbers -/

def isInRange (value : Int) : Bool :=
  -0x8000000000000000 ≤ value && value ≤ 0x7FFFFFFFFFFFFFFF

def ofReal (value : Binary64) : Value :=
  if value.isNaN then .null else .real value

/-- The exact result on integers if it fits, and that on reals otherwise. -/
private def combine (exact : Int → Int → Int) (rounded : Binary64 → Binary64 → Binary64)
    (left right : Value) : Value :=
  match left.toNumber, right.toNumber with
  | .null, _ => .null
  | _, .null => .null
  | .integer left, .integer right =>
      let result := exact left.toInt right.toInt
      if isInRange result then .integer (Int64.ofInt result)
      else ofReal (rounded (.ofInt64 left) (.ofInt64 right))
  | left, right => ofReal (rounded left.toReal right.toReal)

def add : Value → Value → Value :=
  combine (· + ·) Binary64.add

def subtract : Value → Value → Value :=
  combine (· - ·) Binary64.subtract

def multiply : Value → Value → Value :=
  combine (· * ·) Binary64.multiply

def negate (value : Value) : Value :=
  subtract (.integer 0) value

def divide (left right : Value) : Value :=
  match left.toNumber, right.toNumber with
  | .null, _ => .null
  | _, .null => .null
  | .integer left, .integer right =>
      if right = 0 then .null
      else
        let result := Int.tdiv left.toInt right.toInt
        if isInRange result then .integer (Int64.ofInt result)
        else ofReal (Binary64.divide (.ofInt64 left) (.ofInt64 right))
  | left, right =>
      if right.toReal.isZero then .null
      else ofReal (Binary64.divide left.toReal right.toReal)

/-- The remainder of the operands as integers, with the sign of the first. -/
def remainder (left right : Value) : Value :=
  let integers (left right : Int64) : Option Int64 :=
    if right = 0 then none else some (Int64.ofInt (Int.tmod left.toInt right.toInt))
  match left.toNumber, right.toNumber with
  | .null, _ => .null
  | _, .null => .null
  | .integer left, .integer right => (integers left right).elim .null .integer
  | left, right =>
      (integers left.toInt64 right.toInt64).elim .null fun result => .real (.ofInt64 result)

example : add (.integer 9223372036854775807) (.integer (-1)) =
    .integer 9223372036854775806 := by decide +kernel

/-! ## Bits -/

private def onIntegers (operation : Int64 → Int64 → Int64) (left right : Value) : Value :=
  if left = .null ∨ right = .null then .null
  else .integer (operation left.toInt64 right.toInt64)

def bitAnd : Value → Value → Value :=
  onIntegers (· &&& ·)

def bitOr : Value → Value → Value :=
  onIntegers (· ||| ·)

def bitNot (value : Value) : Value :=
  if value = .null then .null else .integer (~~~value.toInt64)

/-- Shifts to the left, or to the right if the count is negative. Bits beyond the
64th are lost, and the sign is copied in from the left. -/
private def shift (value : Int64) (count : Int) : Int64 :=
  if count ≤ -64 then (if value < 0 then -1 else 0)
  else if count < 0 then Int64.ofInt (value.toInt >>> count.natAbs)
  else if 64 ≤ count then 0
  else Int64.ofInt (value.toInt * (1 <<< count.toNat : Nat))

def shiftLeft : Value → Value → Value :=
  onIntegers fun value count => shift value count.toInt

def shiftRight : Value → Value → Value :=
  onIntegers fun value count => shift value (-count.toInt)

/-! ## Text -/

def concatenate (left right : Value) : Value :=
  if left = .null ∨ right = .null then .null
  else .text (left.toBytes ++ right.toBytes)

end EmbeddedSql.Value
