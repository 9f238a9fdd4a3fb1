import EmbeddedSql.Function.Scalar

/-! The functions of many rows. -/

namespace EmbeddedSql.Function

open Plan (Fault)

structure Aggregate where
  name : String
  accepts : Nat → Bool
  picks : Option Ordering := none
  apply : CallContext → List (List Value) → Except Fault Value

/-! ## Sums

Integers are summed exactly. From the first real on, or from an overflow on, the sum
is kept with the error that rounding makes in it. -/

private structure Sum where
  count : Nat := 0
  exact : Int64 := 0
  isApproximate : Bool := false
  overflowed : Bool := false
  rounded : Binary64 := .zero
  error : Binary64 := .zero

namespace Sum

private def addReal (sum : Sum) (value : Binary64) : Sum :=
  let total := Binary64.add sum.rounded value
  let larger := Binary64.compare sum.rounded.magnitude value.magnitude = .gt
  let lost :=
    if larger then
      Binary64.add (Binary64.subtract sum.rounded total) value
    else Binary64.add (Binary64.subtract value total) sum.rounded
  { sum with rounded := total, error := Binary64.add sum.error lost }

private def addInteger (sum : Sum) (value : Int64) : Sum :=
  if value ≤ -4503599627370496 ∨ 4503599627370496 ≤ value then
    let small := Int64.ofInt (Int.tmod value.toInt 16384)
    (sum.addReal (.ofInt64 (value - small))).addReal (.ofInt64 small)
  else sum.addReal (.ofInt64 value)

private def approximate (sum : Sum) : Sum :=
  if sum.isApproximate then sum
  else ({ sum with isApproximate := true } : Sum).addInteger sum.exact

private def add (sum : Sum) (value : Value) : Sum :=
  let number : Value :=
    match value with
    | .text bytes => (Value.numberFromText bytes).getD value
    | value => value
  match number with
  | .null => sum
  | .integer value =>
      let sum := { sum with count := sum.count + 1 }
      if sum.isApproximate then sum.addInteger value
      else
        let exact := sum.exact.toInt + value.toInt
        if Value.isInRange exact then { sum with exact := Int64.ofInt exact }
        else ({ sum.approximate with overflowed := true } : Sum).addInteger value
  | value =>
      let sum := { sum with count := sum.count + 1 }
      ({ sum.approximate with overflowed := false } : Sum).addReal value.toReal

private def ofRows (rows : List (List Value)) : Sum :=
  rows.foldl (fun sum row => sum.add (row.head?.getD .null)) {}

private def toReal (sum : Sum) : Binary64 :=
  if !sum.isApproximate then .ofInt64 sum.exact
  else if sum.error.isFinite then Binary64.add sum.rounded sum.error
  else sum.rounded

end Sum

private def sum (rows : List (List Value)) : Except Fault Value :=
  let sum := Sum.ofRows rows
  if sum.count = 0 then .ok .null
  else if sum.overflowed then .error (Fault.ofText "integer overflow")
  else if sum.isApproximate then .ok (.ofReal sum.toReal)
  else .ok (.integer sum.exact)

private def average (rows : List (List Value)) : Value :=
  let sum := Sum.ofRows rows
  if sum.count = 0 then .null
  else .ofReal (Binary64.divide sum.toReal (.ofUInt64 sum.count.toUInt64))

/-! ## Counting and picking -/

private def count (rows : List (List Value)) : Nat :=
  (rows.filter fun row => row.head? ≠ some .null).length

private def extremeOfRows (wanted : Ordering) (context : CallContext) (rows : List (List Value)) :
    Value :=
  rows.foldl (fun best row =>
    let value := row.head?.getD .null
    if value = .null then best
    else if best = .null then value
    else if Value.compare context.encoding context.collation value best = wanted then value
    else best) .null

/-- Texts joined by separators, each of which comes with the text after it. -/
private def concatenation (rows : List (List Value)) : Value :=
  let rows := rows.filter fun row => row.head? ≠ some .null
  match rows with
  | [] => .null
  | first :: rest =>
      .text <| (first.head?.getD .null).toBytes ++ rest.flatMap fun row =>
        ((row[1]?.map Value.toBytes).getD [0x2C]) ++ (row.head?.getD .null).toBytes

def aggregates : List Aggregate :=
  [{ name := "avg", accepts := (· = 1), apply := fun _ rows => .ok (average rows) },
    { name := "count", accepts := (· ≤ 1)
      apply := fun _ rows => .ok (.integer (Int64.ofNat (count rows))) },
    { name := "group_concat", accepts := fun count => count = 1 || count = 2
      apply := fun _ rows => .ok (concatenation rows) },
    { name := "string_agg", accepts := (· = 2)
      apply := fun _ rows => .ok (concatenation rows) },
    { name := "max", accepts := (· = 1), picks := some .gt
      apply := fun context rows => .ok (extremeOfRows .gt context rows) },
    { name := "min", accepts := (· = 1), picks := some .lt
      apply := fun context rows => .ok (extremeOfRows .lt context rows) },
    { name := "sum", accepts := (· = 1), apply := fun _ rows => sum rows },
    { name := "total", accepts := (· = 1)
      apply := fun _ rows => .ok (.ofReal (Sum.ofRows rows).toReal) }]

def aggregate? (name : Bytes) : Option Aggregate :=
  aggregates.find? fun function => Bytes.sameName (Bytes.ofAscii function.name) name

end EmbeddedSql.Function
