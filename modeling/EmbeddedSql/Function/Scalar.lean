import EmbeddedSql.Function.Text
import EmbeddedSql.Plan.Environment

/-! The functions of one row. -/

namespace EmbeddedSql.Function

open Plan (Fault Counters)

structure CallContext where
  encoding : TextEncoding
  collation : Collation
  counters : Counters

structure Scalar where
  name : String
  accepts : Nat → Bool
  apply : CallContext → List Value → Except Fault Value

/-! ## Numbers -/

private def absolute : Value → Except Fault Value
  | .null => .ok .null
  | .integer value =>
      if value = Int64.minValue then .error (Fault.ofText "integer overflow")
      else .ok (.integer (if value < 0 then -value else value))
  | value => .ok (.real value.toReal.magnitude)

private def sign (value : Value) : Value :=
  let number : Value :=
    match value with
    | .text bytes => (Value.numberFromText bytes).getD value
    | value => value
  match number with
  | .integer value => .integer (if value < 0 then -1 else if 0 < value then 1 else 0)
  | .real value =>
      .integer (if value.isZero then 0 else if value.isNegative then -1 else 1)
  | _ => .null

private def digitText (digits : List Nat) : Bytes :=
  digits.map fun digit => (0x30 + digit).toUInt8

/-- A real with at most some digits after the point, a half rounded away from zero. -/
private def roundTo (places : Nat) (value : Binary64) : Binary64 :=
  if 4503599627370496 ≤ value.magnitude.toFloat then value
  else if places = 0 then
    let half : Float := if value.isNegative then -0.5 else 0.5
    .ofInt64 (Binary64.ofFloat (value.toFloat + half)).toInt64
  else
    let full := Significant.ofBinary64 26 value
    let limit := full.point + places
    let rounded : Significant.Digits :=
      if limit < 0 then { digits := [], point := 0 }
      else if limit = 0 then
        if 5 ≤ full.digits.head?.getD 0 then { digits := [1], point := full.point + 1 }
        else { digits := [], point := 0 }
      else Significant.ofBinary64 limit.toNat value
    let text := [0x30, 0x2E] ++ digitText rounded.digits ++ Bytes.ofAscii s!"e{rounded.point}"
    let magnitude := (Numeral.readReal text).value
    if value.isNegative then magnitude.negate else magnitude

private def round (value : Value) (places : Option Value) : Value :=
  if places = some .null then .null
  else
    match value with
    | .null => .null
    | value =>
        let places := (places.elim 0 fun places => places.toInt64.toInt).toNat
        .real (roundTo (min places 30) value.toReal)

/-! ## Comparing -/

private def extreme (wanted : Ordering) (context : CallContext) : List Value → Value
  | [] => .null
  | first :: rest =>
      if (first :: rest).contains .null then .null
      else
        rest.foldl (fun best value =>
          if Value.compare context.encoding context.collation value best = wanted then value
          else best) first

private def nullIf (context : CallContext) (left right : Value) : Value :=
  if left ≠ .null ∧ right ≠ .null ∧
      Value.compare context.encoding context.collation left right = .eq then .null
  else left

def escapeCharacter (value : Value) : Except Fault Char :=
  match Utf8.decode value.toBytes with
  | [character] => .ok character
  | _ => .error (Fault.ofText "ESCAPE expression must be a single character")

def like (pattern text : Value) (escape : Option Value) : Except Fault Value := do
  let escape ←
    match escape with
    | none => pure none
    | some .null => return .null
    | some value => pure (some (← escapeCharacter value))
  if pattern = .null ∨ text = .null then return .null
  else if 50000 < pattern.toBytes.length then
    throw (Fault.ofText "LIKE or GLOB pattern too complex")
  else return .ofBool (Pattern.like escape pattern.toBytes text.toBytes)

def glob (pattern text : Value) : Except Fault Value :=
  if pattern = .null ∨ text = .null then .ok .null
  else if 50000 < pattern.toBytes.length then
    .error (Fault.ofText "LIKE or GLOB pattern too complex")
  else .ok (.ofBool (Pattern.glob pattern.toBytes text.toBytes))

/-! ## Blobs -/

def lengthLimit : Nat := 1000000000

private def zeros (value : Value) : Except Fault Value :=
  let count := value.toInt64.toInt
  if (lengthLimit : Int) < count then .error Fault.tooBig
  else .ok (.blob (List.replicate count.toNat 0))

private def storedBytes (encoding : TextEncoding) : Value → Bytes
  | .text bytes => encoding.encode bytes
  | value => value.toBytes

private def className : Value → String
  | .null => "null"
  | .integer _ => "integer"
  | .real _ => "real"
  | .text _ => "text"
  | .blob _ => "blob"

private def join (separator : Bytes) (values : List Value) : Value :=
  .text (List.intercalate separator ((values.filter (· ≠ .null)).map Value.toBytes))

/-! ## The table of functions -/

private def argument (arguments : List Value) (place : Nat) : Value :=
  arguments[place]?.getD .null

private def unary (name : String) (function : Value → Value) : Scalar where
  name := name
  accepts := (· = 1)
  apply _ arguments := .ok (function (argument arguments 0))

private def optional (name : String) (function : Value → Option Value → Value) : Scalar where
  name := name
  accepts count := count = 1 || count = 2
  apply _ arguments := .ok (function (argument arguments 0) arguments[1]?)

private def constant (name : String) (value : CallContext → Value) : Scalar where
  name := name
  accepts := (· = 0)
  apply context _ := .ok (value context)

private def substringFunction (name : String) : Scalar where
  name := name
  accepts count := count = 2 || count = 3
  apply _ arguments :=
    .ok (substring (argument arguments 0) (argument arguments 1) arguments[2]?)

def scalars : List Scalar :=
  [{ name := "abs", accepts := (· = 1), apply := fun _ values => absolute (argument values 0) },
    { name := "char", accepts := fun _ => true, apply := fun _ values => .ok (characters values) },
    { name := "concat", accepts := (1 ≤ ·), apply := fun _ values => .ok (join [] values) },
    { name := "concat_ws", accepts := (2 ≤ ·)
      apply := fun _ values =>
        .ok (match values with
          | .null :: _ => .null
          | separator :: rest => join separator.toBytes rest
          | [] => .null) },
    { name := "glob", accepts := (· = 2)
      apply := fun _ values => glob (argument values 0) (argument values 1) },
    { name := "hex", accepts := (· = 1)
      apply := fun context values =>
        .ok (hexadecimal (storedBytes context.encoding) (argument values 0)) },
    { name := "instr", accepts := (· = 2)
      apply := fun _ values => .ok (position (argument values 0) (argument values 1)) },
    constant "last_insert_rowid" fun context => .integer context.counters.lastInsertRowid,
    constant "changes" fun context => .integer (Int64.ofNat context.counters.changes),
    constant "total_changes" fun context => .integer (Int64.ofNat context.counters.totalChanges),
    constant "sqlite_version" fun _ => .text (Bytes.ofAscii "3.46.0"),
    unary "length" length,
    { name := "octet_length", accepts := (· = 1)
      apply := fun context values =>
        .ok (match argument values 0 with
          | .null => .null
          | value => .integer (Int64.ofNat (storedBytes context.encoding value).length)) },
    { name := "like", accepts := fun count => count = 2 || count = 3
      apply := fun _ values => like (argument values 0) (argument values 1) values[2]? },
    { name := "likelihood", accepts := (· = 2), apply := fun _ values => .ok (argument values 0) },
    unary "likely" id,
    unary "unlikely" id,
    unary "lower" (mapText (List.map Bytes.toLower)),
    unary "upper" (mapText (List.map Bytes.toUpper)),
    optional "ltrim" (trim true false),
    optional "rtrim" (trim false true),
    optional "trim" (trim true true),
    { name := "max", accepts := (2 ≤ ·)
      apply := fun context values => .ok (extreme .gt context values) },
    { name := "min", accepts := (2 ≤ ·)
      apply := fun context values => .ok (extreme .lt context values) },
    { name := "nullif", accepts := (· = 2)
      apply := fun context values =>
        .ok (nullIf context (argument values 0) (argument values 1)) },
    unary "quote" fun value => .text (quote value),
    { name := "replace", accepts := (· = 3)
      apply := fun _ values =>
        .ok (replace (argument values 0) (argument values 1) (argument values 2)) },
    optional "round" round,
    unary "sign" sign,
    substringFunction "substr",
    substringFunction "substring",
    unary "typeof" fun value => .text (Bytes.ofAscii (className value)),
    optional "unhex" unhexadecimal,
    unary "unicode" unicode,
    { name := "zeroblob", accepts := (· = 1)
      apply := fun _ values => zeros (argument values 0) }]

def scalar? (name : Bytes) : Option Scalar :=
  scalars.find? fun function => Bytes.sameName (Bytes.ofAscii function.name) name

/-- Functions that the compiler treats in its own way, because they do not need all
of their arguments. -/
def isLazy (name : Bytes) : Bool :=
  ["coalesce", "ifnull", "iif"].any fun lazy => Bytes.sameName (Bytes.ofAscii lazy) name

end EmbeddedSql.Function
