import EmbeddedSql.Value.Pattern
import EmbeddedSql.Value.Arithmetic

/-! Functions on text and blobs. Characters are counted leniently: a lead byte takes
the continuation bytes after it, and every other byte is a character. -/

namespace EmbeddedSql.Function

/-! ## Characters -/

def splitCharacters : Bytes → List Bytes
  | [] => []
  | byte :: rest =>
      if byte < 0xC0 then [byte] :: splitCharacters rest
      else
        (byte :: rest.takeWhile Lenient.isContinuation) ::
          splitCharacters (rest.dropWhile Lenient.isContinuation)
termination_by bytes => bytes.length
decreasing_by
  · simp
  · have : (rest.dropWhile Lenient.isContinuation).length ≤ rest.length :=
      (List.dropWhile_sublist _).length_le
    simp only [List.length_cons]
    omega

def textLength (bytes : Bytes) : Nat :=
  (splitCharacters (Bytes.beforeZero bytes)).length

def length : Value → Value
  | .null => .null
  | .text bytes => .integer (Int64.ofNat (textLength bytes))
  | value => .integer (Int64.ofNat value.toBytes.length)

private def firstScalar (bytes : Bytes) : Nat :=
  match (splitCharacters bytes).head? with
  | some character => ((Lenient.scalars character).head?).getD 0
  | none => 0

def unicode : Value → Value
  | .null => .null
  | value =>
      match Bytes.beforeZero value.toBytes with
      | [] => .null
      | bytes => .integer (Int64.ofNat (firstScalar bytes))

/-- The characters of some numbers; a number that is none becomes U+FFFD. -/
def characters (values : List Value) : Value :=
  .text <| values.flatMap fun value =>
    let number := value.toInt64.toInt
    Utf8.encodeScalar (if number < 0 ∨ 0x10FFFF < number then 0xFFFD else number.toNat)

/-! ## Parts -/

/-- Where a part begins and how long it is, given a position that counts from one,
or from the end if it is negative. -/
private def part (total position : Int) (count : Option Int) : Nat × Nat :=
  let backward : Bool := count.any (· < 0)
  let count : Int := (count.map fun count => (count.natAbs : Int)).getD 0x7FFFFFFF
  let (start, count) : Int × Int :=
    if position < 0 then
      if total + position < 0 then (0, max 0 (count + (total + position)))
      else (total + position, count)
    else if 0 < position then (position - 1, count)
    else (0, if 0 < count then count - 1 else count)
  let (start, count) : Int × Int :=
    if backward then
      if start - count < 0 then (0, count + (start - count)) else (start - count, count)
    else (start, count)
  (start.toNat, count.toNat)

def substring (value position : Value) (count : Option Value) : Value :=
  if position = .null ∨ count = some .null then .null
  else
    let position := position.toInt64.toInt
    let count := count.map fun count => count.toInt64.toInt
    match value with
    | .null => .null
    | .blob bytes =>
        let (start, length) := part bytes.length position count
        .blob ((bytes.drop start).take length)
    | value =>
        let characters := splitCharacters (Bytes.beforeZero value.toBytes)
        let (start, length) := part characters.length position count
        .text ((characters.drop start).take length).flatten

private def positionIn {α : Type} [BEq α] (part : List α) : List α → (position : Nat) → Nat
  | [], position => if part.isEmpty then position else 0
  | item :: items, position =>
      if part.isPrefixOf (item :: items) then position else positionIn part items (position + 1)

def position (value part : Value) : Value :=
  match value, part with
  | .null, _ => .null
  | _, .null => .null
  | .blob bytes, .blob part => .integer (Int64.ofNat (positionIn part bytes 1))
  | value, part =>
      .integer (Int64.ofNat
        (positionIn (splitCharacters part.toBytes) (splitCharacters value.toBytes) 1))

private def replaceIn (part replacement : Bytes) : (fuel : Nat) → Bytes → Bytes
  | 0, bytes => bytes
  | _ + 1, [] => []
  | fuel + 1, byte :: rest =>
      if part.isPrefixOf (byte :: rest) then
        replacement ++ replaceIn part replacement fuel ((byte :: rest).drop part.length)
      else byte :: replaceIn part replacement fuel rest

def replace (value part replacement : Value) : Value :=
  if value = .null ∨ part = .null ∨ replacement = .null then .null
  else
    let bytes := value.toBytes
    if (Bytes.beforeZero part.toBytes).isEmpty then .text bytes
    else .text (replaceIn part.toBytes replacement.toBytes bytes.length bytes)

/-! ## Ends -/

private def dropLeading (set : List Bytes) (characters : List Bytes) : List Bytes :=
  characters.dropWhile set.contains

private def dropTrailing (set : List Bytes) (characters : List Bytes) : List Bytes :=
  (dropLeading set characters.reverse).reverse

def trim (leading trailing : Bool) (value : Value) (set : Option Value) : Value :=
  if value = .null ∨ set = some .null then .null
  else
    let set := splitCharacters ((set.map Value.toBytes).getD [0x20])
    let characters := splitCharacters value.toBytes
    let characters := if leading then dropLeading set characters else characters
    let characters := if trailing then dropTrailing set characters else characters
    .text characters.flatten

/-! ## Case and hexadecimal digits -/

def mapText (change : Bytes → Bytes) : Value → Value
  | .null => .null
  | value => .text (change value.toBytes)

def hexadecimal (stored : Value → Bytes) (value : Value) : Value :=
  .text (Bytes.toHexUpper (stored value))

/-- The bytes of hexadecimal digits, between which only ignored characters stand. -/
private def unhexFrom (ignored : List Bytes) : List Bytes → Option Bytes
  | [] => some []
  | [high] :: [low] :: rest =>
      if Bytes.isHexDigit high then
        if Bytes.isHexDigit low then
          (unhexFrom ignored rest).map
            ((Bytes.hexDigitValue high * 16 + Bytes.hexDigitValue low).toUInt8 :: ·)
        else none
      else if ignored.contains [high] then unhexFrom ignored ([low] :: rest)
      else none
  | character :: rest =>
      if ignored.contains character && !(character.all Bytes.isHexDigit) then
        unhexFrom ignored rest
      else none

def unhexadecimal (value : Value) (ignored : Option Value) : Value :=
  if value = .null ∨ ignored = some .null then .null
  else
    let ignored := splitCharacters ((ignored.map Value.toBytes).getD [])
    match unhexFrom ignored (splitCharacters value.toBytes) with
    | some bytes => .blob bytes
    | none => .null

/-! ## Literals -/

private def quoteText (bytes : Bytes) : Bytes :=
  [0x27] ++ (bytes.flatMap fun byte => if byte = 0x27 then [0x27, 0x27] else [byte]) ++ [0x27]

/-- A real in as few digits as usual, or in more if those do not read back. -/
private def quoteReal (value : Binary64) : Bytes :=
  let usual := Utf8.encode (Significant.render .literal value)
  if Binary64.compare (Numeral.readReal usual).value value = .eq then usual
  else Utf8.encode (Significant.renderExact value)

/-- The value as it would be written in a statement. Text ends at its first zero. -/
def quote : Value → Bytes
  | .null => Bytes.ofAscii "NULL"
  | .integer value => Value.decimal value
  | .real value => quoteReal value
  | .text bytes => quoteText (Bytes.beforeZero bytes)
  | .blob bytes => Bytes.ofAscii "X'" ++ Bytes.toHexUpper bytes ++ [0x27]

end EmbeddedSql.Function
