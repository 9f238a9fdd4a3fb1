import EmbeddedSql.Text.Utf8

/-! Patterns that match text. In the `LIKE` kind a percent sign stands for any text
and an underscore for any character, and ASCII letters match in both cases. In the
`GLOB` kind a star and a question mark do, brackets hold sets of characters, and
case counts. -/

namespace EmbeddedSql.Pattern

/-! ## Pieces of a pattern -/

inductive Piece where
  | anything
  | one
  | exactly (character : Char)
  | within (negated : Bool) (ranges : List (Char × Char))
  | nothing
deriving DecidableEq, Repr

def lower (character : Char) : Char :=
  if 'A' ≤ character ∧ character ≤ 'Z' then Char.ofNat (character.toNat + 0x20) else character

def likePieces (escape : Option Char) : List Char → List Piece
  | [] => []
  | character :: rest =>
      if escape = some character then
        match rest with
        | [] => [.nothing]
        | next :: rest => .exactly next :: likePieces escape rest
      else if character = '%' then .anything :: likePieces escape rest
      else if character = '_' then .one :: likePieces escape rest
      else .exactly character :: likePieces escape rest

private def setRanges : List Char → Option (List (Char × Char) × List Char)
  | [] => none
  | ']' :: rest => some ([], rest)
  | low :: '-' :: high :: rest =>
      if high = ']' then some ([(low, low), ('-', '-')], rest)
      else (setRanges rest).map fun (ranges, rest) => ((low, high) :: ranges, rest)
  | character :: rest =>
      (setRanges rest).map fun (ranges, rest) => ((character, character) :: ranges, rest)

private def set (characters : List Char) : Option (Bool × List (Char × Char) × List Char) :=
  let (negated, characters) :=
    match characters with
    | '^' :: rest => (true, rest)
    | characters => (false, characters)
  match characters with
  | ']' :: rest =>
      (setRanges rest).map fun (ranges, rest) => (negated, (']', ']') :: ranges, rest)
  | characters => (setRanges characters).map fun (ranges, rest) => (negated, ranges, rest)

def globPieces : (fuel : Nat) → List Char → List Piece
  | 0, _ => []
  | _ + 1, [] => []
  | fuel + 1, character :: rest =>
      if character = '*' then .anything :: globPieces fuel rest
      else if character = '?' then .one :: globPieces fuel rest
      else if character = '[' then
        match set rest with
        | none => [.nothing]
        | some (negated, ranges, rest) => .within negated ranges :: globPieces fuel rest
      else .exactly character :: globPieces fuel rest

/-! ## Matching -/

private def admits (ignoresCase : Bool) (piece : Piece) (character : Char) : Bool :=
  match piece with
  | .one => true
  | .exactly expected =>
      if ignoresCase then lower expected = lower character else expected = character
  | .within negated ranges =>
      ranges.any (fun (low, high) => low ≤ character && character ≤ high) != negated
  | .anything => false
  | .nothing => false

private def matchesTail (rest : List Char → Bool) : List Char → Bool
  | [] => rest []
  | character :: characters =>
      rest (character :: characters) || matchesTail rest characters

def isMatch (ignoresCase : Bool) : List Piece → List Char → Bool
  | [], text => text.isEmpty
  | .anything :: pieces, text => matchesTail (isMatch ignoresCase pieces) text
  | _ :: _, [] => false
  | piece :: pieces, character :: text =>
      admits ignoresCase piece character && isMatch ignoresCase pieces text

/-! ## On bytes -/

private def characters (bytes : Bytes) : List Char :=
  Utf8.decode (Bytes.beforeZero bytes)

def like (escape : Option Char) (pattern text : Bytes) : Bool :=
  isMatch true (likePieces escape (characters pattern)) (characters text)

def glob (pattern text : Bytes) : Bool :=
  let pattern := characters pattern
  isMatch false (globPieces pattern.length pattern) (characters text)

example : like none (Bytes.ofAscii "a%C_") (Bytes.ofAscii "ABBcd") := by decide +kernel
example : glob (Bytes.ofAscii "[a-c]*") (Bytes.ofAscii "beta") := by decide +kernel

end EmbeddedSql.Pattern
