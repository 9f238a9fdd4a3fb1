/-! JSON text as a tree of its lexemes. Numbers and strings keep the characters
they are written with; what these stand for is decided by whoever asks. -/

namespace EmbeddedSql.Json

structure Numeral where
  negative : Bool
  whole : List Char
  fraction : Option (List Char)
  exponent : Option (Bool × List Char)
deriving DecidableEq, Repr

inductive Tree where
  | null
  | boolean (value : Bool)
  | number (numeral : Numeral)
  /-- The characters between the quotes, escapes included. -/
  | string (raw : List Char)
  | array (elements : List Tree)
  | object (members : List (List Char × Tree))
deriving Repr, Inhabited

namespace Tree

/-! ## Blanks, digits and strings -/

def isBlank (character : Char) : Bool :=
  character = ' ' || character = '\t' || character = '\n' || character = '\r'

def skipBlanks (text : List Char) : List Char :=
  text.dropWhile isBlank

def isDigit (character : Char) : Bool :=
  '0' ≤ character && character ≤ '9'

def isHexDigit (character : Char) : Bool :=
  isDigit character || ('a' ≤ character && character ≤ 'f') ||
    ('A' ≤ character && character ≤ 'F')

/-- What follows the opening quote, up to the closing one. Escapes must be known
ones and controls may not stand unescaped. -/
def takeString : List Char → Option (List Char × List Char)
  | [] => none
  | '"' :: rest => some ([], rest)
  | '\\' :: 'u' :: first :: second :: third :: fourth :: rest =>
      if isHexDigit first && isHexDigit second && isHexDigit third && isHexDigit fourth then
        (takeString rest).map fun (raw, rest) =>
          ('\\' :: 'u' :: first :: second :: third :: fourth :: raw, rest)
      else none
  | '\\' :: escaped :: rest =>
      if ['"', '\\', '/', 'b', 'f', 'n', 'r', 't'].contains escaped then
        (takeString rest).map fun (raw, rest) => ('\\' :: escaped :: raw, rest)
      else none
  | character :: rest =>
      if character.toNat < 0x20 ∨ character = '\\' then none
      else (takeString rest).map fun (raw, rest) => (character :: raw, rest)

/-! ## Numbers -/

private def takeDigits (text : List Char) : Option (List Char × List Char) :=
  match text.takeWhile isDigit with
  | [] => none
  | digits => some (digits, text.dropWhile isDigit)

private def takeWhole : List Char → Option (List Char × List Char)
  | '0' :: rest =>
      match rest with
      | next :: _ => if isDigit next then none else some (['0'], rest)
      | [] => some (['0'], rest)
  | text => takeDigits text

private def takeFraction : List Char → Option (Option (List Char) × List Char)
  | '.' :: rest => (takeDigits rest).map fun (digits, rest) => (some digits, rest)
  | text => some (none, text)

private def takeExponent : List Char → Option (Option (Bool × List Char) × List Char)
  | letter :: rest =>
      if letter = 'e' ∨ letter = 'E' then
        let (negative, rest) :=
          match rest with
          | '-' :: rest => (true, rest)
          | '+' :: rest => (false, rest)
          | rest => (false, rest)
        (takeDigits rest).map fun (digits, rest) => (some (negative, digits), rest)
      else some (none, letter :: rest)
  | [] => some (none, [])

def takeNumber (text : List Char) : Option (Numeral × List Char) := do
  let (negative, text) :=
    match text with
    | '-' :: rest => (true, rest)
    | text => (false, text)
  let (whole, text) ← takeWhole text
  let (fraction, text) ← takeFraction text
  let (exponent, text) ← takeExponent text
  return (⟨negative, whole, fraction, exponent⟩, text)

def goesOnNumber (character : Char) : Bool :=
  isDigit character || character = '.' || character = 'e' || character = 'E'

def Ends (rest : List Char) : Prop :=
  ∀ next ∈ rest.head?, goesOnNumber next = false

/-! The grammar of numbers. Every number that it allows is taken whole, up to what does not go on
with it. -/

def AreDigits (digits : List Char) : Prop :=
  digits ≠ [] ∧ ∀ digit ∈ digits, isDigit digit = true

inductive IsFraction : Option (List Char) → List Char → Prop
  | nothing : IsFraction none []
  | point {digits : List Char} : AreDigits digits → IsFraction (some digits) ('.' :: digits)

inductive IsExponent : Option (Bool × List Char) → List Char → Prop
  | nothing : IsExponent none []
  | plain {letter : Char} {digits : List Char} : letter = 'e' ∨ letter = 'E' →
      AreDigits digits → IsExponent (some (false, digits)) (letter :: digits)
  | plus {letter : Char} {digits : List Char} : letter = 'e' ∨ letter = 'E' →
      AreDigits digits → IsExponent (some (false, digits)) (letter :: '+' :: digits)
  | minus {letter : Char} {digits : List Char} : letter = 'e' ∨ letter = 'E' →
      AreDigits digits → IsExponent (some (true, digits)) (letter :: '-' :: digits)

/-- A number begins with a zero only if that is all of its whole part. -/
inductive IsNumber : Numeral → List Char → Prop
  | intro {negative : Bool} {whole : List Char} {fraction : Option (List Char)}
      {exponent : Option (Bool × List Char)} {afterPoint power : List Char} :
      AreDigits whole → (whole.head? = some '0' → whole = ['0']) →
        IsFraction fraction afterPoint → IsExponent exponent power →
          IsNumber ⟨negative, whole, fraction, exponent⟩
            ((if negative then ['-'] else []) ++ whole ++ afterPoint ++ power)

private def Stops (text : List Char) : Prop :=
  ∀ next ∈ text.head?, isDigit next = false

private theorem takeDigits_append {digits rest : List Char} (areDigits : AreDigits digits)
    (stops : Stops rest) : takeDigits (digits ++ rest) = some (digits, rest) := by
  obtain ⟨isThere, areDigits⟩ := areDigits
  have noMore : rest.takeWhile isDigit = [] ∧ rest.dropWhile isDigit = rest := by
    cases rest with
    | nil => exact ⟨rfl, rfl⟩
    | cons next rest =>
        have isEnd : isDigit next = false := stops next rfl
        simp [isEnd]
  rw [takeDigits, List.takeWhile_append_of_pos areDigits, List.dropWhile_append_of_pos areDigits,
    noMore.1, noMore.2, List.append_nil]
  cases digits with
  | nil => exact absurd rfl isThere
  | cons => rfl

private theorem takeWhole_append {digits rest : List Char} (areDigits : AreDigits digits)
    (noZero : digits.head? = some '0' → digits = ['0']) (stops : Stops rest) :
    takeWhole (digits ++ rest) = some (digits, rest) := by
  by_cases isZero : digits.head? = some '0'
  · rw [noZero isZero]
    cases rest with
    | nil => rfl
    | cons next rest =>
        have isEnd : isDigit next = false := stops next rfl
        simp [takeWhole, isEnd]
  · have taken := takeDigits_append areDigits stops
    cases digits with
    | nil => exact absurd rfl areDigits.1
    | cons first more =>
        rw [List.head?_cons, Option.some_inj] at isZero
        rw [← taken, List.cons_append, takeWhole]
        simp [isZero]

private theorem takeFraction_append {fraction : Option (List Char)} {text rest : List Char}
    (isFraction : IsFraction fraction text) (stops : Stops rest) (noPoint : rest.head? ≠ some '.') :
    takeFraction (text ++ rest) = some (fraction, rest) := by
  cases isFraction with
  | nothing =>
      cases rest with
      | nil => rfl
      | cons next rest =>
          have isOther : next ≠ '.' := fun isPoint => noPoint (congrArg some isPoint)
          simp [takeFraction, isOther]
  | point areDigits => simp [takeFraction, takeDigits_append areDigits stops]

private theorem takeExponent_append {exponent : Option (Bool × List Char)} {text rest : List Char}
    (isExponent : IsExponent exponent text) (ends : Ends rest) :
    takeExponent (text ++ rest) = some (exponent, rest) := by
  have stops : Stops rest := fun next isNext => by
    have := ends next isNext
    simp_all [goesOnNumber]
  cases isExponent with
  | nothing =>
      cases rest with
      | nil => rfl
      | cons next rest =>
          have := ends next rfl
          simp_all [goesOnNumber, takeExponent]
  | @plain letter digits isLetter areDigits =>
      have taken := takeDigits_append areDigits stops
      obtain ⟨first, more, rfl⟩ := List.exists_cons_of_ne_nil areDigits.1
      have isDigit := areDigits.2 first List.mem_cons_self
      have noSign : first ≠ '-' ∧ first ≠ '+' := by
        constructor <;> rintro rfl <;> cases isDigit
      rw [List.cons_append] at taken
      simp [takeExponent, isLetter, noSign, taken]
  | plus isLetter areDigits => simp [takeExponent, isLetter, takeDigits_append areDigits stops]
  | minus isLetter areDigits => simp [takeExponent, isLetter, takeDigits_append areDigits stops]

private theorem IsExponent.stops {exponent : Option (Bool × List Char)} {text rest : List Char}
    (isExponent : IsExponent exponent text) (ends : Ends rest) :
    Stops (text ++ rest) ∧ (text ++ rest).head? ≠ some '.' := by
  have isLetter {letter : Char} (more : List Char) (isLetter : letter = 'e' ∨ letter = 'E') :
      Stops (letter :: more) ∧ (letter :: more).head? ≠ some '.' := by
    rcases isLetter with rfl | rfl <;> exact ⟨by rintro next ⟨⟩; rfl, by simp⟩
  cases isExponent with
  | nothing =>
      refine ⟨fun next isNext => ?_, fun isPoint => ?_⟩
      · have := ends next isNext
        simp_all [goesOnNumber]
      · have := ends '.' isPoint
        cases this
  | plain isPower => exact isLetter _ isPower
  | plus isPower => exact isLetter _ isPower
  | minus isPower => exact isLetter _ isPower

theorem IsNumber.takeNumber_append {numeral : Numeral} {text rest : List Char}
    (isNumber : IsNumber numeral text) (ends : Ends rest) :
    takeNumber (text ++ rest) = some (numeral, rest) := by
  cases isNumber with
  | @intro negative whole fraction exponent afterPoint power areDigits noZero isFraction
      isExponent =>
      have ⟨stops, noPoint⟩ := isExponent.stops ends
      have stopsWhole : Stops (afterPoint ++ (power ++ rest)) := by
        cases isFraction with
        | nothing => exact stops
        | point => rintro next ⟨⟩; rfl
      have takenWhole := takeWhole_append areDigits noZero stopsWhole
      have takenFraction := takeFraction_append isFraction stops noPoint
      have takenExponent := takeExponent_append isExponent ends
      have noSign : ∀ more, whole ++ (afterPoint ++ (power ++ rest)) ≠ '-' :: more := by
        obtain ⟨first, digits, rfl⟩ := List.exists_cons_of_ne_nil areDigits.1
        have := areDigits.2 first List.mem_cons_self
        intro more same
        rw [List.cons_append, List.cons.injEq] at same
        rw [same.1] at this
        cases this
      cases negative with
      | true => simp [takeNumber, takenWhole, takenFraction, takenExponent]
      | false => simp [takeNumber, takenWhole, takenFraction, takenExponent]

/-! ## Values

The fuel bounds the characters that are still to be read; every value, element
and member takes at least one. -/

private def takeWord (word : List Char) (value : Tree) (text : List Char) :
    Option (Tree × List Char) :=
  if word.isPrefixOf text then some (value, text.drop word.length) else none

mutual
def takeValue : (fuel : Nat) → List Char → Option (Tree × List Char)
  | 0, _ => none
  | fuel + 1, text =>
      match skipBlanks text with
      | [] => none
      | '"' :: rest => (takeString rest).map fun (raw, rest) => (.string raw, rest)
      | '[' :: rest =>
          match skipBlanks rest with
          | ']' :: rest => some (.array [], rest)
          | rest => (takeElements fuel rest).map fun (elements, rest) => (.array elements, rest)
      | '\x7B' :: rest =>
          match skipBlanks rest with
          | '\x7D' :: rest => some (.object [], rest)
          | rest => (takeMembers fuel rest).map fun (members, rest) => (.object members, rest)
      | 'n' :: rest => takeWord ['u', 'l', 'l'] .null rest
      | 't' :: rest => takeWord ['r', 'u', 'e'] (.boolean true) rest
      | 'f' :: rest => takeWord ['a', 'l', 's', 'e'] (.boolean false) rest
      | text => (takeNumber text).map fun (numeral, rest) => (.number numeral, rest)

def takeElements : (fuel : Nat) → List Char → Option (List Tree × List Char)
  | 0, _ => none
  | fuel + 1, text => do
      let (element, rest) ← takeValue fuel text
      match skipBlanks rest with
      | ',' :: rest =>
          let (elements, rest) ← takeElements fuel rest
          return (element :: elements, rest)
      | ']' :: rest => return ([element], rest)
      | _ => none

def takeMembers : (fuel : Nat) → List Char → Option (List (List Char × Tree) × List Char)
  | 0, _ => none
  | fuel + 1, text =>
      match skipBlanks text with
      | '"' :: rest => do
          let (key, rest) ← takeString rest
          match skipBlanks rest with
          | ':' :: rest =>
              let (value, rest) ← takeValue fuel rest
              match skipBlanks rest with
              | ',' :: rest =>
                  let (members, rest) ← takeMembers fuel rest
                  return ((key, value) :: members, rest)
              | '\x7D' :: rest => return ([(key, value)], rest)
              | _ => none
          | _ => none
      | _ => none
end

def ofText? (text : List Char) : Option Tree :=
  match takeValue (text.length + 1) text with
  | some (value, rest) => if (skipBlanks rest).isEmpty then some value else none
  | none => none

/-! ## What the lexemes stand for -/

def boolean? : Tree → Option Bool
  | .boolean value => some value
  | _ => none

/-- Only digits, with or without a minus sign, are an integer; a negative zero is
none. -/
def integer? : Tree → Option Int
  | .number ⟨negative, whole, none, none⟩ =>
      let magnitude : Nat := whole.foldl (fun value digit => value * 10 + (digit.toNat - 0x30)) 0
      if negative then (if magnitude = 0 then none else some (-(magnitude : Int)))
      else some magnitude
  | _ => none

def uint64? (tree : Tree) : Option UInt64 :=
  match tree.integer? with
  | some value =>
      if 0 ≤ value ∧ value ≤ 0xFFFFFFFFFFFFFFFF then some value.toNat.toUInt64 else none
  | none => none

def int64? (tree : Tree) : Option Int64 :=
  match tree.integer? with
  | some value =>
      if -0x8000000000000000 ≤ value ∧ value ≤ 0x7FFFFFFFFFFFFFFF then some (Int64.ofInt value)
      else none
  | none => none

private def hexValue (digit : Char) : Nat :=
  if isDigit digit then digit.toNat - 0x30
  else if digit ≤ 'F' then digit.toNat - 0x37
  else digit.toNat - 0x57

private def hexUnit (first second third fourth : Char) : Nat :=
  ((hexValue first * 16 + hexValue second) * 16 + hexValue third) * 16 + hexValue fourth

private def plainEscape (escaped : Char) : Char :=
  if escaped = 'b' then '\x08'
  else if escaped = 'f' then '\x0C'
  else if escaped = 'n' then '\n'
  else if escaped = 'r' then '\r'
  else if escaped = 't' then '\t'
  else escaped

/-- Undoes the escapes. An escaped high surrogate waits for the low one that must
follow it; a surrogate alone stands for no character. -/
private def unescapeFrom : (pending : Option Nat) → List Char → Option (List Char)
  | none, [] => some []
  | some _, [] => none
  | pending, '\\' :: 'u' :: first :: second :: third :: fourth :: rest =>
      let unit := hexUnit first second third fourth
      match pending with
      | some high =>
          if 0xDC00 ≤ unit ∧ unit < 0xE000 then
            (unescapeFrom none rest).map
              (Char.ofNat (0x10000 + (high - 0xD800) * 0x400 + (unit - 0xDC00)) :: ·)
          else none
      | none =>
          if 0xD800 ≤ unit ∧ unit < 0xDC00 then unescapeFrom (some unit) rest
          else if 0xDC00 ≤ unit ∧ unit < 0xE000 then none
          else (unescapeFrom none rest).map (Char.ofNat unit :: ·)
  | some _, _ :: _ => none
  | none, '\\' :: escaped :: rest => (unescapeFrom none rest).map (plainEscape escaped :: ·)
  | none, character :: rest => (unescapeFrom none rest).map (character :: ·)

def unescape? (raw : List Char) : Option (List Char) :=
  unescapeFrom none raw

theorem unescape?_cons {character : Char} (isPlain : character ≠ '\\') (rest : List Char) :
    unescape? (character :: rest) = (unescape? rest).map (character :: ·) := by
  simp [unescape?, unescapeFrom, isPlain]

/-! The grammar of escapes. -/

/-- Letters that stand for a character when they are escaped. -/
def plainEscapes : List (Char × Char) :=
  [('"', '"'), ('\\', '\\'), ('/', '/'), ('b', '\x08'), ('f', '\x0C'), ('n', '\n'), ('r', '\r'),
    ('t', '\t')]

/-- A digit in base sixteen. From ten on it is a letter, small or capital. -/
def IsHexOf (value : Nat) (digit : Char) : Prop :=
  value < 0x10 ∧ digit ∈ [Nat.digitChar value, (Nat.digitChar value).toUpper]

inductive EscapesUnit (unit : Nat) : List Char → Prop
  | intro {first second third fourth : Char} : IsHexOf (unit / 0x1000) first →
      IsHexOf (unit / 0x100 % 0x10) second → IsHexOf (unit / 0x10 % 0x10) third →
        IsHexOf (unit % 0x10) fourth → EscapesUnit unit ['\\', 'u', first, second, third, fourth]

private theorem IsHexOf.hexValue_eq {value : Nat} {digit : Char} (isHex : IsHexOf value digit) :
    Tree.isHexDigit digit = true ∧ hexValue digit = value := by
  have ofSmall : ∀ value < 0x10, Tree.isHexDigit (Nat.digitChar value) = true ∧
      hexValue (Nat.digitChar value) = value := by
    decide
  have ofCapital : ∀ value < 0x10, Tree.isHexDigit (Nat.digitChar value).toUpper = true ∧
      hexValue (Nat.digitChar value).toUpper = value := by
    decide
  obtain ⟨isLess, isDigit⟩ := isHex
  rw [List.mem_cons, List.mem_singleton] at isDigit
  rcases isDigit with rfl | rfl
  · exact ofSmall value isLess
  · exact ofCapital value isLess

theorem IsHexOf.isHexDigit {value : Nat} {digit : Char} (isHex : IsHexOf value digit) :
    Tree.isHexDigit digit = true :=
  isHex.hexValue_eq.1

private theorem hexUnit_eq {unit : Nat} {first second third fourth : Char}
    (isFirst : IsHexOf (unit / 0x1000) first) (isSecond : IsHexOf (unit / 0x100 % 0x10) second)
    (isThird : IsHexOf (unit / 0x10 % 0x10) third) (isFourth : IsHexOf (unit % 0x10) fourth) :
    hexUnit first second third fourth = unit := by
  rw [hexUnit, isFirst.hexValue_eq.2, isSecond.hexValue_eq.2, isThird.hexValue_eq.2,
    isFourth.hexValue_eq.2]
  omega

section
variable {rest : List Char}

theorem unescape?_plainEscape {letter character : Char}
    (isEscape : (letter, character) ∈ plainEscapes) :
    unescape? ('\\' :: letter :: rest) = (unescape? rest).map (character :: ·) := by
  simp only [plainEscapes, List.mem_cons, List.not_mem_nil, or_false, Prod.mk.injEq] at isEscape
  rcases isEscape with h | h | h | h | h | h | h | h <;> obtain ⟨rfl, rfl⟩ := h <;> rfl

theorem unescape?_unit {unit : Nat} {escaped : List Char} (escapes : EscapesUnit unit escaped)
    (isScalar : unit < 0xD800 ∨ 0xDFFF < unit) :
    unescape? (escaped ++ rest) = (unescape? rest).map (Char.ofNat unit :: ·) := by
  cases escapes with
  | @intro first second third fourth isFirst isSecond isThird isFourth =>
      have isUnit := hexUnit_eq isFirst isSecond isThird isFourth
      simp only [List.cons_append, List.nil_append, unescape?, unescapeFrom, isUnit]
      rw [if_neg (by omega), if_neg (by omega)]

theorem unescape?_pair {high low : Nat} {first second : List Char}
    (escapesHigh : EscapesUnit high first) (escapesLow : EscapesUnit low second)
    (isHigh : 0xD800 ≤ high ∧ high < 0xDC00) (isLow : 0xDC00 ≤ low ∧ low < 0xE000) :
    unescape? (first ++ second ++ rest) = (unescape? rest).map
      (Char.ofNat (0x10000 + (high - 0xD800) * 0x400 + (low - 0xDC00)) :: ·) := by
  cases escapesHigh with
  | intro isFirst isSecond isThird isFourth =>
    have isUnit := hexUnit_eq isFirst isSecond isThird isFourth
    cases escapesLow with
    | intro isFirst isSecond isThird isFourth =>
      have isNext := hexUnit_eq isFirst isSecond isThird isFourth
      simp only [List.cons_append, List.nil_append, unescape?, unescapeFrom, isUnit, isNext]
      rw [if_pos isHigh, if_pos isLow]

end

end Tree

end EmbeddedSql.Json
