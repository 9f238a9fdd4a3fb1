import EmbeddedSql.Text.Bytes

/-! The lexemes of SQL text. Blanks and comments separate tokens and are dropped;
every token knows where in the text it stands. -/

namespace EmbeddedSql.Sql

inductive TokenKind where
  | word
  | quotedName
  | string
  | blob
  | integer
  | real
  | separatedNumber
  | parameter
  | symbol
  | illegal
  | ending
deriving DecidableEq, Repr

structure Token where
  kind : TokenKind
  text : Bytes
  start : Nat
deriving DecidableEq, Repr

namespace Token

def stop (token : Token) : Nat :=
  token.start + token.text.length

def ending (position : Nat) : Token where
  kind := .ending
  text := []
  start := position

/-! ## Character classes -/

def isNameStart (byte : UInt8) : Bool :=
  Bytes.isUpper byte || Bytes.isLower byte || byte = 0x5F || 0x80 ≤ byte

def isNamePart (byte : UInt8) : Bool :=
  isNameStart byte || Bytes.isDigit byte || byte = 0x24

/-- Blanks that may begin white space; a vertical tab may only continue it. -/
def startsBlank (byte : UInt8) : Bool :=
  Bytes.isBlank byte && byte ≠ 0x0B

/-! ## Lexemes

Each function takes the text from the first byte of a lexeme on, and says how long
the lexeme is. -/

private def lengthWhile (accepts : UInt8 → Bool) (text : Bytes) : Nat :=
  (text.takeWhile accepts).length

/-- The length of a quoted lexeme after its opening quote, if it is closed. A
doubled quote stands for itself. -/
private def quotedLength (quote : UInt8) : Bytes → Option Nat
  | [] => none
  | byte :: next :: rest =>
      if byte = quote then
        if next = quote then (quotedLength quote rest).map (· + 2) else some 1
      else (quotedLength quote (next :: rest)).map (· + 1)
  | [byte] => if byte = quote then some 1 else none

private def quoted (kind : TokenKind) (quote : UInt8) (rest : Bytes) : TokenKind × Nat :=
  match quotedLength quote rest with
  | some length => (kind, length + 1)
  | none => (.illegal, rest.length + 1)

private def separator : UInt8 := 0x5F

private def digitsLength (isDigit : UInt8 → Bool) (text : Bytes) : Nat × Bool :=
  let digits := text.takeWhile fun byte => isDigit byte || byte = separator
  (digits.length, digits.contains separator)

private def number (text : Bytes) : TokenKind × Nat :=
  let (kind, length) :=
    match text with
    | 0x30 :: x :: digit :: rest =>
        if (x = 0x78 || x = 0x58) && Bytes.isHexDigit digit then
          let (length, separated) := digitsLength Bytes.isHexDigit rest
          (if separated then TokenKind.separatedNumber else .integer, length + 3)
        else decimal text
    | _ => decimal text
  let trailing := lengthWhile isNamePart (text.drop length)
  if trailing = 0 then (kind, length) else (.illegal, length + trailing)
where
  decimal (text : Bytes) : TokenKind × Nat :=
    let (whole, wholeSeparated) := digitsLength Bytes.isDigit text
    let (fraction, fractionSeparated) :=
      match text.drop whole with
      | 0x2E :: rest =>
          let (length, separated) := digitsLength Bytes.isDigit rest
          (length + 1, separated)
      | _ => (0, false)
    let (exponent, exponentSeparated) :=
      match text.drop (whole + fraction) with
      | letter :: rest =>
          if letter = 0x65 || letter = 0x45 then
            match rest with
            | sign :: digit :: rest =>
                if Bytes.isDigit sign then
                  let (length, separated) := digitsLength Bytes.isDigit (digit :: rest)
                  (length + 2, separated)
                else if (sign = 0x2B || sign = 0x2D) && Bytes.isDigit digit then
                  let (length, separated) := digitsLength Bytes.isDigit rest
                  (length + 3, separated)
                else (0, false)
            | [digit] => if Bytes.isDigit digit then (2, false) else (0, false)
            | [] => (0, false)
          else (0, false)
      | [] => (0, false)
    let kind :=
      if wholeSeparated || fractionSeparated || exponentSeparated then .separatedNumber
      else if fraction = 0 && exponent = 0 then .integer
      else .real
    (kind, whole + fraction + exponent)

/-- What follows the sigil of a named parameter: a name, in which two colons may
stand, and perhaps a suffix in parentheses. -/
private def parameterLength : (named : Bool) → Bytes → Bool × Nat
  | named, 0x3A :: 0x3A :: rest =>
      let (legal, length) := parameterLength named rest
      (legal, length + 2)
  | named, byte :: rest =>
      if isNamePart byte then
        let (legal, length) := parameterLength true rest
        (legal, length + 1)
      else if byte = 0x28 && named then
        let inner := lengthWhile (fun byte => !Bytes.isBlank byte && byte ≠ 0x29) rest
        match rest.drop inner with
        | 0x29 :: _ => (true, inner + 2)
        | _ => (false, inner + 1)
      else (named, 0)
  | named, [] => (named, 0)

private def blob (rest : Bytes) : TokenKind × Nat :=
  let digits := lengthWhile Bytes.isHexDigit rest
  match rest.drop digits with
  | 0x27 :: _ =>
      (if digits % 2 = 0 then .blob else .illegal, digits + 3)
  | _ =>
      let skipped := lengthWhile (· ≠ 0x27) rest
      (.illegal, 2 + skipped + (if skipped < rest.length then 1 else 0))

private def twoByteSymbols : List (UInt8 × UInt8) :=
  [(0x3D, 0x3D), (0x3C, 0x3D), (0x3C, 0x3E), (0x3C, 0x3C), (0x3E, 0x3D), (0x3E, 0x3E),
    (0x21, 0x3D), (0x7C, 0x7C)]

private def oneByteSymbols : Bytes :=
  Bytes.ofAscii "-+*/%()=<>|&~,;."

/-- The lexeme at the front of a text that begins with neither a blank nor a
comment. -/
private def lexeme : Bytes → TokenKind × Nat
  | [] => (.ending, 0)
  | 0x2D :: 0x3E :: 0x3E :: _ => (.symbol, 3)
  | 0x2D :: 0x3E :: _ => (.symbol, 2)
  | first :: rest =>
      let isTwoByteSymbol :=
        match rest with
        | second :: _ => twoByteSymbols.contains (first, second)
        | [] => false
      let nextIs (test : UInt8 → Bool) : Bool := (rest.head?.map test).getD false
      if isTwoByteSymbol then (.symbol, 2)
      else if first = 0x27 then quoted .string first rest
      else if first = 0x22 || first = 0x60 then quoted .quotedName first rest
      else if first = 0x5B then
        let length := lengthWhile (· ≠ 0x5D) rest
        if length < rest.length then (.quotedName, length + 2) else (.illegal, length + 1)
      else if Bytes.isDigit first || (first = 0x2E && nextIs Bytes.isDigit) then
        number (first :: rest)
      else if first = 0x3F then (.parameter, 1 + lengthWhile Bytes.isDigit rest)
      else if first = 0x24 || first = 0x40 || first = 0x3A || first = 0x23 then
        let (legal, length) := parameterLength false rest
        (if legal then .parameter else .illegal, length + 1)
      else if (first = 0x78 || first = 0x58) && nextIs (· = 0x27) then
        blob (rest.drop 1)
      else if isNameStart first then (.word, 1 + lengthWhile isNamePart rest)
      else if oneByteSymbols.contains first then (.symbol, 1)
      else (.illegal, 1)

/-! ## Blanks and comments -/

private def lineCommentLength (text : Bytes) : Nat :=
  lengthWhile (· ≠ 0x0A) text

private def blockCommentLength : Bytes → Nat
  | 0x2A :: 0x2F :: _ => 2
  | _ :: rest => blockCommentLength rest + 1
  | [] => 0

/-- The length of the blank or comment at the front of a text, which is zero if it
begins with a token. -/
private def separation : Bytes → Nat
  | 0x2D :: 0x2D :: rest => 2 + lineCommentLength rest
  | 0x2F :: 0x2A :: next :: rest => 2 + blockCommentLength (next :: rest)
  | 0xEF :: 0xBB :: 0xBF :: _ => 3
  | first :: rest => if startsBlank first then 1 + lengthWhile Bytes.isBlank rest else 0
  | [] => 0

private def scanFrom : (fuel : Nat) → (position : Nat) → Bytes → List Token
  | 0, position, _ => [ending position]
  | _ + 1, position, [] => [ending position]
  | fuel + 1, position, text =>
      let skipped := separation text
      if skipped = 0 then
        let (kind, length) := lexeme text
        { kind, text := text.take length, start := position } ::
          scanFrom fuel (position + length) (text.drop length)
      else scanFrom fuel (position + skipped) (text.drop skipped)

def scan (text : Bytes) : List Token :=
  scanFrom text.length 0 text

/-! ## What lexemes stand for -/

private def undouble (quote : UInt8) : Bytes → Bytes
  | byte :: next :: rest =>
      if byte = quote then
        if next = quote then quote :: undouble quote rest else []
      else byte :: undouble quote (next :: rest)
  | [byte] => if byte = quote then [] else [byte]
  | [] => []

def unquote : Bytes → Bytes
  | 0x5B :: rest => undouble 0x5D rest
  | quote :: rest => undouble quote rest
  | [] => []

def name (token : Token) : Bytes :=
  if token.kind = .quotedName || token.kind = .string then unquote token.text
  else token.text

def blobBytes (token : Token) : Bytes :=
  (Bytes.ofHex? ((token.text.drop 2).dropLast)).getD []

def isWord (token : Token) (keyword : String) : Bool :=
  token.kind = .word && Bytes.sameName token.text (Bytes.ofAscii keyword)

def isSymbol (token : Token) (symbol : String) : Bool :=
  token.kind = .symbol && token.text == Bytes.ofAscii symbol

example : (scan (Bytes.ofAscii "SELECT 1.5e3 -- one")).map (·.kind) =
    [.word, .real, .ending] := by decide +kernel
example : (scan (Bytes.ofAscii "'it''s'")).map name = [Bytes.ofAscii "it's", []] := by
  decide +kernel

end Token

end EmbeddedSql.Sql
