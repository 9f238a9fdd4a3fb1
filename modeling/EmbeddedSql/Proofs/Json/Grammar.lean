import EmbeddedSql.Json.Tree
import EmbeddedSql.Proofs.Text.Utf16
import Mathlib.Data.List.DropRight

/-! The grammar of JSON texts. Every text that it allows is read, as the tree of the lexemes that the
text is written with. -/

namespace EmbeddedSql.Json

open Json.Tree

/-! ## Strings -/

/-- What may stand between quotes. Escaped units need not be paired. -/
inductive IsQuotable : List Char → Prop
  | nil : IsQuotable []
  | plain {character : Char} {rest : List Char} : ¬character.toNat < 0x20 → character ≠ '"' →
      character ≠ '\\' → IsQuotable rest → IsQuotable (character :: rest)
  | escape {letter character : Char} {rest : List Char} : (letter, character) ∈ plainEscapes →
      IsQuotable rest → IsQuotable ('\\' :: letter :: rest)
  | unit {unit : Nat} {escaped rest : List Char} : EscapesUnit unit escaped → IsQuotable rest →
      IsQuotable (escaped ++ rest)

/-- What stands between quotes stands for a text. A character is written as it is or escaped, by a
letter or by its one or two units of UTF-16. -/
inductive Denotes : (raw text : List Char) → Prop
  | nil : Denotes [] []
  | plain {character : Char} {raw text : List Char} : ¬character.toNat < 0x20 → character ≠ '"' →
      character ≠ '\\' → Denotes raw text → Denotes (character :: raw) (character :: text)
  | escape {letter character : Char} {raw text : List Char} : (letter, character) ∈ plainEscapes →
      Denotes raw text → Denotes ('\\' :: letter :: raw) (character :: text)
  | unit {character : Char} {escaped raw text : List Char} : EscapesUnit character.toNat escaped →
      Denotes raw text → Denotes (escaped ++ raw) (character :: text)
  | pair {character : Char} {high low : UInt16} {first second raw text : List Char} :
      Utf16.encodeChar character = [high, low] → EscapesUnit high.toNat first →
        EscapesUnit low.toNat second → Denotes raw text →
          Denotes (first ++ second ++ raw) (character :: text)

variable {raw text rest : List Char}

theorem Denotes.isQuotable (denotes : Denotes raw text) : IsQuotable raw := by
  induction denotes with
  | nil => exact .nil
  | plain isPlain noQuote noBackslash _ rest => exact .plain isPlain noQuote noBackslash rest
  | escape isEscape _ rest => exact .escape isEscape rest
  | unit escapes _ rest => exact .unit escapes rest
  | pair _ escapesHigh escapesLow _ rest =>
      rw [List.append_assoc]
      exact .unit escapesHigh (.unit escapesLow rest)

theorem takeString_plainEscape {letter character : Char}
    (isEscape : (letter, character) ∈ plainEscapes) :
    takeString ('\\' :: letter :: rest) =
      (takeString rest).map fun (raw, rest) => ('\\' :: letter :: raw, rest) := by
  simp only [plainEscapes, List.mem_cons, List.not_mem_nil, or_false, Prod.mk.injEq] at isEscape
  rcases isEscape with h | h | h | h | h | h | h | h <;> obtain ⟨rfl, rfl⟩ := h <;> rfl

theorem takeString_unit {unit : Nat} {escaped : List Char} (escapes : EscapesUnit unit escaped) :
    takeString (escaped ++ rest) =
      (takeString rest).map fun (raw, rest) => (escaped ++ raw, rest) := by
  cases escapes with
  | intro isFirst isSecond isThird isFourth =>
      simp [takeString, isFirst.isHexDigit, isSecond.isHexDigit, isThird.isHexDigit,
        isFourth.isHexDigit]

theorem IsQuotable.takeString_append (isQuotable : IsQuotable raw) :
    takeString (raw ++ '"' :: rest) = some (raw, rest) := by
  induction isQuotable with
  | nil => rfl
  | plain isPlain noQuote noBackslash _ taken =>
      simp [takeString, isPlain, noBackslash, taken]
  | escape isEscape _ taken =>
      rw [List.cons_append, List.cons_append, takeString_plainEscape isEscape, taken]
      rfl
  | unit escapes _ taken =>
      rw [List.append_assoc, takeString_unit escapes, taken]
      rfl

theorem unescape?_encodeChar {character : Char} {high low : UInt16} {first second : List Char}
    (isPair : Utf16.encodeChar character = [high, low]) (escapesHigh : EscapesUnit high.toNat first)
    (escapesLow : EscapesUnit low.toNat second) :
    unescape? (first ++ second ++ rest) = (unescape? rest).map (character :: ·) := by
  have encodes := Utf16.encodeChar_encodes character
  have isScalar := Utf8.bounds_of_char character
  rw [isPair] at encodes
  cases encodes with
  | pair isAstral _ _ isHigh isLow =>
      rw [unescape?_pair escapesHigh escapesLow (by omega) (by omega)]
      have same : 0x10000 + (high.toNat - 0xD800) * 0x400 + (low.toNat - 0xDC00) =
          character.toNat := by
        omega
      rw [same, Char.ofNat_toNat]

theorem Denotes.unescape? (denotes : Denotes raw text) : unescape? raw = some text := by
  induction denotes with
  | nil => rfl
  | plain _ _ noBackslash _ said =>
      rw [unescape?_cons noBackslash, said]
      rfl
  | escape isEscape _ said =>
      rw [unescape?_plainEscape isEscape, said]
      rfl
  | @unit character _ _ _ escapes _ said =>
      rw [unescape?_unit escapes ((Utf8.bounds_of_char character).imp_right And.left), said,
        Char.ofNat_toNat]
      rfl
  | pair isPair escapesHigh escapesLow _ said =>
      rw [unescape?_encodeChar isPair escapesHigh escapesLow, said]
      rfl

/-! ## Blanks -/

def AreBlank (blanks : List Char) : Prop :=
  ∀ blank ∈ blanks, isBlank blank = true

namespace AreBlank

variable {blanks others : List Char} (areBlank : AreBlank blanks)
include areBlank

theorem append (otherBlank : AreBlank others) : AreBlank (blanks ++ others) :=
  List.forall_mem_append.mpr ⟨areBlank, otherBlank⟩

theorem skipBlanks_append (text : List Char) : skipBlanks (blanks ++ text) = skipBlanks text :=
  List.dropWhile_append_of_pos areBlank

theorem ends (ends : Ends rest) : Ends (blanks ++ rest) := by
  cases blanks with
  | nil => exact ends
  | cons blank blanks =>
      have isBlank := areBlank blank List.mem_cons_self
      rintro next ⟨⟩
      simp only [Tree.isBlank, Bool.or_eq_true, decide_eq_true_iff] at isBlank
      rcases isBlank with ((rfl | rfl) | rfl) | rfl <;> rfl

end AreBlank

theorem areBlank_nil : AreBlank [] := nofun

theorem skipBlanks_of_no {first : Char} (isNoBlank : isBlank first = false) (text : List Char) :
    skipBlanks (first :: text) = first :: text := by
  simp [skipBlanks, isNoBlank]

theorem skipBlanks_skipBlanks (text : List Char) :
    skipBlanks (skipBlanks text) = skipBlanks text :=
  List.dropWhile_idempotent isBlank text

/-! Blanks in front of a value, of elements or of members make no difference. -/

theorem takeValue_skipBlanks (fuel : Nat) (text : List Char) :
    takeValue fuel (skipBlanks text) = takeValue fuel text := by
  cases fuel with
  | zero => rfl
  | succ fuel => rw [takeValue, takeValue, skipBlanks_skipBlanks]

theorem takeElements_skipBlanks (fuel : Nat) (text : List Char) :
    takeElements fuel (skipBlanks text) = takeElements fuel text := by
  cases fuel with
  | zero => rfl
  | succ fuel => rw [takeElements, takeElements, takeValue_skipBlanks]

theorem takeMembers_skipBlanks (fuel : Nat) (text : List Char) :
    takeMembers fuel (skipBlanks text) = takeMembers fuel text := by
  cases fuel with
  | zero => rfl
  | succ fuel => rw [takeMembers, takeMembers, skipBlanks_skipBlanks]

/-! ## Values -/

def separated : List (List Char) → List Char
  | [] => []
  | [text] => text
  | text :: next :: texts => text ++ ',' :: separated (next :: texts)

/-- A member of an object: its name between quotes, with blanks around it, and the text of its
value. -/
structure Entry where
  before : List Char
  raw : List Char
  after : List Char
  text : List Char
  tree : Tree

namespace Entry

def written (entry : Entry) : List Char :=
  entry.before ++ '"' :: (entry.raw ++ '"' :: (entry.after ++ ':' :: entry.text))

def member (entry : Entry) : List Char × Tree :=
  (entry.raw, entry.tree)

structure IsNamed (entry : Entry) : Prop where
  before : AreBlank entry.before
  raw : IsQuotable entry.raw
  after : AreBlank entry.after

end Entry

/-- The texts of a value, with any blanks around it and between its parts. -/
inductive Spells : List Char → Tree → Prop
  | null : Spells ['n', 'u', 'l', 'l'] .null
  | yes : Spells ['t', 'r', 'u', 'e'] (.boolean true)
  | no : Spells ['f', 'a', 'l', 's', 'e'] (.boolean false)
  | number {numeral : Numeral} {text : List Char} : IsNumber numeral text →
      Spells text (.number numeral)
  | string {raw : List Char} : IsQuotable raw → Spells ('"' :: (raw ++ ['"'])) (.string raw)
  | array {elements : List (List Char × Tree)} {blanks : List Char} : AreBlank blanks →
      (∀ element ∈ elements, Spells element.1 element.2) →
        Spells ('[' :: (blanks ++ separated (elements.map Prod.fst) ++ [']']))
          (.array (elements.map Prod.snd))
  | object {entries : List Entry} {blanks : List Char} : AreBlank blanks →
      (∀ entry ∈ entries, entry.IsNamed) → (∀ entry ∈ entries, Spells entry.text entry.tree) →
        Spells ('\x7B' :: (blanks ++ separated (entries.map Entry.written) ++ ['\x7D']))
          (.object (entries.map Entry.member))
  | padded {text before after : List Char} {tree : Tree} : AreBlank before → AreBlank after →
      Spells text tree → Spells (before ++ text ++ after) tree

/-! ## Reading values -/

/-- What comes first after the blanks, if there are any, is not the end of an array. -/
def StartsValue (text : List Char) : Prop :=
  ∃ blanks first rest, text = blanks ++ first :: rest ∧ AreBlank blanks ∧
    isBlank first = false ∧ first ≠ ']'

/-- The tree is taken from the front of a text that begins like this, up to blanks at its end. -/
structure Begins (text : List Char) (tree : Tree) : Prop where
  head : StartsValue text
  taken : ∃ blanks, AreBlank blanks ∧ ∀ {fuel : Nat} {rest : List Char}, text.length ≤ fuel →
    Ends rest → takeValue fuel (text ++ rest) = some (tree, blanks ++ rest)

theorem StartsValue.append (starts : StartsValue text) (more : List Char) :
    StartsValue (text ++ more) := by
  obtain ⟨blanks, first, rest, rfl, areBlank, isFirst⟩ := starts
  exact ⟨blanks, first, rest ++ more, by simp, areBlank, isFirst⟩

theorem StartsValue.prepend {blanks : List Char} (starts : StartsValue text)
    (areBlank : AreBlank blanks) : StartsValue (blanks ++ text) := by
  obtain ⟨others, first, rest, rfl, otherBlank, isFirst⟩ := starts
  exact ⟨blanks ++ others, first, rest, by simp, areBlank.append otherBlank, isFirst⟩

theorem StartsValue.skipBlanks_eq (starts : StartsValue text) :
    ∃ first rest, skipBlanks text = first :: rest ∧ first ≠ ']' := by
  obtain ⟨blanks, first, rest, rfl, areBlank, isNoBlank, isNoEnd⟩ := starts
  exact ⟨first, rest, by rw [areBlank.skipBlanks_append, skipBlanks_of_no isNoBlank], isNoEnd⟩

namespace Begins

theorem of_cons {first : Char} {tree : Tree} (isNoBlank : isBlank first = false)
    (isNoEnd : first ≠ ']')
    (taken : ∀ {fuel : Nat} {more : List Char}, rest.length ≤ fuel → Ends more →
      takeValue (fuel + 1) (first :: rest ++ more) = some (tree, more)) :
    Begins (first :: rest) tree where
  head := ⟨[], first, rest, rfl, areBlank_nil, isNoBlank, isNoEnd⟩
  taken := by
    refine ⟨[], areBlank_nil, fun {fuel more} isEnough ends => ?_⟩
    cases fuel with
    | zero => cases isEnough
    | succ fuel => exact taken (Nat.le_of_succ_le_succ isEnough) ends

theorem null : Begins ['n', 'u', 'l', 'l'] .null :=
  of_cons rfl (by decide) fun _ _ => rfl

theorem boolean_true : Begins ['t', 'r', 'u', 'e'] (.boolean true) :=
  of_cons rfl (by decide) fun _ _ => rfl

theorem boolean_false : Begins ['f', 'a', 'l', 's', 'e'] (.boolean false) :=
  of_cons rfl (by decide) fun _ _ => rfl

theorem string (isQuotable : IsQuotable raw) : Begins ('"' :: (raw ++ ['"'])) (.string raw) :=
  of_cons rfl (by decide) fun {fuel more} _ _ => by
    show (takeString (raw ++ ['"'] ++ more)).map _ = _
    rw [List.append_assoc, List.singleton_append, isQuotable.takeString_append]
    rfl

theorem padded {before after : List Char} {tree : Tree} (areBefore : AreBlank before)
    (areAfter : AreBlank after) (begins : Begins text tree) :
    Begins (before ++ text ++ after) tree where
  head := (begins.head.prepend areBefore).append after
  taken := by
    obtain ⟨blanks, areBlank, taken⟩ := begins.taken
    refine ⟨blanks ++ after, areBlank.append areAfter, fun {fuel rest} isEnough ends => ?_⟩
    have isLess : text.length ≤ fuel := by
      simp only [List.length_append] at isEnough
      omega
    rw [List.append_assoc, List.append_assoc, ← takeValue_skipBlanks,
      areBefore.skipBlanks_append, takeValue_skipBlanks, taken isLess (areAfter.ends ends),
      List.append_assoc]

end Begins

/-! ## The beginning of a number -/

def startsNumber (first : Char) : Prop :=
  first = '-' ∨ isDigit first = true

section
variable {first : Char} (starts : startsNumber first)
include starts

theorem ne_of_startsNumber {other : Char} (isNoSign : other ≠ '-')
    (isNoDigit : isDigit other = false) : first ≠ other := by
  rintro rfl
  rcases starts with isSign | isDigit
  · exact isNoSign isSign
  · exact Bool.false_ne_true (isNoDigit.symm.trans isDigit)

theorem isBlank_of_startsNumber : isBlank first = false := by
  have isOther (other : Char) (isNoSign : other ≠ '-') (isNoDigit : isDigit other = false) :
      first ≠ other := ne_of_startsNumber starts isNoSign isNoDigit
  simp [isBlank, isOther ' ' (by decide) (by decide), isOther '\t' (by decide) (by decide),
    isOther '\n' (by decide) (by decide), isOther '\r' (by decide) (by decide)]

theorem takeValue_number (fuel : Nat) (rest : List Char) :
    takeValue (fuel + 1) (first :: rest) =
      (takeNumber (first :: rest)).map fun (numeral, rest) => (.number numeral, rest) := by
  rw [takeValue, skipBlanks_of_no (isBlank_of_startsNumber starts)]
  split
  case h_8 => rfl
  case h_1 => contradiction
  all_goals
    rename_i same
    exact absurd (List.cons.inj same).1 (ne_of_startsNumber starts (by decide) (by decide))

end

theorem IsNumber.starts {numeral : Numeral} (isNumber : IsNumber numeral text) :
    ∃ first rest, text = first :: rest ∧ startsNumber first := by
  cases isNumber with
  | @intro negative whole fraction exponent afterPoint power areDigits _ _ _ =>
      obtain ⟨first, digits, rfl⟩ := List.exists_cons_of_ne_nil areDigits.1
      cases negative with
      | true => exact ⟨'-', _, rfl, .inl rfl⟩
      | false => exact ⟨first, _, rfl, .inr (areDigits.2 first List.mem_cons_self)⟩

theorem Begins.number {numeral : Numeral} (isNumber : IsNumber numeral text) :
    Begins text (.number numeral) := by
  have taken {rest : List Char} (ends : Ends rest) := isNumber.takeNumber_append ends
  obtain ⟨first, rest, rfl, starts⟩ := IsNumber.starts isNumber
  refine .of_cons (isBlank_of_startsNumber starts)
    (ne_of_startsNumber starts (by decide) (by decide)) fun {fuel more} _ ends => ?_
  rw [List.cons_append, takeValue_number starts, ← List.cons_append, taken ends, Option.map_some]

/-! ## Arrays -/

structure BeginsElements (text : List Char) (trees : List Tree) : Prop where
  head : StartsValue text
  taken : ∀ {fuel : Nat} {rest : List Char}, text.length < fuel →
    takeElements fuel (text ++ ']' :: rest) = some (trees, rest)

theorem Begins.single {tree : Tree} (begins : Begins text tree) :
    BeginsElements text [tree] where
  head := begins.head
  taken {fuel rest} isEnough := by
    obtain ⟨blanks, areBlank, taken⟩ := begins.taken
    cases fuel with
    | zero => cases isEnough
    | succ fuel =>
        rw [takeElements, taken (Nat.le_of_lt_succ isEnough) (by rintro next ⟨⟩; rfl)]
        simp only [Option.bind_eq_bind, Option.bind_some, areBlank.skipBlanks_append]
        rfl

theorem Begins.followed {tree : Tree} {trees : List Tree} {more : List Char}
    (begins : Begins text tree) (follow : BeginsElements more trees) :
    BeginsElements (text ++ ',' :: more) (tree :: trees) where
  head := begins.head.append _
  taken {fuel rest} isEnough := by
    obtain ⟨blanks, areBlank, taken⟩ := begins.taken
    rw [List.length_append, List.length_cons] at isEnough
    cases fuel with
    | zero => cases isEnough
    | succ fuel =>
        have takes : takeValue fuel (text ++ ',' :: (more ++ ']' :: rest)) =
            some (tree, blanks ++ ',' :: (more ++ ']' :: rest)) :=
          taken (by omega) (by rintro next ⟨⟩; rfl)
        have takesRest : takeElements fuel (more ++ ']' :: rest) = some (trees, rest) :=
          follow.taken (by omega)
        rw [List.append_assoc, List.cons_append, takeElements, takes]
        simp only [Option.bind_eq_bind, Option.bind_some, areBlank.skipBlanks_append]
        show (takeElements fuel (more ++ ']' :: rest)).bind _ = _
        rw [takesRest]
        rfl

theorem separated_beginsElements {elements : List (List Char × Tree)} (isThere : elements ≠ [])
    (each : ∀ element ∈ elements, Begins element.1 element.2) :
    BeginsElements (separated (elements.map Prod.fst)) (elements.map Prod.snd) := by
  induction elements with
  | nil => contradiction
  | cons element rest induction =>
      obtain ⟨begins, others⟩ := List.forall_mem_cons.mp each
      cases rest with
      | nil => exact begins.single
      | cons next rest => exact begins.followed (induction (List.cons_ne_nil next rest) others)

theorem StartsValue.takeValue_array (starts : StartsValue text) (fuel : Nat) :
    takeValue (fuel + 1) ('[' :: text) =
      (takeElements fuel text).map fun (elements, rest) => (.array elements, rest) := by
  obtain ⟨first, rest, skips, isNoEnd⟩ := starts.skipBlanks_eq
  rw [← takeElements_skipBlanks, takeValue, skipBlanks_of_no rfl]
  simp [skips, isNoEnd]

theorem Begins.array {elements : List (List Char × Tree)} {blanks : List Char}
    (areBlank : AreBlank blanks) (each : ∀ element ∈ elements, Begins element.1 element.2) :
    Begins ('[' :: (blanks ++ separated (elements.map Prod.fst) ++ [']']))
      (.array (elements.map Prod.snd)) := by
  refine .of_cons rfl (by decide) fun {fuel more} isEnough _ => ?_
  rw [List.cons_append, List.append_assoc, List.append_assoc, List.singleton_append]
  by_cases isThere : elements = []
  · subst isThere
    rw [takeValue, skipBlanks_of_no rfl]
    simp [separated, areBlank.skipBlanks_append, skipBlanks_of_no (rfl : isBlank ']' = false)]
  · have begins := separated_beginsElements isThere each
    have isLess : (separated (elements.map Prod.fst)).length < fuel := by
      simp only [List.length_append, List.length_singleton] at isEnough
      omega
    have starts := (begins.head.append (']' :: more)).prepend areBlank
    rw [starts.takeValue_array, ← takeElements_skipBlanks, areBlank.skipBlanks_append,
      takeElements_skipBlanks, begins.taken isLess, Option.map_some]

/-! ## Objects -/

structure BeginsMembers (text : List Char) (members : List (List Char × Tree)) : Prop where
  head : ∃ blanks rest, text = blanks ++ '"' :: rest ∧ AreBlank blanks
  taken : ∀ {fuel : Nat} {rest : List Char}, text.length < fuel →
    takeMembers fuel (text ++ '\x7D' :: rest) = some (members, rest)

namespace Entry

variable {entry : Entry} (isNamed : entry.IsNamed)
include isNamed

/-- What is taken after the name of a member, and after the blanks that follow its value. -/
theorem takeMembers_written (fuel : Nat) (rest : List Char) :
    takeMembers (fuel + 1) (entry.written ++ rest) =
      (takeValue fuel (entry.text ++ rest)).bind fun (value, rest) =>
        match skipBlanks rest with
        | ',' :: rest =>
            (takeMembers fuel rest).bind fun (members, rest) =>
              some ((entry.raw, value) :: members, rest)
        | '\x7D' :: rest => some ([(entry.raw, value)], rest)
        | _ => none := by
  have isText : entry.written ++ rest = entry.before ++ '"' :: (entry.raw ++ '"' ::
      (entry.after ++ ':' :: (entry.text ++ rest))) := by
    simp [written]
  rw [isText, takeMembers, isNamed.before.skipBlanks_append, skipBlanks_of_no rfl]
  show (takeString (entry.raw ++ '"' :: _)).bind _ = _
  rw [isNamed.raw.takeString_append]
  simp only [Option.bind_some, isNamed.after.skipBlanks_append]
  rfl

variable (begins : Begins entry.text entry.tree)
include begins

theorem single : BeginsMembers entry.written [entry.member] where
  head := ⟨entry.before, _, rfl, isNamed.before⟩
  taken {fuel rest} isEnough := by
    obtain ⟨blanks, areBlank, taken⟩ := begins.taken
    cases fuel with
    | zero => cases isEnough
    | succ fuel =>
        have isLess : entry.text.length ≤ fuel := by
          simp [written] at isEnough
          omega
        rw [takeMembers_written isNamed, taken isLess (by rintro next ⟨⟩; rfl), Option.bind_some]
        simp only [areBlank.skipBlanks_append]
        rfl

theorem followed {members : List (List Char × Tree)} {more : List Char}
    (follow : BeginsMembers more members) :
    BeginsMembers (entry.written ++ ',' :: more) (entry.member :: members) where
  head := ⟨entry.before, _, List.append_assoc _ _ _, isNamed.before⟩
  taken {fuel rest} isEnough := by
    obtain ⟨blanks, areBlank, taken⟩ := begins.taken
    cases fuel with
    | zero => cases isEnough
    | succ fuel =>
        have isLess : entry.text.length ≤ fuel ∧ more.length < fuel := by
          simp [written] at isEnough
          omega
        have takes : takeValue fuel (entry.text ++ ',' :: (more ++ '\x7D' :: rest)) =
            some (entry.tree, blanks ++ ',' :: (more ++ '\x7D' :: rest)) :=
          taken isLess.1 (by rintro next ⟨⟩; rfl)
        rw [List.append_assoc, List.cons_append, takeMembers_written isNamed, takes,
          Option.bind_some]
        simp only [areBlank.skipBlanks_append]
        show (takeMembers fuel (more ++ '\x7D' :: rest)).bind _ = _
        rw [follow.taken isLess.2]
        rfl

end Entry

theorem separated_beginsMembers {entries : List Entry} (isThere : entries ≠ [])
    (named : ∀ entry ∈ entries, entry.IsNamed)
    (each : ∀ entry ∈ entries, Begins entry.text entry.tree) :
    BeginsMembers (separated (entries.map Entry.written)) (entries.map Entry.member) := by
  induction entries with
  | nil => contradiction
  | cons entry rest induction =>
      obtain ⟨isNamed, othersNamed⟩ := List.forall_mem_cons.mp named
      obtain ⟨begins, others⟩ := List.forall_mem_cons.mp each
      cases rest with
      | nil => exact Entry.single isNamed begins
      | cons next rest =>
          exact Entry.followed isNamed begins
            (induction (List.cons_ne_nil next rest) othersNamed others)

theorem Begins.object {entries : List Entry} {blanks : List Char} (areBlank : AreBlank blanks)
    (named : ∀ entry ∈ entries, entry.IsNamed)
    (each : ∀ entry ∈ entries, Begins entry.text entry.tree) :
    Begins ('\x7B' :: (blanks ++ separated (entries.map Entry.written) ++ ['\x7D']))
      (.object (entries.map Entry.member)) := by
  refine .of_cons rfl (by decide) fun {fuel more} isEnough _ => ?_
  rw [List.cons_append, List.append_assoc, List.append_assoc, List.singleton_append, takeValue,
    skipBlanks_of_no rfl]
  by_cases isThere : entries = []
  · subst isThere
    simp [separated, areBlank.skipBlanks_append, skipBlanks_of_no (rfl : isBlank '\x7D' = false)]
  · have begins := separated_beginsMembers isThere named each
    have isLess : (separated (entries.map Entry.written)).length < fuel := by
      simp only [List.length_append, List.length_singleton] at isEnough
      omega
    have taken : takeMembers fuel (separated (entries.map Entry.written) ++ '\x7D' :: more) =
        some (entries.map Entry.member, more) := begins.taken isLess
    obtain ⟨others, rest, isText, otherBlank⟩ := begins.head
    rw [← takeMembers_skipBlanks, isText, List.append_assoc, otherBlank.skipBlanks_append,
      List.cons_append, skipBlanks_of_no rfl] at taken
    simp only [areBlank.skipBlanks_append, isText, List.append_assoc, otherBlank.skipBlanks_append,
      List.cons_append, skipBlanks_of_no (rfl : isBlank '"' = false)]
    show (takeMembers fuel ('"' :: _)).map _ = _
    rw [taken]
    rfl

/-! ## Whole texts -/

theorem Spells.begins {tree : Tree} (spells : Spells text tree) : Begins text tree := by
  induction spells with
  | null => exact .null
  | yes => exact .boolean_true
  | no => exact .boolean_false
  | number isNumber => exact .number isNumber
  | string isQuotable => exact .string isQuotable
  | array areBlank _ each => exact .array areBlank each
  | object areBlank named _ each => exact .object areBlank named each
  | padded areBefore areAfter _ begins => exact .padded areBefore areAfter begins

/-- Every text of the grammar is read as the tree that it spells. -/
theorem Spells.ofText?_eq {tree : Tree} (spells : Spells text tree) :
    Tree.ofText? text = some tree := by
  obtain ⟨blanks, areBlank, taken⟩ := spells.begins.taken
  have takes : takeValue (text.length + 1) (text ++ []) = some (tree, blanks ++ []) :=
    taken (Nat.le_succ _) nofun
  have isOver : skipBlanks (blanks ++ []) = [] := areBlank.skipBlanks_append []
  rw [List.append_nil] at takes isOver
  simp [Tree.ofText?, takes, isOver]

end EmbeddedSql.Json
