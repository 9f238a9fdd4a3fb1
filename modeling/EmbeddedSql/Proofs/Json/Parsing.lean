import EmbeddedSql.Json.Printer
import EmbeddedSql.Proofs.Json.Grammar
import Mathlib.Tactic.Choose
import Mathlib.Tactic.IntervalCases

/-! JSON text that is printed keeps to the grammar, and is read back. -/

namespace EmbeddedSql.Json

/-! ## Strings -/

theorem escape_plain {character : Char} (isPlain : ¬character.toNat < 0x20)
    (isNoQuote : character ≠ '"') (isNoBackslash : character ≠ '\\') :
    escape character = [character] := by
  have isNoControl {control : Char} (isControl : control.toNat < 0x20) : character ≠ control := by
    rintro rfl
    exact isPlain isControl
  unfold escape
  rw [if_neg isNoQuote, if_neg isNoBackslash, if_neg (isNoControl (by decide)),
    if_neg (isNoControl (by decide)), if_neg (isNoControl (by decide)),
    if_neg (isNoControl (by decide)), if_neg (isNoControl (by decide)), if_neg isPlain]

/-- Whatever holds of the controls, of the quote and the backslash, and of characters that are not
escaped. -/
theorem escape_induction {motive : Char → List Char → Prop}
    (control : ∀ number < 0x20, motive (Char.ofNat number) (escape (Char.ofNat number)))
    (quote : motive '"' (escape '"')) (backslash : motive '\\' (escape '\\'))
    (plain : ∀ {character : Char}, ¬character.toNat < 0x20 → character ≠ '\\' → character ≠ '"' →
      motive character [character])
    (character : Char) : motive character (escape character) := by
  by_cases isControl : character.toNat < 0x20
  · have isShown := control character.toNat isControl
    rwa [Char.ofNat_toNat] at isShown
  by_cases isQuote : character = '"'
  · exact isQuote ▸ quote
  by_cases isBackslash : character = '\\'
  · exact isBackslash ▸ backslash
  rw [escape_plain isControl isQuote isBackslash]
  exact plain isControl isBackslash isQuote

theorem denotes_escape {raw text : List Char} (denotes : Denotes raw text) (character : Char) :
    Denotes (escape character ++ raw) (character :: text) := by
  induction character using escape_induction with
  | control number isLow =>
      interval_cases number
      all_goals
        first
        | exact .escape (by decide) denotes
        | exact .unit (.intro ⟨by decide, by decide⟩ ⟨by decide, by decide⟩ ⟨by decide, by decide⟩
            ⟨by decide, by decide⟩) denotes
  | quote => exact .escape (by decide) denotes
  | backslash => exact .escape (by decide) denotes
  | plain isPlain isNoBackslash isNoQuote =>
      exact .plain isPlain isNoQuote isNoBackslash denotes

theorem denotes_escaped (text : List Char) : Denotes (text.flatMap escape) text := by
  induction text with
  | nil => exact .nil
  | cons character text induction => exact denotes_escape induction character

/-! ## Integers -/

theorem head?_toDigits {number : Nat} (isZero : (Nat.toDigits 10 number).head? = some '0') :
    number = 0 := by
  induction number using Nat.strongRecOn with
  | ind number induction =>
      by_cases isDigit : number < 10
      · rw [Nat.toDigits_of_lt_base isDigit] at isZero
        interval_cases number <;> revert isZero <;> decide
      · rw [Nat.toDigits_of_base_le (by decide) (by omega), List.head?_append,
          List.head?_eq_some_head Nat.toDigits_ne_nil, Option.some_or,
          ← List.head?_eq_some_head] at isZero
        have := induction (number / 10) (by omega) isZero
        omega

theorem isDigit_toDigits (number : Nat) :
    ∀ digit ∈ Nat.toDigits 10 number, Tree.isDigit digit = true := by
  intro digit isThere
  have isDigit := Nat.isDigit_of_mem_toDigits (by decide) (by decide) isThere
  simpa [Char.isDigit, Tree.isDigit, Char.le_def] using isDigit

def numeralOf (value : Int) : Numeral :=
  ⟨decide (value < 0), Nat.toDigits 10 value.natAbs, none, none⟩

theorem printInteger_eq (value : Int) : printInteger value =
    (if (numeralOf value).negative then ['-'] else []) ++ Nat.toDigits 10 value.natAbs := by
  unfold printInteger numeralOf
  by_cases isNegative : value < 0 <;> simp [isNegative]

theorem isNumber_printInteger (value : Int) :
    Tree.IsNumber (numeralOf value) (printInteger value) := by
  have areDigits : Tree.AreDigits (Nat.toDigits 10 value.natAbs) :=
    ⟨Nat.toDigits_ne_nil, isDigit_toDigits value.natAbs⟩
  have noZero (isZero : (Nat.toDigits 10 value.natAbs).head? = some '0') :
      Nat.toDigits 10 value.natAbs = ['0'] := by
    rw [head?_toDigits isZero]
    rfl
  have isWritten : Tree.IsNumber (numeralOf value) ((if (numeralOf value).negative then ['-'] else [])
      ++ Nat.toDigits 10 value.natAbs ++ [] ++ []) := .intro areDigits noZero .nothing .nothing
  rwa [List.append_nil, List.append_nil, ← printInteger_eq] at isWritten

theorem integer?_numeralOf (value : Int) :
    (Tree.number (numeralOf value)).integer? = some value := by
  have isNumber : (Nat.toDigits 10 value.natAbs).foldl
      (fun value digit => value * 10 + (digit.toNat - 0x30)) 0 = value.natAbs := by
    have := Nat.ofDigitChars_toDigits (b := 10) (n := value.natAbs) (by decide) (by decide)
    rw [Nat.ofDigitChars_eq_foldl] at this
    simpa [Nat.mul_comm] using this
  unfold numeralOf Tree.integer?
  dsimp only
  rw [isNumber]
  split
  · rename_i isNegative
    rw [decide_eq_true_iff] at isNegative
    rw [if_neg (by omega)]
    congr 1
    omega
  · rename_i isNegative
    rw [decide_eq_true_iff] at isNegative
    congr 1
    omega

/-! ## Values that are read -/

namespace Tree

mutual
/-- The value that a tree is written for. Its numbers are integers, and its objects have each key
once. -/
def value? : Tree → Option Json
  | .null => some .null
  | .boolean value => some (.boolean value)
  | .number numeral => (integer? (.number numeral)).map .integer
  | .string raw => (unescape? raw).map fun text => .string (String.ofList text)
  | .array elements => (values? elements).map .array
  | .object members => do
      let members ← members? members
      if (members.map Prod.fst).Nodup then some (.object members) else none

def values? : List Tree → Option (List Json)
  | [] => some []
  | element :: rest => do
      return (← value? element) :: (← values? rest)

def members? : List (List Char × Tree) → Option (List (String × Json))
  | [] => some []
  | (raw, member) :: rest => do
      let key ← unescape? raw
      return (String.ofList key, ← value? member) :: (← members? rest)
end

end Tree

def ofText? (text : String) : Option Json :=
  (Tree.ofText? text.toList).bind Tree.value?

/-- Numbers are integers, and no object has a key twice. -/
inductive IsPlain : Json → Prop
  | null : IsPlain .null
  | boolean {value : Bool} : IsPlain (.boolean value)
  | integer {value : Int} : IsPlain (.integer value)
  | string {value : String} : IsPlain (.string value)
  | array {elements : List Json} : (∀ element ∈ elements, IsPlain element) →
      IsPlain (.array elements)
  | object {members : List (String × Json)} : (members.map Prod.fst).Nodup →
      (∀ member ∈ members, IsPlain member.2) → IsPlain (.object members)

def ShownAs (text : List Char) (value : Json) : Prop :=
  ∃ tree, Spells text tree ∧ tree.value? = some value

theorem shownAs_string (value : String) : ShownAs (print (.string value)) (.string value) := by
  have denotes := denotes_escaped value.toList
  refine ⟨_, .string denotes.isQuotable, ?_⟩
  rw [Tree.value?, denotes.unescape?, Option.map_some, String.ofList_toList]

theorem shownAs_integer (value : Int) : ShownAs (print (.integer value)) (.integer value) := by
  refine ⟨_, .number (isNumber_printInteger value), ?_⟩
  rw [Tree.value?, integer?_numeralOf, Option.map_some]

/-! ## Arrays -/

theorem printElements_eq (elements : List Json) :
    printElements elements = separated (elements.map print) := by
  induction elements with
  | nil => rfl
  | cons element rest induction =>
      cases rest with
      | nil => rfl
      | cons next rest =>
          rw [printElements, induction]
          rfl

theorem values?_map {elements : List Json} {tree : Json → Tree}
    (areValues : ∀ element ∈ elements, (tree element).value? = some element) :
    Tree.values? (elements.map tree) = some elements := by
  induction elements with
  | nil => rfl
  | cons element rest induction =>
      obtain ⟨isValue, others⟩ := List.forall_mem_cons.mp areValues
      rw [List.map_cons, Tree.values?, isValue, induction others]
      rfl

theorem shownAs_array {elements : List Json}
    (each : ∀ element ∈ elements, ShownAs (print element) element) :
    ShownAs (print (.array elements)) (.array elements) := by
  choose! tree spells areValues using each
  have spellEach : ∀ element ∈ elements.map fun element => (print element, tree element),
      Spells element.1 element.2 := List.forall_mem_map.mpr spells
  have spelled := Spells.array areBlank_nil spellEach
  rw [List.map_map, List.map_map] at spelled
  refine ⟨.array (elements.map tree), ?spells, ?value⟩
  case spells =>
    rw [print, printElements_eq]
    exact spelled
  case value =>
    rw [Tree.value?, values?_map areValues]
    rfl

/-! ## Objects -/

def entryOf (key : String) (text : List Char) (tree : Tree) : Entry :=
  ⟨[], key.toList.flatMap escape, [], text, tree⟩

theorem entryOf_isNamed (key : String) (text : List Char) (tree : Tree) :
    (entryOf key text tree).IsNamed :=
  ⟨areBlank_nil, (denotes_escaped key.toList).isQuotable, areBlank_nil⟩

theorem entryOf_written (key : String) (text : List Char) (tree : Tree) :
    (entryOf key text tree).written = quoted key.toList ++ ':' :: text := by
  simp [entryOf, Entry.written, quoted]

theorem printMembers_eq (members : List (String × Json)) : printMembers members =
    separated (members.map fun member => quoted member.1.toList ++ ':' :: print member.2) := by
  induction members with
  | nil => rfl
  | cons member rest induction =>
      cases rest with
      | nil => rfl
      | cons next rest =>
          rw [printMembers, induction]
          rfl

/-- The text of an object spells the trees that its values are written for, under the names of the
members. -/
theorem spells_object {members : List (String × Json)} {tree : Json → Tree}
    (spells : ∀ member ∈ members, Spells (print member.2) (tree member.2)) :
    Spells (print (.object members)) (.object
      (members.map fun member => (member.1.toList.flatMap escape, tree member.2))) := by
  let entryFor (member : String × Json) : Entry :=
    entryOf member.1 (print member.2) (tree member.2)
  have named : ∀ entry ∈ members.map entryFor, entry.IsNamed :=
    List.forall_mem_map.mpr fun member _ => entryOf_isNamed _ _ _
  have spellEach : ∀ entry ∈ members.map entryFor, Spells entry.text entry.tree :=
    List.forall_mem_map.mpr spells
  have areTexts : (members.map entryFor).map Entry.written =
      members.map fun member => quoted member.1.toList ++ ':' :: print member.2 := by
    rw [List.map_map]
    exact List.map_congr_left fun member _ => entryOf_written _ _ _
  have spelled := Spells.object areBlank_nil named spellEach
  rw [areTexts, List.map_map] at spelled
  rw [print, printMembers_eq]
  exact spelled

theorem members?_map {members : List (String × Json)} {tree : Json → Tree}
    (areValues : ∀ member ∈ members, (tree member.2).value? = some member.2) :
    Tree.members? (members.map fun member => (member.1.toList.flatMap escape, tree member.2)) =
      some members := by
  induction members with
  | nil => rfl
  | cons member rest induction =>
      obtain ⟨isValue, others⟩ := List.forall_mem_cons.mp areValues
      have isKey := (denotes_escaped member.1.toList).unescape?
      rw [List.map_cons, Tree.members?, isKey, isValue, induction others]
      simp

theorem shownAs_object {members : List (String × Json)}
    (areDistinct : (members.map Prod.fst).Nodup)
    (each : ∀ member ∈ members, ShownAs (print member.2) member.2) :
    ShownAs (print (.object members)) (.object members) := by
  have ofValue : ∀ value ∈ members.map Prod.snd, ShownAs (print value) value :=
    List.forall_mem_map.mpr each
  choose! tree spells areValues using ofValue
  rw [List.forall_mem_map] at spells areValues
  refine ⟨_, spells_object spells, ?_⟩
  rw [Tree.value?, members?_map areValues]
  simp [areDistinct]

/-! ## Whole texts -/

theorem IsPlain.shownAs {value : Json} (isPlain : IsPlain value) : ShownAs (print value) value := by
  induction isPlain with
  | null => exact ⟨.null, .null, rfl⟩
  | @boolean value =>
      cases value with
      | true => exact ⟨.boolean true, .yes, rfl⟩
      | false => exact ⟨.boolean false, .no, rfl⟩
  | integer => exact shownAs_integer _
  | string => exact shownAs_string _
  | array _ each => exact shownAs_array each
  | object areDistinct _ each => exact shownAs_object areDistinct each

/-- What has been printed is well-formed and is read as the value that it has been printed for. -/
theorem IsPlain.ofText?_toText {value : Json} (isPlain : IsPlain value) :
    ofText? value.toText = some value := by
  obtain ⟨tree, spells, isValue⟩ := isPlain.shownAs
  rw [ofText?, toText, String.toList_ofList, spells.ofText?_eq, Option.bind_some, isValue]

end EmbeddedSql.Json
