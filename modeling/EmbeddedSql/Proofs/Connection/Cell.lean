import EmbeddedSql.Connection.Cell
import EmbeddedSql.Proofs.Number.Numeral
import EmbeddedSql.Proofs.Text.Transcoding

/-! What a cell is read as once its text has been taken before, in whatever encodings. -/

namespace EmbeddedSql

/-! ## Numbers at the front of a text -/

namespace Numeral

theorem isForeign_dropWhile (bytes : Bytes) :
    IsForeign (bytes.dropWhile Lenient.isAscii) := by
  intro byte isHead
  have isOther := List.head?_dropWhile_not Lenient.isAscii bytes
  rw [Option.mem_def.mp isHead] at isOther
  exact Nat.not_lt.mp (of_decide_eq_false isOther)

variable {bytes other : Bytes}
  (same : bytes.takeWhile Lenient.isAscii = other.takeWhile Lenient.isAscii)
include same

theorem readInteger_of_ascii : (readInteger bytes).value = (readInteger other).value := by
  rw [← List.takeWhile_append_dropWhile (p := Lenient.isAscii) (l := bytes),
    ← List.takeWhile_append_dropWhile (p := Lenient.isAscii) (l := other),
    readInteger_append (isForeign_dropWhile bytes),
    readInteger_append (isForeign_dropWhile other), same]

theorem readReal_of_ascii : (readReal bytes).value = (readReal other).value := by
  rw [← List.takeWhile_append_dropWhile (p := Lenient.isAscii) (l := bytes),
    ← List.takeWhile_append_dropWhile (p := Lenient.isAscii) (l := other),
    readReal_append (isForeign_dropWhile bytes), readReal_append (isForeign_dropWhile other), same]

end Numeral

/-! ## Bytes of code units -/

namespace TextEncoding

theorem unit_unitBytes (encoding : TextEncoding) (unit : UInt16) :
    ∃ first second, encoding.unitBytes unit = [first, second] ∧
      encoding.unit first second = unit := by
  have parts : (unit / 0x100).toUInt8.toUInt16 * 0x100 + (unit % 0x100).toUInt8.toUInt16 = unit := by
    apply UInt16.toNat_inj.mp
    simp only [UInt16.toNat_add, UInt16.toNat_mul, UInt8.toNat_toUInt16, UInt16.toNat_toUInt8,
      UInt16.toNat_div, UInt16.toNat_mod, UInt16.reduceToNat]
    have isUnit := unit.toNat_lt
    omega
  by_cases isBig : encoding = .utf16BigEndian
  · refine ⟨(unit / 0x100).toUInt8, (unit % 0x100).toUInt8, by simp [unitBytes, isBig], ?_⟩
    rw [TextEncoding.unit, if_pos isBig, parts]
  · refine ⟨(unit % 0x100).toUInt8, (unit / 0x100).toUInt8, by simp [unitBytes, isBig], ?_⟩
    rw [TextEncoding.unit, if_neg isBig, parts]

theorem units_unitsBytes (encoding : TextEncoding) (units : Utf16.Units) :
    encoding.units (encoding.unitsBytes units) = units := by
  induction units with
  | nil => rfl
  | cons unit rest induction =>
      obtain ⟨first, second, areBytes, isUnit⟩ := encoding.unit_unitBytes unit
      rw [unitsBytes, List.flatMap_cons, areBytes]
      exact congrArg₂ List.cons isUnit induction

end TextEncoding

/-! ## Forms of a text -/

abbrev Texts := Bytes × Utf16.Units

namespace Texts

/-- A text that is there in the one encoding is converted to the other. -/
def convert (isWide : Bool) (texts : Texts) : Texts :=
  if isWide then (Lenient.toUtf8 texts.2, texts.2) else (texts.1, Lenient.toUtf16 texts.1)

/-- The text after it has been converted to the other encoding and back. -/
def returned (isWide : Bool) (texts : Texts) : Texts :=
  (texts.convert !isWide).convert isWide

theorem convert_convert (isWide : Bool) (texts : Texts) :
    (texts.convert isWide).convert isWide = texts.convert isWide := by
  cases isWide <;> rfl

variable {isWide : Bool} {texts : Texts} (isHeld : texts.convert isWide = texts)
include isHeld

theorem convert_returned (towards : Bool) :
    (texts.returned isWide).convert towards = texts.returned isWide := by
  by_cases isSame : towards = isWide
  · rw [isSame]
    exact convert_convert ..
  · rw [Bool.eq_not_of_ne isSame]
    cases isWide with
    | false =>
        have same : Lenient.toUtf16 texts.1 = texts.2 := congrArg Prod.snd isHeld
        have again : Lenient.toUtf16 (Lenient.toUtf8 texts.2) = texts.2 := by
          rw [← same, Lenient.toUtf16_toUtf8_toUtf16]
        exact Prod.ext (congrArg Lenient.toUtf8 again) rfl
    | true => exact Prod.ext rfl (Lenient.toUtf16_toUtf8_toUtf16 texts.1)

theorem returned_wide (isNarrow : isWide = false) : (texts.returned isWide).2 = texts.2 := by
  subst isNarrow
  have same : Lenient.toUtf16 texts.1 = texts.2 := congrArg Prod.snd isHeld
  simp only [returned, convert, Bool.not_false, if_true, Bool.false_eq_true, if_false]
  rw [← same, Lenient.toUtf16_toUtf8_toUtf16]

end Texts

namespace TextForm

def texts (form : TextForm) : Texts :=
  (form.toUtf8, form.toUtf16)

theorem convert_texts (form : TextForm) :
    form.texts.convert form.encoding.isWide = form.texts := by
  by_cases isNarrow : form.encoding = .utf8 <;>
    simp [texts, Texts.convert, TextEncoding.isWide, isNarrow, toUtf8, toUtf16]

theorem units_swapPairs {left right : TextEncoding} (isLeft : left ≠ .utf8) (isRight : right ≠ .utf8)
    (areTwo : left ≠ right) (bytes : Bytes) :
    right.units (swapPairs bytes) = left.units bytes := by
  induction bytes using swapPairs.induct with
  | case1 first second rest induction =>
      have swapped : right.unit second first = left.unit first second := by
        cases left <;> cases right <;> first | contradiction | rfl
      simp only [swapPairs, TextEncoding.units, swapped, induction]
  | case2 rest isShort =>
      match rest, isShort with
      | [], _ => rfl
      | [_], _ => rfl
      | first :: second :: rest, isShort => exact (isShort first second rest rfl).elim

/-- To be put into an encoding is a conversion of the text. -/
theorem texts_into (encoding : TextEncoding) (form : TextForm) :
    (form.into encoding).texts = form.texts.convert encoding.isWide := by
  unfold into
  split_ifs with isSame isNarrow isHeldNarrow
  · rw [← isSame, convert_texts]
  · subst isNarrow
    rfl
  · have isWide : encoding.isWide = true := by simp [TextEncoding.isWide, isNarrow]
    simp only [texts, toUtf8, toUtf16, isNarrow, isHeldNarrow, if_true, if_false, isWide,
      Texts.convert, TextEncoding.encode, TextEncoding.units_unitsBytes]
  · have isWide : encoding.isWide = true := by simp [TextEncoding.isWide, isNarrow]
    have sameUnits := units_swapPairs isHeldNarrow isNarrow isSame form.bytes
    simp only [texts, toUtf8, toUtf16, isNarrow, isHeldNarrow, if_true, if_false, isWide,
      Texts.convert, sameUnits]

theorem encoding_into (encoding : TextEncoding) (form : TextForm) :
    (form.into encoding).encoding = encoding := by
  unfold into
  split_ifs <;> first | assumption | rfl | simp_all

theorem into_into (encoding : TextEncoding) (form : TextForm) :
    (form.into encoding).into encoding = form.into encoding := by
  rw [into, if_pos (encoding_into encoding form)]

def returned (form : TextForm) : TextForm :=
  (form.into (if form.encoding.isWide then .utf8 else .utf16LittleEndian)).into form.encoding

theorem texts_returned (form : TextForm) :
    form.returned.texts = form.texts.returned form.encoding.isWide := by
  rw [returned, texts_into, texts_into, Texts.returned]
  cases form.encoding.isWide <;> rfl

/-- Well-formed text without U+FFFE and U+FFFF survives every conversion. -/
def ComesBack (form : TextForm) : Prop :=
  ∃ characters : List Char, form.bytes = form.encoding.encode (Utf8.encode characters) ∧
    ∀ character ∈ characters, character ≠ '\uFFFE' ∧ character ≠ '\uFFFF'

theorem ComesBack.convert {form : TextForm} (comesBack : form.ComesBack) (isWide : Bool) :
    form.texts.convert isWide = form.texts := by
  obtain ⟨characters, areBytes, areKept⟩ := comesBack
  have back := Lenient.toUtf8_toUtf16_encode areKept
  have areTexts : form.texts = (Utf8.encode characters, Lenient.toUtf16 (Utf8.encode characters)) := by
    by_cases isNarrow : form.encoding = .utf8 <;>
      simp [texts, toUtf8, toUtf16, isNarrow, areBytes, TextEncoding.encode,
        TextEncoding.units_unitsBytes, back]
  rw [areTexts]
  cases isWide
  · rfl
  · simp [Texts.convert, back]

end TextForm

/-! ## Texts that are taken again and again -/

namespace TextEncoding

/-- A text is taken in another kind of encoding, and then in the one in which it was held. -/
def returns (isWide : Bool) (taken : List TextEncoding) : Bool :=
  (taken.dropWhile (·.isWide = isWide)).any (·.isWide = isWide)

end TextEncoding

theorem TextEncoding.returns_append {isWide : Bool} {encoding : TextEncoding}
    (isSame : encoding.isWide = isWide) (taken : List TextEncoding) :
    returns isWide (taken ++ [encoding]) = !taken.all (·.isWide = isWide) := by
  induction taken with
  | nil => simp [returns, isSame]
  | cons first rest induction =>
      by_cases isFirst : first.isWide = isWide
      · simpa [returns, isFirst] using induction
      · simp [returns, isFirst, isSame]

namespace Texts

def after (taken : List TextEncoding) (texts : Texts) : Texts :=
  taken.foldl (fun texts encoding => texts.convert encoding.isWide) texts

variable {isWide : Bool} {texts : Texts}

theorem after_of_same (isHeld : texts.convert isWide = texts) {taken : List TextEncoding}
    (areSame : ∀ encoding ∈ taken, encoding.isWide = isWide) : texts.after taken = texts := by
  induction taken with
  | nil => rfl
  | cons encoding rest induction =>
      obtain ⟨isSame, areSame⟩ := List.forall_mem_cons.mp areSame
      rw [after, List.foldl_cons, isSame, isHeld]
      exact induction areSame

/-- A text is as it was held, or in the other encoding, or it has come back from there. -/
theorem after_eq (isHeld : texts.convert isWide = texts) (taken : List TextEncoding) :
    texts.after taken =
      if TextEncoding.returns isWide taken then texts.returned isWide
      else if taken.all (·.isWide = isWide) then texts
      else texts.convert !isWide := by
  induction taken generalizing texts isWide with
  | nil => rfl
  | cons encoding rest induction =>
      have next : texts.after (encoding :: rest) = (texts.convert encoding.isWide).after rest := rfl
      by_cases isSame : encoding.isWide = isWide
      · rw [next, isSame, isHeld, induction isHeld]
        simp [TextEncoding.returns, isSame]
      · have isOther : encoding.isWide = !isWide := Bool.eq_not_of_ne isSame
        have back : ((texts.convert !isWide).returned !isWide) = texts.returned isWide := by
          rw [returned, Bool.not_not]
          exact convert_returned isHeld _
        rw [next, isOther, induction (convert_convert ..), back, Bool.not_not]
        have mixed : rest.any (·.isWide = isWide) = !rest.all (·.isWide = !isWide) := by
          rw [List.not_all_eq_any_not]
          congr 1
          funext other
          cases other.isWide <;> cases isWide <;> rfl
        cases areOther : rest.all (·.isWide = !isWide) with
        | false => simp [TextEncoding.returns, isSame, mixed, areOther, returned]
        | true =>
            have isGone := @List.dropWhile_append_of_pos _ _ rest [] (List.all_eq_true.mp areOther)
            rw [List.append_nil, List.dropWhile_nil] at isGone
            simp [TextEncoding.returns, isSame, mixed, areOther, isGone]

theorem after_append (isHeld : texts.convert isWide = texts) (taken : List TextEncoding)
    (encoding : TextEncoding) :
    (texts.after taken).convert encoding.isWide =
      (if TextEncoding.returns isWide (taken ++ [encoding]) then texts.returned isWide
        else texts).convert encoding.isWide := by
  have next : (texts.after taken).convert encoding.isWide = texts.after (taken ++ [encoding]) := by
    simp [after, List.foldl_append]
  rw [next, after_eq isHeld]
  split_ifs with comesBack areSame
  · exact (convert_returned isHeld _).symm
  · have isSame : encoding.isWide = isWide := by
      simpa using (List.all_eq_true.mp areSame) encoding (by simp)
    rw [isSame, isHeld]
  · have isOther : encoding.isWide = !isWide := Bool.eq_not_of_ne fun isSame => by
      rw [TextEncoding.returns_append isSame] at comesBack
      simp_all
    rw [isOther]

theorem after_ascii (isHeld : texts.convert isWide = texts) (taken : List TextEncoding) :
    (texts.after taken).1.takeWhile Lenient.isAscii = texts.1.takeWhile Lenient.isAscii := by
  have isOne : (texts.after taken).1 = texts.1 ∨
      (texts.after taken).1 = Lenient.toUtf8 (Lenient.toUtf16 texts.1) := by
    rw [after_eq isHeld]
    cases isWide with
    | false =>
        have same : Lenient.toUtf16 texts.1 = texts.2 := congrArg Prod.snd isHeld
        split_ifs <;> simp [returned, convert, same]
    | true => split_ifs <;> simp [returned, convert]
  rcases isOne with same | same
  · rw [same]
  · rw [same]
    exact Lenient.takeWhile_isAscii_toUtf8_toUtf16 texts.1

end Texts

namespace TextForm

def after (taken : List TextEncoding) (form : TextForm) : TextForm :=
  taken.foldl (fun form encoding => form.into encoding) form

theorem texts_after (taken : List TextEncoding) (form : TextForm) :
    (form.after taken).texts = form.texts.after taken := by
  induction taken generalizing form with
  | nil => rfl
  | cons encoding rest induction =>
      rw [Texts.after, List.foldl_cons, ← texts_into]
      exact induction (form.into encoding)

theorem after_of_same {form : TextForm} {taken : List TextEncoding}
    (areSame : ∀ encoding ∈ taken, encoding = form.encoding) : form.after taken = form := by
  induction taken with
  | nil => rfl
  | cons encoding rest induction =>
      obtain ⟨isSame, areSame⟩ := List.forall_mem_cons.mp areSame
      rw [after, List.foldl_cons, into, if_pos isSame.symm]
      exact induction areSame

end TextForm

/-! ## Cells -/

namespace Cell

def after (taken : List TextEncoding) (cell : Cell) : Cell :=
  taken.foldl (fun cell encoding => cell.into encoding) cell

/-- The text of text and of a blob, which is held in one encoding or another. -/
def held? : Cell → Option TextForm
  | .text form | .blob form => some form
  | _ => none

/-- The cell after its text has gone through the other encoding, where numbers lose nothing. -/
def returned : Cell → Cell
  | .text form => .text form.returned
  | .blob form => .blob form.returned
  | number => number

/-- Numbers come back, and so does well-formed text without U+FFFE and U+FFFF. -/
def ComesBack (cell : Cell) : Prop :=
  ∀ form, cell.held? = some form → form.ComesBack

section
variable {cell : Cell} {form : TextForm} (isHeld : cell.held? = some form)
include isHeld

theorem form_of_held : cell.form = form := by
  cases cell <;> cases isHeld <;> rfl

theorem utf8_of_held : cell.utf8.1 = (form.texts.convert false).1 := by
  cases cell <;> cases isHeld <;> exact congrArg Prod.fst (TextForm.texts_into .utf8 form)

theorem utf16_of_held : cell.utf16.1 = (form.texts.convert true).2 := by
  cases cell <;> cases isHeld <;>
    exact congrArg Prod.snd (TextForm.texts_into .utf16LittleEndian form)

theorem toInt64_of_held : cell.toInt64 = (Numeral.readInteger form.texts.1).value := by
  cases cell <;> cases isHeld <;> rfl

theorem toReal_of_held : cell.toReal = (Numeral.readReal form.texts.1).value := by
  cases cell <;> cases isHeld <;> rfl

theorem held_returned : cell.returned.held? = some form.returned := by
  cases cell <;> cases isHeld <;> rfl

theorem held_into (encoding : TextEncoding) :
    (cell.into encoding).held? = some (form.into encoding) := by
  cases cell <;> cases isHeld <;> rfl

theorem held_after (taken : List TextEncoding) :
    (cell.after taken).held? = some (form.after taken) := by
  induction taken generalizing cell form with
  | nil => exact isHeld
  | cons encoding rest induction => exact induction (held_into isHeld encoding)

end

section
variable {cell : Cell} (isNumber : cell.held? = none)
include isNumber

theorem toInt64_of_number : cell.toInt64 = cell.toValue.toInt64 := by
  cases cell <;> first | rfl | cases isNumber

theorem toReal_of_number : cell.toReal = cell.toValue.toReal := by
  cases cell <;> first | rfl | cases isNumber

theorem utf8_of_number : cell.utf8.1 = cell.toValue.toBytes := by
  cases cell <;> first | rfl | cases isNumber

theorem utf16_of_number : cell.utf16.1 = Lenient.toUtf16 cell.toValue.toBytes := by
  cases cell with
  | null => rfl
  | integer value written => exact TextEncoding.units_unitsBytes ..
  | real value written => exact TextEncoding.units_unitsBytes ..
  | text form | blob form => cases isNumber

theorem returned_of_number : cell.returned = cell := by
  cases cell <;> first | rfl | cases isNumber

/-- A number is the same number in whatever encoding it has been written. -/
theorem number_after (taken : List TextEncoding) :
    (cell.after taken).toValue = cell.toValue ∧ (cell.after taken).held? = none := by
  induction taken generalizing cell with
  | nil => exact ⟨rfl, isNumber⟩
  | cons encoding rest induction =>
      have next : (cell.into encoding).toValue = cell.toValue ∧
          (cell.into encoding).held? = none := by
        cases cell <;> first | exact ⟨rfl, rfl⟩ | cases isNumber
      obtain ⟨same, isStill⟩ := induction next.2
      exact ⟨same.trans next.1, isStill⟩

end

/-! ## What is read later on -/

theorem into_into (encoding : TextEncoding) (cell : Cell) :
    (cell.into encoding).into encoding = cell.into encoding := by
  cases cell with
  | text form | blob form => exact congrArg Cell.text (TextForm.into_into encoding form)
  | _ => rfl

section
variable (cell : Cell) (taken : List TextEncoding)

theorem toInt64_after : (cell.after taken).toInt64 = cell.toInt64 := by
  cases isHeld : cell.held? with
  | none =>
      obtain ⟨same, isNumber⟩ := number_after isHeld taken
      rw [toInt64_of_number isNumber, same, toInt64_of_number isHeld]
  | some form =>
      rw [toInt64_of_held (held_after isHeld taken), toInt64_of_held isHeld,
        TextForm.texts_after]
      exact Numeral.readInteger_of_ascii (Texts.after_ascii form.convert_texts taken)

theorem toReal_after : (cell.after taken).toReal = cell.toReal := by
  cases isHeld : cell.held? with
  | none =>
      obtain ⟨same, isNumber⟩ := number_after isHeld taken
      rw [toReal_of_number isNumber, same, toReal_of_number isHeld]
  | some form =>
      rw [toReal_of_held (held_after isHeld taken), toReal_of_held isHeld, TextForm.texts_after]
      exact Numeral.readReal_of_ascii (Texts.after_ascii form.convert_texts taken)

end

theorem form_after {cell : Cell} {taken : List TextEncoding}
    (areSame : ∀ encoding ∈ taken, encoding = cell.form.encoding) :
    (cell.after taken).form = cell.form := by
  induction taken generalizing cell with
  | nil => rfl
  | cons encoding rest induction =>
      obtain ⟨isSame, areNext⟩ := List.forall_mem_cons.mp areSame
      have same : (cell.into encoding).form = cell.form := by
        rw [isSame]
        cases cell <;> simp [into, form, TextForm.into]
      exact (induction (same ▸ areNext)).trans same

variable (cell : Cell) (taken : List TextEncoding)

/-- The cell of which a text is taken that is asked for after others. -/
def before (encoding : TextEncoding) : Cell :=
  if TextEncoding.returns cell.form.encoding.isWide (taken ++ [encoding]) then cell.returned
  else cell

theorem texts_before {form : TextForm} (isHeld : cell.held? = some form)
    (encoding : TextEncoding) :
    ∃ first, (cell.before taken encoding).held? = some first ∧
      (form.after taken).texts.convert encoding.isWide = first.texts.convert encoding.isWide := by
  have next := Texts.after_append form.convert_texts taken encoding
  rw [TextForm.texts_after, next, before, form_of_held isHeld]
  split_ifs
  · exact ⟨_, held_returned isHeld, by rw [TextForm.texts_returned]⟩
  · exact ⟨_, isHeld, rfl⟩

theorem before_of_number (isNumber : cell.held? = none) (encoding : TextEncoding) :
    cell.before taken encoding = cell := by
  rw [before, returned_of_number isNumber, ite_self]

theorem utf8_after : (cell.after taken).utf8.1 = (cell.before taken .utf8).utf8.1 := by
  cases isHeld : cell.held? with
  | none =>
      obtain ⟨same, isNumber⟩ := number_after isHeld taken
      rw [before_of_number cell taken isHeld, utf8_of_number isNumber, same, utf8_of_number isHeld]
  | some form =>
      obtain ⟨first, isFirst, same⟩ := texts_before cell taken isHeld .utf8
      rw [utf8_of_held (held_after isHeld taken), utf8_of_held isFirst]
      exact congrArg Prod.fst same

theorem utf16_after :
    (cell.after taken).utf16.1 = (cell.before taken .utf16LittleEndian).utf16.1 := by
  cases isHeld : cell.held? with
  | none =>
      obtain ⟨same, isNumber⟩ := number_after isHeld taken
      rw [before_of_number cell taken isHeld, utf16_of_number isNumber, same,
        utf16_of_number isHeld]
  | some form =>
      obtain ⟨first, isFirst, same⟩ := texts_before cell taken isHeld .utf16LittleEndian
      rw [utf16_of_held (held_after isHeld taken), utf16_of_held isFirst]
      exact congrArg Prod.snd same

/-- UTF-16 text of a cell in UTF-8 is the same whatever has become of the cell. -/
theorem utf16_before (isNarrow : cell.form.encoding = .utf8) (encoding : TextEncoding) :
    (cell.before taken encoding).utf16.1 = cell.utf16.1 := by
  unfold before
  split_ifs
  · cases isHeld : cell.held? with
    | none => rw [returned_of_number isHeld]
    | some form =>
        have isWide : form.encoding.isWide = false := by
          rw [← form_of_held isHeld, isNarrow]
          rfl
        rw [utf16_of_held (held_returned isHeld), utf16_of_held isHeld, TextForm.texts_returned]
        exact Texts.returned_wide form.convert_texts isWide
  · rfl

variable {cell}

theorem ComesBack.utf8_before (comesBack : cell.ComesBack) (encoding : TextEncoding) :
    (cell.before taken encoding).utf8.1 = cell.utf8.1 := by
  cases isHeld : cell.held? with
  | none => rw [before_of_number cell taken isHeld]
  | some form =>
      have isStable := (comesBack form isHeld).convert
      unfold before
      split_ifs
      · rw [utf8_of_held (held_returned isHeld), utf8_of_held isHeld, TextForm.texts_returned,
          Texts.returned, isStable, isStable]
      · rfl

theorem ComesBack.utf16_before (comesBack : cell.ComesBack) (encoding : TextEncoding) :
    (cell.before taken encoding).utf16.1 = cell.utf16.1 := by
  cases isHeld : cell.held? with
  | none => rw [before_of_number cell taken isHeld]
  | some form =>
      have isStable := (comesBack form isHeld).convert
      unfold before
      split_ifs
      · rw [utf16_of_held (held_returned isHeld), utf16_of_held isHeld, TextForm.texts_returned,
          Texts.returned, isStable, isStable]
      · rfl

end Cell

end EmbeddedSql
