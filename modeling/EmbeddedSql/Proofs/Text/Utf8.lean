import EmbeddedSql.Text.Utf8

/-! What `Utf8.encode` writes is well-formed, and `Utf8.decode` reads it back. Of all characters only
U+0000 has a zero in it. -/

namespace EmbeddedSql.Utf8

theorem bounds_of_char (character : Char) : character.toNat < 0xD800 ∨
    0xDFFF < character.toNat ∧ character.toNat < 0x110000 :=
  character.valid

/-! ## Encoding is well-formed -/

theorem encodeChar_eq (character : Char) :
    encodeChar character = String.utf8EncodeChar character := by
  have isScalar := bounds_of_char character
  have same : character.val.toNat = character.toNat := rfl
  unfold encodeChar encodeScalar String.utf8EncodeChar
  simp only [same, Nat.toUInt8]
  generalize character.toNat = value at isScalar
  clear same
  grind

theorem toByteArray_encode (characters : List Char) :
    (encode characters).toByteArray = characters.utf8Encode := by
  rw [List.utf8Encode, encode]
  congr 2
  exact funext encodeChar_eq

theorem isValidUTF8_encode (characters : List Char) :
    (encode characters).toByteArray.IsValidUTF8 :=
  .intro characters (toByteArray_encode characters)

theorem length_encodeChar (character : Char) : (encodeChar character).length =
    if character.toNat < 0x80 then 1
    else if character.toNat < 0x800 then 2
    else if character.toNat < 0x10000 then 3
    else 4 := by
  rw [encodeChar, encodeScalar]
  repeat' split
  all_goals rfl

/-! ## What a lead byte starts

The special leads only narrow the bounds on the byte after them. -/

private theorem toNat_toUInt8 {value : Nat} (isByte : value < 0x100) :
    value.toUInt8.toNat = value :=
  UInt8.toNat_ofNat_of_lt' isByte

theorem lead_of_two {byte : UInt8} (atLeast : 0xC2 ≤ byte) (below : byte < 0xE0) :
    lead byte = .begun ⟨byte.toNat - 0xC0, 1, 0x80, 0xBF⟩ := by
  unfold lead
  grind

theorem lead_of_three {byte : UInt8} (atLeast : 0xE0 ≤ byte) (below : byte < 0xF0) :
    lead byte = .begun ⟨byte.toNat - 0xE0, 2, if byte = 0xE0 then 0xA0 else 0x80,
      if byte = 0xED then 0x9F else 0xBF⟩ := by
  by_cases isFirst : byte = 0xE0
  · subst isFirst
    rfl
  by_cases isBeforeSurrogates : byte = 0xED
  · subst isBeforeSurrogates
    rfl
  unfold lead
  grind

theorem lead_of_four {byte : UInt8} (atLeast : 0xF0 ≤ byte) (below : byte < 0xF5) :
    lead byte = .begun ⟨byte.toNat - 0xF0, 3, if byte = 0xF0 then 0x90 else 0x80,
      if byte = 0xF4 then 0x8F else 0xBF⟩ := by
  by_cases isFirst : byte = 0xF0
  · subst isFirst
    rfl
  by_cases isLast : byte = 0xF4
  · subst isLast
    rfl
  unfold lead
  grind

/-! ## Decoding what was encoded -/

theorem decodeFrom_continued {current : Partial} {bits : Nat} (isSix : bits < 0x40)
    (atLeast : current.low.toNat ≤ 0x80 + bits) (atMost : 0x80 + bits ≤ current.high.toNat)
    (rest : Bytes) :
    decodeFrom (some current) ((0x80 + bits).toUInt8 :: rest) =
      if current.missing ≤ 1 then
        Char.ofNat (current.value * 0x40 + bits) :: decodeFrom none rest
      else
        decodeFrom (some ⟨current.value * 0x40 + bits, current.missing - 1, 0x80, 0xBF⟩)
          rest := by
  have same : (0x80 + bits).toUInt8.toNat = 0x80 + bits := toNat_toUInt8 (by omega)
  rw [decodeFrom, if_pos ?isWithin]
  case isWithin => simpa only [UInt8.le_iff_toNat_le, same] using ⟨atLeast, atMost⟩
  simp only [same, Nat.add_sub_cancel_left]

theorem decodeFrom_two {value : Nat} (isLong : 0x80 ≤ value) (isTwo : value < 0x800)
    (rest : Bytes) :
    decodeFrom none
        ((0xC0 + value / 0x40).toUInt8 :: (0x80 + value % 0x40).toUInt8 :: rest) =
      Char.ofNat value :: decodeFrom none rest := by
  have first := toNat_toUInt8 (show 0xC0 + value / 0x40 < 0x100 by omega)
  rw [decodeFrom, lead_of_two ?atLeast ?below]
  case atLeast => simp only [UInt8.le_iff_toNat_le, first, UInt8.reduceToNat]; omega
  case below => simp only [UInt8.lt_iff_toNat_lt, first, UInt8.reduceToNat]; omega
  dsimp only
  rw [decodeFrom_continued (Nat.mod_lt _ (by decide)) (by simp) (by simp; omega),
    if_pos (by simp)]
  simp only [first, Nat.add_sub_cancel_left, Nat.div_add_mod']

theorem decodeFrom_three {value : Nat} (isLong : 0x800 ≤ value) (isThree : value < 0x10000)
    (isNoSurrogate : value < 0xD800 ∨ 0xDFFF < value) (rest : Bytes) :
    decodeFrom none
        ((0xE0 + value / 0x1000).toUInt8 :: (0x80 + value / 0x40 % 0x40).toUInt8 ::
          (0x80 + value % 0x40).toUInt8 :: rest) =
      Char.ofNat value :: decodeFrom none rest := by
  have first := toNat_toUInt8 (show 0xE0 + value / 0x1000 < 0x100 by omega)
  have isLead {byte : UInt8} :
      (0xE0 + value / 0x1000).toUInt8 = byte ↔ 0xE0 + value / 0x1000 = byte.toNat := by
    rw [← UInt8.toNat_inj, first]
  rw [decodeFrom, lead_of_three ?atLeast ?below]
  case atLeast => simp only [UInt8.le_iff_toNat_le, first, UInt8.reduceToNat]; omega
  case below => simp only [UInt8.lt_iff_toNat_lt, first, UInt8.reduceToNat]; omega
  dsimp only
  -- Only the second byte is held to the bounds that its lead has set.
  rw [decodeFrom_continued (Nat.mod_lt _ (by decide)) ?low ?high, if_neg (by simp),
    decodeFrom_continued (Nat.mod_lt _ (by decide)) (by simp) (by simp; omega),
    if_pos (by simp)]
  case low =>
    simp only [isLead, UInt8.reduceToNat]
    split <;> simp only [UInt8.reduceToNat] <;> omega
  case high =>
    simp only [isLead, UInt8.reduceToNat]
    split <;> simp only [UInt8.reduceToNat] <;> omega
  simp only [first, Nat.add_sub_cancel_left]
  congr 2
  omega

theorem decodeFrom_four {value : Nat} (isLong : 0x10000 ≤ value) (isScalar : value < 0x110000)
    (rest : Bytes) :
    decodeFrom none
        ((0xF0 + value / 0x40000 % 8).toUInt8 :: (0x80 + value / 0x1000 % 0x40).toUInt8 ::
          (0x80 + value / 0x40 % 0x40).toUInt8 :: (0x80 + value % 0x40).toUInt8 :: rest) =
      Char.ofNat value :: decodeFrom none rest := by
  have first := toNat_toUInt8 (show 0xF0 + value / 0x40000 % 8 < 0x100 by omega)
  have isLead {byte : UInt8} : (0xF0 + value / 0x40000 % 8).toUInt8 = byte ↔
      0xF0 + value / 0x40000 % 8 = byte.toNat := by
    rw [← UInt8.toNat_inj, first]
  rw [decodeFrom, lead_of_four ?atLeast ?below]
  case atLeast => simp only [UInt8.le_iff_toNat_le, first, UInt8.reduceToNat]; omega
  case below => simp only [UInt8.lt_iff_toNat_lt, first, UInt8.reduceToNat]; omega
  dsimp only
  rw [decodeFrom_continued (Nat.mod_lt _ (by decide)) ?low ?high, if_neg (by simp),
    decodeFrom_continued (Nat.mod_lt _ (by decide)) (by simp) (by simp; omega),
    if_neg (by simp),
    decodeFrom_continued (Nat.mod_lt _ (by decide)) (by simp) (by simp; omega),
    if_pos (by simp)]
  case low =>
    simp only [isLead, UInt8.reduceToNat]
    split <;> simp only [UInt8.reduceToNat] <;> omega
  case high =>
    simp only [isLead, UInt8.reduceToNat]
    split <;> simp only [UInt8.reduceToNat] <;> omega
  simp only [first, Nat.add_sub_cancel_left]
  congr 2
  omega

/-- The first character of a text is read from its own bytes alone. -/
theorem decodeFrom_encodeChar (character : Char) (rest : Bytes) :
    decodeFrom none (encodeChar character ++ rest) = character :: decodeFrom none rest := by
  have isScalar := bounds_of_char character
  have same : Char.ofNat character.toNat = character := character.ofNat_toNat
  unfold encodeChar encodeScalar
  split
  case isTrue isOne =>
    have first := toNat_toUInt8 (show character.toNat < 0x100 by omega)
    have isAscii : character.toNat.toUInt8 < 0x80 := by
      simpa only [UInt8.lt_iff_toNat_lt, first, UInt8.reduceToNat] using isOne
    rw [List.singleton_append, decodeFrom, lead, if_pos isAscii]
    simp only [first, same]
  split
  · exact (decodeFrom_two (by omega) (by omega) rest).trans (by rw [same])
  split
  · exact (decodeFrom_three (by omega) (by omega) (by omega) rest).trans (by rw [same])
  · exact (decodeFrom_four (by omega) (by omega) rest).trans (by rw [same])

theorem decode_encode (characters : List Char) : decode (encode characters) = characters := by
  induction characters with
  | nil => rfl
  | cons character rest ih =>
      rw [encode, List.flatMap_cons, decode, decodeFrom_encodeChar]
      exact congrArg (character :: ·) ih

theorem toString_ofString (text : String) : toString (ofString text) = text := by
  rw [toString, ofString, decode_encode, String.ofList_toList]

theorem ofString_toString {bytes : Bytes} (isValid : bytes.toByteArray.IsValidUTF8) :
    ofString (toString bytes) = bytes := by
  rcases isValid with ⟨characters, same⟩
  have isEncoded : bytes = encode characters := by
    rw [← toByteArray_encode] at same
    simpa using same
  rw [toString, ofString, isEncoded, decode_encode, String.toList_ofList]

end EmbeddedSql.Utf8

/-! ## Zeros -/

namespace EmbeddedSql

theorem takeWhile_flatMap {α β : Type} {encode : α → List β} {more : α → Bool} {goesOn : β → Bool}
    (whole : ∀ item, more item = true → ∀ unit ∈ encode item, goesOn unit = true)
    (ends : ∀ item, more item = false → ∃ unit rest, encode item = unit :: rest ∧
      goesOn unit = false) (items : List α) :
    (items.flatMap encode).takeWhile goesOn = (items.takeWhile more).flatMap encode := by
  induction items with
  | nil => rfl
  | cons item rest ih =>
      rw [List.flatMap_cons, List.takeWhile_cons]
      cases isMore : more item with
      | true =>
          rw [List.takeWhile_append_of_pos (whole item isMore), ih, if_pos rfl, List.flatMap_cons]
      | false =>
          obtain ⟨unit, others, split, stops⟩ := ends item isMore
          simp [split, stops]

/-- A reader that stops at the first zero sees the whole of a text exactly if none stands in it. -/
theorem Bytes.beforeZero_concat_zero {text : Bytes} :
    beforeZero (text ++ [0]) = text ↔ 0 ∉ text := by
  induction text with
  | nil => exact iff_of_true rfl List.not_mem_nil
  | cons byte rest induction =>
      by_cases isZero : byte = 0
      · simp [beforeZero, isZero]
      · have goesOn : beforeZero (byte :: rest ++ [0]) = byte :: beforeZero (rest ++ [0]) := by
          simp [beforeZero, isZero]
        rw [goesOn, List.cons_inj_right, induction, List.mem_cons, not_or]
        exact (and_iff_right (Ne.symm isZero)).symm

namespace Utf8

theorem ne_zero_of_mem {character : Char} (isNonzero : character ≠ '\x00') {byte : UInt8}
    (isByte : byte ∈ encodeChar character) : byte ≠ 0 := by
  have isScalar := bounds_of_char character
  have isNonzero : character.toNat ≠ 0 := fun isZero => isNonzero (Char.toNat_inj.mp isZero)
  rw [encodeChar, encodeScalar] at isByte
  rw [ne_eq, ← UInt8.toNat_inj]
  repeat' split at isByte
  all_goals
    simp only [List.mem_cons, List.not_mem_nil, or_false] at isByte
    rcases isByte with rfl | rfl | rfl | rfl <;> simp <;> omega

theorem beforeZero_encode (characters : List Char) :
    Bytes.beforeZero (encode characters) = encode (characters.takeWhile (· ≠ '\x00')) := by
  refine takeWhile_flatMap (fun character isMore byte isByte => ?whole)
    (fun character isZero => ?ends) characters
  case whole => exact decide_eq_true (ne_zero_of_mem (of_decide_eq_true isMore) isByte)
  case ends =>
    obtain rfl : character = '\x00' := by simpa using isZero
    exact ⟨0, [], rfl, rfl⟩

theorem zero_mem_encode {characters : List Char} :
    0 ∈ encode characters ↔ '\x00' ∈ characters := by
  rw [encode, List.mem_flatMap]
  constructor
  · rintro ⟨character, isThere, isByte⟩
    by_cases isZero : character = '\x00'
    · exact isZero ▸ isThere
    · exact absurd rfl (ne_zero_of_mem isZero isByte)
  · intro isThere
    exact ⟨'\x00', isThere, List.mem_singleton_self 0⟩

end Utf8

end EmbeddedSql
