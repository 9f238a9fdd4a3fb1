import EmbeddedSql.Number.Numeral

/-! A number at the front of a text is read from what is ASCII there, and nothing after it. -/

namespace EmbeddedSql.Numeral

def IsForeign (bytes : Bytes) : Prop :=
  ∀ byte ∈ bytes.head?, 0x80 ≤ byte.toNat

section
variable {front rest : Bytes} (isForeign : IsForeign rest)
include isForeign

theorem takeWhile_append_foreign {isKind : UInt8 → Bool}
    (isAscii : ∀ byte, isKind byte = true → byte.toNat < 0x80) :
    (front ++ rest).takeWhile isKind = front.takeWhile isKind := by
  induction front with
  | nil =>
      cases rest with
      | nil => rfl
      | cons byte rest =>
          have isLong := isForeign byte rfl
          rw [List.nil_append, List.takeWhile_cons_of_neg, List.takeWhile_nil]
          intro isOne
          exact Nat.not_lt.mpr isLong (isAscii byte isOne)
  | cons byte front ih =>
      rw [List.cons_append, List.takeWhile_cons, List.takeWhile_cons, ih]

theorem dropWhile_append_foreign {isKind : UInt8 → Bool}
    (isAscii : ∀ byte, isKind byte = true → byte.toNat < 0x80) :
    (front ++ rest).dropWhile isKind = front.dropWhile isKind ++ rest := by
  induction front with
  | nil =>
      cases rest with
      | nil => rfl
      | cons byte rest =>
          have isLong := isForeign byte rfl
          rw [List.nil_append, List.dropWhile_cons_of_neg, List.dropWhile_nil, List.nil_append]
          intro isOne
          exact Nat.not_lt.mpr isLong (isAscii byte isOne)
  | cons byte front ih =>
      rw [List.cons_append, List.dropWhile_cons, List.dropWhile_cons, ih]
      split <;> rfl

omit isForeign in
theorem isDigit_isAscii (byte : UInt8) (isDigit : Bytes.isDigit byte = true) :
    byte.toNat < 0x80 := by
  simp only [Bytes.isDigit, Bool.and_eq_true, decide_eq_true_eq, UInt8.le_iff_toNat_le,
    UInt8.reduceToNat] at isDigit
  omega

omit isForeign in
theorem isBlank_isAscii (byte : UInt8) (isBlank : Bytes.isBlank byte = true) :
    byte.toNat < 0x80 := by
  simp only [Bytes.isBlank, Bool.or_eq_true, Bool.and_eq_true, decide_eq_true_eq,
    UInt8.le_iff_toNat_le, ← UInt8.toNat_inj, UInt8.reduceToNat] at isBlank
  omega

theorem takeDigits_append :
    (front ++ rest).takeWhile Bytes.isDigit = front.takeWhile Bytes.isDigit :=
  takeWhile_append_foreign isForeign isDigit_isAscii

theorem dropDigits_append :
    (front ++ rest).dropWhile Bytes.isDigit = front.dropWhile Bytes.isDigit ++ rest :=
  dropWhile_append_foreign isForeign isDigit_isAscii

theorem dropBlanks_append :
    (front ++ rest).dropWhile Bytes.isBlank = front.dropWhile Bytes.isBlank ++ rest :=
  dropWhile_append_foreign isForeign isBlank_isAscii

omit isForeign in
theorem ne_of_isLong {byte other : UInt8} (isLong : 0x80 ≤ byte.toNat)
    (isAscii : other.toNat < 0x80) : byte ≠ other := by
  rintro rfl
  exact Nat.not_lt.mpr isLong isAscii

omit isForeign in
theorem sign_cons (byte : UInt8) (bytes : Bytes) : sign (byte :: bytes) =
    if byte = 0x2D then (true, bytes) else if byte = 0x2B then (false, bytes)
    else (false, byte :: bytes) :=
  rfl

theorem sign_append : sign (front ++ rest) = ((sign front).1, (sign front).2 ++ rest) := by
  cases front with
  | nil =>
      cases rest with
      | nil => rfl
      | cons byte rest =>
          have isLong := isForeign byte rfl
          rw [List.nil_append, sign_cons, if_neg (ne_of_isLong isLong (by decide)),
            if_neg (ne_of_isLong isLong (by decide))]
          rfl
  | cons byte front =>
      rw [List.cons_append, sign_cons, sign_cons]
      split
      · rfl
      split <;> rfl

theorem splitFraction_append : splitFraction (front ++ rest) =
    ((splitFraction front).1, (splitFraction front).2.1, (splitFraction front).2.2 ++ rest) := by
  cases front with
  | nil =>
      cases rest with
      | nil => rfl
      | cons byte rest =>
          exact if_neg (ne_of_isLong (isForeign byte rfl) (by decide))
  | cons byte front =>
      rw [List.cons_append]
      dsimp only [splitFraction]
      rw [takeDigits_append isForeign, dropDigits_append isForeign]
      split <;> rfl

omit isForeign in
theorem readExponent_power_cons (byte : UInt8) (bytes : Bytes) :
    (readExponent (byte :: bytes)).power =
      if byte = 0x65 ∨ byte = 0x45 then
        let power : Nat := min (ofDigits ((sign bytes).2.takeWhile Bytes.isDigit)) 100000
        if (sign bytes).1 then -(power : Int) else power
      else 0 := by
  dsimp only [readExponent]
  split <;> rfl

theorem readExponent_append :
    (readExponent (front ++ rest)).power = (readExponent front).power := by
  cases front with
  | nil =>
      cases rest with
      | nil => rfl
      | cons byte rest =>
          have isLong := isForeign byte rfl
          rw [List.nil_append, readExponent_power_cons, if_neg]
          · rfl
          · exact fun isLetter => isLetter.elim (ne_of_isLong isLong (by decide))
              (ne_of_isLong isLong (by decide))
  | cons byte front =>
      rw [List.cons_append, readExponent_power_cons, readExponent_power_cons,
        sign_append isForeign]
      dsimp only
      rw [takeDigits_append isForeign]

/-! ## Numbers -/

theorem readInteger_append :
    (readInteger (front ++ rest)).value = (readInteger front).value := by
  unfold readInteger
  rw [dropBlanks_append isForeign, sign_append isForeign]
  dsimp only
  rw [takeDigits_append isForeign]
  split
  · rfl
  split <;> rfl

theorem readReal_append : (readReal (front ++ rest)).value = (readReal front).value := by
  unfold readReal
  rw [dropBlanks_append isForeign, sign_append isForeign]
  dsimp only
  rw [takeDigits_append isForeign, dropDigits_append isForeign, splitFraction_append isForeign]
  dsimp only
  rw [readExponent_append isForeign]

end

end EmbeddedSql.Numeral
