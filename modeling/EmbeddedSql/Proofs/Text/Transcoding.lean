import EmbeddedSql.Proofs.Text.Utf16
import EmbeddedSql.Text.Basic

/-! On well-formed text the lenient conversion is the strict one. Other bytes that go through UTF-16
come back changed, a second trip changes nothing more, and what is ASCII at the front stays as it
is. -/

namespace EmbeddedSql.Lenient

/-! ## Well-formed text -/

theorem toUtf8_plain {unit : UInt16} (plain : Utf16.isSurrogate unit = false)
    (rest : Utf16.Units) :
    toUtf8 (unit :: rest) = Utf8.encodeScalar unit.toNat ++ toUtf8 rest := by
  cases rest with
  | nil => simp [toUtf8]
  | cons next rest => simp [toUtf8, plain]

theorem toUtf8_encodeChar (character : Char) (rest : Utf16.Units) :
    toUtf8 (Utf16.encodeChar character ++ rest) = Utf8.encodeChar character ++ toUtf8 rest := by
  have encodes := Utf16.encodeChar_encodes character
  generalize Utf16.encodeChar character = units at encodes ⊢
  cases encodes with
  | basic unit plain =>
      rw [List.singleton_append, toUtf8_plain plain, unit, Utf8.encodeChar]
  | pair isAstral isHigh isLow high low =>
      have isScalar := Utf8.bounds_of_char character
      have isSurrogate : Utf16.isSurrogate _ = true := Bool.or_eq_true_iff.mpr (.inl isHigh)
      simp only [List.cons_append, List.nil_append, toUtf8, isSurrogate, if_true]
      rw [high, low, Utf8.encodeChar]
      congr 2
      omega

theorem toUtf8_encode (characters : List Char) :
    toUtf8 (Utf16.encode characters) = Utf8.encode characters := by
  induction characters with
  | nil => rfl
  | cons character rest ih =>
      rw [Utf16.encode, List.flatMap_cons, toUtf8_encodeChar]
      exact congrArg (Utf8.encodeChar character ++ ·) ih

theorem toUtf8_of_wellFormed {units : Utf16.Units} (isWellFormed : Utf16.IsWellFormed units) :
    toUtf8 units = Utf16.toUtf8 units := by
  rw [Utf16.toUtf8, ← toUtf8_encode, isWellFormed.encode_decode]

/-! ## Values -/

def IsSound (value : Nat) : Prop :=
  value / 0x800 ≠ 0x1B ∧ value / 2 ≠ 0x7FFF

theorem scalar_isSound (value : Nat) : IsSound (scalar value) := by
  unfold scalar
  split
  · exact ⟨by decide, by decide⟩
  · rename_i isKept
    exact ⟨fun isSurrogate => isKept (.inr (.inl isSurrogate)),
      fun isLast => isKept (.inr (.inr isLast))⟩

theorem scalar_isLong (value : Nat) : 0x80 ≤ scalar value := by
  unfold scalar
  split
  · decide
  · rename_i isKept
    exact Nat.not_lt.mp fun isShort => isKept (.inl isShort)

theorem byte_isSound {byte : UInt8} (isNoLead : byte < 0xC0) : IsSound byte.toNat := by
  have isBelow : byte.toNat < 0xC0 := isNoLead
  constructor <;> omega

theorem scalarsFrom_isSound (current : Option Nat) (bytes : Bytes) :
    ∀ value ∈ scalarsFrom current bytes, IsSound value := by
  induction bytes generalizing current with
  | nil =>
      cases current with
      | none => exact nofun
      | some value => exact List.forall_mem_singleton.mpr (scalar_isSound value)
  | cons byte rest ih =>
      cases current with
      | none =>
          unfold scalarsFrom
          split
          · rename_i isNoLead
            exact List.forall_mem_cons.mpr ⟨byte_isSound isNoLead, ih none⟩
          · exact ih _
      | some value =>
          unfold scalarsFrom
          split
          · exact ih _
          split
          · rename_i isNoLead
            exact List.forall_mem_cons.mpr ⟨scalar_isSound value,
              List.forall_mem_cons.mpr ⟨byte_isSound isNoLead, ih none⟩⟩
          · exact List.forall_mem_cons.mpr ⟨scalar_isSound value, ih _⟩

theorem scalars_isSound (bytes : Bytes) : ∀ value ∈ scalars bytes, IsSound value :=
  scalarsFrom_isSound none bytes

/-! ## From units to bytes -/

def fitted (value : Nat) : Nat :=
  if value ≤ 0xFFFF then value
  else value % 0x10000 + ((value - 0x10000) / 0x10000 % 0x10 + 1) * 0x10000

theorem fitted_lt (value : Nat) : fitted value < 0x110000 := by
  unfold fitted
  split <;> omega

theorem fitted_of_lt {value : Nat} (isScalar : value < 0x110000) : fitted value = value := by
  unfold fitted
  split <;> omega

theorem fitted_isSound {value : Nat} (isSound : IsSound value) : IsSound (fitted value) := by
  unfold fitted
  split
  · exact isSound
  · constructor <;> omega

theorem fitted_isLong {value : Nat} (isLong : 0x80 ≤ value) : 0x80 ≤ fitted value := by
  unfold fitted
  split <;> omega

theorem unitsOfScalar_fitted (value : Nat) :
    unitsOfScalar (fitted value) = unitsOfScalar value := by
  by_cases isUnit : value ≤ 0xFFFF
  · rw [fitted, if_pos isUnit]
  generalize isFitted : fitted value = result
  rw [fitted, if_neg isUnit] at isFitted
  have isPair : ¬result ≤ 0xFFFF := by omega
  have first : (result - 0x10000) / 0x40000 % 4 = (value - 0x10000) / 0x40000 % 4 := by omega
  have second : (result - 0x10000) / 0x10000 % 4 = (value - 0x10000) / 0x10000 % 4 := by omega
  have third : result / 0x400 % 0x40 = value / 0x400 % 0x40 := by omega
  have last : result % 0x400 = value % 0x400 := by omega
  unfold unitsOfScalar
  rw [if_neg isUnit, if_neg isPair]
  dsimp only
  rw [first, second, third, last]

private theorem toNat_toUInt16 {value : Nat} (isUnit : value < 0x10000) :
    value.toUInt16.toNat = value :=
  UInt16.toNat_ofNat_of_lt' isUnit

theorem isSurrogate_iff (unit : UInt16) :
    Utf16.isSurrogate unit = true ↔ unit.toNat / 0x800 = 0x1B := by
  simp only [Utf16.isSurrogate, Utf16.isHigh, Utf16.isLow, Bool.or_eq_true, Bool.and_eq_true,
    decide_eq_true_eq, UInt16.le_iff_toNat_le, UInt16.lt_iff_toNat_lt, UInt16.reduceToNat]
  omega

theorem toUtf8_unitsOfScalar {value : Nat} (isSound : IsSound value) (rest : Utf16.Units) :
    toUtf8 (unitsOfScalar value ++ rest) = Utf8.encodeScalar (fitted value) ++ toUtf8 rest := by
  unfold unitsOfScalar
  by_cases isUnit : value ≤ 0xFFFF
  · have same := toNat_toUInt16 (show value < 0x10000 by omega)
    have isPlain : Utf16.isSurrogate value.toUInt16 = false := by
      rw [Bool.eq_false_iff, ne_eq, isSurrogate_iff, same]
      exact isSound.1
    rw [if_pos isUnit, List.singleton_append, toUtf8_plain isPlain, same, fitted, if_pos isUnit]
  · rw [if_neg isUnit]
    dsimp only
    generalize isHigh : 0xD800 + (value - 0x10000) / 0x40000 % 4 * 0x100 +
      (value - 0x10000) / 0x10000 % 4 * 0x40 + value / 0x400 % 0x40 = high
    have first := toNat_toUInt16 (show high < 0x10000 by omega)
    have second := toNat_toUInt16 (show 0xDC00 + value % 0x400 < 0x10000 by omega)
    have isSurrogate : Utf16.isSurrogate high.toUInt16 = true := by
      rw [isSurrogate_iff, first]
      omega
    rw [List.cons_append, List.singleton_append, toUtf8, if_pos isSurrogate]
    dsimp only
    rw [first, second, fitted, if_neg isUnit]
    congr 2
    omega

theorem toUtf8_flatMap_unitsOfScalar {values : List Nat}
    (areSound : ∀ value ∈ values, IsSound value) :
    toUtf8 (values.flatMap unitsOfScalar) = (values.map fitted).flatMap Utf8.encodeScalar := by
  induction values with
  | nil => rfl
  | cons value rest ih =>
      obtain ⟨isSound, areSound⟩ := List.forall_mem_cons.mp areSound
      rw [List.flatMap_cons, toUtf8_unitsOfScalar isSound, ih areSound, List.map_cons,
        List.flatMap_cons]

theorem toUtf8_toUtf16 (bytes : Bytes) :
    toUtf8 (toUtf16 bytes) = ((scalars bytes).map fitted).flatMap Utf8.encodeScalar :=
  toUtf8_flatMap_unitsOfScalar (scalars_isSound bytes)

/-! ## From bytes to units -/

private theorem toNat_toUInt8 {value : Nat} (isByte : value < 0x100) :
    value.toUInt8.toNat = value :=
  UInt8.toNat_ofNat_of_lt' isByte

def Begins (bytes : Bytes) : Prop :=
  ∀ byte ∈ bytes.head?, isContinuation byte = false

theorem isContinuation_iff (byte : UInt8) :
    isContinuation byte = true ↔ 0x80 ≤ byte.toNat ∧ byte.toNat < 0xC0 := by
  simp only [isContinuation, Bool.and_eq_true, decide_eq_true_eq, UInt8.le_iff_toNat_le,
    UInt8.lt_iff_toNat_lt, UInt8.reduceToNat]

theorem not_isContinuation {byte : UInt8} (isElse : byte.toNat < 0x80 ∨ 0xC0 ≤ byte.toNat) :
    isContinuation byte = false := by
  rw [Bool.eq_false_iff, ne_eq, isContinuation_iff]
  omega

theorem encodeScalar_cases (value : Nat) (isScalar : value < 0x110000) :
    (value < 0x80 ∧ Utf8.encodeScalar value = [value.toUInt8]) ∨
      0x80 ≤ value ∧ ∃ lead tail, Utf8.encodeScalar value = lead :: tail ∧
        0xC0 ≤ lead.toNat ∧ (∀ byte ∈ tail, isContinuation byte = true) ∧
          tail.foldl (fun value byte => (value * 0x40 + byte.toNat % 0x40) % 0x100000000)
            (leadBits lead) = value := by
  have isContinued {bits : Nat} (isSix : bits < 0x40) :
      isContinuation (0x80 + bits).toUInt8 = true := by
    rw [isContinuation_iff, toNat_toUInt8 (by omega)]
    omega
  have low (bits : Nat) : bits % 0x40 < 0x40 := Nat.mod_lt _ (by decide)
  unfold Utf8.encodeScalar
  split
  · exact .inl ⟨by assumption, rfl⟩
  refine .inr ⟨by omega, ?_⟩
  have leadBits_eq {lead : Nat} (isByte : lead < 0x100) : leadBits lead.toUInt8 =
      if lead < 0xE0 then lead % 0x20 else if lead < 0xF0 then lead % 0x10
      else if lead < 0xF8 then lead % 0x08 else if lead < 0xFC then lead % 0x04
      else if lead < 0xFE then lead % 0x02 else 0 := by
    simp only [leadBits, UInt8.lt_iff_toNat_lt, toNat_toUInt8 isByte, UInt8.reduceToNat]
  split
  · refine ⟨_, _, rfl, ?_, List.forall_mem_singleton.mpr (isContinued (low _)), ?_⟩
    · rw [toNat_toUInt8 (by omega)]
      omega
    · rw [leadBits_eq (by omega)]
      simp only [List.foldl_cons, List.foldl_nil, toNat_toUInt8 (show 0x80 + value % 0x40 < 0x100 by omega)]
      rw [if_pos (by omega)]
      omega
  split
  · refine ⟨_, _, rfl, ?_, List.forall_mem_cons.mpr ⟨isContinued (low _),
      List.forall_mem_singleton.mpr (isContinued (low _))⟩, ?_⟩
    · rw [toNat_toUInt8 (by omega)]
      omega
    · rw [leadBits_eq (by omega)]
      simp only [List.foldl_cons, List.foldl_nil, toNat_toUInt8 (show 0x80 + value % 0x40 < 0x100 by omega),
        toNat_toUInt8 (show 0x80 + value / 0x40 % 0x40 < 0x100 by omega)]
      rw [if_neg (by omega), if_pos (by omega)]
      omega
  · refine ⟨_, _, rfl, ?_, List.forall_mem_cons.mpr ⟨isContinued (low _),
      List.forall_mem_cons.mpr ⟨isContinued (low _),
        List.forall_mem_singleton.mpr (isContinued (low _))⟩⟩, ?_⟩
    · rw [toNat_toUInt8 (by omega)]
      omega
    · rw [leadBits_eq (by omega)]
      simp only [List.foldl_cons, List.foldl_nil, toNat_toUInt8 (show 0x80 + value % 0x40 < 0x100 by omega),
        toNat_toUInt8 (show 0x80 + value / 0x40 % 0x40 < 0x100 by omega),
        toNat_toUInt8 (show 0x80 + value / 0x1000 % 0x40 < 0x100 by omega)]
      rw [if_neg (by omega), if_neg (by omega), if_pos (by omega)]
      omega

theorem encodeScalar_begins {value : Nat} (isScalar : value < 0x110000) (rest : Bytes) :
    Begins (Utf8.encodeScalar value ++ rest) := by
  rcases encodeScalar_cases value isScalar with ⟨isOne, same⟩ | ⟨-, lead, tail, same, isLead, -⟩
  · rw [same]
    rintro _ ⟨⟩
    exact not_isContinuation (.inl (by rw [toNat_toUInt8 (by omega)]; exact isOne))
  · rw [same]
    rintro _ ⟨⟩
    exact not_isContinuation (.inr isLead)

theorem flatMap_encodeScalar_begins {values : List Nat}
    (areScalars : ∀ value ∈ values, value < 0x110000) :
    Begins (values.flatMap Utf8.encodeScalar) := by
  cases values with
  | nil => exact nofun
  | cons value rest =>
      rw [List.flatMap_cons]
      exact encodeScalar_begins (areScalars value List.mem_cons_self) _

theorem scalarsFrom_continued {tail rest : Bytes} (begins : Begins rest)
    (areContinued : ∀ byte ∈ tail, isContinuation byte = true) (value : Nat) :
    scalarsFrom (some value) (tail ++ rest) =
      scalar (tail.foldl (fun value byte => (value * 0x40 + byte.toNat % 0x40) % 0x100000000)
        value) :: scalars rest := by
  induction tail generalizing value with
  | nil =>
      cases rest with
      | nil => rfl
      | cons byte rest =>
          have isNext : isContinuation byte = false := begins byte rfl
          rw [List.nil_append, scalars, List.foldl_nil]
          unfold scalarsFrom
          rw [if_neg (by simp [isNext])]
          split <;> rfl
  | cons byte tail ih =>
      obtain ⟨isContinued, areContinued⟩ := List.forall_mem_cons.mp areContinued
      rw [List.cons_append, scalarsFrom, if_pos isContinued, ih areContinued, List.foldl_cons]

def kept (value : Nat) : Nat :=
  if value / 2 = 0x7FFF then 0xFFFD else value

theorem kept_of_isSound {value : Nat} (isSound : IsSound value) : kept value = value :=
  if_neg isSound.2

theorem scalar_of_long {value : Nat} (isNoSurrogate : value / 0x800 ≠ 0x1B)
    (isLong : 0x80 ≤ value) : scalar value = kept value := by
  unfold scalar kept
  grind

theorem scalars_encodeScalar {value : Nat} (isNoSurrogate : value / 0x800 ≠ 0x1B)
    (isScalar : value < 0x110000) {rest : Bytes} (begins : Begins rest) :
    scalars (Utf8.encodeScalar value ++ rest) = kept value :: scalars rest := by
  rcases encodeScalar_cases value isScalar with
    ⟨isOne, same⟩ | ⟨isLong, lead, tail, same, isLead, areContinued, isValue⟩
  · have isByte : value.toUInt8.toNat = value := toNat_toUInt8 (by omega)
    have isNoLead : value.toUInt8 < 0xC0 := by
      rw [UInt8.lt_iff_toNat_lt, isByte]
      exact Nat.lt_trans isOne (by decide)
    have isKept : kept value = value := if_neg (by omega)
    rw [same, List.singleton_append, scalars, scalarsFrom, if_pos isNoLead, isByte, isKept]
    rfl
  · have isNoByte : ¬lead < 0xC0 := Nat.not_lt.mpr isLead
    rw [same, List.cons_append, scalars, scalarsFrom, if_neg isNoByte,
      scalarsFrom_continued begins areContinued, isValue, scalar_of_long isNoSurrogate isLong]

theorem scalars_flatMap_encodeScalar {values : List Nat}
    (areScalars : ∀ value ∈ values, value / 0x800 ≠ 0x1B ∧ value < 0x110000) :
    scalars (values.flatMap Utf8.encodeScalar) = values.map kept := by
  induction values with
  | nil => rfl
  | cons value rest ih =>
      obtain ⟨⟨isNoSurrogate, isScalar⟩, areScalars⟩ := List.forall_mem_cons.mp areScalars
      rw [List.flatMap_cons, scalars_encodeScalar isNoSurrogate isScalar
        (flatMap_encodeScalar_begins fun value isThere => (areScalars value isThere).2),
        ih areScalars, List.map_cons]

theorem scalars_encode {values : List Nat}
    (areSound : ∀ value ∈ values, IsSound value ∧ value < 0x110000) :
    scalars (values.flatMap Utf8.encodeScalar) = values := by
  rw [scalars_flatMap_encodeScalar fun value isThere =>
    ⟨(areSound value isThere).1.1, (areSound value isThere).2⟩]
  exact (List.map_congr_left fun value isThere => kept_of_isSound (areSound value isThere).1).trans
    (List.map_id _)

/-! ## Noncharacters -/

def keptUnit (unit : UInt16) : UInt16 :=
  if unit = 0xFFFE ∨ unit = 0xFFFF then 0xFFFD else unit

theorem keptUnit_of_surrogate {unit : UInt16} (isSurrogate : Utf16.isSurrogate unit = true) :
    keptUnit unit = unit := by
  rw [isSurrogate_iff] at isSurrogate
  refine if_neg ?_
  rintro (rfl | rfl) <;> revert isSurrogate <;> decide

theorem isSurrogate_keptUnit (unit : UInt16) :
    Utf16.isHigh (keptUnit unit) = Utf16.isHigh unit ∧
      Utf16.isLow (keptUnit unit) = Utf16.isLow unit := by
  unfold keptUnit
  split
  · rename_i isReplaced
    rcases isReplaced with rfl | rfl <;> exact ⟨rfl, rfl⟩
  · exact ⟨rfl, rfl⟩

theorem keptUnit_keptUnit (unit : UInt16) : keptUnit (keptUnit unit) = keptUnit unit := by
  unfold keptUnit
  split <;> simp_all

theorem unitsOfScalar_kept (character : Char) :
    unitsOfScalar (kept character.toNat) = (Utf16.encodeChar character).map keptUnit := by
  have isScalar := Utf8.bounds_of_char character
  have encodes := Utf16.encodeChar_encodes character
  generalize Utf16.encodeChar character = units at encodes ⊢
  cases encodes with
  | @basic unit isUnit plain =>
      have isBelow : unit.toNat < 0x10000 := unit.toNat_lt
      have isLast : unit.toNat / 2 = 0x7FFF ↔ unit = 0xFFFE ∨ unit = 0xFFFF := by
        simp only [← UInt16.toNat_inj, UInt16.reduceToNat]
        omega
      rw [List.map_singleton, ← isUnit, kept, keptUnit]
      simp only [isLast]
      split
      · rfl
      · rw [unitsOfScalar, if_pos (by omega)]
        exact congrArg ([·]) UInt16.ofNat_toNat
  | @pair high low isAstral isHigh isLow highBits lowBits =>
      have isKept : kept character.toNat = character.toNat := if_neg (by omega)
      have isFirst := keptUnit_of_surrogate (Bool.or_eq_true_iff.mpr (.inl isHigh))
      have isSecond := keptUnit_of_surrogate (Bool.or_eq_true_iff.mpr (.inr isLow))
      have first : 0xD800 + (character.toNat - 0x10000) / 0x40000 % 4 * 0x100 +
          (character.toNat - 0x10000) / 0x10000 % 4 * 0x40 + character.toNat / 0x400 % 0x40 =
            high.toNat := by
        omega
      have second : 0xDC00 + character.toNat % 0x400 = low.toNat := by omega
      rw [isKept, unitsOfScalar, if_neg (by omega)]
      dsimp only
      rw [first, second, List.map_cons, List.map_singleton, isFirst, isSecond]
      show [UInt16.ofNat high.toNat, UInt16.ofNat low.toNat] = _
      rw [UInt16.ofNat_toNat, UInt16.ofNat_toNat]

/-- Well-formed bytes become the units of their characters, less the two noncharacters. -/
theorem toUtf16_encode (characters : List Char) :
    toUtf16 (Utf8.encode characters) = (Utf16.encode characters).map keptUnit := by
  have areScalars : ∀ value ∈ characters.map Char.toNat,
      value / 0x800 ≠ 0x1B ∧ value < 0x110000 := by
    intro value isThere
    obtain ⟨character, -, rfl⟩ := List.mem_map.mp isThere
    have isScalar := Utf8.bounds_of_char character
    constructor <;> omega
  have isEncoded : Utf8.encode characters =
      (characters.map Char.toNat).flatMap Utf8.encodeScalar := by
    rw [List.flatMap_map]
    rfl
  rw [toUtf16, isEncoded, scalars_flatMap_encodeScalar areScalars, Utf16.encode, List.map_flatMap,
    List.flatMap_map, List.flatMap_map]
  exact congrArg (characters.flatMap ·) (funext unitsOfScalar_kept)

theorem toUtf16_of_wellFormed {units : Utf16.Units} (isWellFormed : Utf16.IsWellFormed units) :
    toUtf16 (Utf16.toUtf8 units) = units.map keptUnit := by
  rw [Utf16.toUtf8, toUtf16_encode, isWellFormed.encode_decode]

theorem isWellFormed_map_keptUnit {units : Utf16.Units} (isWellFormed : Utf16.IsWellFormed units) :
    Utf16.IsWellFormed (units.map keptUnit) := by
  have sameAlone (before : Option UInt16) (unit : UInt16) (after : Option UInt16) :
      Utf16.isAlone (before.map keptUnit) (keptUnit unit) (after.map keptUnit) =
        Utf16.isAlone before unit after := by
    simp only [Utf16.isAlone, Option.any_map, isSurrogate_keptUnit]
  intro position
  have sameBefore : Utf16.unitBefore none (units.map keptUnit) position =
      (Utf16.unitBefore none units position).map keptUnit := by
    cases position with
    | zero => rfl
    | succ position => exact List.getElem?_map ..
  rw [← isWellFormed position]
  simp only [Utf16.isUnpaired, List.getElem?_map, Option.any_map, sameBefore, sameAlone]

/-! ## There and back -/

/-- Text that has been wide keeps its units from then on. -/
theorem toUtf16_toUtf8_toUtf16 (bytes : Bytes) :
    toUtf16 (toUtf8 (toUtf16 bytes)) = toUtf16 bytes := by
  have areFitted : ∀ value ∈ (scalars bytes).map fitted, IsSound value ∧ value < 0x110000 := by
    intro value isThere
    obtain ⟨original, isOriginal, rfl⟩ := List.mem_map.mp isThere
    exact ⟨fitted_isSound (scalars_isSound bytes original isOriginal), fitted_lt original⟩
  rw [toUtf8_toUtf16, toUtf16, scalars_encode areFitted, List.flatMap_map, toUtf16]
  exact congrArg (fun units => (scalars bytes).flatMap units) (funext unitsOfScalar_fitted)

/-- Characters come back as they were, but for U+FFFE and U+FFFF. -/
theorem toUtf8_toUtf16_encode {characters : List Char}
    (areKept : ∀ character ∈ characters, character ≠ '\uFFFE' ∧ character ≠ '\uFFFF') :
    toUtf8 (toUtf16 (Utf8.encode characters)) = Utf8.encode characters := by
  have areSound : ∀ value ∈ characters.map Char.toNat, IsSound value ∧ value < 0x110000 := by
    intro value isThere
    obtain ⟨character, isCharacter, rfl⟩ := List.mem_map.mp isThere
    obtain ⟨isNoFirst, isNoLast⟩ := areKept character isCharacter
    have isScalar := Utf8.bounds_of_char character
    have first : character.toNat ≠ 0xFFFE := fun same => isNoFirst (Char.toNat_inj.mp same)
    have last : character.toNat ≠ 0xFFFF := fun same => isNoLast (Char.toNat_inj.mp same)
    exact ⟨⟨by omega, by omega⟩, by omega⟩
  have isEncoded : Utf8.encode characters =
      (characters.map Char.toNat).flatMap Utf8.encodeScalar := by
    rw [List.flatMap_map]
    rfl
  have areFitted : (characters.map Char.toNat).map fitted = characters.map Char.toNat :=
    (List.map_congr_left fun value isThere => fitted_of_lt (areSound value isThere).2).trans
      (List.map_id _)
  rw [toUtf8_toUtf16, isEncoded, scalars_encode areSound, areFitted]

/-! ## What is ASCII -/

def isAscii (byte : UInt8) : Bool :=
  byte < 0x80

theorem scalarsFrom_isLong (value : Nat) (bytes : Bytes) :
    ∃ first rest, scalarsFrom (some value) bytes = first :: rest ∧ 0x80 ≤ first := by
  induction bytes generalizing value with
  | nil => exact ⟨_, _, rfl, scalar_isLong value⟩
  | cons byte bytes ih =>
      unfold scalarsFrom
      split
      · exact ih _
      split
      · exact ⟨_, _, rfl, scalar_isLong value⟩
      · exact ⟨_, _, rfl, scalar_isLong value⟩

theorem takeWhile_isAscii_encode {values : List Nat} {first : Nat} {rest : List Nat}
    (isFirst : values = first :: rest) (isLong : 0x80 ≤ first) (isScalar : first < 0x110000) :
    (values.flatMap Utf8.encodeScalar).takeWhile isAscii = [] := by
  subst isFirst
  rcases encodeScalar_cases first isScalar with ⟨isOne, -⟩ | ⟨-, lead, tail, same, isLead, -⟩
  · omega
  · rw [List.flatMap_cons, same, List.cons_append, List.takeWhile_cons_of_neg]
    intro isOne
    have isOne : lead.toNat < 0x80 := of_decide_eq_true isOne
    omega

theorem takeWhile_isAscii_toUtf8_toUtf16 (bytes : Bytes) :
    (toUtf8 (toUtf16 bytes)).takeWhile isAscii = bytes.takeWhile isAscii := by
  rw [toUtf8_toUtf16]
  induction bytes with
  | nil => rfl
  | cons byte rest ih =>
      have ofLong {values : List Nat} {first : Nat} {others : List Nat}
          (isFirst : values = first :: others) (isLong : 0x80 ≤ first)
          (isNoAscii : isAscii byte = false) :
          ((values.map fitted).flatMap Utf8.encodeScalar).takeWhile isAscii =
            (byte :: rest).takeWhile isAscii := by
        rw [takeWhile_isAscii_encode (congrArg (List.map fitted) isFirst) (fitted_isLong isLong)
          (fitted_lt first), List.takeWhile_cons_of_neg (by simp [isNoAscii])]
      rw [scalars]
      unfold scalarsFrom
      by_cases isNoLead : byte < 0xC0
      · rw [if_pos isNoLead]
        by_cases isOne : isAscii byte = true
        · have isSmall : byte.toNat < 0x80 := of_decide_eq_true isOne
          have isByte : Utf8.encodeScalar (fitted byte.toNat) = [byte] := by
            rw [fitted_of_lt (by omega), Utf8.encodeScalar, if_pos isSmall]
            exact congrArg (fun byte => [byte]) UInt8.ofNat_toNat
          rw [List.map_cons, List.flatMap_cons, isByte, List.singleton_append,
            List.takeWhile_cons_of_pos isOne, List.takeWhile_cons_of_pos isOne]
          exact congrArg (byte :: ·) ih
        · have isNoAscii : isAscii byte = false := Bool.eq_false_iff.mpr isOne
          have isLong : 0x80 ≤ byte.toNat := Nat.not_lt.mp (of_decide_eq_false isNoAscii)
          exact ofLong rfl isLong isNoAscii
      · rw [if_neg isNoLead]
        obtain ⟨first, others, isFirst, isLong⟩ := scalarsFrom_isLong (leadBits byte) rest
        have isLead : 0xC0 ≤ byte.toNat := Nat.not_lt.mp isNoLead
        have isNoAscii : isAscii byte = false := decide_eq_false fun isOne => by
          have isOne : byte.toNat < 0x80 := isOne
          omega
        exact ofLong isFirst isLong isNoAscii

end EmbeddedSql.Lenient
