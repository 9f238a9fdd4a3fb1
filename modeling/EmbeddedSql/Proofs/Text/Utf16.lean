import EmbeddedSql.Text.Utf16
import EmbeddedSql.Proofs.Text.Utf8
import Mathlib.Algebra.Group.Action.Defs
import Mathlib.Algebra.Order.BigOperators.Group.List
import Mathlib.Algebra.Order.Ring.Nat

/-! Transcoding between UTF-16 and UTF-8: what becomes of unpaired surrogates,
and that nothing else changes. Zeros stay zeros, and each unit has a share of one to three of the
bytes: a text takes at most three times as many bytes as it has units. -/

namespace EmbeddedSql.Utf16

/-! ## Unpaired surrogates -/

/-- A high surrogate is paired exactly when the very next unit is a low one, and
a low one exactly when the unit just before it is a high one. -/
def isAlone (before : Option UInt16) (unit : UInt16) (after : Option UInt16) : Bool :=
  isHigh unit && !after.any isLow || isLow unit && !before.any isHigh

/-- The unit just before a position, which is `first` at the front. -/
def unitBefore (first : Option UInt16) (units : Units) : Nat → Option UInt16
  | 0 => first
  | position + 1 => units[position]?

def isUnpaired (units : Units) (position : Nat) : Bool :=
  units[position]?.any fun unit =>
    isAlone (unitBefore none units position) unit units[position + 1]?

def repaired (units : Units) : Units :=
  units.mapIdx fun position unit => if isUnpaired units position then 0xFFFD else unit

def IsWellFormed (units : Units) : Prop :=
  ∀ position, isUnpaired units position = false

example : repaired [0xD83D, 0xD83D, 0xDE00, 0xDC00, 0x41] =
    [0xFFFD, 0xD83D, 0xDE00, 0xFFFD, 0x41] := rfl

theorem not_isLow_of_isHigh {unit : UInt16} (high : isHigh unit) : isLow unit = false := by
  simp only [isHigh, isLow] at high ⊢
  grind

theorem not_isHigh_of_isLow {unit : UInt16} (low : isLow unit) : isHigh unit = false := by
  simp only [isHigh, isLow] at low ⊢
  grind

theorem ne_replacement_of_isAlone {before after : Option UInt16} {unit : UInt16}
    (alone : isAlone before unit after) : unit ≠ 0xFFFD := by
  rintro rfl
  simp [isAlone, isHigh, isLow] at alone

theorem repaired_eq_iff {units : Units} : repaired units = units ↔ IsWellFormed units := by
  constructor
  · intro same position
    cases unpaired : isUnpaired units position with
    | false => rfl
    | true =>
        obtain ⟨unit, found, alone⟩ := (Option.any_eq_true _ _).mp unpaired
        have replaced := congrArg (·[position]?) same
        simp only [repaired, List.getElem?_mapIdx, found, unpaired, Option.map_some, if_true,
          Option.some.injEq] at replaced
        exact absurd replaced.symm (ne_replacement_of_isAlone alone)
  · intro wellFormed
    refine List.ext_getElem? fun position => ?_
    simp [repaired, wellFormed position]

/-! The same, from left to right: only the last unit is remembered. -/

def repairedAfter (before : Option UInt16) : Units → Units
  | [] => []
  | unit :: rest =>
      (if isAlone before unit rest.head? then 0xFFFD else unit) :: repairedAfter (some unit) rest

theorem getElem?_repairedAfter (before : Option UInt16) (units : Units) (position : Nat) :
    (repairedAfter before units)[position]? = units[position]?.map fun unit =>
      if isAlone (unitBefore before units position) unit units[position + 1]? then 0xFFFD
      else unit := by
  induction units generalizing before position with
  | nil => rfl
  | cons unit rest ih =>
      cases position with
      | zero => cases rest <;> rfl
      | succ position =>
          rw [repairedAfter, List.getElem?_cons_succ, ih]
          cases position <;> rfl

theorem repairedAfter_eq (units : Units) : repairedAfter none units = repaired units := by
  refine List.ext_getElem? fun position => ?_
  rw [getElem?_repairedAfter, repaired, List.getElem?_mapIdx]
  cases found : units[position]? with
  | none => rfl
  | some unit => simp [isUnpaired, found]

theorem repairedAfter_of_unpaired {before : UInt16} {rest : Units}
    (unpaired : isHigh before = false ∨ rest.head?.any isLow = false) :
    repairedAfter (some before) rest = repairedAfter none rest := by
  cases rest with
  | nil => rfl
  | cons unit rest =>
      obtain notHigh | notLow := unpaired
      · simp [repairedAfter, isAlone, notHigh]
      · have notLow : isLow unit = false := notLow
        simp [repairedAfter, isAlone, notLow]

/-! ## One character -/

theorem toNat_ofNat {value : Nat} (isScalar : value.isValidChar) :
    (Char.ofNat value).toNat = value := by
  rw [Char.ofNat, dif_pos isScalar]
  rfl

private theorem toNat_toUInt16 {value : Nat} (isUnit : value < 0x10000) :
    value.toUInt16.toNat = value :=
  UInt16.toNat_ofNat_of_lt' isUnit

theorem encodeChar_replacement : encodeChar Utf8.replacement = [0xFFFD] :=
  rfl

theorem encodeChar_ofNat {unit : UInt16} (plain : isSurrogate unit = false) :
    encodeChar (Char.ofNat unit.toNat) = [unit] := by
  have isUnit : unit.toNat < 0x10000 := unit.toNat_lt
  have isScalar : unit.toNat.isValidChar := by
    simp only [isSurrogate, isHigh, isLow, Bool.or_eq_false_iff, Bool.and_eq_false_iff,
      decide_eq_false_iff_not, UInt16.le_iff_toNat_le, UInt16.lt_iff_toNat_lt,
      UInt16.reduceToNat] at plain
    unfold Nat.isValidChar
    omega
  rw [encodeChar, toNat_ofNat isScalar, if_pos isUnit]
  exact congrArg ([·]) UInt16.ofNat_toNat

theorem encodeChar_pair {high low : UInt16} (isHigh : isHigh high) (isLow : isLow low) :
    encodeChar (pair high low) = [high, low] := by
  simp only [Utf16.isHigh, Utf16.isLow, Bool.and_eq_true, decide_eq_true_iff,
    UInt16.le_iff_toNat_le, UInt16.lt_iff_toNat_lt, UInt16.reduceToNat] at isHigh isLow
  have isScalar : Nat.isValidChar
      (0x10000 + (high.toNat - 0xD800) * 0x400 + (low.toNat - 0xDC00)) := by
    unfold Nat.isValidChar
    omega
  have first : (0xD800 + (0x10000 + (high.toNat - 0xD800) * 0x400 + (low.toNat - 0xDC00) -
      0x10000) / 0x400).toUInt16 = high := by
    rw [← UInt16.toNat_inj, toNat_toUInt16] <;> omega
  have second : (0xDC00 + (0x10000 + (high.toNat - 0xD800) * 0x400 + (low.toNat - 0xDC00) -
      0x10000) % 0x400).toUInt16 = low := by
    rw [← UInt16.toNat_inj, toNat_toUInt16] <;> omega
  rw [encodeChar, pair, toNat_ofNat isScalar, if_neg (by omega), first, second]

inductive Encodes (character : Char) : Units → Prop
  | basic {unit : UInt16} : unit.toNat = character.toNat → isSurrogate unit = false →
      Encodes character [unit]
  | pair {high low : UInt16} : 0x10000 ≤ character.toNat → isHigh high → isLow low →
      high.toNat = 0xD800 + (character.toNat - 0x10000) / 0x400 →
        low.toNat = 0xDC00 + (character.toNat - 0x10000) % 0x400 → Encodes character [high, low]

theorem encodeChar_encodes (character : Char) : Encodes character (encodeChar character) := by
  have isScalar := Utf8.bounds_of_char character
  rw [encodeChar]
  split
  case isTrue isBasic =>
    have unit := toNat_toUInt16 isBasic
    refine .basic unit ?_
    simp only [isSurrogate, isHigh, isLow, Bool.or_eq_false_iff, Bool.and_eq_false_iff,
      decide_eq_false_iff_not, UInt16.le_iff_toNat_le, UInt16.lt_iff_toNat_lt,
      UInt16.reduceToNat, unit]
    omega
  case isFalse isAstral =>
    have high := toNat_toUInt16
      (show 0xD800 + (character.toNat - 0x10000) / 0x400 < 0x10000 by omega)
    have low := toNat_toUInt16
      (show 0xDC00 + (character.toNat - 0x10000) % 0x400 < 0x10000 by omega)
    refine .pair (by omega) ?isHigh ?isLow high low
    case isHigh =>
      simp only [isHigh, Bool.and_eq_true, decide_eq_true_iff, UInt16.le_iff_toNat_le,
        UInt16.lt_iff_toNat_lt, UInt16.reduceToNat, high]
      omega
    case isLow =>
      simp only [isLow, Bool.and_eq_true, decide_eq_true_iff, UInt16.le_iff_toNat_le,
        UInt16.lt_iff_toNat_lt, UInt16.reduceToNat, low]
      omega

/-- The first character of a text is read from its own units alone. -/
theorem decode_encodeChar (character : Char) (rest : Units) :
    decode (encodeChar character ++ rest) = character :: decode rest := by
  have same : Char.ofNat character.toNat = character := character.ofNat_toNat
  have encodes := encodeChar_encodes character
  generalize encodeChar character = units at encodes ⊢
  cases encodes with
  | basic unit plain =>
      have notHigh := (Bool.or_eq_false_iff.mp plain).1
      cases rest with
      | nil => simp [decode, plain, unit, same]
      | cons next rest => simp [decode, plain, notHigh, unit, same]
  | pair isAstral isHigh isLow high low =>
      have isScalar := Utf8.bounds_of_char character
      have value : 0x10000 + (0xD800 + (character.toNat - 0x10000) / 0x400 - 0xD800) * 0x400 +
          (0xDC00 + (character.toNat - 0x10000) % 0x400 - 0xDC00) = character.toNat := by
        omega
      simp only [List.cons_append, List.nil_append, decode, isHigh, isLow, Bool.and_self, if_true]
      rw [Utf16.pair, high, low, value, same]

/-! ## Whole texts -/

theorem decode_encode (characters : List Char) : decode (encode characters) = characters := by
  induction characters with
  | nil => rfl
  | cons character rest ih =>
      rw [encode, List.flatMap_cons, decode_encodeChar]
      exact congrArg (character :: ·) ih

/-- Decoding replaces the unpaired surrogates and loses nothing else. -/
theorem encode_decode (units : Units) : encode (decode units) = repaired units := by
  rw [← repairedAfter_eq]
  fun_induction decode units with
  | case1 => rfl
  | case2 unit =>
      have alone : isAlone none unit none = isSurrogate unit := by
        simp [isAlone, isSurrogate]
      rw [encode, List.flatMap_singleton, repairedAfter, repairedAfter, List.head?_nil, alone]
      cases surrogate : isSurrogate unit with
      | false => exact encodeChar_ofNat surrogate
      | true => exact encodeChar_replacement
  | case3 unit next rest paired ih =>
      rw [Bool.and_eq_true] at paired
      have notLow : isLow unit = false := not_isLow_of_isHigh paired.1
      have notHigh : isHigh next = false := not_isHigh_of_isLow paired.2
      have first : isAlone none unit (some next) = false := by
        simp [isAlone, paired.2, notLow]
      have second : isAlone (some unit) next rest.head? = false := by
        simp [isAlone, paired.1, notHigh]
      rw [encode, List.flatMap_cons, encodeChar_pair paired.1 paired.2, repairedAfter,
        repairedAfter, List.head?_cons, first, second,
        repairedAfter_of_unpaired (.inl notHigh), ← ih]
      rfl
  | case4 unit next rest unpaired surrogate ih =>
      rw [Bool.not_eq_true, Bool.and_eq_false_iff] at unpaired
      have alone : isAlone none unit (some next) = true := by
        simp only [isSurrogate, Bool.or_eq_true] at surrogate
        obtain high | low := surrogate
        · simp [isAlone, high, unpaired.resolve_left (by simp [high])]
        · simp [isAlone, low]
      rw [encode, List.flatMap_cons, encodeChar_replacement, repairedAfter, List.head?_cons,
        alone, repairedAfter_of_unpaired unpaired, ← ih]
      rfl
  | case5 unit next rest unpaired plain ih =>
      rw [Bool.not_eq_true] at plain
      have plainly := plain
      rw [isSurrogate, Bool.or_eq_false_iff] at plainly
      have alone : isAlone none unit (some next) = false := by
        simp [isAlone, plainly]
      rw [encode, List.flatMap_cons, encodeChar_ofNat plain, repairedAfter, List.head?_cons,
        alone, repairedAfter_of_unpaired (.inl plainly.1), ← ih]
      rfl

theorem isWellFormed_encode (characters : List Char) : IsWellFormed (encode characters) := by
  rw [← repaired_eq_iff, ← encode_decode, decode_encode]

theorem IsWellFormed.encode_decode {units : Units} (isWellFormed : IsWellFormed units) :
    encode (decode units) = units :=
  (Utf16.encode_decode units).trans (repaired_eq_iff.mpr isWellFormed)

theorem IsWellFormed.tail {unit : UInt16} {rest : Units}
    (isWellFormed : IsWellFormed (unit :: rest)) (isNoHigh : isHigh unit = false) :
    IsWellFormed rest := by
  intro position
  rw [← isWellFormed (position + 1)]
  cases position with
  | zero => simp [isUnpaired, isAlone, unitBefore, isNoHigh]
  | succ position => simp [isUnpaired, unitBefore]

theorem toUtf8_ofString (text : String) : toUtf8 (ofString text) = Utf8.ofString text := by
  rw [toUtf8, ofString, decode_encode, Utf8.ofString]

/-! ## Zeros -/

theorem ne_zero_of_mem {character : Char} (isNonzero : character ≠ '\x00') {unit : UInt16}
    (isUnit : unit ∈ encodeChar character) : unit ≠ 0 := by
  have isNonzero : character.toNat ≠ 0 := fun isZero => isNonzero (Char.toNat_inj.mp isZero)
  have encodes := encodeChar_encodes character
  generalize encodeChar character = units at encodes isUnit
  rw [ne_eq, ← UInt16.toNat_inj]
  cases encodes with
  | basic isValue plain =>
      rw [List.mem_singleton.mp isUnit, isValue]
      exact isNonzero
  | pair isAstral isHigh isLow highBits lowBits =>
      simp only [List.mem_cons, List.not_mem_nil, or_false] at isUnit
      rcases isUnit with rfl | rfl <;> simp <;> omega

theorem takeWhile_encode (characters : List Char) :
    (encode characters).takeWhile (· ≠ 0) = encode (characters.takeWhile (· ≠ '\x00')) := by
  refine takeWhile_flatMap (fun character isMore unit isUnit => ?whole)
    (fun character isZero => ?ends) characters
  case whole => exact decide_eq_true (ne_zero_of_mem (of_decide_eq_true isMore) isUnit)
  case ends =>
    obtain rfl : character = '\x00' := by simpa using isZero
    exact ⟨0, [], rfl, rfl⟩

theorem zero_mem_encode {characters : List Char} :
    0 ∈ encode characters ↔ '\x00' ∈ characters := by
  rw [encode, List.mem_flatMap]
  constructor
  · rintro ⟨character, isThere, isUnit⟩
    by_cases isZero : character = '\x00'
    · exact isZero ▸ isThere
    · exact absurd rfl (ne_zero_of_mem isZero isUnit)
  · intro isThere
    exact ⟨'\x00', isThere, List.mem_singleton_self 0⟩

theorem zero_mem_repaired {units : Units} : 0 ∈ repaired units ↔ 0 ∈ units := by
  simp only [List.mem_iff_getElem?, repaired, List.getElem?_mapIdx]
  constructor
  · rintro ⟨position, isZero⟩
    obtain ⟨unit, isThere, isRepaired⟩ := Option.map_eq_some_iff.mp isZero
    split at isRepaired
    · exact absurd isRepaired (by decide)
    · exact ⟨position, isRepaired ▸ isThere⟩
  · rintro ⟨position, isThere⟩
    have isPaired : isUnpaired units position = false := by
      simp [isUnpaired, isThere, isAlone, isHigh, isLow]
    exact ⟨position, by simp [isThere, isPaired]⟩

theorem zero_mem_toUtf8 {units : Units} : 0 ∈ toUtf8 units ↔ 0 ∈ units := by
  rw [toUtf8, Utf8.zero_mem_encode, ← zero_mem_encode, encode_decode, zero_mem_repaired]

/-! ## Shares -/

/-- The bytes that a unit of well-formed text accounts for. A character outside the basic plane
takes four, two for each unit of its pair. -/
def share (unit : UInt16) : Nat :=
  if unit < 0x80 then 1
  else if unit < 0x800 ∨ isSurrogate unit then 2
  else 3

/-- The bytes that each unit accounts for, where an unpaired surrogate takes those of U+FFFD. -/
def shares (units : Units) : List Nat :=
  units.mapIdx fun position unit => if isUnpaired units position then 3 else share unit

example : shares [0x41, 0xE9, 0x20AC, 0xD83D, 0xDE00, 0xD83D] = [1, 2, 3, 2, 2, 3] := rfl

variable (units : Units)

@[simp] theorem length_shares : (shares units).length = units.length :=
  List.length_mapIdx

theorem shares_eq_map : shares units = (repaired units).map share := by
  refine List.ext_getElem? fun position => ?_
  simp only [shares, repaired, List.getElem?_map, List.getElem?_mapIdx, Option.map_map]
  congr 1
  funext unit
  rw [Function.comp_apply, apply_ite share]
  rfl

theorem share_of_surrogate {unit : UInt16} (surrogate : isSurrogate unit = true) :
    share unit = 2 := by
  grind [share, isSurrogate, isHigh, isLow]

theorem share_bounds {units : Units} {size : Nat} (isThere : size ∈ shares units) :
    1 ≤ size ∧ size ≤ 3 := by
  rw [shares_eq_map] at isThere
  obtain ⟨unit, -, rfl⟩ := List.mem_map.mp isThere
  unfold share
  repeat' split
  all_goals decide

/-! ## Sizes of texts -/

theorem sum_share_encodeChar (character : Char) :
    ((encodeChar character).map share).sum = (Utf8.encodeChar character).length := by
  have encodes := encodeChar_encodes character
  generalize encodeChar character = units at encodes
  rw [Utf8.length_encodeChar]
  cases encodes with
  | @basic unit isValue isPlain =>
      have isUnit := unit.toNat_lt
      simp only [List.map_cons, List.map_nil, List.sum_singleton, share, isPlain,
        UInt16.lt_iff_toNat_lt, UInt16.reduceToNat, isValue]
      grind
  | pair isAstral isHigh isLow _ _ =>
      rw [List.map_cons, List.map_cons, share_of_surrogate (Bool.or_eq_true_iff.mpr (.inl isHigh)),
        share_of_surrogate (Bool.or_eq_true_iff.mpr (.inr isLow))]
      grind

theorem length_toUtf8 : (toUtf8 units).length = (shares units).sum := by
  rw [shares_eq_map, ← encode_decode, toUtf8]
  induction decode units with
  | nil => rfl
  | cons character rest induction =>
      rw [Utf8.encode, encode, List.flatMap_cons, List.flatMap_cons, List.length_append,
        List.map_append, List.sum_append, sum_share_encodeChar]
      exact congrArg (_ + ·) induction

theorem length_toUtf8_le : (toUtf8 units).length ≤ 3 * units.length := by
  have isBelow := List.sum_le_card_nsmul (shares units) 3 fun _ isThere => (share_bounds isThere).2
  rw [length_shares, smul_eq_mul] at isBelow
  rw [length_toUtf8]
  omega

theorem le_length_toUtf8 : units.length ≤ (toUtf8 units).length := by
  have isAbove := List.card_nsmul_le_sum (shares units) 1 fun _ isThere => (share_bounds isThere).1
  rw [length_shares, smul_eq_mul] at isAbove
  rw [length_toUtf8]
  omega

theorem toUtf8_eq_nil {units : Units} : toUtf8 units = [] ↔ units = [] := by
  constructor
  · intro isEmpty
    have isShort := le_length_toUtf8 units
    rw [isEmpty] at isShort
    exact List.eq_nil_of_length_eq_zero (Nat.le_zero.mp isShort)
  · rintro rfl
    rfl

/-! ## The longest texts -/

theorem sum_eq_of_le {sizes : List Nat} {most : Nat} (areBelow : ∀ size ∈ sizes, size ≤ most) :
    sizes.sum = most * sizes.length ↔ ∀ size ∈ sizes, most ≤ size := by
  induction sizes with
  | nil => simp
  | cons size rest induction =>
      obtain ⟨isBelow, restBelow⟩ := List.forall_mem_cons.mp areBelow
      have isRest := List.sum_le_card_nsmul rest most restBelow
      rw [smul_eq_mul, Nat.mul_comm] at isRest
      rw [List.sum_cons, List.length_cons, Nat.mul_succ, List.forall_mem_cons,
        ← induction restBelow]
      omega

theorem length_toUtf8_eq_iff :
    (toUtf8 units).length = 3 * units.length ↔ ∀ size ∈ shares units, 3 ≤ size := by
  rw [length_toUtf8, ← length_shares, sum_eq_of_le fun _ isThere => (share_bounds isThere).2]

/-- No share is smaller than three bytes exactly if every unit is an unpaired surrogate or stands
for a character from U+0800 on by itself. -/
theorem three_le_shares_iff {units : Units} : (∀ size ∈ shares units, 3 ≤ size) ↔
    ∀ position unit, units[position]? = some unit →
      isUnpaired units position ∨ 0x800 ≤ unit ∧ isSurrogate unit = false := by
  have isThree (unit : UInt16) : 3 ≤ share unit ↔ 0x800 ≤ unit ∧ isSurrogate unit = false := by
    unfold share
    grind
  simp only [List.mem_iff_getElem?, shares, List.getElem?_mapIdx, Option.map_eq_some_iff]
  constructor
  · intro areThree position unit isThere
    have := areThree _ ⟨position, unit, isThere, rfl⟩
    split at this
    · exact .inl ‹_›
    · exact .inr ((isThree unit).mp this)
  · rintro areLong size ⟨position, unit, isThere, rfl⟩
    split
    · exact Nat.le_refl 3
    · exact (isThree unit).mpr ((areLong position unit isThere).resolve_left ‹_›)

end EmbeddedSql.Utf16
