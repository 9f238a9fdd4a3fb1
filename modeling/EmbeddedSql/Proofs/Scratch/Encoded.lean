import EmbeddedSql.Proofs.Scratch.Pool

/-! Encoded text in its buffer: what a zero-terminated reader sees of it, and that it never takes
more room than was asked for. -/

namespace EmbeddedSql.Scratch

variable (growth : Growth) (units : Utf16.Units) (bytes : Bytes) (pool : Pool)

/-! ## Views -/

namespace Encoded

theorem cString?_of_bytes {encoded : Encoded} {bytes : Bytes} (isTerminated : encoded.terminated)
    (isBytes : encoded.bytes = bytes) :
    encoded.cString? = if bytes.contains 0 then none else some bytes := by
  rw [cString?, isTerminated, isBytes]
  cases bytes.contains 0 <;> rfl

theorem isEmpty_iff {encoded : Encoded} : encoded.isEmpty = true ↔ encoded.bytes = [] := by
  rw [isEmpty, length, decide_eq_true_iff, List.length_eq_zero_iff]

/-- A text stands in its buffer with an ending after it. Zero-terminated readers are given it under
one condition, and it is empty under another. -/
structure Shows (encoded : Encoded) (text ending : Bytes) (isSeen isNothing : Prop) : Prop where
  bytes : encoded.bytes = text
  bytesWithTerminator : encoded.bytesWithTerminator = encoded.bytes ++ ending
  cString : ∀ seen, encoded.cString? = some seen ↔ isSeen ∧ seen = encoded.bytes
  /-- What is given to a reader that stops at the first zero is not cut short. -/
  beforeZero : isSeen → encoded.bytesWithTerminator.beforeZero = encoded.bytes
  length : encoded.length = encoded.bytes.length
  isEmpty : encoded.isEmpty = true ↔ isNothing

theorem shows_of_terminated {encoded : Encoded} {text : Bytes} {isSeen isNothing : Prop}
    (isTerminated : encoded.terminated = true) (isText : encoded.bytes = text)
    (isStored : encoded.buffer.contents = text ++ [0]) (noZero : 0 ∉ text ↔ isSeen)
    (noText : text = [] ↔ isNothing) : encoded.Shows text [0] isSeen isNothing where
  bytes := isText
  bytesWithTerminator := isStored.trans (congrArg (· ++ [0]) isText.symm)
  cString seen := by
    rw [cString?_of_bytes isTerminated isText, isText, ← noZero]
    by_cases isZero : 0 ∈ text
    · simp [isZero]
    · simp [isZero, eq_comm]
  beforeZero isSeen := by
    rw [bytesWithTerminator, isStored, isText, Bytes.beforeZero_concat_zero]
    exact noZero.mpr isSeen
  length := rfl
  isEmpty := by rw [isEmpty_iff, isText, noText]

/-- Zero-terminated readers are given a terminated text exactly if there is no zero in what it was
made from, and then the whole of it. Text without a terminator they are never given. -/
theorem given_whole :
    (ofUtf16 growth units pool).1.Shows (Utf16.toUtf8 units) [] False (units = []) ∧
    (ofUtf16Terminated growth units pool).1.Shows (Utf16.toUtf8 units) [0] (0 ∉ units)
      (units = []) ∧
    (ofUtf8Terminated growth bytes pool).1.Shows bytes [0] (0 ∉ bytes) (bytes = []) := by
  refine ⟨?plain, ?wide, ?narrow⟩
  case plain =>
    have isText := ofUtf16_bytes growth units pool
    exact {
      bytes := isText
      bytesWithTerminator := (List.append_nil _).symm
      cString := by simp [cString?, ofUtf16]
      beforeZero := False.elim
      length := rfl
      isEmpty := by rw [isEmpty_iff, isText, Utf16.toUtf8_eq_nil] }
  case wide =>
    exact shows_of_terminated rfl (ofUtf16Terminated_bytes growth units pool)
      (ofUtf16Terminated_contents growth units pool) (not_congr Utf16.zero_mem_toUtf8)
      Utf16.toUtf8_eq_nil
  case narrow =>
    exact shows_of_terminated rfl (ofUtf8Terminated_bytes growth bytes pool)
      (ofUtf8Terminated_contents growth bytes pool) Iff.rfl Iff.rfl

end Encoded

/-! ## Room -/

namespace Buffer

def appendEach (pieces : List Bytes) (buffer : Buffer) : Buffer :=
  pieces.foldl (fun buffer piece => buffer.append growth piece) buffer

variable {growth} {pool} {buffer : Buffer} {pieces : List Bytes} {minimum : Nat}

theorem appendEach_of_fits
    (fits : buffer.contents.length + pieces.flatten.length ≤ buffer.capacity) :
    buffer.appendEach growth pieces =
      { buffer with contents := buffer.contents ++ pieces.flatten } := by
  induction pieces generalizing buffer with
  | nil => simp [appendEach]
  | cons piece rest induction =>
      rw [List.flatten_cons, List.length_append] at fits
      have fitsPiece : buffer.contents.length + piece.length ≤ buffer.capacity := by omega
      change (buffer.append growth piece).appendEach growth rest = _
      rw [append_of_fits fitsPiece, induction (by simp only [List.length_append]; omega),
        List.flatten_cons, List.append_assoc]

theorem appendEach_concat (last : Bytes) : buffer.appendEach growth (pieces ++ [last]) =
    (buffer.appendEach growth pieces).append growth last :=
  List.foldl_concat _ _ _ _

/-- A rented buffer has been filled piece by piece, and at no piece it has grown, since no more has
been written than was asked for. -/
structure FilledInPlace (growth : Growth) (minimum : Nat) (pieces : List Bytes)
    (rented filled : Buffer) : Prop where
  isFilled : filled = rented.appendEach growth pieces
  isShort : filled.contents.length ≤ minimum
  isRoom : minimum ≤ rented.capacity
  neverGrows : ∀ count, (rented.appendEach growth (pieces.take count)).capacity = rented.capacity
  capacity : filled.capacity = rented.capacity

theorem fits_of_rent (isShort : pieces.flatten.length ≤ minimum) :
    (pool.rent growth minimum).1.contents.length + pieces.flatten.length ≤
      (pool.rent growth minimum).1.capacity := by
  rw [Pool.rent_contents, List.length_nil, Nat.zero_add]
  exact Nat.le_trans isShort (pool.le_rent_capacity growth minimum)

theorem length_flatten_take_le (count : Nat) :
    (pieces.take count).flatten.length ≤ pieces.flatten.length := by
  conv => rhs; rw [← List.take_append_drop count pieces, List.flatten_append, List.length_append]
  exact Nat.le_add_right _ _

theorem rent_filledInPlace (isShort : pieces.flatten.length ≤ minimum) :
    FilledInPlace growth minimum pieces (pool.rent growth minimum).1
      ((pool.rent growth minimum).1.appendEach growth pieces) where
  isFilled := rfl
  isShort := by
    rw [appendEach_of_fits (fits_of_rent isShort), Pool.rent_contents, List.nil_append]
    exact isShort
  isRoom := pool.le_rent_capacity growth minimum
  neverGrows count := by
    have isShorter := Nat.le_trans (length_flatten_take_le count) isShort
    rw [appendEach_of_fits (fits_of_rent isShorter)]
  capacity := by rw [appendEach_of_fits (fits_of_rent isShort)]

end Buffer

namespace Encoded

/-- The characters of a text in UTF-8, in the order in which they are written. -/
def pieces (units : Utf16.Units) : List Bytes :=
  (Utf16.decode units).map Utf8.encodeChar

theorem flatten_pieces : (pieces units).flatten = Utf16.toUtf8 units :=
  List.flatMap_def.symm

variable {units pool}

/-- Writing a text at once comes to the same as writing it character by character, in a buffer with
room for all of it. -/
theorem append_toUtf8 {minimum : Nat} (isShort : (Utf16.toUtf8 units).length ≤ minimum) :
    (pool.rent growth minimum).1.append growth (Utf16.toUtf8 units) =
      (pool.rent growth minimum).1.appendEach growth (pieces units) := by
  rw [← flatten_pieces] at isShort ⊢
  rw [Buffer.appendEach_of_fits (Buffer.fits_of_rent isShort),
    Buffer.append_of_fits (Buffer.fits_of_rent isShort)]

variable {growth}

theorem ofUtf16_filledInPlace (isRoom : (Utf16.toUtf8 units).length ≤ utf8Capacity units.length) :
    Buffer.FilledInPlace growth (utf8Capacity units.length) (pieces units)
      (pool.rent growth (utf8Capacity units.length)).1 (ofUtf16 growth units pool).1.buffer := by
  have isFilled : (ofUtf16 growth units pool).1.buffer =
      (pool.rent growth (utf8Capacity units.length)).1.appendEach growth (pieces units) :=
    append_toUtf8 growth isRoom
  rw [isFilled]
  exact Buffer.rent_filledInPlace (by rwa [flatten_pieces])

theorem ofUtf16Terminated_filledInPlace
    (isRoom : (Utf16.toUtf8 units).length ≤ utf8Capacity units.length) :
    Buffer.FilledInPlace growth (utf8Capacity units.length + 1) (pieces units ++ [[0]])
      (pool.rent growth (utf8Capacity units.length + 1)).1
      (ofUtf16Terminated growth units pool).1.buffer := by
  have isFilled : (ofUtf16Terminated growth units pool).1.buffer =
      (pool.rent growth (utf8Capacity units.length + 1)).1.appendEach growth
        (pieces units ++ [[0]]) := by
    rw [Buffer.appendEach_concat, ← append_toUtf8 growth (Nat.le_succ_of_le isRoom)]
    rfl
  rw [isFilled]
  exact Buffer.rent_filledInPlace (by simpa [flatten_pieces] using isRoom)

variable (growth pool)

/-- For every text that a slice can hold, the room that is asked for is three bytes for a unit and
is a 64-bit size, with the terminator too. The text never takes more, so the buffer stays as large
as it was rented. It takes all of the room exactly if each unit has a share of three bytes: if it
is an unpaired surrogate, or stands for a character from U+0800 on by itself. -/
theorem room_suffices (isSlice : 2 * units.length ≤ 2 ^ 63 - 1) :
    utf8Capacity units.length = 3 * units.length ∧
    utf8Capacity units.length + 1 ≤ 2 ^ 64 - 1 ∧
    (Utf16.toUtf8 units).length ≤ utf8Capacity units.length ∧
    Buffer.FilledInPlace growth (utf8Capacity units.length) (pieces units)
      (pool.rent growth (utf8Capacity units.length)).1 (ofUtf16 growth units pool).1.buffer ∧
    Buffer.FilledInPlace growth (utf8Capacity units.length + 1) (pieces units ++ [[0]])
      (pool.rent growth (utf8Capacity units.length + 1)).1
      (ofUtf16Terminated growth units pool).1.buffer ∧
    (Utf16.toUtf8 units).length = (Utf16.shares units).sum ∧
    ((Utf16.toUtf8 units).length = utf8Capacity units.length ↔
      ∀ size ∈ Utf16.shares units, 3 ≤ size) ∧
    ((∀ size ∈ Utf16.shares units, 3 ≤ size) ↔
      ∀ position unit, units[position]? = some unit →
        Utf16.isUnpaired units position ∨ 0x800 ≤ unit ∧ Utf16.isSurrogate unit = false) := by
  have isTriple : utf8Capacity units.length = 3 * units.length := by
    rw [utf8Capacity, maxSize]
    omega
  have isRoom : (Utf16.toUtf8 units).length ≤ utf8Capacity units.length :=
    isTriple ▸ Utf16.length_toUtf8_le units
  refine ⟨isTriple, ?isSize, isRoom, ofUtf16_filledInPlace isRoom,
    ofUtf16Terminated_filledInPlace isRoom, Utf16.length_toUtf8 units, ?isFull,
    Utf16.three_le_shares_iff⟩
  case isSize => omega
  case isFull => rw [isTriple, Utf16.length_toUtf8_eq_iff]

/-- Units that take three bytes each, the last of them with the first half of a pair. -/
def fullUnits : Utf16.Units :=
  [0x20AC, 0x0800, 0xD83D]

def usedPool : Pool where
  idle := [{ serial := 0, capacity := 4, contents := [1, 2, 3] }]
  allocated := 1

theorem room_suffices_fullUnits :
    2 * fullUnits.length ≤ 2 ^ 63 - 1 ∧
      Buffer.FilledInPlace .doubling 10 (pieces fullUnits ++ [[0]])
        (usedPool.rent .doubling 10).1 (ofUtf16Terminated .doubling fullUnits usedPool).1.buffer ∧
      (Utf16.toUtf8 fullUnits).length = utf8Capacity fullUnits.length := by
  have isSlice : 2 * fullUnits.length ≤ 2 ^ 63 - 1 := by decide
  obtain ⟨-, -, -, -, filled, -, isFull, -⟩ :=
    room_suffices .doubling usedPool isSlice
  exact ⟨isSlice, filled, isFull.mpr (by decide)⟩

end Encoded

end EmbeddedSql.Scratch
