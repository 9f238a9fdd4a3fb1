import EmbeddedSql.Proofs.Text.Utf16
import EmbeddedSql.Session.Request

/-! What renting and giving back do to one pool. A pool is balanced with respect
to the buffers that are out: it stays within its configuration, and no buffer is
both idle and out, or either of them twice. A pool that lends a buffer for one text at a time, and
has it back before the next, ends up with at most one idle buffer more.

Nothing of a rented buffer's past shows, so the bytes of text in it depend on the text alone. -/

namespace EmbeddedSql.Scratch

variable (growth : Growth)

/-! ## Buffers -/

namespace Buffer

variable (needed : Nat) (bytes : Bytes) (buffer : Buffer)

@[simp] theorem reserve_serial : (buffer.reserve growth needed).serial = buffer.serial := by
  unfold reserve
  split <;> rfl

@[simp] theorem reserve_contents : (buffer.reserve growth needed).contents = buffer.contents := by
  unfold reserve
  split <;> rfl

theorem le_reserve_capacity : needed ≤ (buffer.reserve growth needed).capacity := by
  unfold reserve
  split
  · exact growth.enough buffer.capacity needed
  · omega

@[simp] theorem append_serial : (buffer.append growth bytes).serial = buffer.serial := by
  simp [append]

end Buffer

namespace Pool

variable (minimum : Nat) (buffer : Buffer) (pool : Pool)

/-! ## Renting -/

@[simp] theorem rent_config : (pool.rent growth minimum).2.config = pool.config := by
  unfold rent
  split <;> rfl

theorem rent_contents : (pool.rent growth minimum).1.contents = [] := by
  unfold rent
  split <;> simp

theorem le_rent_capacity : minimum ≤ (pool.rent growth minimum).1.capacity := by
  unfold rent
  split
  · exact Buffer.le_reserve_capacity growth minimum _
  · exact growth.enough 0 minimum

theorem rent_available : (pool.rent growth minimum).2.available = pool.available - 1 := by
  unfold rent available
  split <;> simp [*]

/-! ## Giving back -/

@[simp] theorem giveBack_config : (pool.giveBack buffer).config = pool.config := by
  unfold giveBack
  dsimp only
  repeat' split
  all_goals rfl

theorem giveBack_available :
    (pool.giveBack buffer).available =
      if buffer.capacity ≤ pool.config.maxBufferLength.toNat ∧
          pool.available < pool.config.maxRetained.toNat then
        pool.available + 1
      else pool.available := by
  unfold giveBack available
  dsimp only
  split
  · rw [if_neg (by omega)]
  · split
    · rw [if_pos (by omega), List.length_cons]
    · rw [if_neg (by omega)]

/-! ## Balance -/

def idleSerials : List Nat :=
  pool.idle.map (·.serial)

/-- A pool while the buffers with the given serial numbers are out. -/
structure Balanced (out : List Nat) : Prop where
  fewIdle : pool.available ≤ pool.config.maxRetained.toNat
  smallIdle : ∀ buffer ∈ pool.idle, buffer.capacity ≤ pool.config.maxBufferLength.toNat
  /-- Each buffer is idle once or out once. -/
  once : (pool.idleSerials ++ out).Nodup
  areAllocated : ∀ serial ∈ pool.idleSerials ++ out, serial < pool.allocated

namespace Balanced

variable {growth minimum buffer pool} {out others : List Nat}

theorem new (config : PoolConfig) : Balanced { config } [] where
  fewIdle := Nat.zero_le _
  smallIdle := nofun
  once := .nil
  areAllocated := nofun

theorem ofPerm (balanced : pool.Balanced out) (same : out.Perm others) :
    pool.Balanced others where
  fewIdle := balanced.fewIdle
  smallIdle := balanced.smallIdle
  once := (same.append_left _).nodup_iff.mp balanced.once
  areAllocated serial isThere :=
    balanced.areAllocated serial ((same.append_left _).mem_iff.mpr isThere)

theorem rent (balanced : pool.Balanced out) :
    (pool.rent growth minimum).2.Balanced ((pool.rent growth minimum).1.serial :: out) := by
  cases idle : pool.idle with
  | nil =>
      -- a new buffer has a serial number that no other has
      have isNew : pool.allocated ∉ out := fun isOut =>
        Nat.lt_irrefl _ (balanced.areAllocated _ (List.mem_append_right _ isOut))
      have once := balanced.once
      have areAllocated := balanced.areAllocated
      simp only [idleSerials, idle, List.map_nil, List.nil_append] at once areAllocated
      simp only [Pool.rent, idle]
      refine ⟨by simp [available], by simp, by simp [idleSerials, *], ?_⟩
      intro serial isThere
      rcases List.mem_cons.mp (by simpa [idleSerials, idle] using isThere) with rfl | isOut
      · exact Nat.lt_succ_self _
      · exact Nat.lt_succ_of_lt (areAllocated serial isOut)
  | cons recycled rest =>
      have moved : (rest.map (·.serial) ++ recycled.serial :: out).Perm
          (pool.idleSerials ++ out) := by
        simp [idleSerials, idle, List.perm_middle]
      have fewIdle : rest.length + 1 ≤ pool.config.maxRetained.toNat := by
        simpa [available, idle] using balanced.fewIdle
      simp only [Pool.rent, idle]
      refine ⟨Nat.le_of_succ_le fewIdle, fun buffer isThere => ?_, ?_, fun serial isThere => ?_⟩
      · exact balanced.smallIdle buffer (by simp [idle, isThere])
      · simpa [idleSerials] using moved.nodup_iff.mpr balanced.once
      · exact balanced.areAllocated serial
          (moved.mem_iff.mp (by simpa [idleSerials] using isThere))

theorem giveBack (balanced : pool.Balanced (buffer.serial :: out)) :
    (pool.giveBack buffer).Balanced out := by
  have moved : (pool.idleSerials ++ buffer.serial :: out).Perm
      (buffer.serial :: (pool.idleSerials ++ out)) := List.perm_middle
  have once := moved.nodup_iff.mp balanced.once
  have areAllocated (serial : Nat) (isThere : serial ∈ buffer.serial :: (pool.idleSerials ++ out)) :
      serial < pool.allocated :=
    balanced.areAllocated serial (moved.mem_iff.mpr isThere)
  have dropped : pool.Balanced out :=
    ⟨balanced.fewIdle, balanced.smallIdle, once.of_cons,
      fun serial isThere => areAllocated serial (List.mem_cons_of_mem _ isThere)⟩
  unfold Pool.giveBack
  dsimp only
  split
  · exact ⟨dropped.fewIdle, dropped.smallIdle, dropped.once, dropped.areAllocated⟩
  · rename_i isSmall
    split
    · rename_i isRoom
      refine ⟨isRoom, ?_, once, areAllocated⟩
      rintro other (_ | ⟨_, isThere⟩)
      · exact Nat.le_of_not_lt isSmall
      · exact balanced.smallIdle other isThere
    · exact ⟨dropped.fewIdle, dropped.smallIdle, dropped.once, dropped.areAllocated⟩

end Balanced

end Pool

end EmbeddedSql.Scratch

namespace EmbeddedSql.Session

open Scratch

theorem Encoding.encode_rents (encoding : Encoding) (growth : Growth) (pool : Pool) :
    ∃ minimum, (encoding.encode growth pool).1.buffer.serial =
        (pool.rent growth minimum).1.serial ∧
      (encoding.encode growth pool).2 = (pool.rent growth minimum).2 := by
  cases encoding with
  | ofUtf16 units => exact ⟨_, Buffer.append_serial .., rfl⟩
  | ofUtf16Terminated units =>
      exact ⟨_, (Buffer.append_serial ..).trans (Buffer.append_serial ..), rfl⟩
  | ofUtf8Terminated bytes =>
      exact ⟨_, (Buffer.append_serial ..).trans (Buffer.append_serial ..), rfl⟩

end EmbeddedSql.Session

/-! ## Encoded text -/

namespace EmbeddedSql.Scratch.Encoded

variable (growth : Growth) (units : Utf16.Units) (bytes : Bytes) (text : String) (pool : Pool)

@[simp] theorem ofUtf16_contents :
    (ofUtf16 growth units pool).1.buffer.contents = Utf16.toUtf8 units := by
  simp [ofUtf16, Buffer.append, Pool.rent_contents]

@[simp] theorem ofUtf16Terminated_contents :
    (ofUtf16Terminated growth units pool).1.buffer.contents = Utf16.toUtf8 units ++ [0] := by
  simp [ofUtf16Terminated, Buffer.append, Pool.rent_contents]

@[simp] theorem ofUtf8Terminated_contents :
    (ofUtf8Terminated growth bytes pool).1.buffer.contents = bytes ++ [0] := by
  simp [ofUtf8Terminated, Buffer.append, Pool.rent_contents]

@[simp] theorem ofUtf16_bytes : (ofUtf16 growth units pool).1.bytes = Utf16.toUtf8 units :=
  ofUtf16_contents growth units pool

@[simp] theorem ofUtf16Terminated_bytes :
    (ofUtf16Terminated growth units pool).1.bytes = Utf16.toUtf8 units := by
  rw [Encoded.bytes, ofUtf16Terminated_contents]
  exact List.dropLast_concat

@[simp] theorem ofUtf8Terminated_bytes : (ofUtf8Terminated growth bytes pool).1.bytes = bytes := by
  rw [Encoded.bytes, ofUtf8Terminated_contents]
  exact List.dropLast_concat

/-! ## Transcoding is exact -/

/-- The bytes are the UTF-8 form of some characters, which decoding them gives
back, and the UTF-16 form of these characters is that of the text. -/
def IsTranscoded (units : Utf16.Units) (bytes : Bytes) : Prop :=
  ∃ characters : List Char, bytes.toByteArray = characters.utf8Encode ∧
    Utf8.decode bytes = characters ∧ Utf16.encode characters = Utf16.repaired units

theorem isTranscoded_toUtf8 : IsTranscoded units (Utf16.toUtf8 units) := by
  refine ⟨Utf16.decode units, ?_, Utf8.decode_encode _, Utf16.encode_decode units⟩
  exact Utf8.toByteArray_encode _

/-- Whatever the pool and the text, transcoding gives well-formed bytes and replaces the unpaired
surrogates and nothing else, with or without a terminator. So a text comes back unchanged exactly
when it is well-formed, and a string gives the same bytes from both of its forms. -/
theorem transcoding_exact :
    (ofUtf16 growth units pool).1.bytes.toByteArray.IsValidUTF8 ∧
    IsTranscoded units (ofUtf16 growth units pool).1.bytes ∧
    (ofUtf16Terminated growth units pool).1.bytes = (ofUtf16 growth units pool).1.bytes ∧
    (Utf16.encode (Utf8.decode (ofUtf16 growth units pool).1.bytes) = units ↔
      Utf16.IsWellFormed units) ∧
    (∀ others : Pool,
      (ofUtf16 growth (Utf16.ofString text) pool).1.bytes =
        (ofUtf8Terminated growth (Utf8.ofString text) others).1.bytes ∧
      (ofUtf16Terminated growth (Utf16.ofString text) pool).1.bytes =
        (ofUtf8Terminated growth (Utf8.ofString text) others).1.bytes) ∧
    Utf16.IsWellFormed (Utf16.ofString text) := by
  refine ⟨?valid, ?exact, ?terminated, ?unchanged, fun others => ⟨?plain, ?closed⟩, ?wellFormed⟩
  case valid =>
    rw [ofUtf16_bytes]
    exact Utf8.isValidUTF8_encode (Utf16.decode units)
  case exact =>
    rw [ofUtf16_bytes]
    exact isTranscoded_toUtf8 units
  case terminated => rw [ofUtf16_bytes, ofUtf16Terminated_bytes]
  case unchanged =>
    rw [ofUtf16_bytes, Utf16.toUtf8, Utf8.decode_encode, Utf16.encode_decode]
    exact Utf16.repaired_eq_iff
  case plain => rw [ofUtf16_bytes, ofUtf8Terminated_bytes, Utf16.toUtf8_ofString]
  case closed => rw [ofUtf16Terminated_bytes, ofUtf8Terminated_bytes, Utf16.toUtf8_ofString]
  case wellFormed => exact Utf16.isWellFormed_encode text.toList

end EmbeddedSql.Scratch.Encoded

namespace EmbeddedSql.Scratch

variable {growth : Growth}

/-! ## Buffers with room enough -/

theorem Buffer.append_of_fits {buffer : Buffer} {bytes : Bytes}
    (fits : buffer.contents.length + bytes.length ≤ buffer.capacity) :
    buffer.append growth bytes = { buffer with contents := buffer.contents ++ bytes } := by
  simp [append, reserve, Nat.not_lt.mpr fits]

theorem Buffer.append_capacity {buffer : Buffer} {bytes : Bytes}
    (fits : buffer.contents.length + bytes.length ≤ buffer.capacity) :
    (buffer.append growth bytes).capacity = buffer.capacity := by
  rw [append_of_fits fits]

@[simp] theorem Buffer.append_contents (buffer : Buffer) (bytes : Bytes) :
    (buffer.append growth bytes).contents = buffer.contents ++ bytes := rfl

theorem Buffer.append_terminated_capacity {buffer : Buffer} {bytes : Bytes}
    (isEmpty : buffer.contents = []) (fits : bytes.length + 1 ≤ buffer.capacity) :
    ((buffer.append growth bytes).append growth [0]).capacity = buffer.capacity := by
  have fitsText : (buffer.append growth bytes).capacity = buffer.capacity :=
    append_capacity (by simp [isEmpty]; omega)
  rw [append_capacity, fitsText]
  simp [fitsText, isEmpty]
  omega

theorem Buffer.reserve_capacity_of_exact {buffer : Buffer} {needed : Nat}
    (isExact : ∀ capacity needed, growth.next capacity needed = needed) :
    (buffer.reserve growth needed).capacity = max buffer.capacity needed := by
  unfold reserve
  split
  · simp only [isExact]
    omega
  · omega

namespace Pool

variable {pool left last middle : Pool} {buffer filled : Buffer} {room minimum : Nat}
  {rooms others out : List Nat}

@[simp] theorem rent_rented (growth : Growth) (minimum : Nat) (pool : Pool) :
    (pool.rent growth minimum).2.rented = pool.rented + 1 := by
  unfold rent
  split <;> rfl

@[simp] theorem rent_mostRented (growth : Growth) (minimum : Nat) (pool : Pool) :
    (pool.rent growth minimum).2.mostRented = max pool.mostRented (pool.rented + 1) := by
  unfold rent
  split <;> rfl

@[simp] theorem giveBack_rented (buffer : Buffer) (pool : Pool) :
    (pool.giveBack buffer).rented = pool.rented - 1 := by
  simp only [giveBack]
  repeat' split
  all_goals rfl

@[simp] theorem giveBack_mostRented (buffer : Buffer) (pool : Pool) :
    (pool.giveBack buffer).mostRented = pool.mostRented := by
  simp only [giveBack]
  repeat' split
  all_goals rfl

/-! ## One buffer -/

/-- A buffer has been rented and filled with a text that takes `room` bytes at most. The pool has
been asked for as much as that, unless no size is large enough. -/
structure LendsBuffer (growth : Growth) (room minimum : Nat) (pool left : Pool)
    (filled : Buffer) : Prop where
  asked : room ≤ maxSize → minimum = room
  isLeft : left = (pool.rent growth minimum).2
  serial : filled.serial = (pool.rent growth minimum).1.serial
  capacity : room ≤ maxSize → filled.capacity = (pool.rent growth minimum).1.capacity

namespace LendsBuffer

theorem ofUtf8Terminated (growth : Growth) (bytes : Bytes) (pool : Pool) :
    LendsBuffer growth (bytes.length + 1) (bytes.length + 1) pool
      (Encoded.ofUtf8Terminated growth bytes pool).2
      (Encoded.ofUtf8Terminated growth bytes pool).1.buffer where
  asked _ := rfl
  isLeft := rfl
  serial := by simp [Encoded.ofUtf8Terminated]
  capacity _ := by
    have isEnough := le_rent_capacity growth (bytes.length + 1) pool
    have isEmpty := rent_contents growth (bytes.length + 1) pool
    exact Buffer.append_terminated_capacity isEmpty isEnough

theorem ofUtf16Terminated (growth : Growth) (units : Utf16.Units) (pool : Pool) :
    LendsBuffer growth (3 * units.length + 1) (utf8Capacity units.length + 1) pool
      (Encoded.ofUtf16Terminated growth units pool).2
      (Encoded.ofUtf16Terminated growth units pool).1.buffer where
  asked isSize := by
    simp only [utf8Capacity]
    omega
  isLeft := rfl
  serial := by simp [Encoded.ofUtf16Terminated]
  capacity isSize := by
    have isRoom : utf8Capacity units.length = 3 * units.length := by
      simp only [utf8Capacity]
      omega
    have isEnough := le_rent_capacity growth (utf8Capacity units.length + 1) pool
    have isEmpty := rent_contents growth (utf8Capacity units.length + 1) pool
    have isShort := Utf16.length_toUtf8_le units
    have fits : (Utf16.toUtf8 units).length + 1 ≤
        (pool.rent growth (utf8Capacity units.length + 1)).1.capacity := by
      omega
    exact Buffer.append_terminated_capacity isEmpty fits

theorem ofUtf16 (growth : Growth) (units : Utf16.Units) (pool : Pool) :
    LendsBuffer growth (3 * units.length) (utf8Capacity units.length) pool
      (Encoded.ofUtf16 growth units pool).2 (Encoded.ofUtf16 growth units pool).1.buffer where
  asked isSize := by
    simp only [utf8Capacity]
    omega
  isLeft := rfl
  serial := by simp [Encoded.ofUtf16]
  capacity isSize := by
    have isRoom : utf8Capacity units.length = 3 * units.length := by
      simp only [utf8Capacity]
      omega
    have isEnough := le_rent_capacity growth (utf8Capacity units.length) pool
    have isEmpty := rent_contents growth (utf8Capacity units.length) pool
    have isShort := Utf16.length_toUtf8_le units
    have fits : (pool.rent growth (utf8Capacity units.length)).1.contents.length +
        (Utf16.toUtf8 units).length ≤
          (pool.rent growth (utf8Capacity units.length)).1.capacity := by
      simp only [isEmpty, List.length_nil]
      omega
    exact Buffer.append_capacity fits

variable (lends : LendsBuffer growth room minimum pool left filled)
include lends

/-- The buffer is small enough to be kept, if its text and the idle buffers are. -/
theorem capacity_le (balanced : pool.Balanced out)
    (isExact : ∀ capacity needed, growth.next capacity needed = needed)
    (isSmall : room ≤ pool.config.maxBufferLength.toNat) :
    filled.capacity ≤ pool.config.maxBufferLength.toNat := by
  have isSize : room ≤ maxSize := by
    have bound := pool.config.maxBufferLength.toNat_lt
    simp only [maxSize]
    omega
  rw [lends.capacity isSize, lends.asked isSize]
  cases idle : pool.idle with
  | nil => simpa [rent, idle, isExact] using isSmall
  | cons recycled rest =>
      have wasSmall := balanced.smallIdle recycled (by simp [idle])
      simp only [rent, idle, Buffer.reserve_capacity_of_exact isExact]
      exact Nat.max_le.mpr ⟨wasSmall, isSmall⟩

theorem available_giveBack (balanced : pool.Balanced out)
    (isExact : ∀ capacity needed, growth.next capacity needed = needed)
    (isSmall : room ≤ pool.config.maxBufferLength.toNat)
    (keeps : 1 ≤ pool.config.maxRetained.toNat) :
    (left.giveBack filled).available = max pool.available 1 := by
  have isKept := lends.capacity_le balanced isExact isSmall
  have fewIdle := balanced.fewIdle
  rw [giveBack_available, lends.isLeft, rent_config, rent_available]
  split <;> omega

end LendsBuffer

/-! ## One buffer after the other -/

/-- For each of the rooms a buffer is lent, and comes back before the next one is. -/
inductive Lends (growth : Growth) : List Nat → Pool → Pool → Prop
  | nothing (pool : Pool) : Lends growth [] pool pool
  | text {room minimum : Nat} {rooms : List Nat} {pool left last : Pool} {filled : Buffer} :
      LendsBuffer growth room minimum pool left filled →
      Lends growth rooms (left.giveBack filled) last → Lends growth (room :: rooms) pool last

namespace Lends

theorem one (lends : LendsBuffer growth room minimum pool left filled) :
    Lends growth [room] pool (left.giveBack filled) :=
  .text lends (.nothing _)

theorem trans (first : Lends growth rooms pool middle) (second : Lends growth others middle last) :
    Lends growth (rooms ++ others) pool last := by
  induction first with
  | nothing pool => exact second
  | text lends rest induction => exact .text lends (induction second)

variable (lends : Lends growth rooms pool last)
include lends

theorem config_eq : last.config = pool.config := by
  induction lends with
  | nothing pool => rfl
  | text lends rest induction => simp [induction, lends.isLeft]

theorem rented_eq : last.rented = pool.rented := by
  induction lends with
  | nothing pool => rfl
  | text lends rest induction => simp [induction, lends.isLeft]

theorem mostRented_le : last.mostRented ≤ max pool.mostRented (pool.rented + 1) := by
  induction lends with
  | nothing pool => exact Nat.le_max_left _ _
  | text lends rest induction =>
      simp only [lends.isLeft, giveBack_mostRented, giveBack_rented, rent_mostRented,
        rent_rented] at induction
      omega

/-- Whatever else is out stays out. -/
theorem balanced (balanced : pool.Balanced out) : last.Balanced out := by
  induction lends with
  | nothing pool => exact balanced
  | text lends rest induction =>
      apply induction
      apply Balanced.giveBack
      rw [lends.serial, lends.isLeft]
      exact balanced.rent

theorem available_bounds (balanced : pool.Balanced out)
    (isExact : ∀ capacity needed, growth.next capacity needed = needed)
    (areSmall : ∀ room ∈ rooms, room ≤ pool.config.maxBufferLength.toNat)
    (keeps : 1 ≤ pool.config.maxRetained.toNat) :
    pool.available ≤ last.available ∧ last.available ≤ max pool.available 1 := by
  induction lends with
  | nothing pool => exact ⟨Nat.le_refl _, Nat.le_max_left _ _⟩
  | text lends rest induction =>
      have here := lends.available_giveBack balanced isExact
        (areSmall _ List.mem_cons_self) keeps
      have same := (Lends.one lends).config_eq
      rw [← same] at keeps areSmall
      have later := induction ((Lends.one lends).balanced balanced)
        (fun room isThere => areSmall room (List.mem_cons_of_mem _ isThere)) keeps
      omega

end Lends

end Pool

end EmbeddedSql.Scratch
