import EmbeddedSql.Text.Base64

/-! Base64 is undone by a decoder that takes nothing but what `Base64.encode` writes: full groups of
four letters, padding in the last of them only, and no bits that belong to no byte. -/

namespace EmbeddedSql.Base64

/-! ## Letters -/

def value? (letter : Char) : Option Nat :=
  if 'A' ≤ letter ∧ letter ≤ 'Z' then some (letter.toNat - 0x41)
  else if 'a' ≤ letter ∧ letter ≤ 'z' then some (letter.toNat - 0x61 + 26)
  else if '0' ≤ letter ∧ letter ≤ '9' then some (letter.toNat - 0x30 + 52)
  else if letter = '+' then some 62
  else if letter = '/' then some 63
  else none

theorem value?_letter {value : Nat} (isBelow : value < 64) :
    value? (letter value) = some value := by
  revert value
  decide

theorem letter_ne_padding {value : Nat} (isBelow : value < 64) : letter value ≠ '=' := by
  revert value
  decide

/-! ## Groups -/

def decodeFull? (first second third fourth : Char) : Option Bytes := do
  let bits := (((← value? first) * 0x40 + (← value? second)) * 0x40 + (← value? third)) * 0x40 +
    (← value? fourth)
  return [(bits / 0x10000).toUInt8, (bits / 0x100).toUInt8, bits.toUInt8]

/-- The last four letters, of which the third and the fourth may be padding. -/
def decodeLast? (first second third fourth : Char) : Option Bytes :=
  if fourth ≠ '=' then decodeFull? first second third fourth
  else if third ≠ '=' then do
    let bits := ((← value? first) * 0x40 + (← value? second)) * 0x40 + (← value? third)
    if bits % 4 = 0 then some [(bits / 0x400).toUInt8, (bits / 4).toUInt8] else none
  else do
    let bits := (← value? first) * 0x40 + (← value? second)
    if bits % 0x10 = 0 then some [(bits / 0x10).toUInt8] else none

def decode? : List Char → Option Bytes
  | [] => some []
  | [first, second, third, fourth] => decodeLast? first second third fourth
  | first :: second :: third :: fourth :: rest => do
      return (← decodeFull? first second third fourth) ++ (← decode? rest)
  | _ => none

section
variable (first second third : UInt8)

theorem decodeFull?_letters :
    let bits := first.toNat * 0x10000 + second.toNat * 0x100 + third.toNat
    decodeFull? (letter (bits / 0x40000)) (letter (bits / 0x1000 % 0x40))
      (letter (bits / 0x40 % 0x40)) (letter (bits % 0x40)) = some [first, second, third] := by
  intro bits
  have isFirst := first.toNat_lt
  have isSecond := second.toNat_lt
  have isThird := third.toNat_lt
  have regroups : ((bits / 0x40000 * 0x40 + bits / 0x1000 % 0x40) * 0x40 +
      bits / 0x40 % 0x40) * 0x40 + bits % 0x40 = bits := by omega
  rw [decodeFull?, value?_letter (by omega), value?_letter (by omega), value?_letter (by omega),
    value?_letter (by omega)]
  simp only [Option.bind_eq_bind, Option.bind_some, Option.pure_def, regroups]
  simp only [Nat.toUInt8, Option.some.injEq, List.cons.injEq, and_true, ← UInt8.toNat_inj,
    UInt8.toNat_ofNat']
  omega

theorem decodeLast?_letters :
    let bits := first.toNat * 0x10000 + second.toNat * 0x100 + third.toNat
    decodeLast? (letter (bits / 0x40000)) (letter (bits / 0x1000 % 0x40))
      (letter (bits / 0x40 % 0x40)) (letter (bits % 0x40)) = some [first, second, third] := by
  intro bits
  rw [decodeLast?, if_pos (letter_ne_padding (by omega))]
  exact decodeFull?_letters first second third

theorem decodeLast?_one_pad :
    let bits := first.toNat * 0x10000 + second.toNat * 0x100
    decodeLast? (letter (bits / 0x40000)) (letter (bits / 0x1000 % 0x40))
      (letter (bits / 0x40 % 0x40)) '=' = some [first, second] := by
  intro bits
  have isFirst := first.toNat_lt
  have isSecond := second.toNat_lt
  have regroups : (bits / 0x40000 * 0x40 + bits / 0x1000 % 0x40) * 0x40 + bits / 0x40 % 0x40 =
      first.toNat * 0x400 + second.toNat * 4 := by omega
  rw [decodeLast?, if_neg (by decide), if_pos (letter_ne_padding (by omega)),
    value?_letter (by omega), value?_letter (by omega), value?_letter (by omega),
    Option.bind_eq_bind, Option.bind_some, Option.bind_some, Option.bind_some, regroups]
  dsimp only
  rw [if_pos (by omega)]
  simp only [Nat.toUInt8, Option.some.injEq, List.cons.injEq, and_true, ← UInt8.toNat_inj,
    UInt8.toNat_ofNat']
  omega

theorem decodeLast?_two_pads :
    let bits := first.toNat * 0x10000
    decodeLast? (letter (bits / 0x40000)) (letter (bits / 0x1000 % 0x40)) '=' '=' =
      some [first] := by
  intro bits
  have isFirst := first.toNat_lt
  have regroups : bits / 0x40000 * 0x40 + bits / 0x1000 % 0x40 = first.toNat * 0x10 := by omega
  rw [decodeLast?, if_neg (by decide), if_neg (by decide), value?_letter (by omega),
    value?_letter (by omega), Option.bind_eq_bind, Option.bind_some, Option.bind_some, regroups]
  dsimp only
  rw [if_pos (by omega)]
  simp only [Nat.toUInt8, Option.some.injEq, List.cons.injEq, and_true, ← UInt8.toNat_inj,
    UInt8.toNat_ofNat']
  omega

end

/-! ## Texts -/

theorem encode_ne_nil {bytes : Bytes} (isThere : bytes ≠ []) : encode bytes ≠ [] := by
  unfold encode
  split <;> simp_all

theorem decode?_group {rest : List Char} (goesOn : rest ≠ []) (first second third fourth : Char) :
    decode? (first :: second :: third :: fourth :: rest) =
      (decodeFull? first second third fourth).bind fun bytes =>
        (decode? rest).map (bytes ++ ·) := by
  rw [decode?]
  · cases decodeFull? first second third fourth with
    | none => rfl
    | some bytes => cases decode? rest <;> rfl
  · exact goesOn

/-- Bytes of any number, in groups of three, come back from base64. -/
theorem decode?_encode (bytes : Bytes) : decode? (encode bytes) = some bytes := by
  induction bytes using encode.induct with
  | case1 => rfl
  | case2 first => exact decodeLast?_two_pads first
  | case3 first second => exact decodeLast?_one_pad first second
  | case4 first second third rest induction =>
      rw [encode]
      cases rest with
      | nil => exact decodeLast?_letters first second third
      | cons next rest =>
          rw [decode?_group (encode_ne_nil (by simp)), decodeFull?_letters, induction]
          rfl

example : decode? "+//+YQ==".toList = some [0xFB, 0xFF, 0xFE, 0x61] := rfl

end EmbeddedSql.Base64
