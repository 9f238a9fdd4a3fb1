import EmbeddedSql.Text.Bytes

/-! Base64 with the standard alphabet and padding. -/

namespace EmbeddedSql.Base64

def letter (value : Nat) : Char :=
  if value < 26 then Char.ofNat (value + 0x41)
  else if value < 52 then Char.ofNat (value - 26 + 0x61)
  else if value < 62 then Char.ofNat (value - 52 + 0x30)
  else if value = 62 then '+'
  else '/'

/-- Three bytes make four letters; a last group of one or two bytes is filled
up with padding. -/
def encode : Bytes → List Char
  | [] => []
  | [first] =>
      let bits := first.toNat * 0x10000
      [letter (bits / 0x40000), letter (bits / 0x1000 % 0x40), '=', '=']
  | [first, second] =>
      let bits := first.toNat * 0x10000 + second.toNat * 0x100
      [letter (bits / 0x40000), letter (bits / 0x1000 % 0x40), letter (bits / 0x40 % 0x40), '=']
  | first :: second :: third :: rest =>
      let bits := first.toNat * 0x10000 + second.toNat * 0x100 + third.toNat
      letter (bits / 0x40000) :: letter (bits / 0x1000 % 0x40) ::
        letter (bits / 0x40 % 0x40) :: letter (bits % 0x40) :: encode rest

example : String.ofList (encode [0xFB, 0xFF, 0xFE]) = "+//+" := rfl
example : String.ofList (encode [0x61]) = "YQ==" := rfl

end EmbeddedSql.Base64
