import SecretsAdmin.Text.Utf8

namespace SecretsAdmin.Base64

/-!
# Base64

The standard alphabet with padding. Reading is strict: it accepts no text that writing would
not produce, so every byte string has exactly one written form.
-/

/-- The character of a number below sixty-four. -/
def symbol (value : Nat) : Char :=
  if value < 26 then Char.ofNat (0x41 + value)
  else if value < 52 then Char.ofNat (0x61 + (value - 26))
  else if value < 62 then Char.ofNat (0x30 + (value - 52))
  else if value = 62 then '+'
  else '/'

/-- The number of a character of the alphabet. -/
def value? (character : Char) : Option Nat :=
  let code := character.toNat
  if 0x41 ≤ code ∧ code ≤ 0x5A then some (code - 0x41)
  else if 0x61 ≤ code ∧ code ≤ 0x7A then some (code - 0x61 + 26)
  else if 0x30 ≤ code ∧ code ≤ 0x39 then some (code - 0x30 + 52)
  else if character = '+' then some 62
  else if character = '/' then some 63
  else none

/-- Put the characters of bytes in front of those written so far, the latest first. -/
def encodeOnto (written : List Char) : Octets → List Char
  | [] => written
  | [first] =>
      let bits := first.toNat * 16
      '=' :: '=' :: symbol (bits % 64) :: symbol (bits / 64) :: written
  | [first, second] =>
      let bits := (first.toNat * 256 + second.toNat) * 4
      '=' :: symbol (bits % 64) :: symbol (bits / 64 % 64) ::
        symbol (bits / 4096) :: written
  | first :: second :: third :: rest =>
      let bits := (first.toNat * 256 + second.toNat) * 256 + third.toNat
      encodeOnto
        (symbol (bits % 64) :: symbol (bits / 64 % 64) ::
          symbol (bits / 4096 % 64) :: symbol (bits / 262144) :: written)
        rest

/-- The padded text of bytes. -/
def encode (octets : Octets) : String :=
  String.ofList (encodeOnto [] octets).reverse

/-- Put the bytes of a text in front of those read so far, the latest first. -/
def decodeOnto (found : Octets) : List Char → Option Octets
  | [] => some found
  | [first, second, '=', '='] => do
      let bits := (← value? first) * 64 + (← value? second)
      if bits % 16 = 0 then
        some (UInt8.ofNat (bits / 16) :: found)
      else
        none
  | [first, second, third, '='] => do
      let bits := ((← value? first) * 64 + (← value? second)) * 64 + (← value? third)
      if bits % 4 = 0 then
        some (UInt8.ofNat (bits / 4 % 256) :: UInt8.ofNat (bits / 1024) :: found)
      else
        none
  | first :: second :: third :: fourth :: rest =>
      match value? first, value? second, value? third, value? fourth with
      | some first, some second, some third, some fourth =>
          let bits := ((first * 64 + second) * 64 + third) * 64 + fourth
          decodeOnto
            (UInt8.ofNat (bits % 256) :: UInt8.ofNat (bits / 256 % 256) ::
              UInt8.ofNat (bits / 65536) :: found)
            rest
      | _, _, _, _ => none
  | _ => none

/-- The bytes of a text, if it is the padded text of some bytes. -/
def decode? (text : String) : Option Octets :=
  (decodeOnto [] text.toList).map List.reverse

end SecretsAdmin.Base64
