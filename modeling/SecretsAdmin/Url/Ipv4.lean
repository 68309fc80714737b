import SecretsAdmin.Text.Hex

namespace SecretsAdmin.Url.Ipv4

/-!
# IPv4 addresses

An address is written as up to four numbers with dots between them, each in decimal, octal or
hexadecimal digits. The last number stands for all bytes that the others leave.
-/

/-- The number that digits stand for in a base, if all of them are digits of that base. -/
def numberIn?
    (base : Nat)
    (digits : List Char) :
    Option Nat :=
  digits.foldlM
    (fun number digit =>
      match Hex.value? digit.toNat with
      | some value => if value < base then some (number * base + value) else none
      | none => none)
    0

/-- The number that a part of an IPv4 address stands for: in hexadecimal, octal or decimal. -/
def number? : List Char → Option Nat
  | [] => none
  | '0' :: 'x' :: digits => numberIn? 16 digits
  | '0' :: 'X' :: digits => numberIn? 16 digits
  | '0' :: digit :: digits => numberIn? 8 (digit :: digits)
  | digits => numberIn? 10 digits

/-- The parts of a name between dots; an empty part at the end is left out. -/
def parts (name : List Char) : List (List Char) :=
  let parts := name.splitOn '.'
  if parts.getLast? = some [] then parts.dropLast else parts

/-- Whether the last part of a name is a number, so that the name has to be an IPv4 address. -/
def endsInNumber (name : List Char) : Bool :=
  match (parts name).getLast? with
  | none => false
  | some last =>
      (!last.isEmpty && last.all Char.isDigit) || (number? last).isSome

/-- The address of numbers: the last one fills all bytes that the others leave. -/
def ofNumbers? (numbers : List Nat) : Option Nat := do
  let last ← numbers.getLast?
  let others := numbers.dropLast
  if 3 < others.length ∨ others.any (255 < ·) ∨ Nat.pow 256 (4 - others.length) ≤ last then
    none
  else
    let high := others.foldl (fun address number => address * 256 + number) 0
    some (high * Nat.pow 256 (4 - others.length) + last)

/-- The address that a name with numbers stands for. -/
def parse? (name : List Char) : Option Nat := do
  ofNumbers? (← (parts name).mapM number?)

/-- The four bytes of an address in decimal. -/
def text (address : Nat) : String :=
  ".".intercalate <| [0x1000000, 0x10000, 0x100, 1].map fun weight =>
    toString (address / weight % 256)

end SecretsAdmin.Url.Ipv4
