namespace SecretsAdmin.Url.Punycode

/-!
# Encoded labels of host names

A label of a host name that begins with `xn--` encodes characters outside ASCII: each number that
its digits write says which character comes next and where it is inserted.
-/

/-- The number of a digit of the encoding. -/
def digit? (character : Char) : Option Nat :=
  let code := character.toNat
  if 0x61 ≤ code ∧ code ≤ 0x7A then some (code - 0x61)
  else if 0x41 ≤ code ∧ code ≤ 0x5A then some (code - 0x41)
  else if 0x30 ≤ code ∧ code ≤ 0x39 then some (code - 0x30 + 26)
  else none

/-- The greatest digit that ends a number at a place. -/
def threshold (place bias : Nat) : Nat :=
  if place ≤ bias then 1 else if bias + 26 ≤ place then 26 else place - bias

/-- Divide a delta until it is small, and count the divisions. -/
def shrink : (fuel : Nat) → (delta : Nat) → (place : Nat) → Nat × Nat
  | 0, delta, place => (delta, place)
  | fuel + 1, delta, place =>
      if 455 < delta then shrink fuel (delta / 35) (place + 36) else (delta, place)

/-- The bias after a delta. -/
def adapt
    (delta : Nat)
    (count : Nat)
    (first : Bool) :
    Nat :=
  let halved := if first then delta / 700 else delta / 2
  let (rest, place) := shrink 64 (halved + halved / count) 0
  place + 36 * rest / (rest + 38)

/-- What is known while an encoded label is read. -/
structure State where
  /-- The code points so far. -/
  found : List Nat
  /-- The code point to insert next, at least. -/
  code : Nat
  /-- Where the next code point would be inserted if the number being read were zero. -/
  start : Nat
  bias : Nat
  /-- The number being read, counted from the start: the weight and the place of its next digit. -/
  index : Nat
  weight : Nat
  place : Nat

/-- The greatest number that the encoding may use. -/
def greatest : Nat := 0xFFFFFFFF

/-- Insert the code point that a finished number stands for. -/
def State.insert?
    (state : State)
    (index : Nat) :
    Option State :=
  let count := state.found.length + 1
  let code := state.code + index / count
  let position := index % count
  if code.isValidChar then
    some {
      found := state.found.take position ++ code :: state.found.drop position
      code := code
      start := position + 1
      bias := adapt (index - state.start) count (state.start == 0)
      index := position + 1
      weight := 1
      place := 36 }
  else
    none

/-- Take one digit into account. -/
def State.digit?
    (state : State)
    (value : Nat) :
    Option State :=
  let index := state.index + value * state.weight
  let bound := threshold state.place state.bias
  let weight := state.weight * (36 - bound)
  if greatest < index then none
  else if value < bound then state.insert? index
  else if greatest < weight then none
  else some { state with index, weight, place := state.place + 36 }

/-- Read all digits; the last one must end a number. -/
def readDigits : State → List Char → Option (List Nat)
  | state, [] => if state.place = 36 then some state.found else none
  | state, character :: rest => do
      let value ← Punycode.digit? character
      readDigits (← state.digit? value) rest

/--
The code points of an encoded label, without what marks it as encoded. Those in ASCII stand before
the last hyphen, if there are any.
-/
def decode? (label : List Char) : Option (List Nat) :=
  let reversed := label.reverse
  let digits := (reversed.takeWhile (· ≠ '-')).reverse
  match reversed.dropWhile (· ≠ '-') with
  | ['-'] => none
  | front => readDigits ⟨(front.drop 1).reverse.map Char.toNat, 0x80, 0, 72, 0, 1, 36⟩ digits

end SecretsAdmin.Url.Punycode
