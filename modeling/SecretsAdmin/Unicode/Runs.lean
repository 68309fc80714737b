namespace SecretsAdmin.Unicode

/-!
# Tables of properties of characters

A property of characters is the same for long runs of code points, so its table lists the lengths
of the runs from code point 0 on. The numbers are written in base 36 with blanks between them.
-/

/-- The number of a digit in base 36. -/
def digitNumber (digit : Char) : Nat :=
  if digit.isDigit then digit.toNat - 0x30 else digit.toNat - 0x61 + 10

/-- The number of a word of digits. -/
def wordNumber (word : List Char) : Nat :=
  word.foldl (fun number digit => number * 36 + digitNumber digit) 0

/-- The numbers of a table. -/
def numbers (lines : List String) : List Nat :=
  lines.flatMap fun line => (line.toList.splitOn ' ').map wordNumber

/-- Whether a code point has a property; runs without and with it follow each other in turn. -/
def isInRuns : (runs : List Nat) → (code : Nat) → Bool
  | without :: length :: rest, code =>
      if code < without then false
      else if code < without + length then true
      else isInRuns rest (code - without - length)
  | _, _ => false

/-- The value of a property at a code point; the length of each run is followed by the value. -/
def valueInRuns : (runs : List Nat) → (code : Nat) → Nat
  | length :: value :: rest, code =>
      if code < length then value else valueInRuns rest (code - length)
  | _, _ => 0

end SecretsAdmin.Unicode
