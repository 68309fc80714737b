import Mathlib.Data.List.Forall2
import SecretsAdmin.Text.Hex
import SecretsAdmin.Text.Utf8

namespace SecretsAdmin.Json

/-!
# The grammar of JSON texts

Which characters write which strings and numbers, how elements and members are laid out between
brackets, and what JSON is at all. Nothing here refers to a reader. The strings have no escapes
of lone surrogates, since what they spell is text.
-/

/-- Whether characters are blanks, which may stand around every part of an array or object. -/
def AreBlank (written : List Char) : Prop :=
  ∀ character ∈ written, character ∈ [' ', '\t', '\n', '\r']

/-! ## Strings -/

/-- Whether a character is the digit of either case for a number below sixteen. -/
def IsHexDigit (digit : Char) (number : Nat) : Prop :=
  number < 16 ∧ (digit = Hex.lowerDigit number ∨ digit = Hex.upperDigit number)

/-- Whether four hexadecimal digits write a number. -/
def IsUnit (digits : List Char) (number : Nat) : Prop :=
  ∃ first second third fourth,
    List.Forall₂ IsHexDigit digits [first, second, third, fourth] ∧
      number = ((first * 16 + second) * 16 + third) * 16 + fourth

/-- The letters that stand behind a backslash for one character, with the character. -/
def shortEscapes : List (Char × Char) :=
  [('"', '"'), ('\\', '\\'), ('/', '/'), ('b', '\x08'), ('f', '\x0c'), ('n', '\n'), ('r', '\r'),
    ('t', '\t')]

/--
Whether characters stand for a text between quotes. A character beyond the first 65536 is itself
or a pair of surrogates.
-/
inductive StandsFor : (written : List Char) → (text : List Char) → Prop where
  | nil :
      StandsFor [] []
  | plain
      {character : Char}
      {written text : List Char}
      (notControl : 0x20 ≤ character.toNat)
      (notQuote : character ≠ '"')
      (notBackslash : character ≠ '\\')
      (others : StandsFor written text) :
      StandsFor (character :: written) (character :: text)
  | short
      {letter character : Char}
      {written text : List Char}
      (isEscape : (letter, character) ∈ shortEscapes)
      (others : StandsFor written text) :
      StandsFor ('\\' :: letter :: written) (character :: text)
  | unit
      {digits : List Char}
      {character : Char}
      {written text : List Char}
      (isUnit : IsUnit digits character.toNat)
      (others : StandsFor written text) :
      StandsFor ('\\' :: 'u' :: (digits ++ written)) (character :: text)
  | pair
      {high low : List Char}
      {character : Char}
      {written text : List Char}
      (isBeyond : 0x10000 ≤ character.toNat)
      (isHigh : IsUnit high (0xD800 + (character.toNat - 0x10000) / 0x400))
      (isLow : IsUnit low (0xDC00 + (character.toNat - 0x10000) % 0x400))
      (others : StandsFor written text) :
      StandsFor ('\\' :: 'u' :: (high ++ '\\' :: 'u' :: (low ++ written))) (character :: text)

/-- Whether characters write a string: a text between quotes. -/
def SpellsText (written : List Char) (text : String) : Prop :=
  ∃ inside, written = '"' :: (inside ++ ['"']) ∧ StandsFor inside text.toList

/-! ## Numbers -/

/-- Whether characters are one decimal digit or more. -/
def AreDigits (written : List Char) : Prop :=
  written ≠ [] ∧ ∀ digit ∈ written, digit.isDigit = true

/-- Whether characters are the digits of a whole number, without leading zeros. -/
def IsWhole (written : List Char) : Prop :=
  AreDigits written ∧ (written.head? = some '0' → written = ['0'])

/-- Whether characters are a fraction, or nothing. -/
def IsFraction (written : List Char) : Prop :=
  written = [] ∨ ∃ digits, AreDigits digits ∧ written = '.' :: digits

/-- Whether characters are an exponent, or nothing. -/
def IsExponent (written : List Char) : Prop :=
  written = [] ∨
    ∃ letter sign digits,
      letter ∈ ['e', 'E'] ∧ sign ∈ [[], ['+'], ['-']] ∧ AreDigits digits ∧
        written = letter :: (sign ++ digits)

/-- Whether characters write a number. -/
def IsNumber (written : List Char) : Prop :=
  ∃ sign whole fraction exponent,
    sign ∈ [[], ['-']] ∧ IsWhole whole ∧ IsFraction fraction ∧ IsExponent exponent ∧
      written = sign ++ (whole ++ (fraction ++ exponent))

/-- Whether characters write a whole number of 64 bits, other than a zero with a sign. -/
def SpellsInteger (written : List Char) (number : Int64) : Prop :=
  ∃ whole, IsWhole whole ∧
    ((written = whole ∧ number.toInt = Nat.ofDigitChars 10 whole 0) ∨
      (written = '-' :: whole ∧ whole ≠ ['0'] ∧
        number.toInt = -(Nat.ofDigitChars 10 whole 0 : Int)))

/-! ## Brackets -/

/-- Whether items stand behind another one: each behind a comma, with any blanks around it. -/
inductive AreBehind : (written : List Char) → (items : List (List Char)) → Prop where
  | nil
      {blanks : List Char}
      (areBlank : AreBlank blanks) :
      AreBehind blanks []
  | cons
      {after before item behind : List Char}
      {items : List (List Char)}
      (blankAfter : AreBlank after)
      (blankBefore : AreBlank before)
      (others : AreBehind behind items) :
      AreBehind (after ++ ',' :: (before ++ (item ++ behind))) (item :: items)

/-- Whether items stand with commas between them and any blanks around them. -/
inductive AreListed : (written : List Char) → (items : List (List Char)) → Prop where
  | nil
      {blanks : List Char}
      (areBlank : AreBlank blanks) :
      AreListed blanks []
  | cons
      {before item behind : List Char}
      {items : List (List Char)}
      (blankBefore : AreBlank before)
      (others : AreBehind behind items) :
      AreListed (before ++ (item ++ behind)) (item :: items)

/-- Whether characters are a pair of brackets with items between them. -/
def Encloses
    (opening closing : Char)
    (written : List Char)
    (items : List (List Char)) :
    Prop :=
  ∃ inside, AreListed inside items ∧ written = opening :: (inside ++ [closing])

/-- A member of an object: its name, and the characters of its value. -/
structure Member where
  name : String
  value : List Char

/-- Whether characters are a member: its name as a string, a colon and its value. -/
def SpellsMember (written : List Char) (member : Member) : Prop :=
  ∃ name before after,
    SpellsText name member.name ∧ AreBlank before ∧ AreBlank after ∧
      written = name ++ (before ++ ':' :: (after ++ member.value))

/-! ## Values -/

/-- Whether characters are JSON. -/
inductive IsJson : (written : List Char) → Prop where
  | null :
      IsJson ['n', 'u', 'l', 'l']
  | true :
      IsJson ['t', 'r', 'u', 'e']
  | false :
      IsJson ['f', 'a', 'l', 's', 'e']
  | number
      {written : List Char}
      (isNumber : IsNumber written) :
      IsJson written
  | text
      {written : List Char}
      {text : String}
      (spells : SpellsText written text) :
      IsJson written
  | array
      {written : List Char}
      {items : List (List Char)}
      (encloses : Encloses '[' ']' written items)
      (areJson : ∀ item ∈ items, IsJson item) :
      IsJson written
  | object
      {written : List Char}
      {items : List (List Char)}
      {members : List Member}
      (encloses : Encloses '\x7b' '\x7d' written items)
      (spells : List.Forall₂ SpellsMember items members)
      (areJson : ∀ member ∈ members, IsJson member.value) :
      IsJson written

/-- Whether characters are an array of JSON values. -/
def IsArray (written : List Char) (items : List (List Char)) : Prop :=
  Encloses '[' ']' written items ∧ ∀ item ∈ items, IsJson item

/-- Whether characters are an object with members, the values of which are JSON. -/
def IsObject (written : List Char) (members : List Member) : Prop :=
  (∃ items,
    Encloses '\x7b' '\x7d' written items ∧ List.Forall₂ SpellsMember items members) ∧
    ∀ member ∈ members, IsJson member.value

end SecretsAdmin.Json
