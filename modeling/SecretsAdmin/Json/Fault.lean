import SecretsAdmin.Decimal.Layout
import SecretsAdmin.Text.Quoted
import SecretsAdmin.Text.Utf8

namespace SecretsAdmin.Json

/-!
# Faults of JSON texts

What can be wrong with a text, where it is reported, and at which place of the document it was
found. A fault carries the part of the text that was not yet consumed, so its line and column
follow from the text itself.
-/

/-- What a reader wants to find. -/
inductive Wanted where
  | text
  | integer
  | boolean
  | sequence
  | map
  /-- A record with a title and a number of fields. -/
  | record (title : String) (fields : Nat)
  deriving DecidableEq, Repr

/-- The words for what a reader wants to find. -/
def Wanted.words : Wanted → String
  | text => "a string"
  | integer => "i64"
  | boolean => "a boolean"
  | sequence => "a sequence"
  | map => "a map"
  | record title _ => "struct " ++ title

/-- The words for a record together with its number of fields. -/
def Wanted.countedWords : Wanted → String
  | record title 1 => "struct " ++ title ++ " with 1 element"
  | record title fields => "struct " ++ title ++ " with " ++ toString fields ++ " elements"
  | other => other.words

/-- What stands in the text instead. -/
inductive Found where
  | null
  | boolean (value : Bool)
  | integer (value : Int)
  | real (value : Binary64)
  | text (value : String)
  | sequence
  | map
  deriving DecidableEq, Repr

/-- The words for what stands in the text. -/
def Found.words : Found → String
  | null => "null"
  | boolean true => "boolean `true`"
  | boolean false => "boolean `false`"
  | integer value => "integer `" ++ toString value ++ "`"
  | real value => "floating point `" ++ value.text ++ "`"
  | text value => "string " ++ Text.quoted value
  | sequence => "sequence"
  | map => "map"

/-- The sort of a fault. -/
inductive Category where
  /-- The text ends too early. -/
  | ending
  /-- The text is not JSON. -/
  | grammar
  /-- The text is JSON but does not describe a value of the wanted type. -/
  | data
  deriving DecidableEq, Repr

/-- What is wrong with a text. -/
inductive Fault where
  | endInList
  | endInObject
  | endInText
  | endInValue
  | noColon
  | noListEnd
  | noObjectEnd
  | noWord
  | noValue
  | badEscape
  | badNumber
  | numberOutOfRange
  | badCodePoint
  | controlCharacter
  | keyNotText
  | loneSurrogate
  | trailingComma
  | trailingCharacters
  | halfSurrogatePair
  | tooDeep
  | wrongType (found : Found) (wanted : Wanted)
  | wrongValue (found : Found) (wanted : Wanted)
  | wrongLength (length : Nat) (wanted : Wanted)
  | missingField (name : String)
  | duplicateField (name : String)
  deriving DecidableEq, Repr

namespace Fault

/-- The sort of a fault. -/
def category : Fault → Category
  | endInList | endInObject | endInText | endInValue => .ending
  | wrongType _ _ | wrongValue _ _ | wrongLength _ _ => .data
  | missingField _ | duplicateField _ => .data
  | _ => .grammar

/-- The words for a fault. -/
def words : Fault → String
  | endInList => "EOF while parsing a list"
  | endInObject => "EOF while parsing an object"
  | endInText => "EOF while parsing a string"
  | endInValue => "EOF while parsing a value"
  | noColon => "expected `:`"
  | noListEnd => "expected `,` or `]`"
  | noObjectEnd => "expected `,` or `\x7d`"
  | noWord => "expected ident"
  | noValue => "expected value"
  | badEscape => "invalid escape"
  | badNumber => "invalid number"
  | numberOutOfRange => "number out of range"
  | badCodePoint => "invalid unicode code point"
  | controlCharacter =>
      "control character (\\u0000-\\u001F) found while parsing a string"
  | keyNotText => "key must be a string"
  | loneSurrogate => "lone leading surrogate in hex escape"
  | trailingComma => "trailing comma"
  | trailingCharacters => "trailing characters"
  | halfSurrogatePair => "unexpected end of hex escape"
  | tooDeep => "recursion limit exceeded"
  | wrongType found wanted =>
      "invalid type: " ++ found.words ++ ", expected " ++ wanted.words
  | wrongValue found wanted =>
      "invalid value: " ++ found.words ++ ", expected " ++ wanted.words
  | wrongLength length wanted =>
      "invalid length " ++ toString length ++ ", expected " ++ wanted.countedWords
  | missingField name => "missing field `" ++ name ++ "`"
  | duplicateField name => "duplicate field `" ++ name ++ "`"

end Fault

/-- A step into a document. -/
inductive Step where
  | index (position : Nat)
  | member (name : String)
  /-- A member whose name could not be read. -/
  | unreadable
  deriving DecidableEq, Repr

/-- The text of a path: indices in brackets, other steps with dots between them. -/
def pathText : (first : Bool) → List Step → String
  | _, [] => ""
  | _, .index position :: rest =>
      "[" ++ toString position ++ "]" ++ pathText false rest
  | first, .member name :: rest =>
      (if first then "" else ".") ++ name ++ pathText false rest
  | first, .unreadable :: rest =>
      (if first then "" else ".") ++ "?" ++ pathText false rest

/-- A fault, the text that was unread where it is reported, and the place in the document. -/
structure Failure where
  fault : Fault
  unread : Octets
  path : List Step
  deriving DecidableEq, Repr

namespace Failure

/-- The same failure seen from one level further out. -/
def inside
    (step : Step)
    (failure : Failure) :
    Failure :=
  { failure with path := step :: failure.path }

/-- What goes before the words of a failure to say where in the document it was found. -/
def pathWords (failure : Failure) : String :=
  if failure.path.all (· == .unreadable) then
    ""
  else
    pathText true failure.path ++ ": "

end Failure

/-- A place in a text. -/
structure Position where
  line : Nat
  column : Nat
  deriving DecidableEq, Repr

namespace Position

/-- The place before the first byte. -/
def origin : Position := ⟨1, 0⟩

/-- The place after one more byte: a line feed begins the next line. -/
def next
    (position : Position)
    (octet : UInt8) :
    Position :=
  if octet = 0x0A then
    ⟨position.line + 1, 0⟩
  else
    { position with column := position.column + 1 }

/-- The place after some bytes. -/
def after (consumed : Octets) : Position :=
  consumed.foldl next origin

/-- The words for a place. -/
def words (position : Position) : String :=
  " at line " ++ toString position.line ++ " column " ++ toString position.column

end Position

/-- The place in a text at which a failure is reported. -/
def Failure.position
    (source : Octets)
    (failure : Failure) :
    Position :=
  .after (source.take (source.length - failure.unread.length))

/-- The words for a failure in a text. -/
def Failure.words
    (source : Octets)
    (failure : Failure) :
    String :=
  failure.fault.words ++ (failure.position source).words

end SecretsAdmin.Json
