import SecretsAdmin.Decimal.Layout
import SecretsAdmin.Json.Value
import SecretsAdmin.Text.Hex

namespace SecretsAdmin.Json

/-!
# Printing JSON

Documents are printed without blanks. In strings the quote, the backslash and the characters
below the space are escaped; everything else stands for itself.
-/

/-- How a character is printed inside a string. -/
def escapedCharacter (character : Char) : List Char :=
  match character with
  | '"' => ['\\', '"']
  | '\\' => ['\\', '\\']
  | '\x08' => ['\\', 'b']
  | '\x0c' => ['\\', 'f']
  | '\n' => ['\\', 'n']
  | '\r' => ['\\', 'r']
  | '\t' => ['\\', 't']
  | _ =>
      if character.toNat < 0x20 then
        '\\' :: 'u' :: Hex.fixed 4 character.toNat
      else
        [character]

/-- Print a string with its quotes. -/
def printText (text : String) : String :=
  "\"" ++ String.ofList (text.toList.flatMap escapedCharacter) ++ "\""

mutual

/-- Print a document. -/
def print : Json → String
  | null => "null"
  | boolean true => "true"
  | boolean false => "false"
  | integer value => toString value
  | real value => value.text
  | text value => printText value
  | array elements => "[" ++ printElements elements ++ "]"
  | object members => "\x7b" ++ printMembers members ++ "\x7d"

/-- Print the elements of an array with commas between them. -/
def printElements : List Json → String
  | [] => ""
  | [element] => element.print
  | element :: rest => element.print ++ "," ++ printElements rest

/-- Print the members of an object with commas between them. -/
def printMembers : List (String × Json) → String
  | [] => ""
  | [(name, value)] => printText name ++ ":" ++ value.print
  | (name, value) :: rest =>
      printText name ++ ":" ++ value.print ++ "," ++ printMembers rest

end

end SecretsAdmin.Json
