import SecretsAdmin.Text.Hex
import SecretsAdmin.Text.Shapeless

namespace SecretsAdmin.Text

/-!
# Quoted texts in messages

A text quoted in a message stands between double quotes; quotes, backslashes, the common controls
and all characters without a shape of their own are written as escapes.
-/

/-- How a character is written between quotes. -/
def quotedCharacter (character : Char) : String :=
  match character with
  | '\x00' => "\\0"
  | '\t' => "\\t"
  | '\n' => "\\n"
  | '\r' => "\\r"
  | '"' => "\\\""
  | '\\' => "\\\\"
  | _ =>
      if isShapeless character then
        "\\u\x7b" ++ Hex.plain character.toNat ++ "\x7d"
      else
        character.toString

/-- A text between double quotes. -/
def quoted (text : String) : String :=
  "\"" ++ String.join (text.toList.map quotedCharacter) ++ "\""

end SecretsAdmin.Text
