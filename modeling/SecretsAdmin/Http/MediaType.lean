namespace SecretsAdmin.Http

/-!
# Media types

A media type names a kind and a subtype, and possibly a suffix of the subtype and parameters.
The text is read strictly: blanks are allowed only between a semicolon and the parameter after
it, and behind a quoted value.
-/

/-- A media type in small letters, without its parameters. -/
structure MediaType where
  kind : String
  subtype : String
  suffix : Option String
  deriving DecidableEq, Repr

namespace MediaType

/-- Whether a character may stand in a name. -/
def isToken (character : Char) : Bool :=
  character.isAlphanum || "!#$%&'*+-.^_`|~".toList.contains character

/-- Whether a character may stand between quotes. -/
def isQuotable (character : Char) : Bool :=
  0x1F < character.toNat && character.toNat != 0x7F

/-- Remove what is before the next parameter: nothing more, or a semicolon after blanks. -/
def afterQuoted? : List Char → Option (List Char)
  | [] => some []
  | ';' :: rest => some rest
  | ' ' :: rest => afterQuoted? rest
  | _ => none

/-- Remove a quoted value with its closing quote; the value has at least one character. -/
def afterQuotes? : (first : Bool) → List Char → Option (List Char)
  | _, [] => none
  | first, character :: rest =>
      if character = '"' ∧ !first then afterQuoted? rest
      else if isQuotable character then afterQuotes? false rest
      else none

/-- Remove a value and what is before the next parameter. -/
def afterValue? (text : List Char) : Option (List Char) :=
  match text with
  | '"' :: rest => afterQuotes? true rest
  | _ =>
      match text.span isToken with
      | (_, []) => some []
      | (_ :: _, ';' :: rest) => some rest
      | _ => none

/-- Whether a text is a list of parameters; the budget is as long as the text. -/
def areParameters : (budget : List Char) → List Char → Bool
  | _, [] => true
  | [], _ => false
  | _ :: budget, ' ' :: rest => areParameters budget rest
  | _ :: budget, text =>
      match text.span isToken with
      | (_ :: _, '=' :: rest) =>
          match afterValue? rest with
          | some rest => areParameters budget rest
          | none => false
      | _ => false

/-- Divide a subtype at its last plus sign; the first character is no such sign. -/
def cutSuffix (characters : List Char) : List Char × Option (List Char) :=
  match characters with
  | [] => ([], none)
  | first :: rest =>
      let reversed := rest.reverse
      match reversed.dropWhile (· ≠ '+') with
      | [] => (characters, none)
      | _ :: before =>
          (first :: before.reverse, some (reversed.takeWhile (· ≠ '+')).reverse)

/-- The text of characters in small letters. -/
def lower (characters : List Char) : String :=
  String.ofList (characters.map Char.toLower)

/-- Read a media type. -/
def parse? (text : String) : Option MediaType :=
  match text.toList.span isToken with
  | (first :: kind, '/' :: rest) =>
      match rest.span isToken with
      | ([], _) => none
      | (subtype, rest) =>
          let (name, suffix) := cutSuffix subtype
          let type : MediaType := ⟨lower (first :: kind), lower name, suffix.map lower⟩
          match rest with
          | [] => some type
          | ';' :: parameters =>
              if areParameters parameters parameters then some type else none
          | _ => none
  | _ => none

/-- Whether messages of a type hold JSON. -/
def isJson (type : MediaType) : Bool :=
  type.kind == "application" && (type.subtype == "json" || type.suffix == some "json")

end MediaType

end SecretsAdmin.Http
