import SecretsAdmin.Json.Printer

namespace SecretsAdmin.Client

/-!
# Payloads

What a caller gives to be sent as JSON. A payload is more general than a document: the keys of
its maps need not be strings, and it may refuse to be written.
-/

/-- A value that a caller gives to be sent. -/
inductive Payload where
  | null
  | boolean (value : Bool)
  | integer (value : Int)
  | real (value : Binary64)
  | text (value : String)
  | list (elements : List Payload)
  | map (entries : List (Payload × Payload))
  /-- A value that cannot be written, and the reason. -/
  | unwritable (reason : String)

namespace Payload

instance : Inhabited Payload := ⟨null⟩

/-- Remove a text from the front of another. -/
def dropText? : (front : List Char) → List Char → Option (List Char)
  | [], rest => some rest
  | expected :: front, character :: rest =>
      if expected = character then dropText? front rest else none
  | _ :: _, [] => none

/-- Divide a text before the last occurrence of another, which is left out. -/
def cutAtLast?
    (mark : List Char) :
    List Char → Option (List Char × List Char)
  | [] => none
  | first :: rest =>
      match cutAtLast? mark rest with
      | some (before, after) => some (first :: before, after)
      | none => (dropText? mark (first :: rest)).map fun after => ([], after)

/-- The number that digits stand for, if there are digits and the number fits into 64 bits. -/
def number? (digits : List Char) : Option Nat := do
  let number ← (String.ofList digits).toNat?
  if digits.all Char.isDigit ∧ number ≤ 0xFFFFFFFFFFFFFFFF then some number else none

/-- The line and the column that a text names, if it does nothing else. -/
def place? (text : List Char) : Option (Nat × Nat) := do
  let (line, rest) := text.span Char.isDigit
  let column ← dropText? " column ".toList rest
  return (← number? line, ← number? column)

/--
A reason as it is reported. If it ends by naming a line and a column, these are written as plain
numbers; line zero is no place at all and is left out.
-/
def reported (reason : String) : String :=
  match cutAtLast? " at line ".toList reason.toList with
  | none => reason
  | some (before, after) =>
      match place? after with
      | none => reason
      | some (0, _) => String.ofList before
      | some (line, column) =>
          String.ofList before ++ " at line " ++ toString line ++ " column " ++ toString column

/-- The key of an entry as it is written: numbers and truth values become strings. -/
def key : Payload → Except String String
  | text value => .ok value
  | integer value => .ok (toString value)
  | boolean value => .ok (toString value)
  | real value => .ok value.text
  | unwritable reason => .error (reported reason)
  | null | list _ | map _ => .error "key must be a string"

mutual

/-- The document that is sent for a payload, or the first reason why there is none. -/
def toJson : Payload → Except String Json
  | null => .ok .null
  | boolean value => .ok (.boolean value)
  | integer value => .ok (.integer value)
  | real value => .ok (.real value)
  | text value => .ok (.text value)
  | list elements => do return .array (← elementsToJson elements)
  | map entries => do return .object (← entriesToJson entries)
  | unwritable reason => .error (reported reason)

/-- The documents of elements in order. -/
def elementsToJson : List Payload → Except String (List Json)
  | [] => .ok []
  | element :: rest => do
      let element ← element.toJson
      return element :: (← elementsToJson rest)

/-- The members of entries in order; the key of an entry goes before its value. -/
def entriesToJson : List (Payload × Payload) → Except String (List (String × Json))
  | [] => .ok []
  | (entryKey, value) :: rest => do
      let entryKey ← entryKey.key
      let value ← value.toJson
      return (entryKey, value) :: (← entriesToJson rest)

end

mutual

/-- The payload that is sent as a document. -/
def ofJson : Json → Payload
  | .null => null
  | .boolean value => boolean value
  | .integer value => integer value
  | .real value => real value
  | .text value => text value
  | .array elements => list (ofElements elements)
  | .object members => map (ofMembers members)

/-- The payloads that are sent as the elements of an array. -/
def ofElements : List Json → List Payload
  | [] => []
  | element :: rest => ofJson element :: ofElements rest

/-- The entries that are sent as the members of an object. -/
def ofMembers : List (String × Json) → List (Payload × Payload)
  | [] => []
  | (name, value) :: rest => (text name, ofJson value) :: ofMembers rest

end

/-- The text that is sent for a payload, or the first reason why there is none. -/
def print (payload : Payload) : Except String String :=
  payload.toJson.map Json.print

end Payload

end SecretsAdmin.Client
