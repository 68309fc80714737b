import SecretsAdmin.Json.Printer
import SecretsAdmin.Json.Read

namespace SecretsAdmin.Json

/-!
# Codecs and record schemas

A codec writes values as documents and reads them from text. The codec of a record follows from
its schema, the list of its fields: a record is written as an object with its fields in order,
and read from an object in any order, or from an array by position.
-/

/-- How values of a type are written as documents and read from text. -/
structure Codec (α : Type) where
  write : α → Json
  read : Reader α

namespace Codec

/-- Strings. -/
def text : Codec String where
  write := .text
  read := readText

/-- Truth values. -/
def boolean : Codec Bool where
  write := .boolean
  read := readBoolean

/-- Signed whole numbers of 64 bits. -/
def integer : Codec Int64 where
  write number := .integer number.toInt
  read := readInteger

/-- Values that may be absent, which is written as `null`. -/
def optional {α : Type} (codec : Codec α) : Codec (Option α) where
  write
    | none => .null
    | some value => codec.write value
  read := readOptional codec.read

/-- Lists. -/
def array {α : Type} (codec : Codec α) : Codec (List α) where
  write values := .array (values.map codec.write)
  read := readArray codec.read

/-- Maps from names to strings, written in the order of the names. -/
def dictionary : Codec (OrderedMap String String) where
  write map := .object (map.entries.map fun entry => (entry.1, .text entry.2))
  read := readDictionary

/-- A codec for a type that wraps another. -/
def wrap
    {α β : Type}
    (codec : Codec α)
    (inside : β → α)
    (make : α → β) :
    Codec β where
  write value := codec.write (inside value)
  read unread := (codec.read unread).map fun (value, unread) => (make value, unread)

/-- The text of a value. -/
def print
    {α : Type}
    (codec : Codec α)
    (value : α) :
    String :=
  (codec.write value).print

/-- Read a text that holds one value and nothing else. -/
def parse
    {α : Type}
    (codec : Codec α)
    (source : Octets) :
    Except Failure α :=
  Json.parse codec.read source

end Codec

/-! ## Records -/

/-- What the absence of a field means. -/
inductive Presence where
  /-- The record cannot be read. -/
  | required
  /-- The field has its default in an object; in an array the record cannot be read. -/
  | nullable
  /-- The field has its default. -/
  | defaulted
  deriving DecidableEq, Repr

/-- A field of a record: how it is read into a record, and how it is written, if it is. -/
structure Field (Record : Type) where
  name : String
  presence : Presence
  read : Reader (Record → Record)
  write : Record → Option Json

namespace Field

/-- A field that is always written. -/
def of
    {Record α : Type}
    (name : String)
    (presence : Presence)
    (codec : Codec α)
    (get : Record → α)
    (set : α → Record → Record) :
    Field Record where
  name := name
  presence := presence
  read unread := (codec.read unread).map fun (value, unread) => (set value, unread)
  write record := some (codec.write (get record))

/-- A field that is not written when it has no value. -/
def omittable
    {Record α : Type}
    (name : String)
    (presence : Presence)
    (codec : Codec α)
    (get : Record → Option α)
    (set : Option α → Record → Record) :
    Field Record where
  name := name
  presence := presence
  read unread :=
    (codec.optional.read unread).map fun (value, unread) => (set value, unread)
  write record := (get record).map codec.write

end Field

/-- The title of a record, the record in which every field has its default, and the fields. -/
structure Schema (Record : Type) where
  title : String
  blank : Record
  fields : List (Field Record)

/-- A record of which some fields are read. -/
structure Draft (Record : Type) where
  record : Record
  seen : List String

namespace Schema

variable {Record : Type}

/-- The words for a record of the schema. -/
def wanted (schema : Schema Record) : Wanted :=
  .record schema.title schema.fields.length

/-- The field with a name. -/
def field?
    (schema : Schema Record)
    (name : String) :
    Option (Field Record) :=
  schema.fields.find? (·.name == name)

/-- Read the value of one member into a draft; a member that is no field is skipped. -/
def readField
    (schema : Schema Record)
    (name : String)
    (draft : Draft Record) :
    Reader (Draft Record) := fun unread =>
  match schema.field? name with
  | none =>
      readMember name (fun unread => (skipValue unread).map fun unread => (draft, unread)) unread
  | some field =>
      if draft.seen.contains name then
        failAt (.duplicateField name) (afterObject unread)
      else do
        let (set, unread) ← readMember name field.read unread
        return (⟨set draft.record, name :: draft.seen⟩, unread)

/-- The first required field that a draft lacks. -/
def missing?
    (schema : Schema Record)
    (draft : Draft Record) :
    Option (Field Record) :=
  schema.fields.find? fun field =>
    field.presence == .required && !draft.seen.contains field.name

/-- Read a record from an object, after the opening bracket. -/
def readObject (schema : Schema Record) : Reader Record := fun unread => do
  let (draft, unread) ←
    readMembers schema.readField true (Draft.mk schema.blank []) (0 :: unread) unread
  match schema.missing? draft with
  | some field => failAt (.missingField field.name) (afterObject unread)
  | none => return (draft.record, ← closeObject unread)

/-- Read the values of fields by position, and close the array. -/
def readPositions
    (schema : Schema Record)
    (index : Nat)
    (record : Record) :
    (fields : List (Field Record)) → Reader Record
  | [], unread => do return (record, ← closeArray unread)
  | field :: rest, unread => do
      match ← nextElement (index == 0) unread with
      | (true, unread) =>
          match field.read unread with
          | .error failure => .error (failure.inside (.index index))
          | .ok (set, unread) =>
              readPositions schema (index + 1) (set record) rest unread
      | (false, unread) =>
          if field.presence = .defaulted then
            readPositions schema (index + 1) record rest unread
          else
            failAt (.wrongLength index schema.wanted) (afterArray unread)

/-- Read a record. -/
def read (schema : Schema Record) : Reader Record := fun unread =>
  match skipBlanks unread with
  | 0x5B :: rest => schema.readPositions 0 schema.blank schema.fields rest
  | 0x7B :: rest => schema.readObject rest
  | unread => mismatch schema.wanted unread

/-- Write a record as an object with its fields in order. -/
def write
    (schema : Schema Record)
    (record : Record) :
    Json :=
  .object <| schema.fields.filterMap fun field =>
    (field.write record).map fun value => (field.name, value)

/-- The codec of the records of a schema. -/
def codec (schema : Schema Record) : Codec Record where
  write := schema.write
  read := schema.read

end Schema

end SecretsAdmin.Json
