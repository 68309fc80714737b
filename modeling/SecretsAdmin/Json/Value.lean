import SecretsAdmin.Decimal.Binary64

namespace SecretsAdmin

/-!
# JSON values

Whole numbers and doubles are kept apart, because a document distinguishes them by how they are
written. The members of an object stand in the order in which they are written.
-/

/-- A JSON document. -/
inductive Json where
  | null
  | boolean (value : Bool)
  | integer (value : Int)
  | real (value : Binary64)
  | text (value : String)
  | array (elements : List Json)
  | object (members : List (String × Json))
  deriving Inhabited

namespace Json

/-- The member of an object with a name. -/
def member?
    (name : String) :
    Json → Option Json
  | object members => (members.find? fun entry => entry.1 == name).map (·.2)
  | _ => none

/-- The text of a string. -/
def text? : Json → Option String
  | text value => some value
  | _ => none

/-- The elements of an array. -/
def elements? : Json → Option (List Json)
  | array elements => some elements
  | _ => none

/-- The members of an object. -/
def members? : Json → Option (List (String × Json))
  | object members => some members
  | _ => none

end Json

end SecretsAdmin
