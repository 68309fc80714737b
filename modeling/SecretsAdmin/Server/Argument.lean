import SecretsAdmin.Http.MediaType
import SecretsAdmin.Json.Read
import SecretsAdmin.Server.Rejection
import SecretsAdmin.Server.Request
import SecretsAdmin.Url.Form

namespace SecretsAdmin.Server

/-!
# Arguments

What a request tells in the parameters of its path, in its query and in its body.
-/

/-! ## Parameters of the path -/

/-- A parameter of a path: its name and the text that stands for it, with percent signs. -/
structure Parameter where
  name : String
  written : String
  deriving DecidableEq, Repr

/-- The text of a parameter. -/
def Parameter.text (parameter : Parameter) : Except Rejection String :=
  match Utf8.decode? (Url.percentDecode (Utf8.encode parameter.written)) with
  | some text => .ok text
  | none => .error (.parameterNotText parameter.name)

/-- The identifier that a text stands for: decimal digits, maybe after a sign. -/
def id? (text : String) : Option Int64 := do
  let (negative, digits) :=
    match text.toList with
    | '-' :: digits => (true, digits)
    | '+' :: digits => (false, digits)
    | digits => (false, digits)
  if digits.isEmpty ∨ !digits.all Char.isDigit then
    none
  else
    let magnitude : Int :=
      digits.foldl (fun number digit => number * 10 + (digit.toNat - 0x30 : Nat)) 0
    let number := if negative then -magnitude else magnitude
    if Json.isInt64 number then some (Int64.ofInt number) else none

/-- Read the identifier that is the only parameter of a path. -/
def readId (parameter : Parameter) : Except Rejection Int64 := do
  let text ← parameter.text
  match id? text with
  | some id => .ok id
  | none => .error (.notAnId text)

/-- Read two identifiers; both have to be text before either is read. -/
def readIds (first second : Parameter) : Except Rejection (Int64 × Int64) := do
  let firstText ← first.text
  let secondText ← second.text
  match id? firstText with
  | none => .error (.notAnIdAt 0 firstText)
  | some firstId =>
      match id? secondText with
      | none => .error (.notAnIdAt 1 secondText)
      | some secondId => .ok (firstId, secondId)

/-! ## Queries -/

/-- The value of a field of a query, if it is there; no field may be there twice. -/
def lookUp
    (name : String)
    (pairs : List (String × String)) :
    Option String :=
  (pairs.find? fun pair => pair.1 == name).map (·.2)

/-- The first field of a query that was there before. -/
def repeated?
    (fields : List String)
    (seen : List String) :
    List (String × String) → Option String
  | [] => none
  | (name, _) :: rest =>
      if seen.contains name then some name
      else if fields.contains name then repeated? fields (name :: seen) rest
      else repeated? fields seen rest

/-- The pairs of a query in which none of some fields is there twice. -/
def readQuery
    (request : Request)
    (fields : List String) :
    Except Rejection (List (String × String)) :=
  let pairs := Url.Form.decode (Utf8.encode request.query)
  match repeated? fields [] pairs with
  | some name => .error (.repeatedInQuery name)
  | none => .ok pairs

/-- Read the name that a query asks for. -/
def readName (request : Request) : Except Rejection String := do
  match lookUp "name" (← readQuery request ["name"]) with
  | some name => .ok name
  | none => .error (.missingInQuery "name")

/-- Read the name and the version that a query asks for, if it does. -/
def readNameAndVersion
    (request : Request) :
    Except Rejection (Option String × Option String) := do
  let pairs ← readQuery request ["name", "version"]
  return (lookUp "name" pairs, lookUp "version" pairs)

/-! ## Bodies -/

/-- Whether a request says that its body holds JSON. -/
def declaresJson (headers : Http.Headers) : Bool :=
  match headers.first? "content-type" with
  | none => false
  | some value =>
      Http.isVisible value && (Http.MediaType.parse? value).any Http.MediaType.isJson

/-- The greatest length of a body that is read. -/
def greatestLength : Nat := 2097152

/-- Read the body of a request. -/
def readBody
    {α : Type}
    (read : Json.Reader α)
    (request : Request) :
    Except Rejection α :=
  if !declaresJson request.headers then
    .error .notDeclaredJson
  else if greatestLength < request.body.length then
    .error .tooLong
  else
    match Json.parse read request.body with
    | .ok value => .ok value
    | .error failure => .error (.badBody failure request.body)

end SecretsAdmin.Server
