namespace SecretsAdmin.Http

/-!
# Requests and responses

Messages as plain data: what a client asks and what it is answered.
-/

/-- What a request wants to do. -/
inductive Method where
  | get
  | post
  | put
  | delete
  deriving DecidableEq, Repr

/-- The word for a method. -/
def Method.word : Method → String
  | get => "GET"
  | post => "POST"
  | put => "PUT"
  | delete => "DELETE"

/-- The headers of a message in order, each with its name and its value. -/
abbrev Headers := List (String × String)

/-- Whether two names of headers are the same: small and capital letters do not differ. -/
def sameName (left right : String) : Bool :=
  left.toList.map Char.toLower == right.toList.map Char.toLower

/-- Whether the value of a header is made of visible characters, blanks and tabs. -/
def isVisible (value : String) : Bool :=
  value.toList.all fun character =>
    (0x20 ≤ character.toNat && character.toNat < 0x7F) || character == '\t'

/-- All values of the headers of a name, in order. -/
def Headers.values
    (headers : Headers)
    (name : String) :
    List String :=
  (headers.filter fun header => sameName header.1 name).map (·.2)

/-- The value of the first header of a name. -/
def Headers.first?
    (headers : Headers)
    (name : String) :
    Option String :=
  (headers.find? fun header => sameName header.1 name).map (·.2)

/-- A request; one without a body differs from one with an empty body. -/
structure Request where
  method : Method
  url : String
  headers : Headers
  body : Option String
  deriving DecidableEq, Repr

/-- A response. -/
structure Response where
  status : Nat
  headers : Headers
  body : String
  deriving DecidableEq, Repr

/-- The value of the first header of a name in a request. -/
def Request.header?
    (request : Request)
    (name : String) :
    Option String :=
  request.headers.first? name

/-- All values of the headers of a name in a response. -/
def Response.headerValues
    (response : Response)
    (name : String) :
    List String :=
  response.headers.values name

end SecretsAdmin.Http
