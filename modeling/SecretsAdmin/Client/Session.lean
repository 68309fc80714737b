import SecretsAdmin.Text.Blank
import SecretsAdmin.Text.Cut

namespace SecretsAdmin.Client

/-!
# Sessions

The cookies that a server gave with a login and that go with every later request. A cookie of a
name replaces the one before it and keeps its place; nothing else removes a cookie.
-/

/-- A cookie. -/
structure Cookie where
  name : String
  value : String
  deriving DecidableEq, Repr

namespace Cookie

/-- A cookie as it goes with a request. -/
def text (cookie : Cookie) : String :=
  cookie.name ++ "=" ++ cookie.value

/--
The cookie that a server gives: its name and value stand before the first semicolon, its
attributes after it. Without an equals sign, or with a blank name, there is none.
-/
def ofGiven? (given : String) : Option Cookie := do
  let (pair, _) := Text.cutOrWhole ';' given.toList
  let (name, value) ← Text.cutAt? '=' pair
  let name := Text.trimBlanks name
  if name.isEmpty then
    none
  else
    some ⟨String.ofList name, String.ofList (Text.trimBlanks value)⟩

end Cookie

/-- The cookies of a session in the order in which their names first came. -/
structure Session where
  cookies : List Cookie := []
  deriving DecidableEq, Repr

namespace Session

/-- Whether a session has no cookies. -/
def isEmpty (session : Session) : Bool :=
  session.cookies.isEmpty

/-- What a request says about its cookies. -/
def header? (session : Session) : Option String :=
  if session.isEmpty then
    none
  else
    some ("; ".intercalate (session.cookies.map Cookie.text))

/-- Replace the cookie of the same name, or put the cookie behind all others. -/
def place (cookie : Cookie) : List Cookie → List Cookie
  | [] => [cookie]
  | first :: rest =>
      if first.name = cookie.name then cookie :: rest else first :: place cookie rest

/-- Keep a cookie. -/
def keep
    (session : Session)
    (cookie : Cookie) :
    Session :=
  ⟨place cookie session.cookies⟩

/-- Keep the cookies that a server gives. -/
def store
    (session : Session)
    (given : List String) :
    Session :=
  (given.filterMap Cookie.ofGiven?).foldl keep session

/-- The number of cookies that are kept of those that a server gives. -/
def keptCount (given : List String) : Nat :=
  (given.filterMap Cookie.ofGiven?).length

end Session

end SecretsAdmin.Client
