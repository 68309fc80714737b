import SecretsAdmin.Http.Message
import SecretsAdmin.Http.Target
import SecretsAdmin.Text.Blank
import SecretsAdmin.Text.Cut
import SecretsAdmin.Text.Utf8

namespace SecretsAdmin.Server

/-!
# Requests to the server

A request as it arrives: nothing about its method, target, headers and body is checked yet.
-/

/-- A request to the server. -/
structure Request where
  method : String
  target : String
  headers : Http.Headers
  body : Octets
  deriving DecidableEq, Repr

namespace Request

/-- The path of the target, with its percent signs. -/
def path (request : Request) : String :=
  Http.pathOf request.target

/-- The query of the target; without one it is empty. -/
def query (request : Request) : String :=
  Http.queryOf request.target

/-- The name of the cookie that holds the token of a session. -/
def sessionCookie : String := "session"

/-- The pairs that a cookie header holds: what stands before and after the first equals sign. -/
def cookiePairs (value : String) : List (String × String) :=
  (value.toList.splitOn ';').filterMap fun part =>
    (Text.cutAt? '=' (Text.trimBlanks part)).map fun (name, value) =>
      (String.ofList name, String.ofList value)

/-- The token of the session: the value of the first session cookie of the visible headers. -/
def sessionToken? (headers : Http.Headers) : Option String :=
  let pairs := ((headers.values "cookie").filter Http.isVisible).flatMap cookiePairs
  (pairs.find? fun pair => pair.1 == sessionCookie).map (·.2)

end Request

end SecretsAdmin.Server
