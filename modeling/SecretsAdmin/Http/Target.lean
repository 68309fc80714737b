import SecretsAdmin.Text.Cut

namespace SecretsAdmin.Http

/-!
# Targets of requests

What a request is about, within a server: a path and a query. A target may also be written as a
whole address; its scheme, its authority and its fragment do not matter to the server.
-/

/-- The part of an address behind the scheme and the authority, if it names both. -/
def behindAuthority : List Char → Option (List Char)
  | ':' :: '/' :: '/' :: rest =>
      let path := rest.dropWhile fun character => character ≠ '/' ∧ character ≠ '?'
      some (if path.head? = some '/' then path else '/' :: path)
  | _ :: rest => behindAuthority rest
  | [] => none

/-- The path and the query of a target. -/
def locator (target : String) : List Char :=
  let text := target.toList.takeWhile (· ≠ '#')
  match text with
  | '/' :: _ => text
  | ['*'] => text
  | _ => (behindAuthority text).getD []

/-- The path of a target, with its percent signs. -/
def pathOf (target : String) : String :=
  String.ofList (Text.cutOrWhole '?' (locator target)).1

/-- The query of a target; without one it is empty. -/
def queryOf (target : String) : String :=
  String.ofList (Text.cutOrWhole '?' (locator target)).2

end SecretsAdmin.Http
