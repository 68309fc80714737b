import SecretsAdmin.Url.Form
import SecretsAdmin.Url.Parse

namespace SecretsAdmin.Url

/-!
# Addresses under a base

The address of a resource keeps the scheme and the authority of a base and has a path and a query
of its own. Segments and queries are encoded, so any text can be part of them.
-/

/-- The encode set for single segments under a kind of scheme. -/
def segmentSet (kind : SchemeKind) : EncodeSet :=
  if kind.isSpecial then .specialSegment else .segment

/-- Put one segment behind a path. As long as the path is only a slash, the segment fills it. -/
def addSegment
    (kind : SchemeKind)
    (path : List String)
    (segment : String) :
    List String :=
  if segment = "." ∨ segment = ".." then
    path
  else
    let front : Trail := { segments := if path = [""] then [] else path }
    (front.step kind (segmentSet kind) true segment.toList).segments

/-- The path of segments under a base without a path of its own. -/
def pathOf
    (kind : SchemeKind)
    (start : List String)
    (segments : List String) :
    List String :=
  segments.foldl (addSegment kind) start

/-- The address of segments and a query under a base; a base of plain text has no such addresses. -/
def resolve
    (base : Url)
    (segments : List String)
    (query : List (String × String)) :
    Except Fault Url :=
  match base.path with
  | .plain _ => .error .baseless
  | .segments path =>
      let start := if path.isEmpty then [] else [""]
      .ok { base with
        path := .segments (pathOf base.kind start segments)
        query := if query.isEmpty then none else some (Form.encode query)
        fragment := none }

end SecretsAdmin.Url
