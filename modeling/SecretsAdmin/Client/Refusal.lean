namespace SecretsAdmin.Client

/-!
# Refusals

The seven statuses with which a server says what is wrong with a request.
-/

/-- What a server finds wrong with a request. -/
inductive Refusal where
  | malformedRequest
  | unauthorized
  | forbidden
  | notFound
  | conflict
  | unsupportedMediaType
  | validation
  deriving DecidableEq, Repr

namespace Refusal

/-- All refusals in the order of their statuses. -/
def all : List Refusal :=
  [malformedRequest, unauthorized, forbidden, notFound, conflict, unsupportedMediaType, validation]

/-- The status of a refusal. -/
def status : Refusal → Nat
  | malformedRequest => 400
  | unauthorized => 401
  | forbidden => 403
  | notFound => 404
  | conflict => 409
  | unsupportedMediaType => 415
  | validation => 422

/-- The sentence that explains a refusal. -/
def description : Refusal → String
  | malformedRequest => "Malformed request syntax from client (400)"
  | unauthorized => "Not allowed to login, password may be incorrect (401)"
  | forbidden => "Resource forbidden (403)"
  | notFound => "Resource not found (404)"
  | conflict => "Conflicting resource (409)"
  | unsupportedMediaType => "Resource media type is incorrect or incompatible (415)"
  | validation => "Malformed request semantics from client (422)"

/-- The refusal that a status stands for. -/
def ofStatus? (status : Nat) : Option Refusal :=
  all.find? fun refusal => refusal.status == status

/-- Every refusal is found by its status. -/
@[simp] theorem ofStatus?_status (refusal : Refusal) :
    ofStatus? refusal.status = some refusal := by
  cases refusal <;> rfl

/-- A refusal that is found by a status has that status. -/
theorem status_of_ofStatus?
    {status : Nat}
    {refusal : Refusal}
    (found : ofStatus? status = some refusal) :
    refusal.status = status := by
  simpa using List.find?_some found

end Refusal

end SecretsAdmin.Client
