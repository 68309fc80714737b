import SecretsAdmin.Client.Refusal
import SecretsAdmin.Http.Message
import SecretsAdmin.Url.Fault

namespace SecretsAdmin.Client

/-!
# Errors of calls

Why a call of the client fails. Statuses of responses become errors in one place only, by
`classify`.
-/

/-- Why a call fails. -/
inductive Error where
  | refused (refusal : Refusal)
  | unexpectedStatus (status : Nat) (body : String)
  | invalidArgument (message : String)
  | unreadableResponse (message : String)
  | unwritablePayload (message : String)
  | invalidUrl (fault : Url.Fault)
  | transport (message : String)
  deriving DecidableEq, Repr

namespace Error

/-- The sentence that explains an error. -/
def message : Error → String
  | refused refusal => refusal.description
  | unexpectedStatus status _ => "Unexpected status code on response: " ++ toString status
  | invalidArgument message => "invalid argument: " ++ message
  | unreadableResponse message => "deserialization failed: " ++ message
  | unwritablePayload message => "serialization failed: " ++ message
  | invalidUrl fault => "invalid URL: " ++ fault.words
  | transport message => "transport error: " ++ message

/-- The refusal behind an error. -/
def refusal? : Error → Option Refusal
  | refused refusal => some refusal
  | _ => none

/-- The status of the response behind an error. -/
def status? : Error → Option Nat
  | refused refusal => some refusal.status
  | unexpectedStatus status _ => some status
  | _ => none

/-- Whether the server says that it has no such object. -/
def isNotFound (error : Error) : Bool :=
  error.refusal? == some .notFound

/-- Whether the server says that the client may not do this. -/
def isAuthorization (error : Error) : Bool :=
  error.refusal? == some .unauthorized || error.refusal? == some .forbidden

end Error

/-- A response whose status is no failure, or the error that its status stands for. -/
def classify (response : Http.Response) : Except Error Http.Response :=
  match Refusal.ofStatus? response.status with
  | some refusal => .error (.refused refusal)
  | none =>
      if 400 ≤ response.status then
        .error (.unexpectedStatus response.status response.body)
      else
        .ok response

end SecretsAdmin.Client
