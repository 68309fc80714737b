import SecretsAdmin.Json.Fault

namespace SecretsAdmin.Server

/-!
# Rejections

Why a request is turned away before the server does anything with its store: its path, query or
body cannot be read.
-/

/-- Why a request cannot be read. -/
inductive Rejection where
  /-- A parameter of the path is not UTF-8. -/
  | parameterNotText (name : String)
  /-- The only parameter of the path is no identifier. -/
  | notAnId (value : String)
  /-- One of several parameters of the path is no identifier. -/
  | notAnIdAt (index : Nat) (value : String)
  | missingInQuery (name : String)
  | repeatedInQuery (name : String)
  | notDeclaredJson
  | tooLong
  /-- The body is not what is wanted; the failure says why, and the body where. -/
  | badBody (failure : Json.Failure) (body : Octets)
  deriving DecidableEq

namespace Rejection

/-- Whether a body is JSON, but of another type than is wanted. -/
def isOfOtherType (failure : Json.Failure) : Bool :=
  failure.fault.category == .data

/-- The status of a rejection. -/
def status : Rejection → Nat
  | parameterNotText _ | notAnId _ | notAnIdAt _ _ => 400
  | missingInQuery _ | repeatedInQuery _ => 400
  | notDeclaredJson => 415
  | tooLong => 413
  | badBody failure _ => if isOfOtherType failure then 422 else 400

/-- The sentence that explains a rejection. -/
def message : Rejection → String
  | parameterNotText name => "Invalid URL: Invalid UTF-8 in `" ++ name ++ "`"
  | notAnId value => "Invalid URL: Cannot parse `" ++ value ++ "` to a `i64`"
  | notAnIdAt index value =>
      "Invalid URL: Cannot parse value at index " ++ toString index ++
        " with value `" ++ value ++ "` to a `i64`"
  | missingInQuery name =>
      "Failed to deserialize query string: missing field `" ++ name ++ "`"
  | repeatedInQuery name =>
      "Failed to deserialize query string: duplicate field `" ++ name ++ "`"
  | notDeclaredJson => "Expected request with `Content-Type: application/json`"
  | tooLong => "Failed to buffer the request body: length limit exceeded"
  | badBody failure body =>
      (if isOfOtherType failure then
        "Failed to deserialize the JSON body into the target type: "
      else
        "Failed to parse the request body as JSON: ") ++
        failure.pathWords ++ failure.words body

end Rejection

end SecretsAdmin.Server
