import SecretsAdmin.Client.Connection

namespace SecretsAdmin.Client

/-!
# Scripted transports

A transport that answers with what a script says, in order, and remembers what it was asked.
-/

/-- One entry of a script: a response, or the message of a failed exchange. -/
inductive ScriptEntry where
  | response (response : Http.Response)
  | failure (message : String)
  deriving DecidableEq, Repr

/-- The entries to come, and the requests so far, the latest first. -/
structure Script where
  entries : List ScriptEntry
  asked : List Http.Request := []
  deriving DecidableEq, Repr

namespace Script

/-- The requests so far in order. -/
def requests (script : Script) : List Http.Request :=
  script.asked.reverse

/-- Answer a request with the next entry. -/
def exchange
    (request : Http.Request)
    (script : Script) :
    Except Error Http.Response × Script :=
  match script.entries with
  | [] => (.error (.transport "no scripted response left"), ⟨[], request :: script.asked⟩)
  | .response response :: rest => (.ok response, ⟨rest, request :: script.asked⟩)
  | .failure message :: rest =>
      (.error (.transport message), ⟨rest, request :: script.asked⟩)

/-- The transport that follows scripts. -/
def transport : Transport Script := ⟨exchange⟩

end Script

end SecretsAdmin.Client
