import SecretsAdmin.Client.Connection
import SecretsAdmin.Server.Serve

namespace SecretsAdmin.Server

/-!
# Loopback

A transport that hands the requests of a client straight to a server. No exchange fails, since
nothing lies between the two.
-/

/-- The request that arrives when a client sends one. -/
def Request.ofClient (request : Http.Request) : Request where
  method := request.method.word
  target := request.url
  headers := request.headers
  body := Utf8.encode (request.body.getD "")

/-- A server and the number of requests that it has served. -/
structure Loopback where
  store : Store
  served : Nat := 0
  deriving DecidableEq

namespace Loopback

/-- Hand a request to the server; the token is the one of a session that the request may begin. -/
def exchange
    (token : Nat → String)
    (request : Http.Request)
    (loopback : Loopback) :
    Except Client.Error Http.Response × Loopback :=
  let (response, store) :=
    loopback.store.serve (token loopback.served) (.ofClient request)
  (.ok response, ⟨store, loopback.served + 1⟩)

/-- The transport to a server that draws the token of each request from a supply. -/
def transport (token : Nat → String) : Client.Transport Loopback :=
  ⟨exchange token⟩

end Loopback

end SecretsAdmin.Server
