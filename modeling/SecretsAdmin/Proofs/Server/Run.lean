import SecretsAdmin.Proofs.Server.Change

namespace SecretsAdmin.Server

/-!
# Runs of the server

A run serves requests one after the other. What passes is kept as a history of requests and
responses. An invariant of single changes holds in every store that a fresh server reaches.
-/

/-- A request as it comes in; the token is the one of a session that it may begin. -/
structure Arrival where
  token : String
  request : Request
  deriving DecidableEq, Repr

/-- A request and the response to it. -/
structure Exchange where
  request : Request
  response : Http.Response
  deriving DecidableEq, Repr

/-- A request of a session, with a body in JSON. -/
def Request.posting
    (target session body : String) :
    Request where
  method := "POST"
  target
  headers := [("content-type", "application/json"), ("cookie", "session=" ++ session)]
  body := Utf8.encode body

/-- The login of the administrator, which begins a session with a token. -/
def Arrival.login (token : String) : Arrival where
  token
  request :=
    .posting "/admin/login" ""
      "\x7b\"username\":\"keywhizAdmin\",\"password\":\"adminPass\"\x7d"

/-- What passed between the server and those who asked it, in order. -/
abbrev History := List Exchange

namespace Store

/-- Serve requests one after the other: what passes, and the store after the last. -/
def run (store : Store) : List Arrival → History × Store
  | [] => ([], store)
  | arrival :: rest =>
      let (response, between) := store.serve arrival.token arrival.request
      let (later, after) := between.run rest
      (⟨arrival.request, response⟩ :: later, after)

@[simp] theorem run_nil (store : Store) :
    store.run [] = ([], store) :=
  rfl

/-- A run serves its first request, and goes on with the store after it. -/
theorem run_cons
    (store : Store)
    (arrival : Arrival)
    (rest : List Arrival) :
    store.run (arrival :: rest) =
      (⟨arrival.request, (store.serve arrival.token arrival.request).1⟩ ::
          ((store.serve arrival.token arrival.request).2.run rest).1,
        ((store.serve arrival.token arrival.request).2.run rest).2) := by
  rw [run]

/-- A run can be interrupted anywhere. -/
theorem run_append
    (store : Store)
    (earlier later : List Arrival) :
    store.run (earlier ++ later) =
      ((store.run earlier).1 ++ ((store.run earlier).2.run later).1,
        ((store.run earlier).2.run later).2) := by
  induction earlier generalizing store with
  | nil => rfl
  | cons arrival rest inductionHypothesis =>
      rw [List.cons_append, run_cons, run_cons, inductionHypothesis, List.cons_append]

/-- One more request adds its exchange to the history. -/
theorem run_concat
    (store : Store)
    (earlier : List Arrival)
    (last : Arrival) :
    store.run (earlier ++ [last]) =
      ((store.run earlier).1 ++
          [⟨last.request, ((store.run earlier).2.serve last.token last.request).1⟩],
        ((store.run earlier).2.serve last.token last.request).2) := by
  rw [run_append, run_cons, run_nil]

/-- Whether a fresh server can have come to a store. -/
def Reachable (store : Store) : Prop :=
  ∃ arrivals, (fresh.run arrivals).2 = store

/-- What holds of a store and is kept by single changes is kept by any number of them. -/
theorem Changes.preserves
    {invariant : Store → Prop}
    {store after : Store}
    (changes : Changes store after)
    (kept : ∀ {before next}, invariant before → Change before next → invariant next)
    (holds : invariant store) :
    invariant after := by
  induction changes with
  | refl => exact holds
  | tail _ change inductionHypothesis => exact kept inductionHypothesis change

/-- Whatever a run does to the store, it does by changes. -/
theorem run_changes
    (store : Store)
    (arrivals : List Arrival) :
    Changes store (store.run arrivals).2 := by
  induction arrivals generalizing store with
  | nil => exact .refl
  | cons arrival rest inductionHypothesis =>
      rw [run_cons]
      exact (store.serve_changes arrival.token arrival.request).trans
        (inductionHypothesis _)

/-- What holds of the fresh store and is kept by changes holds of every reachable store. -/
theorem Reachable.induct
    {invariant : Store → Prop}
    {store : Store}
    (reachable : store.Reachable)
    (initially : invariant fresh)
    (kept : ∀ {before next}, invariant before → Change before next → invariant next) :
    invariant store := by
  obtain ⟨arrivals, rfl⟩ := reachable
  exact (run_changes fresh arrivals).preserves kept initially

end Store

end SecretsAdmin.Server
