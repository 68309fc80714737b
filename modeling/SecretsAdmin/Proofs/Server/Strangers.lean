import SecretsAdmin.OrderedMap.Lemmas
import SecretsAdmin.Proofs.Server.Run

namespace SecretsAdmin.Server

/-!
# What strangers learn

Whoever has no session is a stranger. Every request of a stranger has one answer, whatever the
server stores: it is turned away, or it is a login that succeeds. So strangers learn nothing of
the clients, groups and secrets of a server, and change none of them.
-/

/-- Whether a request is one of a stranger: its first session cookie holds no token of a session. -/
def Request.IsStranger
    (sessions : OrderedMap String String)
    (request : Request) :
    Prop :=
  ∀ token, Request.sessionToken? request.headers = some token → token ∉ sessions.keys

/-- The response to a login that succeeds. -/
def loginResponse (token : String) : Http.Response :=
  ⟨200, [("set-cookie", cookieOf token)], ""⟩

/-- Whether two responses are alike, but for the tokens that they give if they are for logins. -/
def AlikeButTokens
    (token other : String)
    (left right : Http.Response) :
    Prop :=
  left = right ∨ left = loginResponse token ∧ right = loginResponse other

namespace Store

/-- The store with one more session of the administrator. -/
def withSession
    (store : Store)
    (token : String) :
    Store :=
  { store with sessions := store.sessions.insert token administrator }

/-- Whether a store differs from another at most in its sessions. -/
def SameButSessions (store other : Store) : Prop :=
  store = { other with sessions := store.sessions }

theorem user?_eq_none_iff
    {store : Store}
    {request : Request} :
    store.user? request = none ↔ request.IsStranger store.sessions := by
  unfold user? Request.IsStranger
  cases Request.sessionToken? request.headers with
  | none => simp
  | some token =>
      have isKnown : store.sessions.contains token = true ↔ token ∈ store.sessions.keys :=
        OrderedMap.contains_iff_mem_keys
      simp [← isKnown, OrderedMap.contains]

/-! ## Answers to strangers -/

/-- A login is answered the same by every server: it is turned away, or it begins a session. -/
theorem serveLogin_cases (request : Request) :
    (∃ response, ∀ store token, serveLogin store token request = (response, store)) ∨
      ∀ store token,
        serveLogin store token request = (loginResponse token, store.withSession token) := by
  unfold serveLogin
  by_cases isPost : request.method = "POST"
  · simp only [if_pos isPost]
    cases readBody LoginInput.codec.read request with
    | error rejection => exact .inl ⟨rejection.response, fun _ _ => rfl⟩
    | ok credentials =>
        unfold login
        by_cases isRight : credentials.username = administrator ∧ credentials.password = password
        · right
          intro store token
          simp only [if_pos isRight]
          rw [isRight.1]
          rfl
        · left
          refine ⟨bare 401, fun store token => ?_⟩
          simp only [if_neg isRight]
          rfl
  · simp only [if_neg isPost]
    exact .inl ⟨_, fun _ _ => rfl⟩

/-- Without a user, a resource is answered by what it is and not by what is stored. -/
private theorem exists_serveMethod_none
    (resource : Resource)
    (method : String)
    (request : Request) :
    ∃ response, ∀ store, serveMethod store none resource method request = (response, store) := by
  unfold serveMethod
  cases resource.reader? method with
  | none => exact ⟨_, fun _ => rfl⟩
  | some read => exact ⟨_, fun _ => rfl⟩

/-- A stranger is answered the same by every server: turned away, or with a new session. -/
theorem serve_stranger_cases (request : Request) :
    (∃ response, ∀ store token,
        request.IsStranger store.sessions →
          serve store token request = (response, store)) ∨
      ∀ store token,
        request.IsStranger store.sessions →
          serve store token request = (loginResponse token, store.withSession token) := by
  unfold serve
  cases Route.ofPath? request.path with
  | none => exact .inl ⟨bare 404, fun _ _ _ => rfl⟩
  | some route =>
      cases route with
      | login =>
          rcases serveLogin_cases request with ⟨response, turnedAway⟩ | begins
          · exact .inl ⟨response, fun store token _ => turnedAway store token⟩
          · exact .inr fun store token _ => begins store token
      | administration resource =>
          left
          dsimp only
          unfold serveResource
          by_cases isHead : request.method = "HEAD"
          · obtain ⟨response, turnedAway⟩ := exists_serveMethod_none resource "GET" request
            refine ⟨{ response with body := "" }, fun store token stranger => ?_⟩
            simp only [if_pos isHead, user?_eq_none_iff.mpr stranger, turnedAway store]
          · obtain ⟨response, turnedAway⟩ :=
              exists_serveMethod_none resource request.method request
            refine ⟨response, fun store token stranger => ?_⟩
            simp only [if_neg isHead, user?_eq_none_iff.mpr stranger, turnedAway store]

/--
Two servers with the same sessions answer a stranger alike, but for the token of a new session,
and whatever else they store stays as it is.
-/
theorem strangers_learn_nothing
    {left right : Store}
    {request : Request}
    (sameSessions : left.sessions = right.sessions)
    (stranger : request.IsStranger left.sessions)
    (token other : String) :
    AlikeButTokens token other
        (left.serve token request).1
        (right.serve other request).1 ∧
      (left.serve token request).2.SameButSessions left ∧
      (right.serve other request).2.SameButSessions right := by
  have strangerToo : request.IsStranger right.sessions := sameSessions ▸ stranger
  rcases serve_stranger_cases request with ⟨response, turnedAway⟩ | begins
  · rw [turnedAway left token stranger, turnedAway right other strangerToo]
    exact ⟨.inl rfl, rfl, rfl⟩
  · rw [begins left token stranger, begins right other strangerToo]
    exact ⟨.inr ⟨rfl, rfl⟩, rfl, rfl⟩

/-- A request without cookies to a server that has a group, and to one that has none. -/
theorem strangers_learn_nothing_noCookies :
    let request : Request := ⟨"GET", "/admin/groups/1", [], []⟩
    let left := (fresh.run [.login "t"]).2
    let right :=
      (fresh.run [.login "t", ⟨"", .posting "/admin/groups" "t" "\x7b\"name\":\"g\"\x7d"⟩]).2
    left.sessions = right.sessions ∧
      request.IsStranger left.sessions ∧
      right.groups ≠ left.groups ∧
      AlikeButTokens "u" "v" (left.serve "u" request).1 (right.serve "v" request).1 ∧
      (left.serve "u" request).2.SameButSessions left ∧
      (right.serve "v" request).2.SameButSessions right := by
  intro request left right
  have sameSessions : left.sessions = right.sessions := by decide +kernel
  have stranger : request.IsStranger left.sessions := nofun
  exact ⟨sameSessions, stranger, by decide +kernel,
    strangers_learn_nothing sameSessions stranger "u" "v"⟩

/-! ## Runs of strangers -/

/-- A session that a server knows is known for ever. -/
theorem Change.mem_sessions
    {store after : Store}
    {token : String}
    (change : Change store after)
    (known : token ∈ store.sessions.keys) :
    token ∈ after.sessions.keys := by
  cases change with
  | session other user => exact OrderedMap.mem_keys_insert_iff.mpr (.inr known)
  | _ => exact known

theorem Changes.mem_sessions
    {store after : Store}
    {token : String}
    (changes : Changes store after)
    (known : token ∈ store.sessions.keys) :
    token ∈ after.sessions.keys := by
  let knows : Store → Prop := fun store => token ∈ store.sessions.keys
  have step {store after : Store} (known : knows store) (change : Change store after) :
      knows after :=
    change.mem_sessions known
  exact changes.preserves step known

/--
However often strangers ask, they see no difference between servers with the same sessions. A
stranger to the last store is one to the first, since no session is forgotten.
-/
theorem run_strangers
    {left right : Store}
    (sameSessions : left.sessions = right.sessions)
    (arrivals : List Arrival)
    (strangers :
      ∀ arrival ∈ arrivals, arrival.request.IsStranger (left.run arrivals).2.sessions) :
    (left.run arrivals).1 = (right.run arrivals).1 ∧
      (left.run arrivals).2.SameButSessions left ∧
      (right.run arrivals).2.SameButSessions right := by
  induction arrivals generalizing left right with
  | nil => exact ⟨rfl, rfl, rfl⟩
  | cons arrival rest inductionHypothesis =>
      rw [run_cons] at strangers
      have stranger : arrival.request.IsStranger left.sessions := by
        intro token isToken known
        apply strangers arrival List.mem_cons_self token isToken
        apply Changes.mem_sessions (run_changes _ rest)
        exact Changes.mem_sessions (serve_changes left arrival.token arrival.request) known
      have strangerToo : arrival.request.IsStranger right.sessions := sameSessions ▸ stranger
      have others :
          ∀ other ∈ rest,
            other.request.IsStranger
              (((left.serve arrival.token arrival.request).2.run rest).2).sessions :=
        fun other member => strangers other (List.mem_cons_of_mem _ member)
      rw [run_cons, run_cons]
      rcases serve_stranger_cases arrival.request with ⟨response, turnedAway⟩ | begins
      · rw [turnedAway left arrival.token stranger] at others ⊢
        rw [turnedAway right arrival.token strangerToo]
        obtain ⟨sameHistory, leftKept, rightKept⟩ := inductionHypothesis sameSessions others
        exact ⟨congrArg (List.cons _) sameHistory, leftKept, rightKept⟩
      · rw [begins left arrival.token stranger] at others ⊢
        rw [begins right arrival.token strangerToo]
        have sameNow :
            (left.withSession arrival.token).sessions =
              (right.withSession arrival.token).sessions :=
          congrArg (·.insert arrival.token administrator) sameSessions
        obtain ⟨sameHistory, leftKept, rightKept⟩ := inductionHypothesis sameNow others
        exact ⟨congrArg (List.cons _) sameHistory, leftKept, rightKept⟩

end Store

end SecretsAdmin.Server
