import Mathlib.Data.List.Induction
import SecretsAdmin.Proofs.Server.Sessions

namespace SecretsAdmin.Server

/-!
# Which sessions are accepted

A request to a resource is turned away for the lack of a session exactly if its first session
cookie is missing, or holds a token with which no login was answered before. So a token is
accepted for good once it was issued, and only logins of the administrator issue tokens.
-/

/-! ## The first session cookie -/

/--
The parts of the cookies in some headers: what stands between the semicolons of the visible ones,
in order and without the blanks around it.
-/
def cookieParts (headers : Http.Headers) : List (List Char) :=
  ((headers.values "cookie").filter Http.isVisible).flatMap fun value =>
    (value.toList.splitOn ';').map Text.trimBlanks

/-- Whether a part is a session cookie with a value. -/
def IsSessionCookie
    (part : List Char)
    (value : String) :
    Prop :=
  part = "session=".toList ++ value.toList

/-- Whether the first session cookie of a request holds a token. -/
def Request.Brings
    (request : Request)
    (token : String) :
    Prop :=
  ∃ earlier part later,
    cookieParts request.headers = earlier ++ part :: later ∧
      IsSessionCookie part token ∧
      ∀ other ∈ earlier, ∀ value, ¬IsSessionCookie other value

/-- The pair that a part stands for, if an equals sign divides it. -/
private def pairOf? (part : List Char) : Option (String × String) :=
  (Text.cutAt? '=' part).map fun (name, value) => (String.ofList name, String.ofList value)

/-- Only a session cookie stands for a pair with its name. -/
private theorem pairOf?_eq_some_iff
    {part : List Char}
    {value : String} :
    pairOf? part = some (Request.sessionCookie, value) ↔ IsSessionCookie part value := by
  have isName : "session=".toList = "session".toList ++ ['='] := rfl
  have noMark : '=' ∉ "session".toList := by decide
  unfold pairOf? IsSessionCookie
  simp only [Option.map_eq_some_iff, Prod.exists, Prod.mk.injEq]
  constructor
  · rintro ⟨name, rest, isCut, sameName, rfl⟩
    obtain ⟨divided, -⟩ := Text.cutAt?_eq_some_iff.mp isCut
    have isSession : name = "session".toList := by
      rw [← String.toList_ofList (l := name), sameName]
      rfl
    have isRest : (String.ofList rest).toList = rest := String.toList_ofList
    rw [divided, isSession, isRest, isName, List.append_assoc, List.singleton_append]
  · rintro rfl
    refine ⟨"session".toList, value.toList, Text.cutAt?_eq_some_iff.mpr ⟨?_, noMark⟩, rfl,
      String.ofList_toList⟩
    rw [isName, List.append_assoc, List.singleton_append]

private theorem cookiePairs_eq (headers : Http.Headers) :
    ((headers.values "cookie").filter Http.isVisible).flatMap Request.cookiePairs =
      (cookieParts headers).filterMap pairOf? := by
  rw [cookieParts, List.filterMap_flatMap]
  refine congrArg (List.flatMap · _) (funext fun value => ?_)
  rw [List.filterMap_map]
  rfl

/-- Whether a part stands for a pair with the name of session cookies. -/
private theorem any_pairOf?_iff {part : List Char} :
    (pairOf? part).any (·.1 == Request.sessionCookie) = true ↔
      ∃ value, IsSessionCookie part value := by
  simp only [← pairOf?_eq_some_iff, Option.any_eq_true, beq_iff_eq, Prod.exists]
  constructor
  · rintro ⟨name, value, isPair, rfl⟩
    exact ⟨value, isPair⟩
  · rintro ⟨value, isPair⟩
    exact ⟨_, value, isPair, rfl⟩

/--
The server takes the token of the first session cookie, and none if there is no such cookie. The
name is searched for in the parts that the pairs stand for.
-/
theorem sessionToken?_eq_some_iff
    {request : Request}
    {token : String} :
    Request.sessionToken? request.headers = some token ↔ request.Brings token := by
  unfold Request.sessionToken?
  dsimp only
  rw [cookiePairs_eq, List.find?_filterMap, Option.map_eq_some_iff]
  constructor
  · rintro ⟨⟨name, value⟩, isPair, rfl⟩
    obtain ⟨part, found, isPart⟩ := Option.bind_eq_some_iff.mp isPair
    obtain ⟨passes, earlier, later, divided, others⟩ := List.find?_eq_some_iff_append.mp found
    obtain ⟨token, isCookie⟩ := any_pairOf?_iff.mp passes
    rw [pairOf?_eq_some_iff.mpr isCookie] at isPart
    cases isPart
    refine ⟨earlier, part, later, divided, isCookie, fun other member value isOther => ?_⟩
    have noSession := others other member
    rw [any_pairOf?_iff.mpr ⟨value, isOther⟩] at noSession
    cases noSession
  · rintro ⟨earlier, part, later, divided, isCookie, others⟩
    refine ⟨(Request.sessionCookie, token), Option.bind_eq_some_iff.mpr ⟨part, ?_, ?_⟩, rfl⟩
    · refine List.find?_eq_some_iff_append.mpr
        ⟨any_pairOf?_iff.mpr ⟨token, isCookie⟩, earlier, later, divided, fun other member => ?_⟩
      rw [Bool.not_eq_true', Bool.eq_false_iff]
      intro passes
      obtain ⟨value, isOther⟩ := any_pairOf?_iff.mp passes
      exact others other member value isOther
    · exact pairOf?_eq_some_iff.mpr isCookie

/-- A request brings at most one token. -/
theorem Request.Brings.unique
    {request : Request}
    {token other : String}
    (brings : request.Brings token)
    (bringsOther : request.Brings other) :
    token = other := by
  rw [← sessionToken?_eq_some_iff] at brings bringsOther
  exact Option.some.inj (brings.symm.trans bringsOther)

/-! ## Tokens that are issued -/

/-- Whether an exchange is a login that succeeded and was answered with a token. -/
def Exchange.Issues
    (exchange : Exchange)
    (token : String) :
    Prop :=
  exchange.request.IsAdministratorLogin ∧ exchange.response = loginResponse token

/-- Whether a token was issued in a history. -/
def History.Issued
    (history : History)
    (token : String) :
    Prop :=
  ∃ exchange ∈ history, exchange.Issues token

namespace Store

/-- Whether no request that brings a token is turned away for the lack of a session. -/
def Accepts
    (store : Store)
    (token : String) :
    Prop :=
  ∀ fresh request resource,
    Route.ofPath? request.path = some (.administration resource) →
      request.Brings token →
        (store.serve fresh request).1.status ≠ 401

/-- The tokens of sessions after a request: those before it, and the one that it issues. -/
theorem mem_sessions_serve_iff
    (store : Store)
    (token : String)
    (request : Request)
    (issued : String) :
    issued ∈ (store.serve token request).2.sessions.keys ↔
      issued ∈ store.sessions.keys ∨
        Exchange.Issues ⟨request, (store.serve token request).1⟩ issued := by
  rcases store.serve_sessions token request with ⟨begins, isLogin, sessions⟩ | ⟨noLogin, sessions⟩
  · rw [sessions, OrderedMap.mem_keys_insert_iff, or_comm, begins]
    refine or_congr_right ⟨?_, fun issues => (loginResponse_injective issues.2).symm⟩
    rintro rfl
    exact ⟨isLogin, rfl⟩
  · rw [sessions]
    exact (or_iff_left fun issues => noLogin issued issues.2).symm

/--
The server knows exactly the tokens that were issued. The induction is on the last request, since a
history grows at its end.
-/
theorem run_issued
    (arrivals : List Arrival)
    (token : String) :
    token ∈ (fresh.run arrivals).2.sessions.keys ↔ (fresh.run arrivals).1.Issued token := by
  induction arrivals using List.reverseRecOn with
  | nil => exact ⟨nofun, nofun⟩
  | append_singleton earlier last inductionHypothesis =>
      rw [run_concat, mem_sessions_serve_iff, inductionHypothesis]
      simp [History.Issued, or_and_right, exists_or]

/-! ## Requests to resources -/

/-- A request to a resource is answered as one without a session exactly if it has none. -/
theorem status_serve_eq_unauthorized_iff
    {store : Store}
    {request : Request}
    {resource : Resource}
    (route : Route.ofPath? request.path = some (.administration resource))
    (token : String) :
    (store.serve token request).1.status = 401 ↔ store.user? request = none := by
  constructor
  · intro denied
    by_contra isKnown
    obtain ⟨user, known⟩ := Option.ne_none_iff_exists'.mp isKnown
    exact serve_user known (by simp [route]) token denied
  · intro unknown
    have denied (method : String) :
        (store.serveMethod none resource method request).1.status = 401 := by
      unfold serveMethod
      cases resource.reader? method <;> rfl
    unfold serve
    rw [route]
    dsimp only
    unfold serveResource
    rw [unknown]
    dsimp only
    split
    · exact denied "GET"
    · exact denied request.method

/-- A request has a session exactly if it brings a token of one. -/
theorem user?_eq_none_iff_brings
    {store : Store}
    {request : Request} :
    store.user? request = none ↔
      ¬∃ token, request.Brings token ∧ token ∈ store.sessions.keys := by
  rw [user?_eq_none_iff, Request.IsStranger, not_exists]
  simp only [sessionToken?_eq_some_iff, not_and]

/-! ## Runs -/

/-- A token that was issued is accepted, whatever is asked after that. -/
theorem run_accepts
    {arrivals : List Arrival}
    {token : String}
    (issued : (fresh.run arrivals).1.Issued token)
    (later : List Arrival) :
    (fresh.run (arrivals ++ later)).2.Accepts token := by
  obtain ⟨exchange, member, issues⟩ := issued
  have stays : (fresh.run (arrivals ++ later)).1.Issued token := by
    rw [run_append]
    exact ⟨exchange, List.mem_append_left _ member, issues⟩
  intro drawn request resource route brings
  rw [Ne, status_serve_eq_unauthorized_iff route, user?_eq_none_iff_brings, not_not]
  exact ⟨token, brings, (run_issued _ _).mpr stays⟩

/-- What is accepted after a request and was not before, is the token that the request issues. -/
theorem accepts_or_issues
    {store : Store}
    {drawn token : String}
    {request : Request}
    (accepts : (store.serve drawn request).2.Accepts token) :
    store.Accepts token ∨ Exchange.Issues ⟨request, (store.serve drawn request).1⟩ token := by
  by_cases before : store.Accepts token
  · exact .inl before
  · right
    simp only [Accepts, not_forall, not_not] at before
    obtain ⟨other, asked, resource, route, brings, denied⟩ := before
    rw [status_serve_eq_unauthorized_iff route, user?_eq_none_iff_brings] at denied
    have permitted := accepts other asked resource route brings
    rw [Ne, status_serve_eq_unauthorized_iff route, user?_eq_none_iff_brings, not_not] at permitted
    obtain ⟨found, bringsFound, known⟩ := permitted
    obtain rfl : found = token := bringsFound.unique brings
    exact ((mem_sessions_serve_iff store drawn request found).mp known).resolve_left
      fun wasKnown => denied ⟨found, brings, wasKnown⟩

/-- A login of the administrator is answered with the token that was drawn for it. -/
theorem serve_administratorLogin
    {request : Request}
    (isLogin : request.IsAdministratorLogin)
    (store : Store)
    (drawn : String) :
    (store.serve drawn request).1 = loginResponse drawn := by
  obtain ⟨route, isPost, isRead⟩ := isLogin
  rw [serve, route]
  dsimp only
  rw [serveLogin_of_credentials isPost isRead, if_pos rfl]

/--
After any run, a request to a resource is turned away for the lack of a session exactly if its
first session cookie is missing, or holds a token that the run has not issued. A token that was
issued is accepted whatever comes later. Exactly the logins of the administrator issue tokens, and
after no other request a token is accepted that was not accepted before.
-/
theorem sessions_accepted_as_issued (arrivals : List Arrival) :
    (∀ drawn request resource,
      Route.ofPath? request.path = some (.administration resource) →
        (((fresh.run arrivals).2.serve drawn request).1.status = 401 ↔
          ¬∃ token, request.Brings token ∧ (fresh.run arrivals).1.Issued token)) ∧
      (∀ token,
        (fresh.run arrivals).1.Issued token →
          ∀ later, (fresh.run (arrivals ++ later)).2.Accepts token) ∧
      ∀ drawn request,
        (request.IsAdministratorLogin →
            ((fresh.run arrivals).2.serve drawn request).1 = loginResponse drawn) ∧
          ∀ token,
            ((fresh.run arrivals).2.serve drawn request).2.Accepts token →
              (fresh.run arrivals).2.Accepts token ∨
                request.IsAdministratorLogin ∧
                  ((fresh.run arrivals).2.serve drawn request).1 = loginResponse token := by
  refine ⟨fun drawn request resource route => ?accepted, fun token issued => run_accepts issued,
    fun drawn request =>
      ⟨fun isLogin => serve_administratorLogin isLogin _ drawn, fun token => accepts_or_issues⟩⟩
  case accepted =>
    rw [status_serve_eq_unauthorized_iff route, user?_eq_none_iff_brings]
    simp only [run_issued]

/-- The session of a login, asked about with some cookies. -/
private def asking (cookies : List String) : Request :=
  ⟨"HEAD", "/admin/me", cookies.map fun cookie => ("Cookie", cookie), []⟩

/-- Only the first session cookie counts, wherever it stands and whatever looks like one. -/
theorem sessions_accepted_as_issued_firstCookie :
    let accepted := asking ["theme; session =u; sessions=u", "ä; session=u", "a=b ; session=t"]
    let denied := asking ["a=b; session=t=", "session=t"]
    accepted.Brings "t" ∧
      ((fresh.run [.login "t"]).2.serve "" accepted).1.status ≠ 401 ∧
      denied.Brings "t=" ∧
      ((fresh.run [.login "t"]).2.serve "" denied).1.status = 401 := by
  intro accepted denied
  have brings : accepted.Brings "t" := sessionToken?_eq_some_iff.mp (by decide +kernel)
  have bringsOther : denied.Brings "t=" := sessionToken?_eq_some_iff.mp (by decide +kernel)
  have issued : (fresh.run [.login "t"]).1.Issued "t" :=
    (run_issued _ _).mp (by decide +kernel)
  have notIssued : ¬(fresh.run [.login "t"]).1.Issued "t=" := by
    rw [← run_issued]
    decide +kernel
  obtain ⟨denied_iff, -⟩ := sessions_accepted_as_issued [.login "t"]
  refine ⟨brings, ?_, bringsOther, ?_⟩
  · rw [Ne, denied_iff "" accepted .user (by decide +kernel), not_not]
    exact ⟨"t", brings, issued⟩
  · rw [denied_iff "" denied .user (by decide +kernel)]
    rintro ⟨token, bringsToken, isIssued⟩
    exact notIssued (bringsToken.unique bringsOther ▸ isIssued)

end Store

end SecretsAdmin.Server
