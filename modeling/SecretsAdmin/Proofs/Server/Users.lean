import SecretsAdmin.Proofs.Server.Strangers

namespace SecretsAdmin.Server

/-!
# What users are told

Whoever has a session is never told to log in: nothing that is asked of a resource is denied for
the lack of a session. A token that is written in hexadecimal digits is found in the cookie with
which it is sent back.
-/

/-! ## Tokens -/

/-- Whether a text may be the token of a session: it is written in hexadecimal digits. -/
def IsToken (token : String) : Prop :=
  ∀ digit ∈ token.toList, digit ∈ "0123456789abcdef".toList

instance (token : String) : Decidable (IsToken token) :=
  decidable_of_iff (token.toList.all "0123456789abcdef".toList.contains = true)
    (by simp [IsToken])

namespace IsToken

variable {token : String}

/-- What a test says of all hexadecimal digits, it says of those in a token. -/
theorem passes
    {test : Char → Bool}
    (isToken : IsToken token)
    (passed : "0123456789abcdef".toList.all test = true) :
    token.toList.all test = true :=
  List.all_eq_true.mpr fun digit member => List.all_eq_true.mp passed digit (isToken digit member)

/-- A token is made of hexadecimal digits alone. -/
theorem not_mem
    {mark : Char}
    (isToken : IsToken token)
    (noDigit : mark ∉ "0123456789abcdef".toList) :
    mark ∉ token.toList :=
  fun member => noDigit (isToken mark member)

/-- A cookie with a token does not end within the token. -/
theorem noSemicolon (isToken : IsToken token) :
    ';' ∉ ("session=" ++ token).toList := by
  rw [String.toList_append, List.mem_append, not_or]
  exact ⟨by decide, isToken.not_mem (by decide)⟩

/-- A cookie with a token is cut into its name and the token. -/
theorem cutAt?_cookie (token : String) :
    Text.cutAt? '=' ("session=" ++ token).toList = some ("session".toList, token.toList) :=
  Text.cutAt?_eq_some_iff.mpr ⟨by simp, by decide⟩

/-- A token that comes with a cookie is the one that the server finds. -/
theorem sessionToken?_cookie (isToken : IsToken token) :
    Request.sessionToken? [("cookie", "session=" ++ token)] = some token := by
  have isVisible : Http.isVisible ("session=" ++ token) = true := by
    unfold Http.isVisible
    rw [String.toList_append, List.all_append, Bool.and_eq_true]
    exact ⟨by decide, isToken.passes (by decide)⟩
  have noBlank :
      ("session=" ++ token).toList.all (fun character => !Text.isBlank character) = true := by
    rw [String.toList_append, List.all_append, Bool.and_eq_true]
    exact ⟨by decide, isToken.passes (by decide)⟩
  have isPair : Request.cookiePairs ("session=" ++ token) = [("session", token)] := by
    unfold Request.cookiePairs
    rw [List.splitOn_eq_singleton isToken.noSemicolon, List.filterMap_cons,
      Text.trimBlanks_eq_self noBlank, cutAt?_cookie]
    simp
  have isCookie : Http.sameName "cookie" "cookie" = true := by decide
  simp [Request.sessionToken?, Http.Headers.values, isCookie, isVisible, isPair,
    Request.sessionCookie]

/-- Numbers in hexadecimal digits may be tokens. -/
theorem fixed (width number : Nat) :
    IsToken (String.ofList (Hex.fixed width number)) := by
  have areDigits : ∀ digit < 16, Hex.lowerDigit digit ∈ "0123456789abcdef".toList := by decide
  unfold IsToken
  rw [String.toList_ofList]
  induction width generalizing number with
  | zero => nofun
  | succ width inductionHypothesis =>
      unfold Hex.fixed
      rw [List.forall_mem_append, List.forall_mem_singleton]
      exact ⟨inductionHypothesis _, areDigits _ (Nat.mod_lt _ (by decide))⟩

end IsToken

/-! ## Logins -/

/-- The credentials in a body are those of the administrator, or they are turned away. -/
theorem Store.serveLogin_of_credentials
    {store : Store}
    {request : Request}
    {credentials : LoginInput}
    (isPost : request.method = "POST")
    (isRead : readBody LoginInput.codec.read request = .ok credentials)
    (token : String) :
    store.serveLogin token request =
      if credentials = ⟨Store.administrator, Store.password⟩ then
        (loginResponse token, store.withSession token)
      else
        (bare 401, store) := by
  unfold Store.serveLogin
  rw [if_pos isPost, isRead]
  dsimp only
  cases outcome : store.login token credentials with
  | ok after =>
      obtain ⟨isRight, rfl⟩ := Store.login_eq_ok_iff.mp outcome
      rw [if_pos isRight]
      rfl
  | error denial =>
      have isWrong : credentials ≠ ⟨Store.administrator, Store.password⟩ := by
        intro isRight
        rw [Store.login_eq_ok_iff.mpr ⟨isRight, rfl⟩] at outcome
        cases outcome
      unfold Store.login at outcome
      split at outcome
      next => cases outcome
      next =>
        cases outcome
        rw [if_neg isWrong]
        rfl

/-! ## Denials -/

/-- What is wrong with a request is never said to be the user. -/
theorem Rejection.status_ne_unauthorized (rejection : Rejection) :
    rejection.status ≠ 401 := by
  cases rejection with
  | badBody failure body =>
      rw [status]
      split <;> decide
  | _ => simp [status]

/-- Only one denial is said to be for the user. -/
theorem Denial.status_ne_unauthorized
    {denial : Denial}
    (permitted : denial ≠ .unauthorized) :
    denial.status ≠ 401 := by
  cases denial with
  | unauthorized => exact absurd rfl permitted
  | _ => decide

namespace Store

variable {store : Store} {user : String}

/-- A deletion is denied because there is nothing to delete, not for the user. -/
private theorem deletion_permitted
    {condition : Prop}
    [Decidable condition]
    {after : Store} :
    (if condition then Except.ok after else .error Denial.notFound) ≠ .error .unauthorized := by
  split <;> simp

/-- A secret is denied for its name, not for the user. -/
private theorem insertSecret_permitted {input : SecretInput} :
    store.insertSecret user input ≠ .error .unauthorized := by
  unfold insertSecret
  split <;> simp

private theorem createGroup_permitted {input : GroupInput} :
    store.createGroup user input ≠ .error .unauthorized := by
  unfold createGroup
  split
  · simp
  · split <;> simp

private theorem createClient_permitted {input : ClientInput} :
    store.createClient user input ≠ .error .unauthorized := by
  unfold createClient
  split
  · simp
  · split <;> simp

private theorem createSecret_permitted {input : SecretInput} :
    store.createSecret user input ≠ .error .unauthorized := by
  unfold createSecret
  split
  · simp
  · intro denied
    cases inserted : store.insertSecret user input with
    | error denial =>
        rw [inserted] at denied
        cases denied
        exact insertSecret_permitted inserted
    | ok secret =>
        rw [inserted] at denied
        cases denied

/-- Secrets are generated for every user who is known. -/
private theorem generateAll_permitted
    {made : List Secret}
    {inputs : List TemplateInput} :
    (generateAll user made inputs store).1 ≠ .error .unauthorized := by
  induction inputs generalizing made store with
  | nil => simp [generateAll]
  | cons input rest inductionHypothesis =>
      unfold generateAll
      split
      · simp
      · split
        next denial inserted =>
          rintro ⟨⟩
          exact insertSecret_permitted inserted
        next => exact inductionHypothesis

/-- A generator is denied for its name or its parameters, not for the user. -/
private theorem generate_permitted
    {generator : String}
    {parameters : List Json} :
    (store.generate user generator parameters).1 ≠ .error .unauthorized := by
  unfold generate
  split
  · split
    · simp
    · exact generateAll_permitted
  · simp

/-- An answer to a creation that is permitted is permitted. -/
private theorem answerCreated_permitted
    {α : Type}
    {codec : Json.Codec α}
    {result : Except Denial (α × Store)}
    (permitted : result ≠ .error .unauthorized) :
    (store.answerCreated codec result).1 ≠ .denied .unauthorized := by
  cases result with
  | ok created => simp [answerCreated]
  | error denial =>
      rintro ⟨⟩
      exact permitted rfl

/-- An answer to a change that is permitted is permitted. -/
private theorem answerChanged_permitted
    {answer : Answer}
    {result : Except Denial Store}
    (success : answer ≠ .denied .unauthorized)
    (permitted : result ≠ .error .unauthorized) :
    (store.answerChanged answer result).1 ≠ .denied .unauthorized := by
  cases result with
  | ok after => exact success
  | error denial =>
      rintro ⟨⟩
      exact permitted rfl

/-- What is looked up is there or not, but never withheld. -/
private theorem ofFound_permitted
    {α : Type}
    {codec : Json.Codec α}
    {found : Option α} :
    Answer.ofFound codec found ≠ .denied .unauthorized := by
  cases found <;> simp [Answer.ofFound]

/-- No command of a user is denied for the lack of a session. -/
theorem execute_permitted
    (store : Store)
    (user : String)
    (command : Command) :
    (store.execute user command).1 ≠ .denied .unauthorized := by
  cases command with
  | tellUser | listGroups | listSecrets | listClients => simp [execute]
  | findGroup | findSecret | listVersions | findClient | showGroup | showSecret | showClient =>
      exact ofFound_permitted
  | createGroup input => exact answerCreated_permitted createGroup_permitted
  | createClient input => exact answerCreated_permitted createClient_permitted
  | createSecret input => exact answerCreated_permitted createSecret_permitted
  | generate generator parameters =>
      rw [execute]
      split
      next => simp
      next denial _ outcome =>
        rintro ⟨⟩
        exact generate_permitted (congrArg Prod.fst outcome)
  | deleteGroup | deleteSecret | deleteClient | enrollClient | evictClient | grantSecret
  | revokeSecret => exact answerChanged_permitted (by simp) deletion_permitted

/-- Whatever a user asks for, the response is not that of a stranger. -/
theorem serve_user
    {request : Request}
    (known : store.user? request = some user)
    (noLogin : Route.ofPath? request.path ≠ some .login)
    (token : String) :
    (store.serve token request).1.status ≠ 401 := by
  have served (resource : Resource) (method : String) :
      (store.serveMethod (some user) resource method request).1.status ≠ 401 := by
    unfold serveMethod
    cases resource.reader? method with
    | none => simp [allowing]
    | some read =>
        dsimp only
        cases read request with
        | error rejection => exact rejection.status_ne_unauthorized
        | ok command =>
            have permitted := store.execute_permitted user command
            dsimp only
            generalize (store.execute user command).1 = answer at permitted ⊢
            cases answer with
            | denied denial =>
                exact Denial.status_ne_unauthorized fun isDenial => permitted (isDenial ▸ rfl)
            | _ => simp [Answer.response, bare, documentResponse]
  unfold serve
  split
  next => simp [bare]
  next isLogin => exact absurd isLogin noLogin
  next resource _ =>
    unfold serveResource
    rw [known]
    dsimp only
    split
    · exact served resource "GET"
    · exact served resource request.method

end Store

end SecretsAdmin.Server
