import Mathlib.Algebra.Group.Nat.Defs
import SecretsAdmin.Proofs.Json.Length
import SecretsAdmin.Proofs.Server.Reading
import SecretsAdmin.Proofs.Server.Run

namespace SecretsAdmin.Server

/-!
# What failed requests leave behind

A request that fails leaves the store as it was, with one exception: a batch of which the
generator has made some secrets before it comes to one that it denies. Those secrets stay.
-/

/-! ## Denied commands -/

/-- An answer is a failure exactly when it denies. -/
theorem Answer.failure_iff
    {answer : Answer} :
    400 ≤ answer.response.status ↔ ∃ denial, answer = .denied denial := by
  cases answer with
  | denied denial => simp [Answer.response, bare, denial.failure]
  | _ => simp [Answer.response, bare, documentResponse]

namespace Store

/-- A denied command has no effect, unless it is one for a generator. -/
theorem execute_denied
    {store after : Store}
    {user : String}
    {command : Command}
    {denial : Denial}
    (executed : store.execute user command = (.denied denial, after)) :
    after = store ∨
      ∃ generator parameters,
        command = .generate generator parameters ∧
          store.generate user generator parameters = (.error denial, after) := by
  cases command with
  | createGroup | createSecret | createClient =>
      obtain ⟨_, -, created⟩ | ⟨_, -, -, same⟩ := answerCreated_cases executed
      · cases created
      · exact .inl same
  | deleteGroup | deleteSecret | deleteClient | enrollClient | evictClient | grantSecret
  | revokeSecret =>
      obtain ⟨-, changed⟩ | ⟨_, -, -, same⟩ := answerChanged_cases executed
      · cases changed
      · exact .inl same
  | generate generator parameters =>
      rw [execute] at executed
      split at executed
      next => cases executed
      next outcome =>
        cases executed
        exact .inr ⟨generator, parameters, rfl, outcome⟩
  | _ => exact .inl (congrArg Prod.snd executed).symm

/-! ## Batches that break off -/

/-- Each secret that is generated takes one identifier. -/
theorem Generates.lastId
    {user : String}
    {store after : Store}
    {inputs : List TemplateInput}
    {secrets : List Secret}
    (generates : Generates user store inputs secrets after) :
    after.lastId = store.lastId + Int64.ofNat inputs.length := by
  induction generates with
  | done => simp
  | next first _ inductionHypothesis =>
      obtain ⟨-, -, rfl, rfl⟩ := generateOne_eq_ok_iff.mp first
      rw [inductionHypothesis, List.length_cons, Int64.ofNat_add,
        Int64.add_comm (Int64.ofNat _), ← Int64.add_assoc]
      rfl

theorem length_parameters_le
    {request : Request}
    {generator : String}
    {parameters : List Json}
    (asked : request.command? = some (.generate generator parameters)) :
    parameters.length ≤ greatestLength := by
  obtain ⟨resource, read, route, reader, isRead⟩ := request.reader_of_command? asked
  obtain ⟨method, parameter, rfl | rfl, -⟩ := Resource.method_and_isAt reader isRead
  · rw [method] at reader
    obtain rfl : CommandReader.ofParameters parameter = read := Option.some.inj reader
    obtain ⟨_, _, -, -, same⟩ := CommandReader.ofParameters_eq_ok_iff.mp isRead
    cases same
    simp [greatestLength]
  · rw [method] at reader
    obtain rfl : CommandReader.ofBatch parameter = read := Option.some.inj reader
    obtain ⟨_, _, -, body, same⟩ := CommandReader.ofBatch_eq_ok_iff.mp isRead
    cases same
    obtain ⟨-, short, parsed⟩ := readBody_eq_ok_iff.mp body
    obtain ⟨rest, elements⟩ := Json.exists_read_of_parse parsed
    exact Nat.le_trans (Json.length_readArray_le elements) short

/--
A request asks the generator for secrets, of which the first ones can be made, at least one, and
the next one cannot: `between` is the store with those that can.
-/
def BreaksOff
    (store : Store)
    (request : Request)
    (between : Store) : Prop :=
  ∃ user parameters front secrets input rest denial,
    store.user? request = some user ∧
      request.command? = some (.generate generatorName parameters) ∧
      parameters.mapM TemplateInput.ofJson? = some (front ++ input :: rest) ∧
      front ≠ [] ∧
      Generates user store front secrets between ∧
      between.generateOne user input = .error denial

/-- Identifiers that are taken make a difference, as long as they are fewer than 2^64. -/
private theorem add_ofNat_ne_self
    {id : Int64}
    {count : Nat}
    (some : 0 < count)
    (few : count < 2 ^ 64) :
    id + Int64.ofNat count ≠ id := by
  intro same
  have isZero : Int64.ofNat count = 0 := Int64.add_eq_left.mp same
  have bits := congrArg (fun number : Int64 => number.toBitVec.toNat) isZero
  simp only [Int64.toBitVec_ofNat', BitVec.toNat_ofNat] at bits
  change count % 2 ^ 64 = 0 at bits
  omega

/-- What a request leaves behind that breaks off is another store, with the secrets made so far. -/
theorem BreaksOff.ne
    {store between : Store}
    {request : Request}
    (breaksOff : store.BreaksOff request between) :
    between ≠ store := by
  obtain ⟨user, parameters, front, secrets, input, rest, denial, -, asked, described, notEmpty,
    generates, -⟩ := breaksOff
  have bound := length_parameters_le asked
  have length := length_of_mapM described
  rw [List.length_append] at length
  have some : 0 < front.length := List.length_pos_iff.mpr notEmpty
  have few : front.length < 2 ^ 64 := by
    unfold greatestLength at bound
    omega
  intro same
  have taken := generates.lastId
  rw [same] at taken
  exact add_ofNat_ne_self some few taken.symm

/-- A request that breaks off leaves behind the secrets that were made before. -/
theorem BreaksOff.serve_eq
    {store between : Store}
    {request : Request}
    (breaksOff : store.BreaksOff request between)
    (token : String) :
    (store.serve token request).2 = between := by
  obtain ⟨user, parameters, front, secrets, input, rest, denial, known, asked, described, -,
    generates, stops⟩ := breaksOff
  have outcome := generates.generateAll_stops stops [] rest
  rw [serve_of_command token known asked]
  simp [execute, generate, described, outcome]

/-- A request that fails and changes the store has broken off. -/
theorem unchanged_or_breaksOff
    {store : Store}
    {token : String}
    {request : Request}
    (failure : 400 ≤ (store.serve token request).1.status) :
    (store.serve token request).2 = store ∨
      ∃ between, store.BreaksOff request between := by
  have served := store.serve_served token request
  generalize (store.serve token request).2 = after at served ⊢
  generalize (store.serve token request).1 = response at served failure
  cases served with
  | refused _ => exact .inl rfl
  | begun _ _ => simp at failure
  | @obeyed user command answer after response known asked executed status =>
      rw [status] at failure
      obtain ⟨denial, rfl⟩ := Answer.failure_iff.mp failure
      obtain same | ⟨generator, parameters, rfl, failed⟩ := execute_denied executed
      · exact .inl same
      obtain same | ⟨inputs, rfl, described, failed⟩ := generate_eq_error failed
      · exact .inl same
      obtain ⟨front, secrets, input, rest, rfl, generates, stops⟩ :=
        generateAll_eq_error_iff.mp failed
      cases generates with
      | done => exact .inl rfl
      | next first others =>
          exact .inr ⟨after, user, parameters, _, _, input, rest, denial, known, asked,
            described, nofun, .next first others, stops⟩

/--
A failed request leaves the store as it was exactly when it does not break off; if it does, the
store has the secrets that were made before.
-/
theorem serve_failed
    (store : Store)
    (token : String)
    (request : Request)
    (failure : 400 ≤ (store.serve token request).1.status) :
    ((store.serve token request).2 = store ↔
        ¬∃ between, store.BreaksOff request between) ∧
      ∀ between, store.BreaksOff request between →
        (store.serve token request).2 = between := by
  refine ⟨⟨?_, ?_⟩, fun between breaksOff => breaksOff.serve_eq token⟩
  · rintro unchanged ⟨between, breaksOff⟩
    exact breaksOff.ne ((breaksOff.serve_eq token).symm.trans unchanged)
  · exact (unchanged_or_breaksOff failure).resolve_right

/-! ## A batch that breaks off -/

/-- A batch for two secrets, of which the second has no name. -/
private def halfNamedBatch : Request :=
  .posting "/admin/secrets/generators/templated/batch" "t"
    "[\x7b\"name\":\"a\"\x7d,\x7b\"name\":\"\"\x7d]"

/-- The store in which only the administrator has logged in. -/
private def afterLogin : Store :=
  (fresh.run [.login "t"]).2

/-- The batch fails, and what it leaves behind is as for every failed request. -/
theorem serve_failed_halfNamedBatch :
    400 ≤ (afterLogin.serve "u" halfNamedBatch).1.status ∧
      (((afterLogin.serve "u" halfNamedBatch).2 = afterLogin ↔
          ¬∃ between, afterLogin.BreaksOff halfNamedBatch between) ∧
        ∀ between, afterLogin.BreaksOff halfNamedBatch between →
          (afterLogin.serve "u" halfNamedBatch).2 = between) := by
  have failure : 400 ≤ (afterLogin.serve "u" halfNamedBatch).1.status := by decide +kernel
  exact ⟨failure, serve_failed afterLogin "u" halfNamedBatch failure⟩

/-- Not every failed request leaves a reachable store as it was: the batch keeps a secret. -/
theorem failed_batch_keeps_secret :
    ¬∀ store : Store, store.Reachable →
      ∀ token request,
        400 ≤ (store.serve token request).1.status →
          (store.serve token request).2 = store := by
  intro atomic
  have changed : (afterLogin.serve "u" halfNamedBatch).2 ≠ afterLogin := by decide +kernel
  exact changed <|
    atomic afterLogin ⟨[.login "t"], rfl⟩ "u" halfNamedBatch (by decide +kernel)

end Store

end SecretsAdmin.Server
