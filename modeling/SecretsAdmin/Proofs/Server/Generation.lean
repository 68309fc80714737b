import SecretsAdmin.Server.Store

namespace SecretsAdmin.Server.Store

/-!
# Runs of the generator

The generator makes secrets one after the other, each in the store that the one before it left.
Either all of them are made, or the run stops at the first that cannot be made.
-/

/-- Make one secret of parameters. -/
def generateOne
    (store : Store)
    (user : String)
    (input : TemplateInput) :
    Except Denial (Secret × Store) :=
  if input.name.isEmpty then
    .error .unprocessable
  else
    store.insertSecret user (generated input)

/-- Secrets that are made of parameters one after the other, and the store after the last. -/
inductive Generates (user : String) :
    Store → List TemplateInput → List Secret → Store → Prop where
  | done
      {store : Store} :
      Generates user store [] [] store
  | next
      {store between after : Store}
      {input : TemplateInput}
      {inputs : List TemplateInput}
      {secret : Secret}
      {secrets : List Secret}
      (first : store.generateOne user input = .ok (secret, between))
      (rest : Generates user between inputs secrets after) :
      Generates user store (input :: inputs) (secret :: secrets) after

/-- A run goes on with the store that its first secret leaves, or stops at once. -/
theorem generateAll_cons
    (user : String)
    (made : List Secret)
    (input : TemplateInput)
    (inputs : List TemplateInput)
    (store : Store) :
    generateAll user made (input :: inputs) store =
      match store.generateOne user input with
      | .error denial => (.error denial, store)
      | .ok (secret, between) => generateAll user (secret :: made) inputs between := by
  rw [generateAll, generateOne]
  split <;> rfl

/-- As long as every secret can be made, a run goes on behind them. -/
theorem Generates.generateAll_append
    {user : String}
    {store after : Store}
    {inputs : List TemplateInput}
    {secrets : List Secret}
    (generates : Generates user store inputs secrets after)
    (made : List Secret)
    (rest : List TemplateInput) :
    generateAll user made (inputs ++ rest) store =
      generateAll user (secrets.reverse ++ made) rest after := by
  induction generates generalizing made with
  | done => rfl
  | next first _ inductionHypothesis =>
      rw [List.cons_append, generateAll_cons, first]
      simp [inductionHypothesis]

/-- A run that makes all secrets succeeds with them. -/
theorem Generates.generateAll_eq
    {user : String}
    {store after : Store}
    {inputs : List TemplateInput}
    {secrets : List Secret}
    (generates : Generates user store inputs secrets after)
    (made : List Secret) :
    generateAll user made inputs store = (.ok (made.reverse ++ secrets), after) := by
  have whole := generates.generateAll_append made []
  rw [List.append_nil] at whole
  simp [whole, generateAll]

/-- A run ends at the first secret that cannot be made. -/
theorem Generates.generateAll_stops
    {user : String}
    {store after : Store}
    {front : List TemplateInput}
    {secrets : List Secret}
    {input : TemplateInput}
    {denial : Denial}
    (generates : Generates user store front secrets after)
    (stops : after.generateOne user input = .error denial)
    (made : List Secret)
    (rest : List TemplateInput) :
    generateAll user made (front ++ input :: rest) store = (.error denial, after) := by
  rw [generates.generateAll_append, generateAll_cons, stops]

/--
Some of the parameters can be made into secrets, and either they are all, or the next one cannot
be made.
-/
theorem exists_generates
    (user : String)
    (inputs : List TemplateInput)
    (store : Store) :
    ∃ front secrets after,
      Generates user store front secrets after ∧
        (inputs = front ∨
          ∃ input rest denial,
            inputs = front ++ input :: rest ∧
              after.generateOne user input = .error denial) := by
  induction inputs generalizing store with
  | nil => exact ⟨[], [], store, .done, .inl rfl⟩
  | cons input inputs inductionHypothesis =>
      cases first : store.generateOne user input with
      | error denial =>
          exact ⟨[], [], store, .done, .inr ⟨input, inputs, denial, rfl, first⟩⟩
      | ok result =>
          obtain ⟨secret, between⟩ := result
          obtain ⟨front, secrets, after, generates, isAll | stops⟩ :=
            inductionHypothesis between
          · exact ⟨input :: front, secret :: secrets, after, .next first generates,
              .inl (by rw [isAll])⟩
          · obtain ⟨bad, rest, denial, divided, fails⟩ := stops
            exact ⟨input :: front, secret :: secrets, after, .next first generates,
              .inr ⟨bad, rest, denial, by rw [divided, List.cons_append], fails⟩⟩

/-- A run succeeds exactly with the secrets that can be made of all its parameters. -/
theorem generateAll_eq_ok_iff
    {user : String}
    {inputs : List TemplateInput}
    {store after : Store}
    {secrets : List Secret} :
    generateAll user [] inputs store = (.ok secrets, after) ↔
      Generates user store inputs secrets after := by
  constructor
  · intro succeeded
    obtain ⟨front, made, final, generates, isAll | ⟨input, rest, denial, divided, stops⟩⟩ :=
      exists_generates user inputs store
    · rw [isAll, generates.generateAll_eq] at succeeded
      simp only [List.reverse_nil, List.nil_append, Prod.mk.injEq, Except.ok.injEq] at succeeded
      obtain ⟨rfl, rfl⟩ := succeeded
      exact isAll ▸ generates
    · rw [divided, generates.generateAll_stops stops] at succeeded
      simp at succeeded
  · intro generates
    simpa using generates.generateAll_eq []

/-- A run fails exactly when it stops behind some secrets, which are in the store after it. -/
theorem generateAll_eq_error_iff
    {user : String}
    {inputs : List TemplateInput}
    {store after : Store}
    {denial : Denial} :
    generateAll user [] inputs store = (.error denial, after) ↔
      ∃ front secrets input rest,
        inputs = front ++ input :: rest ∧
          Generates user store front secrets after ∧
          after.generateOne user input = .error denial := by
  constructor
  · intro failed
    obtain ⟨front, made, final, generates, isAll | ⟨input, rest, reason, divided, stops⟩⟩ :=
      exists_generates user inputs store
    · rw [isAll, generates.generateAll_eq] at failed
      simp at failed
    · rw [divided, generates.generateAll_stops stops] at failed
      simp only [Prod.mk.injEq, Except.error.injEq] at failed
      obtain ⟨rfl, rfl⟩ := failed
      exact ⟨front, made, input, rest, divided, generates, stops⟩
  · rintro ⟨front, secrets, input, rest, rfl, generates, stops⟩
    exact generates.generateAll_stops stops [] rest

/-- A generator that fails leaves the store as it was, or it was at work on its parameters. -/
theorem generate_eq_error
    {store after : Store}
    {user generator : String}
    {parameters : List Json}
    {denial : Denial}
    (failed : store.generate user generator parameters = (.error denial, after)) :
    after = store ∨
      ∃ inputs,
        generator = generatorName ∧
          parameters.mapM TemplateInput.ofJson? = some inputs ∧
          generateAll user [] inputs store = (.error denial, after) := by
  unfold generate at failed
  split at failed
  next isKnown =>
    split at failed
    next =>
      cases failed
      exact .inl rfl
    next inputs described => exact .inr ⟨inputs, isKnown, described, failed⟩
  next =>
    cases failed
    exact .inl rfl

/-- A generator that succeeds made a secret of each of its parameters. -/
theorem generate_eq_ok
    {store after : Store}
    {user generator : String}
    {parameters : List Json}
    {secrets : List Secret}
    (succeeded : store.generate user generator parameters = (.ok secrets, after)) :
    ∃ inputs,
      generator = generatorName ∧
        parameters.mapM TemplateInput.ofJson? = some inputs ∧
        Generates user store inputs secrets after := by
  unfold generate at succeeded
  split at succeeded
  next isKnown =>
    split at succeeded
    next => cases succeeded
    next inputs described =>
      exact ⟨inputs, isKnown, described, generateAll_eq_ok_iff.mp succeeded⟩
  next => cases succeeded

theorem length_of_mapM
    {α β : Type}
    {change : α → Option β}
    {elements : List α}
    {results : List β}
    (changed : elements.mapM change = some results) :
    results.length = elements.length := by
  induction elements generalizing results with
  | nil =>
      cases changed
      rfl
  | cons element rest inductionHypothesis =>
      rw [List.mapM_cons] at changed
      obtain ⟨result, -, changed⟩ := Option.bind_eq_some_iff.mp changed
      obtain ⟨others, found, same⟩ := Option.bind_eq_some_iff.mp changed
      cases same
      simp [inductionHypothesis found]

/--
Whatever comes of a generator, the store after it has the secrets that were made. They are not more
than there are parameters.
-/
theorem exists_generates_of_generate
    {user generator : String}
    {parameters : List Json}
    {store after : Store}
    {result : Except Denial (List Secret)}
    (outcome : store.generate user generator parameters = (result, after)) :
    ∃ inputs secrets,
      Generates user store inputs secrets after ∧ inputs.length ≤ parameters.length := by
  unfold generate at outcome
  split at outcome
  · split at outcome
    · cases outcome
      exact ⟨[], [], .done, Nat.zero_le _⟩
    next inputs described =>
      have length := length_of_mapM described
      cases result with
      | ok secrets =>
          exact ⟨inputs, secrets, generateAll_eq_ok_iff.mp outcome, Nat.le_of_eq length⟩
      | error denial =>
          obtain ⟨front, secrets, input, rest, divided, generates, -⟩ :=
            generateAll_eq_error_iff.mp outcome
          refine ⟨front, secrets, generates, ?_⟩
          rw [← length, divided, List.length_append]
          exact Nat.le_add_right _ _
  · cases outcome
    exact ⟨[], [], .done, Nat.zero_le _⟩

end SecretsAdmin.Server.Store
