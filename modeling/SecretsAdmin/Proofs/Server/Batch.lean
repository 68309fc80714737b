import SecretsAdmin.Proofs.Server.Generation

namespace SecretsAdmin.Server.Store

/-!
# Batches and single calls

A batch reads all its parameters before it makes the first secret, while single calls read and make
in turn. Where they succeed they come to the same: reading does not look at the store, and making a
secret looks at nothing but the parameters and the store.
-/

/--
Call the generator for each of many parameters on its own, in the store that the call before it
left. The first call that fails ends this.
-/
def generateSingly
    (user : String) :
    List Json → Store → Except Denial (List (List Secret)) × Store
  | [], store => (.ok [], store)
  | parameters :: others, store =>
      match store.generate user generatorName [parameters] with
      | (.error denial, after) => (.error denial, after)
      | (.ok secrets, between) =>
          match generateSingly user others between with
          | (.error denial, after) => (.error denial, after)
          | (.ok parts, after) => (.ok (secrets :: parts), after)

section Batches

variable {user : String} {store after : Store}

/-- Secrets of a divided list of parameters are those of its first part, and then of the second. -/
theorem generates_append_iff
    {front back : List TemplateInput}
    {secrets : List Secret} :
    Generates user store (front ++ back) secrets after ↔
      ∃ first between second,
        Generates user store front first between ∧
          Generates user between back second after ∧
          secrets = first ++ second := by
  constructor
  · intro generates
    induction front generalizing store secrets with
    | nil => exact ⟨[], store, secrets, .done, generates, rfl⟩
    | cons input front inductionHypothesis =>
        cases generates with
        | next made rest =>
            obtain ⟨first, between, second, isFront, isBack, rfl⟩ := inductionHypothesis rest
            exact ⟨_ :: first, between, second, .next made isFront, isBack, rfl⟩
  · rintro ⟨first, between, second, isFront, isBack, rfl⟩
    induction isFront with
    | done => exact isBack
    | next made _ inductionHypothesis => exact .next made (inductionHypothesis isBack)

/-- A batch succeeds exactly if all its parameters can be read and then made into secrets. -/
theorem generate_eq_ok_iff
    {parameters : List Json}
    {secrets : List Secret} :
    store.generate user generatorName parameters = (.ok secrets, after) ↔
      ∃ inputs,
        parameters.mapM TemplateInput.ofJson? = some inputs ∧
          Generates user store inputs secrets after := by
  constructor
  · intro succeeded
    obtain ⟨inputs, -, described, generates⟩ := generate_eq_ok succeeded
    exact ⟨inputs, described, generates⟩
  · rintro ⟨inputs, described, generates⟩
    rw [generate, if_pos rfl, described]
    exact generateAll_eq_ok_iff.mpr generates

/-- A divided batch succeeds exactly if its parts do, one after the other. -/
theorem generate_append_eq_ok_iff
    {front back : List Json}
    {secrets : List Secret} :
    store.generate user generatorName (front ++ back) = (.ok secrets, after) ↔
      ∃ first between second,
        store.generate user generatorName front = (.ok first, between) ∧
          between.generate user generatorName back = (.ok second, after) ∧
          secrets = first ++ second := by
  simp only [generate_eq_ok_iff, List.mapM_append]
  constructor
  · rintro ⟨inputs, described, generates⟩
    obtain ⟨frontInputs, isFront, described⟩ := Option.bind_eq_some_iff.mp described
    obtain ⟨backInputs, isBack, divided⟩ := Option.bind_eq_some_iff.mp described
    cases divided
    obtain ⟨first, between, second, ofFront, ofBack, rfl⟩ := generates_append_iff.mp generates
    exact ⟨first, between, second, ⟨frontInputs, isFront, ofFront⟩, ⟨backInputs, isBack, ofBack⟩,
      rfl⟩
  · rintro ⟨first, between, second, ⟨frontInputs, isFront, ofFront⟩,
      ⟨backInputs, isBack, ofBack⟩, rfl⟩
    refine ⟨frontInputs ++ backInputs, ?_, ?_⟩
    · rw [isFront, isBack]
      rfl
    · exact generates_append_iff.mpr ⟨first, between, second, ofFront, ofBack, rfl⟩

/-- Single calls succeed exactly if the first does, and then the others. -/
theorem generateSingly_cons_eq_ok_iff
    {parameters : Json}
    {others : List Json}
    {parts : List (List Secret)} :
    generateSingly user (parameters :: others) store = (.ok parts, after) ↔
      ∃ secrets between rest,
        store.generate user generatorName [parameters] = (.ok secrets, between) ∧
          generateSingly user others between = (.ok rest, after) ∧
          parts = secrets :: rest := by
  rw [generateSingly]
  constructor
  · intro succeeded
    split at succeeded
    next => cases succeeded
    next secrets between isFirst =>
      split at succeeded
      next => cases succeeded
      next rest final isRest =>
        cases succeeded
        exact ⟨secrets, between, rest, isFirst, isRest, rfl⟩
  · rintro ⟨secrets, between, rest, isFirst, isRest, rfl⟩
    rw [isFirst]
    dsimp only
    rw [isRest]

end Batches

/--
A batch succeeds exactly if all single calls of its parameters do, each in the store that the one
before it left. Then its secrets are theirs in order, and it leaves the store that they leave.
-/
theorem batch_is_single_calls
    (store after : Store)
    (user : String)
    (parameters : List Json)
    (secrets : List Secret) :
    store.generate user generatorName parameters = (.ok secrets, after) ↔
      ∃ parts,
        generateSingly user parameters store = (.ok parts, after) ∧ parts.flatten = secrets := by
  induction parameters generalizing store secrets with
  | nil =>
      constructor
      · intro succeeded
        cases succeeded
        exact ⟨[], rfl, rfl⟩
      · rintro ⟨parts, succeeded, rfl⟩
        cases succeeded
        rfl
  | cons first others inductionHypothesis =>
      rw [← List.singleton_append, generate_append_eq_ok_iff]
      simp only [inductionHypothesis, List.singleton_append, generateSingly_cons_eq_ok_iff]
      constructor
      · rintro ⟨made, between, _, isFirst, ⟨parts, isRest, rfl⟩, rfl⟩
        exact ⟨made :: parts, ⟨made, between, parts, isFirst, isRest, rfl⟩, List.flatten_cons⟩
      · rintro ⟨_, ⟨made, between, parts, isFirst, isRest, rfl⟩, rfl⟩
        exact ⟨made, between, parts.flatten, isFirst, ⟨parts, isRest, rfl⟩, List.flatten_cons⟩

/-- Where they fail they differ: a batch that cannot be read makes nothing, single calls may. -/
example :
    let parameters := [Json.object [("name", .text "a")], .null]
    (fresh.generate "u" generatorName parameters).2.secrets.keys = [] ∧
      (generateSingly "u" parameters fresh).2.secrets.keys = [1] := by
  decide +kernel

end SecretsAdmin.Server.Store
