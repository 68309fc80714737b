import SecretsAdmin.Proofs.Server.Content
import SecretsAdmin.Proofs.Text.Utf8

namespace SecretsAdmin.Server

/-!
# What the generator is asked with

The generator takes the parameters of a secret by their names or by their places, and makes the
secret of them as if it were created. It looks at the name as creation does, but not at the content.
-/

/-! ## Parameters -/

namespace TemplateInput

/--
Whether values are those of a name, a description and a template. A value may be absent; only the
name has to be there.
-/
structure AreGiven
    (name description template : Option Json)
    (input : TemplateInput) :
    Prop where
  name : name = some (.text input.name)
  description :
    description = some (.text input.description) ∨ description = none ∧ input.description = ""
  template :
    template = input.template.map Json.text ∨ template = some .null ∧ input.template = none

/-- Whether a document is an object with the parameters as members. -/
def IsByName (input : TemplateInput) (document : Json) : Prop :=
  ∃ members,
    document = .object members ∧
      AreGiven (document.member? "name") (document.member? "description")
        (document.member? "template") input

/-- Whether a document is a list of the parameters, without some at the end. -/
def IsByPlace (input : TemplateInput) (document : Json) : Prop :=
  ∃ elements,
    document = .array elements ∧
      elements.length ≤ 3 ∧ AreGiven elements[0]? elements[1]? elements[2]? input

/-- A text with a default is the text that is given, or the default where nothing is. -/
theorem textOr_eq_some_iff
    {default text : String}
    {value : Option Json} :
    textOr default value = some text ↔
      value = some (.text text) ∨ value = none ∧ text = default := by
  unfold textOr
  split <;> simp_all [eq_comm]

/-- A text that may be missing is the one that is given; `null` and nothing are no text. -/
theorem textOrNull_eq_some_iff
    {template : Option String}
    {value : Option Json} :
    textOrNull value = some template ↔
      value = template.map Json.text ∨ value = some .null ∧ template = none := by
  unfold textOrNull
  cases template <;> split <;> simp_all

theorem text?_eq_some_iff
    {document : Json}
    {text : String} :
    document.text? = some text ↔ document = .text text := by
  cases document <;> simp [Json.text?]

/-- The parameters that values are read as, wherever they stand in a document. -/
def ofValues? (name description template : Option Json) : Option TemplateInput := do
  let name ← (← name).text?
  let description ← textOr "" description
  let template ← textOrNull template
  return { name, description, template }

/-- Values are read as the parameters that they give. -/
theorem ofValues?_eq_some_iff
    {name description template : Option Json}
    {input : TemplateInput} :
    ofValues? name description template = some input ↔
      AreGiven name description template input := by
  simp only [ofValues?, Option.bind_eq_bind, Option.bind_eq_some_iff, Option.pure_def,
    Option.some.injEq, text?_eq_some_iff, textOr_eq_some_iff, textOrNull_eq_some_iff]
  constructor
  · rintro ⟨_, isName, _, rfl, _, isDescription, _, isTemplate, rfl⟩
    exact ⟨isName, isDescription, isTemplate⟩
  · rintro ⟨isName, isDescription, isTemplate⟩
    exact ⟨_, isName, _, rfl, _, isDescription, _, isTemplate, rfl⟩

/-- A document is read as parameters if it gives them by their names, or by their places. -/
theorem ofJson?_eq_some_iff
    {document : Json}
    {input : TemplateInput} :
    ofJson? document = some input ↔ input.IsByName document ∨ input.IsByPlace document := by
  cases document with
  | object members =>
      have isRead :
          ofJson? (.object members) =
            ofValues? (Json.member? "name" (.object members))
              (Json.member? "description" (.object members))
              (Json.member? "template" (.object members)) :=
        rfl
      rw [isRead, ofValues?_eq_some_iff]
      simp [IsByName, IsByPlace]
  | array elements =>
      by_cases long : 3 < elements.length
      · simp [ofJson?, IsByName, IsByPlace, long, Nat.not_le.mpr long]
      · have isRead :
            ofJson? (.array elements) = ofValues? elements[0]? elements[1]? elements[2]? := by
          simp [ofJson?, ofValues?, long]
        rw [isRead, ofValues?_eq_some_iff]
        simp [IsByName, IsByPlace, Nat.not_lt.mp long]
  | _ => simp [ofJson?, IsByName, IsByPlace]

end TemplateInput

namespace Store

/-! ## Single secrets -/

/-- A secret is generated under the conditions that creation has, but for that on the content. -/
theorem generateOne_eq
    (store : Store)
    (user : String)
    (input : TemplateInput) :
    store.generateOne user input =
      if input.name = "" then
        .error .unprocessable
      else if store.hasSecretNamed input.name = true then
        .error .conflict
      else
        let secret := store.newSecret user (generated input)
        .ok (secret, store.withSecret secret) := by
  unfold generateOne insertSecret
  simp only [generated, String.isEmpty_iff, Bool.not_false, and_true]
  rfl

/-- What comes of one document that the generator reads as parameters. -/
theorem execute_generate
    (store : Store)
    (user : String)
    {document : Json}
    {input : TemplateInput}
    (isRead : TemplateInput.ofJson? document = some input) :
    store.execute user (.generate generatorName [document]) =
      if input.name = "" then
        (.denied .unprocessable, store)
      else if store.hasSecretNamed input.name = true then
        (.denied .conflict, store)
      else
        let secret := store.newSecret user (generated input)
        (.found (Secret.codec.array.write [secret]), store.withSecret secret) := by
  have areRead : [document].mapM TemplateInput.ofJson? = some [input] := by
    simp [isRead]
  rw [execute, generate, if_pos rfl, areRead]
  dsimp only
  rw [generateAll_cons, generateOne_eq]
  by_cases unnamed : input.name = ""
  · rw [if_pos unnamed, if_pos unnamed]
  · rw [if_neg unnamed, if_neg unnamed]
    by_cases taken : store.hasSecretNamed input.name = true
    · rw [if_pos taken, if_pos taken]
    · rw [if_neg taken, if_neg taken]
      rfl

/-- The name decides the status of what is generated, and nothing else does. -/
theorem status_generate
    (store : Store)
    (user : String)
    {document : Json}
    {input : TemplateInput}
    (isRead : TemplateInput.ofJson? document = some input) :
    (store.execute user (.generate generatorName [document])).1.response.status =
      if input.name = "" then 422
      else if store.hasSecretNamed input.name = true then 409 else 200 := by
  rw [store.execute_generate user isRead, status_ite]
  rfl

/-- Nothing is generated of a document that gives no parameters. -/
theorem execute_generate_unread
    (store : Store)
    (user : String)
    {document : Json}
    (unread : TemplateInput.ofJson? document = none) :
    store.execute user (.generate generatorName [document]) = (.denied .unprocessable, store) := by
  have areUnread : [document].mapM TemplateInput.ofJson? = none := by
    simp [unread]
  rw [execute, generate, if_pos rfl, areUnread]

/-! ## Which documents the generator takes -/

/-- What comes of a document that gives parameters with a name. -/
structure Takes
    (store : Store)
    (user : String)
    (document : Json)
    (input : TemplateInput) :
    Prop where
  conflict :
    (store.execute user (.generate generatorName [document])).1.response.status = 409 ↔
      ∃ secret ∈ store.secrets.values, secret.name = input.name
  unchanged :
    (∃ secret ∈ store.secrets.values, secret.name = input.name) →
      (store.execute user (.generate generatorName [document])).2 = store
  stored :
    (¬∃ secret ∈ store.secrets.values, secret.name = input.name) →
      (store.execute user (.generate generatorName [document])).1.response.status = 200 ∧
        (store.execute user (.generate generatorName [document])).2 =
          store.withSecret {
            id := store.nextId
            name := input.name
            description := input.description
            version := none
            createdBy := user
            metadata := .empty }

/-- What comes of a document that is read as parameters with a name. -/
theorem takes
    (store : Store)
    (user : String)
    {document : Json}
    {input : TemplateInput}
    (isRead : TemplateInput.ofJson? document = some input)
    (named : input.name ≠ "") :
    store.Takes user document input := by
  have status := store.status_generate user isRead
  have outcome := store.execute_generate user isRead
  rw [if_neg named] at status outcome
  refine ⟨?conflict, fun taken => ?unchanged, fun free => ?stored⟩
  case conflict =>
    rw [status, ← hasSecretNamed_iff]
    split <;> simp [*]
  case unchanged =>
    rw [← hasSecretNamed_iff] at taken
    rw [outcome, if_pos taken]
  case stored =>
    rw [← hasSecretNamed_iff] at free
    rw [status, outcome, if_neg free, if_neg free]
    exact ⟨rfl, rfl⟩

/--
A document is unprocessable exactly if it gives no parameters with a name, be it as an object or as
a list. Any other is in conflict with a secret of the name, or becomes a secret without a version.
-/
theorem generator_takes_parameters
    (store : Store)
    (user : String)
    (document : Json) :
    ((store.execute user (.generate generatorName [document])).1.response.status = 422 ↔
        ¬∃ input : TemplateInput,
          input.name ≠ "" ∧ (input.IsByName document ∨ input.IsByPlace document)) ∧
      ∀ input : TemplateInput,
        input.name ≠ "" →
          input.IsByName document ∨ input.IsByPlace document →
            store.Takes user document input := by
  simp only [← TemplateInput.ofJson?_eq_some_iff]
  refine ⟨?unprocessable, fun input named isRead => store.takes user isRead named⟩
  case unprocessable =>
    cases isRead : TemplateInput.ofJson? document with
    | none => simp [store.execute_generate_unread user isRead, Answer.response, bare, Denial.status]
    | some input =>
        rw [store.status_generate user isRead]
        split
        next unnamed => simp [unnamed]
        next named => split <;> simp [named]

/-- An object that gives a name, `null` and something else, and a list that gives only a name. -/
theorem generator_takes_parameters_list :
    let object := Json.object [("template", .null), ("other", .array []), ("name", .text "a")]
    let list := Json.array [.text "a"]
    let input : TemplateInput := { name := "a" }
    input.IsByName object ∧
      input.IsByPlace list ∧
      fresh.Takes "u" object input ∧
      fresh.Takes "u" list input := by
  intro object list input
  have byName : input.IsByName object :=
    ⟨_, rfl, ⟨rfl, .inr ⟨rfl, rfl⟩, .inr ⟨rfl, rfl⟩⟩⟩
  have byPlace : input.IsByPlace list :=
    ⟨_, rfl, by decide, ⟨rfl, .inr ⟨rfl, rfl⟩, .inl rfl⟩⟩
  exact ⟨byName, byPlace,
    (generator_takes_parameters fresh "u" object).2 input (by decide) (.inl byName),
    (generator_takes_parameters fresh "u" list).2 input (by decide) (.inr byPlace)⟩

/-- Objects are not the only documents that the generator takes: a list with a name is one too. -/
theorem list_not_unprocessable :
    ¬∀ (store : Store) (user : String) (document : Json),
        (store.execute user (.generate generatorName [document])).1.response.status = 422 ↔
          ¬∃ input : TemplateInput, input.name ≠ "" ∧ input.IsByName document := by
  intro onlyObjects
  have taken :
      (fresh.execute "u" (.generate generatorName [.array [.text "a"]])).1.response.status =
        200 := by
    decide +kernel
  have refused := (onlyObjects fresh "u" (.array [.text "a"])).mpr <| by
    rintro ⟨input, -, members, isObject, -⟩
    cases isObject
  rw [taken] at refused
  cases refused

/-! ## Templates and contents -/

/-- The document that asks the generator for a secret. -/
def templateDocument (name description template : String) : Json :=
  .object [("name", .text name), ("description", .text description), ("template", .text template)]

/-- The wish for the same secret, with the bytes of the template as its content. -/
def templateWish (name description template : String) : SecretInput where
  name := name
  description := description
  content := Base64.encode (Utf8.encode template)

/-- Whether two ways to make a secret obey the same rules. -/
structure ObeySameRules (generated created : Answer × Store) : Prop where
  accepted_iff : generated.1.response.status < 400 ↔ created.1.response.status < 400
  status :
    400 ≤ generated.1.response.status →
      generated.1.response.status = created.1.response.status
  store : generated.1.response.status < 400 → generated.2 = created.2

/-- The bytes of a template are a content, unless there are none. -/
theorem isContent_template (template : String) :
    isContent (Base64.encode (Utf8.encode template)) = true ↔ template ≠ "" := by
  constructor
  · rintro isContent rfl
    rw [Utf8.encode_empty] at isContent
    exact absurd isContent (by decide +kernel)
  · intro notEmpty
    exact isContent_encode fun noBytes =>
      notEmpty (Utf8.encode_injective (noBytes.trans Utf8.encode_empty.symm))

theorem ofJson?_templateDocument (name description template : String) :
    TemplateInput.ofJson? (templateDocument name description template) =
      some ⟨name, description, some template⟩ :=
  rfl

/-- What comes of the wish for the secret that a template describes. -/
theorem execute_templateWish
    (store : Store)
    (user name description template : String) :
    store.execute user (.createSecret (templateWish name description template)) =
      if name = "" ∨ template = "" then
        (.denied .unprocessable, store)
      else if store.hasSecretNamed name = true then
        (.denied .conflict, store)
      else
        let secret := store.newSecret user (templateWish name description template)
        let after := store.withSecret secret
        (.created (SecretDetail.codec.write (after.detailOfSecret secret)), after) := by
  have noContent :
      isContent (Base64.encode (Utf8.encode template)) = false ↔ template = "" := by
    rw [← Bool.not_eq_true, ← not_iff_not, not_not]
    exact isContent_template template
  rw [execute_createSecret]
  simp only [templateWish, noContent, and_true]

/--
Generating a secret and creating it obey the same rules exactly if its template is not empty, or if
it has no name and cannot be made either way. Only creation refuses an empty content.
-/
theorem templates_are_contents_unless_empty
    (store : Store)
    (user name description template : String) :
    let generated :=
      store.execute user (.generate generatorName [templateDocument name description template])
    let created := store.execute user (.createSecret (templateWish name description template))
    (ObeySameRules generated created ↔ template ≠ "" ∨ name = "") ∧
      generated.1.response.status =
        (if name = "" then 422 else if store.hasSecretNamed name = true then 409 else 200) ∧
      created.1.response.status =
        (if name = "" ∨ template = "" then 422
        else if store.hasSecretNamed name = true then 409 else 201) := by
  intro generated created
  have isRead := ofJson?_templateDocument name description template
  have isGenerated := store.execute_generate user isRead
  have isCreated := store.execute_templateWish user name description template
  have generatedStatus :
      generated.1.response.status =
        if name = "" then 422 else if store.hasSecretNamed name = true then 409 else 200 :=
    store.status_generate user isRead
  have createdStatus :
      created.1.response.status =
        if name = "" ∨ template = "" then 422
        else if store.hasSecretNamed name = true then 409 else 201 := by
    rw [show created = _ from isCreated, status_ite]
    rfl
  refine ⟨⟨?refused, ?same⟩, generatedStatus, createdStatus⟩
  case refused =>
    intro same
    rw [or_iff_not_imp_right]
    rintro named rfl
    rw [if_neg named] at generatedStatus
    rw [if_pos (.inr rfl)] at createdStatus
    by_cases taken : store.hasSecretNamed name = true
    · rw [if_pos taken] at generatedStatus
      have sameStatus := same.status (by omega)
      omega
    · rw [if_neg taken] at generatedStatus
      have alsoAccepted := same.accepted_iff.mp (by omega)
      omega
  case same =>
    intro allowed
    by_cases unnamed : name = ""
    · rw [if_pos unnamed] at generatedStatus
      rw [if_pos (.inl unnamed)] at createdStatus
      exact ⟨by omega, by omega, by omega⟩
    have whole : ¬(name = "" ∨ template = "") :=
      not_or.mpr ⟨unnamed, allowed.resolve_right unnamed⟩
    rw [if_neg unnamed] at generatedStatus isGenerated
    rw [if_neg whole] at createdStatus isCreated
    by_cases taken : store.hasSecretNamed name = true
    · rw [if_pos taken] at generatedStatus createdStatus
      exact ⟨by omega, by omega, by omega⟩
    · rw [if_neg taken] at generatedStatus createdStatus isGenerated isCreated
      refine ⟨by omega, by omega, fun _ => ?_⟩
      exact (congrArg Prod.snd isGenerated).trans (congrArg Prod.snd isCreated).symm

/-- The two ways do not always agree: an empty template becomes a secret, an empty content none. -/
theorem empty_template_generated :
    ¬∀ (store : Store) (user name description template : String),
        ObeySameRules
          (store.execute user
            (.generate generatorName [templateDocument name description template]))
          (store.execute user (.createSecret (templateWish name description template))) := by
  intro agree
  have generated :
      (fresh.execute "u"
        (.generate generatorName [templateDocument "a" "" ""])).1.response.status = 200 := by
    decide +kernel
  have created :
      (fresh.execute "u" (.createSecret (templateWish "a" "" ""))).1.response.status = 422 := by
    decide +kernel
  have sameSuccess := (agree fresh "u" "a" "" "").accepted_iff
  rw [generated, created] at sameSuccess
  exact absurd sameSuccess (by decide)

end Store

end SecretsAdmin.Server
