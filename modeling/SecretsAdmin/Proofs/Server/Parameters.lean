import SecretsAdmin.Proofs.Model.Leniency
import SecretsAdmin.Proofs.Server.Template

namespace SecretsAdmin.Server

/-!
# Parameters in texts and in documents

The parameters of a generator can be read from a text, and from a document that was read before.
Both readings find the same in a text and a document that match, as long as no member comes again:
a text that repeats a parameter is refused, while a document has only the last one.
-/

open Json

/-! ## Texts and documents that match -/

/-- Whether characters write a document, as far as strings and `null` are concerned. -/
structure Matches (written : List Char) (document : Json) : Prop where
  isJson : IsJson written
  text : ∀ text, SpellsText written text ↔ document = .text text
  null : written = ['n', 'u', 'l', 'l'] ↔ document = .null

/-- Whether a member of a text has the name of an entry, and a value that matches. -/
def MatchesEntry (member : Member) (entry : String × Json) : Prop :=
  member.name = entry.1 ∧ Matches member.value entry.2

/--
Whether a text is an object with the members of a document, each of which comes once, or an array
with its elements.
-/
inductive MatchesParts : (written : List Char) → (document : Json) → Prop where
  | object
      {written : List Char}
      {members : List Member}
      {entries : List (String × Json)}
      (isObject : IsObject written members)
      (areMatching : List.Forall₂ MatchesEntry members entries)
      (distinct : (entries.map (·.1)).Nodup) :
      MatchesParts written (.object entries)
  | array
      {written : List Char}
      {items : List (List Char)}
      {elements : List Json}
      (isArray : IsArray written items)
      (areMatching : List.Forall₂ Matches items elements) :
      MatchesParts written (.array elements)

section Matches

variable {written : List Char} {document : Json}

/-- A string is read from a text as from the document that it matches. -/
theorem Matches.alone_readText (isMatching : Matches written document) :
    alone readText written = document.text? := by
  refine Option.ext fun text => ?_
  rw [alone_readText_eq_some_iff isMatching.isJson, isMatching.text,
    TemplateInput.text?_eq_some_iff]

/-- A string or `null` is read from a text as from the document that it matches. -/
theorem Matches.alone_readOptionalText (isMatching : Matches written document) :
    alone (readOptional readText) written = textOrNull (some document) := by
  refine Option.ext fun value => ?_
  rw [alone_readOptionalText_eq_some_iff isMatching.isJson,
    TemplateInput.textOrNull_eq_some_iff]
  cases value with
  | none => simp [SpellsNullable, isMatching.null]
  | some text => simp [SpellsNullable, isMatching.text]

end Matches

/-- A name finds the value of a member and of its entry, or neither. -/
theorem find_matching
    {members : List Member}
    {entries : List (String × Json)}
    (areMatching : List.Forall₂ MatchesEntry members entries)
    (distinct : (entries.map (·.1)).Nodup)
    (name : String) :
    (valuesOf members name = [] ∧ Json.member? name (.object entries) = none) ∨
      ∃ written document,
        valuesOf members name = [written] ∧
          Json.member? name (.object entries) = some document ∧ Matches written document := by
  induction areMatching with
  | nil => exact .inl ⟨rfl, rfl⟩
  | @cons member entry members entries isMatching areMatching inductionHypothesis =>
      obtain ⟨sameName, isMatching⟩ := isMatching
      obtain ⟨isNew, distinct⟩ := List.nodup_cons.mp distinct
      have others := inductionHypothesis distinct
      by_cases isName : entry.1 = name
      · have noOther : Json.member? name (.object entries) = none := by
          simp only [Json.member?, Option.map_eq_none_iff, List.find?_eq_none, beq_iff_eq]
          rintro other isOther rfl
          exact isNew (List.mem_map.mpr ⟨other, isOther, isName.symm⟩)
        have alone : valuesOf members name = [] := by
          rcases others with ⟨noValue, -⟩ | ⟨written, document, -, isFound, -⟩
          · exact noValue
          · rw [noOther] at isFound
            cases isFound
        refine .inr ⟨member.value, entry.2, ?_, ?_, isMatching⟩
        · simp only [valuesOf] at alone ⊢
          rw [List.filter_cons_of_pos (by simp [sameName, isName]), List.map_cons, alone]
        · simp [Json.member?, isName]
      · have sameValues : valuesOf (member :: members) name = valuesOf members name := by
          rw [valuesOf, List.filter_cons_of_neg (by simp [sameName, isName]), valuesOf]
        have sameMember :
            Json.member? name (.object (entry :: entries)) =
              Json.member? name (.object entries) := by
          simp [Json.member?, isName]
        rw [sameValues, sameMember]
        exact others

section Members

variable {Record : Type} {members : List Member} {entries : List (String × Json)}

/-- A text that has to be there is the one of the entry. -/
theorem gets_required_iff
    (areMatching : List.Forall₂ MatchesEntry members entries)
    (distinct : (entries.map (·.1)).Nodup)
    (name : String)
    (get : Record → String)
    (text : String) :
    (Column.required name SpellsText get).Gets members text ↔
      (Json.member? name (.object entries)).bind Json.text? = some text := by
  rcases find_matching areMatching distinct name with
    ⟨noValue, noMember⟩ | ⟨written, document, isValue, isMember, isMatching⟩
  · simp [Column.Gets, Column.required, noValue, noMember]
  · simp [Column.Gets, Column.required, isValue, isMember, isMatching.text,
      TemplateInput.text?_eq_some_iff]

/-- A text that may be left out is the one of the entry, or the default. -/
theorem gets_defaulted_iff
    (areMatching : List.Forall₂ MatchesEntry members entries)
    (distinct : (entries.map (·.1)).Nodup)
    (name default : String)
    (get : Record → String)
    (text : String) :
    (Column.defaulted name SpellsText default get).Gets members text ↔
      textOr default (Json.member? name (.object entries)) = some text := by
  rw [TemplateInput.textOr_eq_some_iff]
  rcases find_matching areMatching distinct name with
    ⟨noValue, noMember⟩ | ⟨written, document, isValue, isMember, isMatching⟩
  · simp [Column.Gets, Column.defaulted, noValue, noMember, eq_comm]
  · simp [Column.Gets, Column.defaulted, isValue, isMember, isMatching.text]

/-- A text that may be `null` or left out is the one of the entry, or there is none. -/
theorem gets_nullable_iff
    (areMatching : List.Forall₂ MatchesEntry members entries)
    (distinct : (entries.map (·.1)).Nodup)
    (name : String)
    (get : Record → Option String)
    (value : Option String) :
    (Column.defaulted name (SpellsNullable SpellsText) none get).Gets members value ↔
      textOrNull (Json.member? name (.object entries)) = some value := by
  rcases find_matching areMatching distinct name with
    ⟨noValue, noMember⟩ | ⟨written, document, isValue, isMember, isMatching⟩
  · simp [Column.Gets, Column.defaulted, noValue, noMember, textOrNull]
  · rw [isMember, ← isMatching.alone_readOptionalText,
      alone_readOptionalText_eq_some_iff isMatching.isJson]
    simp [Column.Gets, Column.defaulted, isValue]

end Members

namespace TemplateInput

/-! ## Objects -/

/-- The members that describe parameters. -/
def columns : List (Column TemplateInput) := [
  .required "name" SpellsText (·.name),
  .defaulted "description" SpellsText "" (·.description),
  .defaulted "template" (SpellsNullable SpellsText) none (·.template)]

theorem reflects : schema.Reflects columns where
  suits := by
    refine .cons (honours_text.suits ?_) <|
      .cons (honours_text.suits ?_) <|
      .cons (honours_optionalText.suits ?_) .nil
    all_goals simp [columns, Column.required, Column.defaulted]
  distinct := by decide
  blank := by simp [columns, Column.required, Column.defaulted, schema]
  ext := by
    rintro ⟨⟩ ⟨⟩ same
    simpa [columns, Column.required, Column.defaulted] using same

/-- Members describe the parameters that are read from matching entries. -/
theorem describes_iff
    {members : List Member}
    {entries : List (String × Json)}
    {input : TemplateInput}
    (areMatching : List.Forall₂ MatchesEntry members entries)
    (distinct : (entries.map (·.1)).Nodup) :
    Describes columns members input ↔ ofJson? (.object entries) = some input := by
  have name := gets_required_iff areMatching distinct "name" TemplateInput.name input.name
  have description :=
    gets_defaulted_iff areMatching distinct "description" "" TemplateInput.description
      input.description
  have template :=
    gets_nullable_iff areMatching distinct "template" TemplateInput.template input.template
  simp only [Describes, columns, List.forall_mem_cons]
  refine (and_congr name (and_congr description (and_congr template Iff.rfl))).trans ?_
  simp only [ofJson?, Option.bind_eq_bind, Option.bind_eq_some_iff, Option.pure_def,
    Option.some.injEq]
  constructor
  · rintro ⟨⟨_, isMember, isName⟩, isDescription, isTemplate, -⟩
    exact ⟨_, isMember, _, isName, _, isDescription, _, isTemplate, rfl⟩
  · rintro ⟨_, isMember, _, isName, _, isDescription, _, isTemplate, rfl⟩
    exact ⟨⟨_, isMember, isName⟩, isDescription, isTemplate, List.forall_mem_nil _⟩

/-- What a field reads is written as values of its codec are. -/
theorem exists_spelled
    {Value : Type}
    {codec : Codec Value}
    {Spells : List Char → Value → Prop}
    (reads : ∀ written, IsJson written → ∀ value, alone codec.read written = some value →
      Spells written value)
    {name : String}
    {presence : Presence}
    {get : TemplateInput → Value}
    {set : Value → TemplateInput → TemplateInput}
    {field : Json.Field TemplateInput}
    (found : some (Json.Field.of name presence codec get set) = some field)
    {written : List Char}
    (isJson : IsJson written)
    (isRead : (alone field.read written).isSome = true) :
    ∃ value, Spells written value := by
  obtain rfl := Option.some.inj found
  rw [Json.Field.alone_of, Option.isSome_map] at isRead
  obtain ⟨value, isFound⟩ := Option.isSome_iff_exists.mp isRead
  exact ⟨value, reads written isJson value isFound⟩

/-- What the fields read is what the columns say. -/
theorem areSpelled
    {members : List Member}
    (areJson : ∀ member ∈ members, IsJson member.value) :
    ∀ column ∈ columns, ∀ field, schema.field? column.name = some field →
      ∀ member ∈ members, (alone field.read member.value).isSome = true →
        ∃ value, column.Spells member.value value := by
  have text := fun written isJson text => (@alone_readText_eq_some_iff written isJson text).mp
  have nullable := fun written isJson value =>
    (@alone_readOptionalText_eq_some_iff written isJson value).mp
  simp only [columns, List.forall_mem_cons]
  exact ⟨fun _ found _ isMember => exists_spelled text found (areJson _ isMember),
    fun _ found _ isMember => exists_spelled text found (areJson _ isMember),
    fun _ found _ isMember => exists_spelled nullable found (areJson _ isMember), nofun⟩

/-- An object is read as the document that it matches. -/
theorem assemble_eq_ofJson?
    {written : List Char}
    {members : List Member}
    {entries : List (String × Json)}
    (isObject : IsObject written members)
    (areMatching : List.Forall₂ MatchesEntry members entries)
    (distinct : (entries.map (·.1)).Nodup) :
    schema.assemble members = ofJson? (.object entries) := by
  refine Option.ext fun input => ?_
  rw [← describes_iff areMatching distinct]
  exact ⟨reflects.describes_of_assemble (areSpelled isObject.2), reflects.assemble_eq⟩

/-! ## Arrays -/

/-- An array is read as the document that it matches. -/
theorem arrange_eq_ofJson?
    {items : List (List Char)}
    {elements : List Json}
    (areMatching : List.Forall₂ Matches items elements) :
    Schema.arrange schema.blank schema.fields items = ofJson? (.array elements) := by
  have isText {written : List Char} {document : Json} (isMatching : Matches written document) :
      alone Codec.text.read written = document.text? :=
    isMatching.alone_readText
  have isOptional {written : List Char} {document : Json} (isMatching : Matches written document) :
      alone Codec.text.optional.read written = textOrNull (some document) :=
    isMatching.alone_readOptionalText
  rcases areMatching with _ | @⟨_, name, _, _, isName, others⟩
  · rfl
  rcases others with _ | @⟨_, description, _, _, isDescription, others⟩
  · simp only [schema, Schema.arrange, Json.Field.alone_of, isText isName]
    cases name <;> rfl
  rcases others with _ | @⟨_, template, _, _, isTemplate, others⟩
  · simp only [schema, Schema.arrange, Json.Field.alone_of, isText isName, isText isDescription]
    cases name <;> cases description <;> rfl
  simp only [schema, Schema.arrange, Json.Field.alone_of, isText isName, isText isDescription,
    isOptional isTemplate]
  rcases others with _ | ⟨_, _⟩ <;> cases name <;> cases description <;> cases template <;> rfl

/-! ## Texts -/

/-- Parameters are read from a text as from the document that it matches. -/
theorem decides_ofJson?
    {written : List Char}
    {document : Json}
    (areMatching : MatchesParts written document) :
    Decides codec.read written (ofJson? document) := by
  cases areMatching with
  | object isObject areMatching distinct =>
      rw [← assemble_eq_ofJson? isObject areMatching distinct]
      exact Schema.decides_read reflects.areDecisive isObject
  | array isArray areMatching =>
      rw [← arrange_eq_ofJson? areMatching]
      exact Schema.decides_read_array reflects.areDecisive isArray

/-- A whole text gives exactly the parameters that the document gives, and none if it gives none. -/
theorem parse_eq_ok_iff
    {before written after : List Char}
    {document : Json}
    (areMatching : MatchesParts written document)
    (blankBefore : AreBlank before)
    (blankAfter : AreBlank after)
    (input : TemplateInput) :
    codec.parse (octets (before ++ (written ++ after))) = .ok input ↔
      ofJson? document = some input := by
  have decides := decides_ofJson? areMatching
  unfold Codec.parse
  cases isRead : ofJson? document with
  | none =>
      rw [isRead] at decides
      obtain ⟨failure, failed⟩ := decides.parse_fails blankBefore blankAfter
      rw [failed]
      exact ⟨nofun, nofun⟩
  | some other =>
      rw [isRead] at decides
      rw [decides.parse_eq blankBefore blankAfter, Except.ok.injEq, Option.some.injEq]

example :
    (codec.parse (octets "[\"a\", \"b\"]".toList)).toOption =
      ofJson? (.array [.text "a", .text "b"]) := by
  decide +kernel

end TemplateInput

end SecretsAdmin.Server
