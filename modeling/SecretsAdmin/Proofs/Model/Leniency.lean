import SecretsAdmin.Client.Call
import SecretsAdmin.Model.Response
import SecretsAdmin.Proofs.Json.Column

namespace SecretsAdmin

/-!
# Responses of leaner and richer servers

A response is understood from any object that has an identifier and a name. Its other members
may be left out, which means their defaults; they may come in any order, with any layout, and
among members that are not known. A response without identifier or name, or with a known member
that comes again, is refused.
-/

open Json

/-! ## Codecs -/

/-- Whether a codec reads values as they are written, and treats other JSON the same everywhere. -/
structure Json.Codec.Honours
    {α : Type}
    (codec : Codec α)
    (Spells : List Char → α → Prop) :
    Prop where
  isDecisive : IsDecisive codec.read
  decides : ∀ written value, Spells written value → Decides codec.read written (some value)

theorem honours_text : Codec.text.Honours SpellsText :=
  ⟨isDecisive_readText, fun _ _ spells => spells.decides⟩

theorem honours_boolean : Codec.boolean.Honours SpellsBoolean :=
  ⟨isDecisive_readBoolean, fun _ _ spells => spells.decides⟩

theorem honours_dictionary : Codec.dictionary.Honours SpellsDictionary :=
  ⟨isDecisive_readDictionary, fun _ _ spells => spells.decides⟩

theorem honours_optionalText : Model.optionalText.Honours (SpellsNullable SpellsText) :=
  ⟨isDecisive_readOptional isDecisive_readText, fun _ _ spells => spells.decidesText⟩

/-- Whether characters write an identifier. -/
def SpellsId
    {kind : Model.Kind}
    (written : List Char)
    (id : Model.Identifier kind) :
    Prop :=
  SpellsInteger written id.number

theorem honours_identifier {kind : Model.Kind} :
    (Model.Identifier.codec : Codec (Model.Identifier kind)).Honours SpellsId where
  isDecisive := fun written isJson =>
    ((isDecisive_readInteger written isJson).map Model.Identifier.mk).settles
  decides := fun _ _ spells => (SpellsInteger.decides spells).map Model.Identifier.mk

theorem Json.Codec.Honours.array
    {α : Type}
    {codec : Codec α}
    {Spells : List Char → α → Prop}
    (honours : codec.Honours Spells) :
    codec.array.Honours (SpellsList Spells) :=
  ⟨isDecisive_readArray honours.isDecisive, fun _ _ spells => spells.decides honours.decides⟩

theorem Json.Schema.Reflects.honours
    {Record : Type}
    {schema : Schema Record}
    {columns : List (Column Record)}
    (reflects : schema.Reflects columns) :
    schema.codec.Honours (SpellsRecord columns) :=
  ⟨Schema.isDecisive_read reflects.areDecisive, fun _ _ => reflects.decides⟩

/-- A field suits a column whose values its codec honours. -/
theorem Json.Codec.Honours.suits
    {Record Value : Type}
    {codec : Codec Value}
    {Spells : List Char → Value → Prop}
    (honours : codec.Honours Spells)
    {columns : List (Column Record)}
    {name : String}
    {presence : Presence}
    {absence : Option Value}
    {get : Record → Value}
    {set : Value → Record → Record}
    (keeps :
      ∀ other ∈ columns, other.name ≠ name →
        ∀ value record, other.get (set value record) = other.get record)
    (gets : ∀ value record, get (set value record) = value := by exact fun _ _ => rfl)
    (samePresence : presence = .required ↔ absence = none := by simp) :
    ∃ change, Field.Suits columns (.of name presence codec get set)
      ⟨name, Value, Spells, absence, get⟩ change := by
  refine ⟨set, rfl, samePresence, fun written isJson => ?_, fun written value spells => ?_, gets,
    keeps⟩
  · exact ((honours.isDecisive written isJson).map set).settles
  · exact (honours.decides written value spells).map set

namespace Model

/-- The members that describe a client. -/
def Client.columns : List (Column Client) := [
  .required "id" SpellsId (·.id),
  .required "name" SpellsText (·.name),
  .defaulted "description" (SpellsNullable SpellsText) none (·.description),
  .defaulted "createdAt" (SpellsNullable SpellsText) none (·.createdAt),
  .defaulted "updatedAt" (SpellsNullable SpellsText) none (·.updatedAt),
  .defaulted "createdBy" (SpellsNullable SpellsText) none (·.createdBy),
  .defaulted "updatedBy" (SpellsNullable SpellsText) none (·.updatedBy),
  .defaulted "lastSeen" (SpellsNullable SpellsText) none (·.lastSeen),
  .defaulted "enabled" SpellsBoolean true (·.enabled),
  .defaulted "automationAllowed" SpellsBoolean false (·.automationAllowed)]

theorem Client.reflects : schema.Reflects columns where
  suits := by
    refine .cons (honours_identifier.suits ?_) <|
      .cons (honours_text.suits ?_) <|
      .cons (honours_optionalText.suits ?_) <|
      .cons (honours_optionalText.suits ?_) <|
      .cons (honours_optionalText.suits ?_) <|
      .cons (honours_optionalText.suits ?_) <|
      .cons (honours_optionalText.suits ?_) <|
      .cons (honours_optionalText.suits ?_) <|
      .cons (honours_boolean.suits ?_) <|
      .cons (honours_boolean.suits ?_) .nil
    all_goals simp [columns, Column.required, Column.defaulted]
  distinct := by decide
  blank := by simp [columns, Column.required, Column.defaulted, schema]
  ext := by
    rintro ⟨⟩ ⟨⟩ same
    simpa [columns, Column.required, Column.defaulted] using same

/-- The members that describe a group. -/
def Group.columns : List (Column Group) := [
  .required "id" SpellsId (·.id),
  .required "name" SpellsText (·.name),
  .defaulted "description" (SpellsNullable SpellsText) none (·.description),
  .defaulted "createdAt" (SpellsNullable SpellsText) none (·.createdAt),
  .defaulted "updatedAt" (SpellsNullable SpellsText) none (·.updatedAt),
  .defaulted "createdBy" (SpellsNullable SpellsText) none (·.createdBy),
  .defaulted "updatedBy" (SpellsNullable SpellsText) none (·.updatedBy),
  .defaulted "metadata" SpellsDictionary .empty (·.metadata)]

theorem Group.reflects : schema.Reflects columns where
  suits := by
    refine .cons (honours_identifier.suits ?_) <|
      .cons (honours_text.suits ?_) <|
      .cons (honours_optionalText.suits ?_) <|
      .cons (honours_optionalText.suits ?_) <|
      .cons (honours_optionalText.suits ?_) <|
      .cons (honours_optionalText.suits ?_) <|
      .cons (honours_optionalText.suits ?_) <|
      .cons (honours_dictionary.suits ?_) .nil
    all_goals simp [columns, Column.required, Column.defaulted]
  distinct := by decide
  blank := by simp [columns, Column.required, Column.defaulted, schema]
  ext := by
    rintro ⟨⟩ ⟨⟩ same
    simpa [columns, Column.required, Column.defaulted] using same

/-- The members that describe a secret. -/
def Secret.columns : List (Column Secret) := [
  .required "id" SpellsId (·.id),
  .required "name" SpellsText (·.name),
  .defaulted "description" (SpellsNullable SpellsText) none (·.description),
  .defaulted "version" (SpellsNullable SpellsText) none (·.version),
  .defaulted "createdAt" (SpellsNullable SpellsText) none (·.createdAt),
  .defaulted "createdBy" (SpellsNullable SpellsText) none (·.createdBy),
  .defaulted "updatedAt" (SpellsNullable SpellsText) none (·.updatedAt),
  .defaulted "updatedBy" (SpellsNullable SpellsText) none (·.updatedBy),
  .defaulted "metadata" SpellsDictionary .empty (·.metadata),
  .defaulted "type" (SpellsNullable SpellsText) none (·.secretType),
  .defaulted "generationOptions" SpellsDictionary .empty (·.generationOptions)]

theorem Secret.reflects : schema.Reflects columns where
  suits := by
    refine .cons (honours_identifier.suits ?_) <|
      .cons (honours_text.suits ?_) <|
      .cons (honours_optionalText.suits ?_) <|
      .cons (honours_optionalText.suits ?_) <|
      .cons (honours_optionalText.suits ?_) <|
      .cons (honours_optionalText.suits ?_) <|
      .cons (honours_optionalText.suits ?_) <|
      .cons (honours_optionalText.suits ?_) <|
      .cons (honours_dictionary.suits ?_) <|
      .cons (honours_optionalText.suits ?_) <|
      .cons (honours_dictionary.suits ?_) .nil
    all_goals simp [columns, Column.required, Column.defaulted]
  distinct := by decide
  blank := by simp [columns, Column.required, Column.defaulted, schema]
  ext := by
    rintro ⟨⟩ ⟨⟩ same
    simpa [columns, Column.required, Column.defaulted] using same

/-- The members that describe a group with its secrets and clients. -/
def GroupDetail.columns : List (Column GroupDetail) := [
  .required "id" SpellsId (·.id),
  .required "name" SpellsText (·.name),
  .defaulted "description" (SpellsNullable SpellsText) none (·.description),
  .defaulted "creationDate" (SpellsNullable SpellsText) none (·.creationDate),
  .defaulted "updateDate" (SpellsNullable SpellsText) none (·.updateDate),
  .defaulted "createdBy" (SpellsNullable SpellsText) none (·.createdBy),
  .defaulted "updatedBy" (SpellsNullable SpellsText) none (·.updatedBy),
  .defaulted "secrets" (SpellsList (SpellsRecord Secret.columns)) [] (·.secrets),
  .defaulted "clients" (SpellsList (SpellsRecord Client.columns)) [] (·.clients)]

theorem GroupDetail.reflects : schema.Reflects columns where
  suits := by
    refine .cons (honours_identifier.suits ?_) <|
      .cons (honours_text.suits ?_) <|
      .cons (honours_optionalText.suits ?_) <|
      .cons (honours_optionalText.suits ?_) <|
      .cons (honours_optionalText.suits ?_) <|
      .cons (honours_optionalText.suits ?_) <|
      .cons (honours_optionalText.suits ?_) <|
      .cons (Secret.reflects.honours.array.suits ?_) <|
      .cons (Client.reflects.honours.array.suits ?_) .nil
    all_goals simp [columns, Column.required, Column.defaulted]
  distinct := by decide
  blank := by simp [columns, Column.required, Column.defaulted, schema]
  ext := by
    rintro ⟨⟩ ⟨⟩ same
    simpa [columns, Column.required, Column.defaulted] using same

/-- The members that describe a client with its groups and secrets. -/
def ClientDetail.columns : List (Column ClientDetail) := [
  .required "id" SpellsId (·.id),
  .required "name" SpellsText (·.name),
  .defaulted "description" (SpellsNullable SpellsText) none (·.description),
  .defaulted "creationDate" (SpellsNullable SpellsText) none (·.creationDate),
  .defaulted "updateDate" (SpellsNullable SpellsText) none (·.updateDate),
  .defaulted "createdBy" (SpellsNullable SpellsText) none (·.createdBy),
  .defaulted "updatedBy" (SpellsNullable SpellsText) none (·.updatedBy),
  .defaulted "groups" (SpellsList (SpellsRecord Group.columns)) [] (·.groups),
  .defaulted "secrets" (SpellsList (SpellsRecord Secret.columns)) [] (·.secrets)]

theorem ClientDetail.reflects : schema.Reflects columns where
  suits := by
    refine .cons (honours_identifier.suits ?_) <|
      .cons (honours_text.suits ?_) <|
      .cons (honours_optionalText.suits ?_) <|
      .cons (honours_optionalText.suits ?_) <|
      .cons (honours_optionalText.suits ?_) <|
      .cons (honours_optionalText.suits ?_) <|
      .cons (honours_optionalText.suits ?_) <|
      .cons (Group.reflects.honours.array.suits ?_) <|
      .cons (Secret.reflects.honours.array.suits ?_) .nil
    all_goals simp [columns, Column.required, Column.defaulted]
  distinct := by decide
  blank := by simp [columns, Column.required, Column.defaulted, schema]
  ext := by
    rintro ⟨⟩ ⟨⟩ same
    simpa [columns, Column.required, Column.defaulted] using same

/-- The members that describe a secret with its groups and clients. -/
def SecretDetail.columns : List (Column SecretDetail) := [
  .required "id" SpellsId (·.id),
  .required "name" SpellsText (·.name),
  .defaulted "description" (SpellsNullable SpellsText) none (·.description),
  .defaulted "createdAt" (SpellsNullable SpellsText) none (·.createdAt),
  .defaulted "createdBy" (SpellsNullable SpellsText) none (·.createdBy),
  .defaulted "updatedAt" (SpellsNullable SpellsText) none (·.updatedAt),
  .defaulted "updatedBy" (SpellsNullable SpellsText) none (·.updatedBy),
  .defaulted "metadata" SpellsDictionary .empty (·.metadata),
  .defaulted "groups" (SpellsList (SpellsRecord Group.columns)) [] (·.groups),
  .defaulted "clients" (SpellsList (SpellsRecord Client.columns)) [] (·.clients)]

theorem SecretDetail.reflects : schema.Reflects columns where
  suits := by
    refine .cons (honours_identifier.suits ?_) <|
      .cons (honours_text.suits ?_) <|
      .cons (honours_optionalText.suits ?_) <|
      .cons (honours_optionalText.suits ?_) <|
      .cons (honours_optionalText.suits ?_) <|
      .cons (honours_optionalText.suits ?_) <|
      .cons (honours_optionalText.suits ?_) <|
      .cons (honours_dictionary.suits ?_) <|
      .cons (Group.reflects.honours.array.suits ?_) <|
      .cons (Client.reflects.honours.array.suits ?_) .nil
    all_goals simp [columns, Column.required, Column.defaulted]
  distinct := by decide
  blank := by simp [columns, Column.required, Column.defaulted, schema]
  ext := by
    rintro ⟨⟩ ⟨⟩ same
    simpa [columns, Column.required, Column.defaulted] using same

end Model

/-! ## Responses -/

namespace Client

open Http (Response)

/-- Whether the body of a response is an object with members, maybe between blanks. -/
def HasMembers
    (response : Response)
    (members : List Member) :
    Prop :=
  ∃ before written after,
    AreBlank before ∧ AreBlank after ∧ IsObject written members ∧
      response.body.toList = before ++ (written ++ after)

/-- Whether a codec reads the bodies of responses as far as their members suit its columns. -/
structure ReadsLeniently
    {Record : Type}
    (codec : Codec Record)
    (columns : List (Column Record)) :
    Prop where
  /-- If every column gets a value, the record that has these values is read. -/
  reads :
    ∀ response members, HasMembers response members →
      (∀ column ∈ columns, ∃ value, column.Gets members value) →
        ∃ record,
          readBody codec response = .ok record ∧
            ∀ other, Describes columns members other ↔ other = record
  /-- If a required member is missing, or one that is known comes again, nothing is read. -/
  refuses :
    ∀ response members, HasMembers response members →
      (∃ column ∈ columns, column.IsLacking members ∨ column.IsRepeated members) →
        ∃ message, readBody codec response = .error (.unreadableResponse message)

section Reflects

variable {Record : Type} {schema : Schema Record} {columns : List (Column Record)}
variable {response : Response} {members : List Member}

/-- A body whose members describe a record is read as the record. -/
private theorem readBody_of_describes
    (reflects : schema.Reflects columns)
    (hasMembers : HasMembers response members)
    {record : Record}
    (describes : Describes columns members record) :
    readBody schema.codec response = .ok record := by
  obtain ⟨before, written, after, blankBefore, blankAfter, isObject, isBody⟩ := hasMembers
  have parsed :=
    (reflects.decides ⟨members, isObject, describes⟩).parse_eq blankBefore blankAfter
  rw [← isBody] at parsed
  show Except.mapError _ (Json.parse schema.read (octets response.body.toList)) = _
  rw [parsed]
  rfl

/-- A body in which a required member is missing or a known one comes again is not read. -/
private theorem readBody_of_isWrong
    (reflects : schema.Reflects columns)
    (hasMembers : HasMembers response members)
    {column : Column Record}
    (isColumn : column ∈ columns)
    (isWrong : column.IsLacking members ∨ column.IsRepeated members) :
    ∃ message, readBody schema.codec response = .error (.unreadableResponse message) := by
  obtain ⟨before, written, after, blankBefore, blankAfter, isObject, isBody⟩ := hasMembers
  have decides := Schema.decides_read reflects.areDecisive isObject
  rw [reflects.assemble_eq_none isColumn isWrong] at decides
  obtain ⟨failure, parsed⟩ := decides.parse_fails blankBefore blankAfter
  rw [← isBody] at parsed
  refine ⟨failure.words (octets response.body.toList), ?_⟩
  show Except.mapError _ (Json.parse schema.read (octets response.body.toList)) = _
  rw [parsed]
  rfl

theorem readsLeniently (reflects : schema.Reflects columns) :
    ReadsLeniently schema.codec columns where
  reads response members hasMembers areGiven := by
    obtain ⟨record, describes⟩ := reflects.exists_record areGiven
    refine ⟨record, readBody_of_describes reflects hasMembers describes,
      fun other => ⟨fun alsoDescribes => ?_, fun isSame => isSame ▸ describes⟩⟩
    have assembled := reflects.assemble_eq alsoDescribes
    rw [reflects.assemble_eq describes] at assembled
    exact (Option.some.inj assembled).symm
  refuses response members hasMembers := by
    rintro ⟨column, isColumn, isWrong⟩
    exact readBody_of_isWrong reflects hasMembers isColumn isWrong

end Reflects

/--
The responses of leaner and richer servers are understood: of the members of an object only the
identifier and the name are needed, the others have defaults, and unknown ones are passed over.
-/
theorem responses_read_leniently :
    ReadsLeniently Model.Client.codec Model.Client.columns ∧
      ReadsLeniently Model.Group.codec Model.Group.columns ∧
      ReadsLeniently Model.Secret.codec Model.Secret.columns ∧
      ReadsLeniently Model.GroupDetail.codec Model.GroupDetail.columns ∧
      ReadsLeniently Model.ClientDetail.codec Model.ClientDetail.columns ∧
      ReadsLeniently Model.SecretDetail.codec Model.SecretDetail.columns :=
  ⟨readsLeniently Model.Client.reflects, readsLeniently Model.Group.reflects,
    readsLeniently Model.Secret.reflects, readsLeniently Model.GroupDetail.reflects,
    readsLeniently Model.ClientDetail.reflects, readsLeniently Model.SecretDetail.reflects⟩

/-- A response with an unknown member, a blank, and the identifier behind the name. -/
theorem responses_read_leniently_unknownMember :
    readBody Model.Client.codec
        ⟨200, [], "\x7b \"x\":[null],\"name\":\"a\",\"id\":-7\x7d"⟩ =
      .ok { id := ⟨-7⟩, name := "a" } := by
  have isPlain {character : Char} {written text : List Char}
      (needsNoEscape : 0x20 ≤ character.toNat ∧ character ≠ '"' ∧ character ≠ '\\')
      (others : StandsFor written text) :
      StandsFor (character :: written) (character :: text) :=
    .plain needsNoEscape.1 needsNoEscape.2.1 needsNoEscape.2.2 others
  have isX : SpellsText "\"x\"".toList "x" := ⟨['x'], rfl, isPlain (by decide) .nil⟩
  have isA : SpellsText "\"a\"".toList "a" := ⟨['a'], rfl, isPlain (by decide) .nil⟩
  have isId : SpellsText "\"id\"".toList "id" :=
    ⟨['i', 'd'], rfl, isPlain (by decide) (isPlain (by decide) .nil)⟩
  have isName : SpellsText "\"name\"".toList "name" :=
    ⟨['n', 'a', 'm', 'e'], rfl,
      isPlain (by decide) (isPlain (by decide) (isPlain (by decide) (isPlain (by decide) .nil)))⟩
  have isSeven : SpellsInteger "-7".toList (-7) :=
    ⟨['7'], ⟨⟨nofun, fun digit member => List.mem_singleton.mp member ▸ rfl⟩, nofun⟩,
      .inr ⟨rfl, nofun, rfl⟩⟩
  have isUnknown : IsArray "[null]".toList ["null".toList] :=
    ⟨⟨"null".toList, @AreListed.cons [] "null".toList [] [] .nil (.nil .nil), rfl⟩,
      fun item member => List.mem_singleton.mp member ▸ .null⟩
  have isObject :
      IsObject "\x7b \"x\":[null],\"name\":\"a\",\"id\":-7\x7d".toList
        [⟨"x", "[null]".toList⟩, ⟨"name", "\"a\"".toList⟩, ⟨"id", "-7".toList⟩] := by
    refine ⟨⟨["\"x\":[null]".toList, "\"name\":\"a\"".toList, "\"id\":-7".toList],
      ⟨" \"x\":[null],\"name\":\"a\",\"id\":-7".toList, ?_, rfl⟩, ?_⟩, ?_⟩
    · have behindName : AreBehind ",\"id\":-7".toList ["\"id\":-7".toList] :=
        @AreBehind.cons [] [] "\"id\":-7".toList [] [] .nil .nil (.nil .nil)
      have behindX :
          AreBehind ",\"name\":\"a\",\"id\":-7".toList
            ["\"name\":\"a\"".toList, "\"id\":-7".toList] :=
        @AreBehind.cons [] [] "\"name\":\"a\"".toList _ _ .nil .nil behindName
      have isBlank : AreBlank [' '] := fun character member =>
        List.mem_singleton.mp member ▸ List.mem_cons_self
      exact @AreListed.cons [' '] "\"x\":[null]".toList _ _ isBlank behindX
    · exact .cons ⟨_, [], [], isX, .nil, .nil, rfl⟩
        (.cons ⟨_, [], [], isName, .nil, .nil, rfl⟩ (.cons ⟨_, [], [], isId, .nil, .nil, rfl⟩ .nil))
    · simp only [List.forall_mem_cons]
      exact ⟨.array isUnknown.1 isUnknown.2, .text isA, .number isSeven.isNumber, nofun⟩
  have described :
      Describes Model.Client.columns
        [⟨"x", "[null]".toList⟩, ⟨"name", "\"a\"".toList⟩, ⟨"id", "-7".toList⟩]
        { id := ⟨-7⟩, name := "a" } := by
    simp only [Describes, Model.Client.columns, List.forall_mem_cons]
    refine ⟨isSeven, isA, rfl, rfl, rfl, rfl, rfl, rfl, rfl, rfl, nofun⟩
  obtain ⟨record, read, isOnly⟩ :=
    responses_read_leniently.1.reads
      ⟨200, [], "\x7b \"x\":[null],\"name\":\"a\",\"id\":-7\x7d"⟩ _
      ⟨[], _, [], .nil, .nil, isObject, rfl⟩ fun column isColumn => ⟨_, described column isColumn⟩
  rw [read, ← (isOnly _).mp described]

end Client

end SecretsAdmin
