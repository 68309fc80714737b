import SecretsAdmin.Proofs.Model.View

namespace SecretsAdmin

/-!
# What is written is read back

Both sides read the records that they write themselves: decoding the text of a record gives the
record. Every codec has this from the codecs of its fields.
-/

open Json

/-- Whether a codec reads whatever it writes itself. -/
abbrev Json.Codec.SeesItself {α : Type} (codec : Codec α) : Prop :=
  codec.Sees codec id

theorem seesItself_text : Codec.text.SeesItself :=
  reads_text

theorem seesItself_boolean : Codec.boolean.SeesItself :=
  reads_boolean

/-- A map is written in the order of its names, and read back as the same map. -/
theorem seesItself_dictionary : Codec.dictionary.SeesItself :=
  reads_dictionary

/-- A text that is absent is written as `null`. -/
theorem seesItself_optionalText : Model.optionalText.SeesItself := by
  intro text
  cases text with
  | none => exact ⟨⟨_, _, rfl, rfl, by decide⟩, fun _ => rfl⟩
  | some text => exact reads_optionalText text

/-- A number of 64 bits is read back, the least one with its sign too. -/
theorem seesItself_integer : Codec.integer.SeesItself :=
  reads_integer

/-- An identifier is written as its number, whatever it identifies. -/
theorem seesItself_identifier {kind : Model.Kind} :
    (Model.Identifier.codec : Codec (Model.Identifier kind)).SeesItself :=
  fun identifier => sees_id identifier.number

/-- A list is read back if every element is. -/
theorem Json.Codec.Sees.arrayItself
    {α : Type}
    {codec : Codec α}
    (seesItself : codec.SeesItself) :
    codec.array.SeesItself := by
  intro values
  have read := seesItself.array values
  rwa [List.map_id] at read

/-- A codec that sees what it writes reads the text of a value as the value. -/
theorem Json.Codec.Sees.parse_print
    {α : Type}
    {codec : Codec α}
    (seesItself : codec.SeesItself)
    (value : α) :
    codec.parse (Utf8.encode (codec.print value)) = .ok value :=
  (seesItself value).parse

/-! ## Records of clients -/

namespace Model

theorem NewGroup.seesItself : NewGroup.codec.SeesItself := fun _ =>
  NewGroup.schema.reads_write
    (.cons (.of seesItself_text) <|
      .cons (.of seesItself_text) .nil)
    (by decide) rfl

theorem NewClient.seesItself : NewClient.codec.SeesItself := fun _ =>
  NewClient.schema.reads_write
    (.cons (.of seesItself_text) .nil)
    (by decide) rfl

/-- The flag and the metadata of a wish are written even if they are the defaults. -/
theorem NewSecret.seesItself : NewSecret.codec.SeesItself := fun _ =>
  NewSecret.schema.reads_write
    (.cons (.of seesItself_text) <|
      .cons (.of seesItself_text) <|
      .cons (.of seesItself_text) <|
      .cons (.of seesItself_boolean) <|
      .cons (.of seesItself_dictionary) .nil)
    (by decide) rfl

/-- Times and texts that are absent are written as `null`, and absent again when they are read. -/
theorem Client.seesItself : Client.codec.SeesItself := fun _ =>
  Client.schema.reads_write
    (.cons (.of seesItself_identifier) <|
      .cons (.of seesItself_text) <|
      .cons (.of seesItself_optionalText) <|
      .cons (.of seesItself_optionalText) <|
      .cons (.of seesItself_optionalText) <|
      .cons (.of seesItself_optionalText) <|
      .cons (.of seesItself_optionalText) <|
      .cons (.of seesItself_optionalText) <|
      .cons (.of seesItself_boolean) <|
      .cons (.of seesItself_boolean) .nil)
    (by decide) rfl

theorem Group.seesItself : Group.codec.SeesItself := fun _ =>
  Group.schema.reads_write
    (.cons (.of seesItself_identifier) <|
      .cons (.of seesItself_text) <|
      .cons (.of seesItself_optionalText) <|
      .cons (.of seesItself_optionalText) <|
      .cons (.of seesItself_optionalText) <|
      .cons (.of seesItself_optionalText) <|
      .cons (.of seesItself_optionalText) <|
      .cons (.of seesItself_dictionary) .nil)
    (by decide) rfl

theorem Secret.seesItself : Secret.codec.SeesItself := fun _ =>
  Secret.schema.reads_write
    (.cons (.of seesItself_identifier) <|
      .cons (.of seesItself_text) <|
      .cons (.of seesItself_optionalText) <|
      .cons (.of seesItself_optionalText) <|
      .cons (.of seesItself_optionalText) <|
      .cons (.of seesItself_optionalText) <|
      .cons (.of seesItself_optionalText) <|
      .cons (.of seesItself_optionalText) <|
      .cons (.of seesItself_dictionary) <|
      .cons (.of seesItself_optionalText) <|
      .cons (.of seesItself_dictionary) .nil)
    (by decide) rfl

/-- The members of a group are read back within its detail. -/
theorem GroupDetail.seesItself : GroupDetail.codec.SeesItself := fun _ =>
  GroupDetail.schema.reads_write
    (.cons (.of seesItself_identifier) <|
      .cons (.of seesItself_text) <|
      .cons (.of seesItself_optionalText) <|
      .cons (.of seesItself_optionalText) <|
      .cons (.of seesItself_optionalText) <|
      .cons (.of seesItself_optionalText) <|
      .cons (.of seesItself_optionalText) <|
      .cons (.of Secret.seesItself.arrayItself) <|
      .cons (.of Client.seesItself.arrayItself) .nil)
    (by decide) rfl

/-- The groups of a client are read back within its detail. -/
theorem ClientDetail.seesItself : ClientDetail.codec.SeesItself := fun _ =>
  ClientDetail.schema.reads_write
    (.cons (.of seesItself_identifier) <|
      .cons (.of seesItself_text) <|
      .cons (.of seesItself_optionalText) <|
      .cons (.of seesItself_optionalText) <|
      .cons (.of seesItself_optionalText) <|
      .cons (.of seesItself_optionalText) <|
      .cons (.of seesItself_optionalText) <|
      .cons (.of Group.seesItself.arrayItself) <|
      .cons (.of Secret.seesItself.arrayItself) .nil)
    (by decide) rfl

/-- The metadata of a secret and its places are read back within its detail. -/
theorem SecretDetail.seesItself : SecretDetail.codec.SeesItself := fun _ =>
  SecretDetail.schema.reads_write
    (.cons (.of seesItself_identifier) <|
      .cons (.of seesItself_text) <|
      .cons (.of seesItself_optionalText) <|
      .cons (.of seesItself_optionalText) <|
      .cons (.of seesItself_optionalText) <|
      .cons (.of seesItself_optionalText) <|
      .cons (.of seesItself_optionalText) <|
      .cons (.of seesItself_dictionary) <|
      .cons (.of Group.seesItself.arrayItself) <|
      .cons (.of Client.seesItself.arrayItself) .nil)
    (by decide) rfl

end Model

/-! ## Records of the server -/

namespace Server

theorem Client.seesItself : Client.codec.SeesItself := fun _ =>
  Client.schema.reads_write
    (.cons (.of seesItself_integer) <|
      .cons (.of seesItself_text) <|
      .cons (.of seesItself_text) <|
      .cons (.of seesItself_text) <|
      .cons (.of seesItself_boolean) <|
      .cons (.of seesItself_boolean) .nil)
    (by decide) rfl

theorem Group.seesItself : Group.codec.SeesItself := fun _ =>
  Group.schema.reads_write
    (.cons (.of seesItself_integer) <|
      .cons (.of seesItself_text) <|
      .cons (.of seesItself_text) <|
      .cons (.of seesItself_text) .nil)
    (by decide) rfl

/-- A version that is absent is not written, and is then not read either. -/
theorem Secret.seesItself : Secret.codec.SeesItself := by
  rintro ⟨id, name, description, version, createdBy, metadata⟩
  cases version with
  | none =>
      refine Secret.schema.reads_write
        (.cons (.of seesItself_integer) <|
          .cons (.of seesItself_text) <|
          .cons (.of seesItself_text) <|
          .cons ⟨nofun, rfl⟩ <|
          .cons (.of seesItself_text) <|
          .cons (.of seesItself_dictionary) .nil)
        (by decide) rfl
  | some version =>
      refine Secret.schema.reads_write
        (.cons (.of seesItself_integer) <|
          .cons (.of seesItself_text) <|
          .cons (.of seesItself_text) <|
          .cons (.omittable (reads_optionalText version) rfl) <|
          .cons (.of seesItself_text) <|
          .cons (.of seesItself_dictionary) .nil)
        (by decide) rfl

/-- The server, too, reads the members of a group back within its detail. -/
theorem GroupDetail.seesItself : GroupDetail.codec.SeesItself := fun _ =>
  GroupDetail.schema.reads_write
    (.cons (.of seesItself_integer) <|
      .cons (.of seesItself_text) <|
      .cons (.of seesItself_text) <|
      .cons (.of seesItself_text) <|
      .cons (.of Secret.seesItself.arrayItself) <|
      .cons (.of Client.seesItself.arrayItself) .nil)
    (by decide) rfl

theorem ClientDetail.seesItself : ClientDetail.codec.SeesItself := fun _ =>
  ClientDetail.schema.reads_write
    (.cons (.of seesItself_integer) <|
      .cons (.of seesItself_text) <|
      .cons (.of seesItself_text) <|
      .cons (.of seesItself_text) <|
      .cons (.of Group.seesItself.arrayItself) <|
      .cons (.of Secret.seesItself.arrayItself) .nil)
    (by decide) rfl

theorem SecretDetail.seesItself : SecretDetail.codec.SeesItself := fun _ =>
  SecretDetail.schema.reads_write
    (.cons (.of seesItself_integer) <|
      .cons (.of seesItself_text) <|
      .cons (.of seesItself_text) <|
      .cons (.of seesItself_text) <|
      .cons (.of seesItself_dictionary) <|
      .cons (.of Group.seesItself.arrayItself) <|
      .cons (.of Client.seesItself.arrayItself) .nil)
    (by decide) rfl

end Server

/--
Every record of both sides, and every identifier, is read back from its text: decoding gives a
value that is equal to the one that was encoded.
-/
theorem wire_texts_read_back :
    (∀ kind, ∀ id : Model.Identifier kind,
        Model.Identifier.codec.parse (Utf8.encode (Model.Identifier.codec.print id)) = .ok id) ∧
      (∀ wish : Model.NewGroup,
        Model.NewGroup.codec.parse (Utf8.encode (Model.NewGroup.codec.print wish)) = .ok wish) ∧
      (∀ wish : Model.NewClient,
        Model.NewClient.codec.parse (Utf8.encode (Model.NewClient.codec.print wish)) = .ok wish) ∧
      (∀ wish : Model.NewSecret,
        Model.NewSecret.codec.parse (Utf8.encode (Model.NewSecret.codec.print wish)) = .ok wish) ∧
      (∀ client : Model.Client,
        Model.Client.codec.parse (Utf8.encode (Model.Client.codec.print client)) = .ok client) ∧
      (∀ group : Model.Group,
        Model.Group.codec.parse (Utf8.encode (Model.Group.codec.print group)) = .ok group) ∧
      (∀ secret : Model.Secret,
        Model.Secret.codec.parse (Utf8.encode (Model.Secret.codec.print secret)) = .ok secret) ∧
      (∀ detail : Model.GroupDetail,
        Model.GroupDetail.codec.parse (Utf8.encode (Model.GroupDetail.codec.print detail)) =
          .ok detail) ∧
      (∀ detail : Model.ClientDetail,
        Model.ClientDetail.codec.parse (Utf8.encode (Model.ClientDetail.codec.print detail)) =
          .ok detail) ∧
      (∀ detail : Model.SecretDetail,
        Model.SecretDetail.codec.parse (Utf8.encode (Model.SecretDetail.codec.print detail)) =
          .ok detail) ∧
      (∀ client : Server.Client,
        Server.Client.codec.parse (Utf8.encode (Server.Client.codec.print client)) =
          .ok client) ∧
      (∀ group : Server.Group,
        Server.Group.codec.parse (Utf8.encode (Server.Group.codec.print group)) = .ok group) ∧
      (∀ secret : Server.Secret,
        Server.Secret.codec.parse (Utf8.encode (Server.Secret.codec.print secret)) =
          .ok secret) ∧
      (∀ detail : Server.GroupDetail,
        Server.GroupDetail.codec.parse (Utf8.encode (Server.GroupDetail.codec.print detail)) =
          .ok detail) ∧
      (∀ detail : Server.ClientDetail,
        Server.ClientDetail.codec.parse (Utf8.encode (Server.ClientDetail.codec.print detail)) =
          .ok detail) ∧
      ∀ detail : Server.SecretDetail,
        Server.SecretDetail.codec.parse (Utf8.encode (Server.SecretDetail.codec.print detail)) =
          .ok detail :=
  ⟨fun _ => seesItself_identifier.parse_print,
    Model.NewGroup.seesItself.parse_print,
    Model.NewClient.seesItself.parse_print,
    Model.NewSecret.seesItself.parse_print,
    Model.Client.seesItself.parse_print,
    Model.Group.seesItself.parse_print,
    Model.Secret.seesItself.parse_print,
    Model.GroupDetail.seesItself.parse_print,
    Model.ClientDetail.seesItself.parse_print,
    Model.SecretDetail.seesItself.parse_print,
    Server.Client.seesItself.parse_print,
    Server.Group.seesItself.parse_print,
    Server.Secret.seesItself.parse_print,
    Server.GroupDetail.seesItself.parse_print,
    Server.ClientDetail.seesItself.parse_print,
    Server.SecretDetail.seesItself.parse_print⟩

end SecretsAdmin
