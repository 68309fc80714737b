import SecretsAdmin.Model.Request
import SecretsAdmin.Model.Response
import SecretsAdmin.Proofs.Json.Record
import SecretsAdmin.Server.Input
import SecretsAdmin.Server.Record

namespace SecretsAdmin

/-!
# What the two sides see of each other

The server and its clients describe the same objects with records of their own. What the one side
writes the other side reads: all that both describe is the same, and the rest has its default.
-/

open Json

namespace Server

/-! ## What clients see of the server -/

/-- A stored client as clients of the server see it. -/
def Client.seen (client : Client) : Model.Client where
  id := ⟨client.id⟩
  name := client.name
  description := some client.description
  createdBy := some client.createdBy
  enabled := client.enabled
  automationAllowed := client.automationAllowed

/-- A stored group as clients of the server see it. -/
def Group.seen (group : Group) : Model.Group where
  id := ⟨group.id⟩
  name := group.name
  description := some group.description
  createdBy := some group.createdBy

/-- A stored secret as clients of the server see it. -/
def Secret.seen (secret : Secret) : Model.Secret where
  id := ⟨secret.id⟩
  name := secret.name
  description := some secret.description
  version := secret.version
  createdBy := some secret.createdBy
  metadata := secret.metadata

/-- The detail of a group as clients of the server see it. -/
def GroupDetail.seen (detail : GroupDetail) : Model.GroupDetail where
  id := ⟨detail.id⟩
  name := detail.name
  description := some detail.description
  createdBy := some detail.createdBy
  secrets := detail.secrets.map Secret.seen
  clients := detail.clients.map Client.seen

/-- The detail of a client as clients of the server see it. -/
def ClientDetail.seen (detail : ClientDetail) : Model.ClientDetail where
  id := ⟨detail.id⟩
  name := detail.name
  description := some detail.description
  createdBy := some detail.createdBy
  groups := detail.groups.map Group.seen
  secrets := detail.secrets.map Secret.seen

/-- The detail of a secret as clients of the server see it. -/
def SecretDetail.seen (detail : SecretDetail) : Model.SecretDetail where
  id := ⟨detail.id⟩
  name := detail.name
  description := some detail.description
  createdBy := some detail.createdBy
  metadata := detail.metadata
  groups := detail.groups.map Group.seen
  clients := detail.clients.map Client.seen

end Server

/-! ## Responses -/

/-- A string is read as the string that was written. -/
theorem sees_text : Codec.text.Sees Codec.text id :=
  reads_text

/-- A client reads the number that the server writes as the identifier with this number. -/
theorem sees_id {kind : Model.Kind} :
    (Model.Identifier.codec : Codec (Model.Identifier kind)).Sees Codec.integer
      Model.Identifier.mk :=
  Codec.sees_integer.wrap _ _

/--
A client of the service reads a stored client with the server's flags for it; times stay absent.
-/
theorem sees_client : Model.Client.codec.Sees Server.Client.codec Server.Client.seen := by
  intro client
  refine Model.Client.schema.reads_object [
    ⟨"id", .integer client.id.toInt, fun seen => { seen with id := ⟨client.id⟩ }⟩,
    ⟨"name", .text client.name, fun seen => { seen with name := client.name }⟩,
    ⟨"description", .text client.description,
      fun seen => { seen with description := some client.description }⟩,
    ⟨"createdBy", .text client.createdBy,
      fun seen => { seen with createdBy := some client.createdBy }⟩,
    ⟨"enabled", .boolean client.enabled, fun seen => { seen with enabled := client.enabled }⟩,
    ⟨"automationAllowed", .boolean client.automationAllowed,
      fun seen => { seen with automationAllowed := client.automationAllowed }⟩]
    ?fits ?distinct ?complete
  case fits =>
    simp only [List.forall_mem_cons]
    exact ⟨.of rfl (sees_id _) rfl,
      .of rfl (reads_text _) rfl,
      .of rfl (reads_optionalText _) rfl,
      .of rfl (reads_optionalText _) rfl,
      .of rfl (reads_boolean _) rfl,
      .of rfl (reads_boolean _) rfl, nofun⟩
  case distinct => simp
  case complete => simp [Model.Client.schema, Field.of]

/-- A client of the service reads a stored group with its description; times stay absent. -/
theorem sees_group : Model.Group.codec.Sees Server.Group.codec Server.Group.seen := by
  intro group
  refine Model.Group.schema.reads_object [
    ⟨"id", .integer group.id.toInt, fun seen => { seen with id := ⟨group.id⟩ }⟩,
    ⟨"name", .text group.name, fun seen => { seen with name := group.name }⟩,
    ⟨"description", .text group.description,
      fun seen => { seen with description := some group.description }⟩,
    ⟨"createdBy", .text group.createdBy,
      fun seen => { seen with createdBy := some group.createdBy }⟩] ?fits ?distinct ?complete
  case fits =>
    simp only [List.forall_mem_cons]
    exact ⟨.of rfl (sees_id _) rfl,
      .of rfl (reads_text _) rfl,
      .of rfl (reads_optionalText _) rfl,
      .of rfl (reads_optionalText _) rfl, nofun⟩
  case distinct => simp
  case complete => simp [Model.Group.schema, Field.of]

/-- Clients of the server see its stored secrets; a version that is absent is not written. -/
theorem sees_secret : Model.Secret.codec.Sees Server.Secret.codec Server.Secret.seen := by
  rintro ⟨id, name, description, version, createdBy, metadata⟩
  cases version with
  | none =>
      refine Model.Secret.schema.reads_object [
        ⟨"id", .integer id.toInt, fun seen => { seen with id := ⟨id⟩ }⟩,
        ⟨"name", .text name, fun seen => { seen with name := name }⟩,
        ⟨"description", .text description,
          fun seen => { seen with description := some description }⟩,
        ⟨"createdBy", .text createdBy, fun seen => { seen with createdBy := some createdBy }⟩,
        ⟨"metadata", Codec.dictionary.write metadata,
          fun seen => { seen with metadata := metadata }⟩] ?fits ?distinct ?complete
      case fits =>
        simp only [List.forall_mem_cons]
        exact ⟨.of rfl (sees_id _) rfl,
          .of rfl (reads_text _) rfl,
          .of rfl (reads_optionalText _) rfl,
          .of rfl (reads_optionalText _) rfl,
          .of rfl (reads_dictionary _) rfl, nofun⟩
      case distinct => simp
      case complete => simp [Model.Secret.schema, Field.of]
  | some version =>
      refine Model.Secret.schema.reads_object [
        ⟨"id", .integer id.toInt, fun seen => { seen with id := ⟨id⟩ }⟩,
        ⟨"name", .text name, fun seen => { seen with name := name }⟩,
        ⟨"description", .text description,
          fun seen => { seen with description := some description }⟩,
        ⟨"version", .text version, fun seen => { seen with version := some version }⟩,
        ⟨"createdBy", .text createdBy, fun seen => { seen with createdBy := some createdBy }⟩,
        ⟨"metadata", Codec.dictionary.write metadata,
          fun seen => { seen with metadata := metadata }⟩] ?fits ?distinct ?complete
      case fits =>
        simp only [List.forall_mem_cons]
        exact ⟨.of rfl (sees_id _) rfl,
          .of rfl (reads_text _) rfl,
          .of rfl (reads_optionalText _) rfl,
          .of rfl (reads_optionalText _) rfl,
          .of rfl (reads_optionalText _) rfl,
          .of rfl (reads_dictionary _) rfl, nofun⟩
      case distinct => simp
      case complete => simp [Model.Secret.schema, Field.of]

/-- The secrets and the clients of a group are seen one by one, in the same order. -/
theorem sees_groupDetail :
    Model.GroupDetail.codec.Sees Server.GroupDetail.codec Server.GroupDetail.seen := by
  intro detail
  refine Model.GroupDetail.schema.reads_object [
    ⟨"id", .integer detail.id.toInt, fun seen => { seen with id := ⟨detail.id⟩ }⟩,
    ⟨"name", .text detail.name, fun seen => { seen with name := detail.name }⟩,
    ⟨"description", .text detail.description,
      fun seen => { seen with description := some detail.description }⟩,
    ⟨"createdBy", .text detail.createdBy,
      fun seen => { seen with createdBy := some detail.createdBy }⟩,
    ⟨"secrets", Server.Secret.codec.array.write detail.secrets,
      fun seen => { seen with secrets := detail.secrets.map Server.Secret.seen }⟩,
    ⟨"clients", Server.Client.codec.array.write detail.clients,
      fun seen => { seen with clients := detail.clients.map Server.Client.seen }⟩]
    ?fits ?distinct ?complete
  case fits =>
    simp only [List.forall_mem_cons]
    exact ⟨.of rfl (sees_id _) rfl,
      .of rfl (reads_text _) rfl,
      .of rfl (reads_optionalText _) rfl,
      .of rfl (reads_optionalText _) rfl,
      .of rfl (sees_secret.array _) rfl,
      .of rfl (sees_client.array _) rfl, nofun⟩
  case distinct => simp
  case complete => simp [Model.GroupDetail.schema, Field.of]

/-- The groups and the secrets of a client are seen one by one, in the same order. -/
theorem sees_clientDetail :
    Model.ClientDetail.codec.Sees Server.ClientDetail.codec Server.ClientDetail.seen := by
  intro detail
  refine Model.ClientDetail.schema.reads_object [
    ⟨"id", .integer detail.id.toInt, fun seen => { seen with id := ⟨detail.id⟩ }⟩,
    ⟨"name", .text detail.name, fun seen => { seen with name := detail.name }⟩,
    ⟨"description", .text detail.description,
      fun seen => { seen with description := some detail.description }⟩,
    ⟨"createdBy", .text detail.createdBy,
      fun seen => { seen with createdBy := some detail.createdBy }⟩,
    ⟨"groups", Server.Group.codec.array.write detail.groups,
      fun seen => { seen with groups := detail.groups.map Server.Group.seen }⟩,
    ⟨"secrets", Server.Secret.codec.array.write detail.secrets,
      fun seen => { seen with secrets := detail.secrets.map Server.Secret.seen }⟩]
    ?fits ?distinct ?complete
  case fits =>
    simp only [List.forall_mem_cons]
    exact ⟨.of rfl (sees_id _) rfl,
      .of rfl (reads_text _) rfl,
      .of rfl (reads_optionalText _) rfl,
      .of rfl (reads_optionalText _) rfl,
      .of rfl (sees_group.array _) rfl,
      .of rfl (sees_secret.array _) rfl, nofun⟩
  case distinct => simp
  case complete => simp [Model.ClientDetail.schema, Field.of]

/-- The groups and the clients of a secret are seen one by one, and its metadata with them. -/
theorem sees_secretDetail :
    Model.SecretDetail.codec.Sees Server.SecretDetail.codec Server.SecretDetail.seen := by
  intro detail
  refine Model.SecretDetail.schema.reads_object [
    ⟨"id", .integer detail.id.toInt, fun seen => { seen with id := ⟨detail.id⟩ }⟩,
    ⟨"name", .text detail.name, fun seen => { seen with name := detail.name }⟩,
    ⟨"description", .text detail.description,
      fun seen => { seen with description := some detail.description }⟩,
    ⟨"createdBy", .text detail.createdBy,
      fun seen => { seen with createdBy := some detail.createdBy }⟩,
    ⟨"metadata", Codec.dictionary.write detail.metadata,
      fun seen => { seen with metadata := detail.metadata }⟩,
    ⟨"groups", Server.Group.codec.array.write detail.groups,
      fun seen => { seen with groups := detail.groups.map Server.Group.seen }⟩,
    ⟨"clients", Server.Client.codec.array.write detail.clients,
      fun seen => { seen with clients := detail.clients.map Server.Client.seen }⟩]
    ?fits ?distinct ?complete
  case fits =>
    simp only [List.forall_mem_cons]
    exact ⟨.of rfl (sees_id _) rfl,
      .of rfl (reads_text _) rfl,
      .of rfl (reads_optionalText _) rfl,
      .of rfl (reads_optionalText _) rfl,
      .of rfl (reads_dictionary _) rfl,
      .of rfl (sees_group.array _) rfl,
      .of rfl (sees_client.array _) rfl, nofun⟩
  case distinct => simp
  case complete => simp [Model.SecretDetail.schema, Field.of]

/-! ## Requests -/

/-- The server understands the credentials of a login as the client wrote them. -/
def Server.LoginInput.ofLogin (login : Model.Login) : Server.LoginInput where
  username := login.username
  password := login.password

/-- The server understands the wish for a new group as the client wrote it. -/
def Server.GroupInput.ofWish (wish : Model.NewGroup) : Server.GroupInput where
  name := wish.name
  description := wish.description

/-- The server understands the wish for a new client as the client wrote it. -/
def Server.ClientInput.ofWish (wish : Model.NewClient) : Server.ClientInput where
  name := wish.name

/-- The server understands the wish for a new secret as the client wrote it. -/
def Server.SecretInput.ofWish (wish : Model.NewSecret) : Server.SecretInput where
  name := wish.name
  description := wish.description
  content := wish.content
  withVersion := wish.withVersion
  metadata := wish.metadata

/-- The server reads the very name and password that a client has written. -/
theorem sees_login :
    Server.LoginInput.codec.Sees Model.Login.codec Server.LoginInput.ofLogin := by
  intro login
  refine Server.LoginInput.schema.reads_object [
    ⟨"username", .text login.username,
      fun credentials => { credentials with username := login.username }⟩,
    ⟨"password", .text login.password,
      fun credentials => { credentials with password := login.password }⟩]
    ?fits ?distinct ?complete
  case fits =>
    simp only [List.forall_mem_cons]
    exact ⟨.of rfl (reads_text _) rfl,
      .of rfl (reads_text _) rfl, nofun⟩
  case distinct => simp
  case complete => simp [Server.LoginInput.schema, Field.of]

/-- The server reads a wish for a group with its description, be it empty or not. -/
theorem sees_newGroup :
    Server.GroupInput.codec.Sees Model.NewGroup.codec Server.GroupInput.ofWish := by
  intro wish
  refine Server.GroupInput.schema.reads_object [
    ⟨"name", .text wish.name, fun input => { input with name := wish.name }⟩,
    ⟨"description", .text wish.description,
      fun input => { input with description := wish.description }⟩] ?fits ?distinct ?complete
  case fits =>
    simp only [List.forall_mem_cons]
    exact ⟨.of rfl (reads_text _) rfl,
      .of rfl (reads_text _) rfl, nofun⟩
  case distinct => simp
  case complete => simp [Server.GroupInput.schema, Field.of]

/-- The server reads a wish for a client by its name. -/
theorem sees_newClient :
    Server.ClientInput.codec.Sees Model.NewClient.codec Server.ClientInput.ofWish := by
  intro wish
  refine Server.ClientInput.schema.reads_object [
    ⟨"name", .text wish.name, fun _ => { name := wish.name }⟩] ?fits ?distinct ?complete
  case fits =>
    simp only [List.forall_mem_cons]
    exact ⟨.of rfl (reads_text _) rfl, nofun⟩
  case distinct => simp
  case complete => simp [Server.ClientInput.schema, Field.of]

/-- The server reads a wish for a secret with its content, its flag and its metadata. -/
theorem sees_newSecret :
    Server.SecretInput.codec.Sees Model.NewSecret.codec Server.SecretInput.ofWish := by
  intro wish
  refine Server.SecretInput.schema.reads_object [
    ⟨"name", .text wish.name, fun input => { input with name := wish.name }⟩,
    ⟨"description", .text wish.description,
      fun input => { input with description := wish.description }⟩,
    ⟨"content", .text wish.content, fun input => { input with content := wish.content }⟩,
    ⟨"withVersion", .boolean wish.withVersion,
      fun input => { input with withVersion := wish.withVersion }⟩,
    ⟨"metadata", Codec.dictionary.write wish.metadata,
      fun input => { input with metadata := wish.metadata }⟩] ?fits ?distinct ?complete
  case fits =>
    simp only [List.forall_mem_cons]
    exact ⟨.of rfl (reads_text _) rfl,
      .of rfl (reads_text _) rfl,
      .of rfl (reads_text _) rfl,
      .of rfl (reads_boolean _) rfl,
      .of rfl (reads_dictionary _) rfl, nofun⟩
  case distinct => simp
  case complete => simp [Server.SecretInput.schema, Field.of]

end SecretsAdmin
