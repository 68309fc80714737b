import SecretsAdmin.Proofs.Client.Creation
import SecretsAdmin.Proofs.Server.Content

namespace SecretsAdmin.Client

/-!
# Contents on their way

The server accepts as contents exactly the base64 texts of bytes, and a client sends such a text
for any bytes but none.
-/

/-- What a client writes into a request is what the server reads out of it. -/
theorem parse_body_ofClient
    {α β : Type}
    {reader : Json.Codec β}
    {writer : Json.Codec α}
    {view : α → β}
    (sees : reader.Sees writer view)
    (value : α)
    {request : Http.Request}
    (isBody : request.body = some (writer.print value)) :
    reader.parse (Server.Request.ofClient request).body = .ok (view value) := by
  unfold Server.Request.ofClient
  rw [isBody]
  exact (sees value).parse

/-- A call sends the wish for a secret with some content, which no server takes amiss. -/
structure Call.SendsContent
    {α : Type}
    (call : Call α)
    (connection : Connection)
    (content : Octets)
    (request : Http.Request)
    (input : Server.SecretInput) :
    Prop where
  sent : call.request connection = .ok request
  read : Server.SecretInput.codec.parse (Server.Request.ofClient request).body = .ok input
  decoded : Base64.decode? input.content = some content
  accepted :
    ∀ (store : Server.Store) (user : String),
      store.statusOfWish user input = 201 ∨ store.statusOfWish user input = 409

theorem createSecret_sendsContent
    {connection : Connection}
    {path : List String}
    (isPath : connection.base.path = .segments path)
    {name : String}
    {content : Octets}
    (named : name ≠ "")
    (notEmpty : content ≠ [])
    (description : String)
    (withVersion : Bool)
    (metadata : OrderedMap String String) :
    ∃ request input,
      (createSecret name description content withVersion metadata).SendsContent connection content
        request input := by
  let wish : Model.NewSecret :=
    { name, description, content := Base64.encode content, withVersion, metadata }
  have isAt := isAt_createSecret named notEmpty description withVersion metadata
  obtain ⟨url, located⟩ := connection.exists_locate isPath
    (createSecret name description content withVersion metadata).segments
    (createSecret name description content withVersion metadata).query
  refine ⟨_, Server.SecretInput.ofWish wish,
    Call.request_eq isAt.noComplaint located isAt.written, ?read, Base64.decode?_encode content,
    fun store user => ?accepted⟩
  case read => exact parse_body_ofClient sees_newSecret wish rfl
  case accepted =>
    exact (store.judgesContent user named).accepted_iff.mpr
      ⟨content, notEmpty, Base64.standsFor_encode content⟩

/--
A wish for a secret with a name is accepted, or in conflict with another secret, exactly if its
content stands for some bytes, which are told by it; defective contents are unprocessable. A client
sends such a content for any bytes but none, and the server decodes it to these bytes.
-/
theorem contents_are_base64
    (store : Server.Store)
    (user : String)
    {input : Server.SecretInput}
    (named : input.name ≠ "") :
    store.JudgesContent user input ∧
      ∀ (address : String) (connection : Connection) (name description : String)
        (content : Octets) (withVersion : Bool) (metadata : OrderedMap String String),
        Connection.establish address = .ok { base := connection.base } →
          name ≠ "" →
            content ≠ [] →
              ∃ request sent,
                (createSecret name description content withVersion metadata).SendsContent
                  connection content request sent := by
  refine ⟨store.judgesContent user named, ?_⟩
  intro address connection name description content withVersion metadata established isNamed notEmpty
  obtain ⟨-, path, isPath⟩ := Connection.base_of_establish established
  exact createSecret_sendsContent isPath isNamed notEmpty description withVersion metadata

/-- One byte is a content, with two equals signs; without them it is defective. -/
theorem contents_are_base64_oneByte :
    let input : Server.SecretInput := { name := "s", content := "AA==" }
    let unpadded : Server.SecretInput := { name := "s", content := "AA" }
    Server.Store.fresh.JudgesContent "u" input ∧
      Server.Store.fresh.JudgesContent "u" unpadded ∧
      Server.Store.fresh.statusOfWish "u" input = 201 ∧
      Server.Store.fresh.statusOfWish "u" unpadded = 422 ∧
      ∃ request sent,
        (createSecret "s" "" [0] false .empty).SendsContent afterLogin [0] request sent := by
  intro input unpadded
  have established : Connection.establish "http://localhost" = .ok { base := afterLogin.base } := by
    decide +kernel
  obtain ⟨judged, sends⟩ :=
    contents_are_base64 .fresh "u" (by decide : input.name ≠ "")
  obtain ⟨judgedUnpadded, -⟩ :=
    contents_are_base64 .fresh "u" (by decide : unpadded.name ≠ "")
  refine ⟨judged, judgedUnpadded, by decide +kernel, ?_, ?_⟩
  · exact judgedUnpadded.defective (.unpadded (by decide +kernel))
  · exact sends "http://localhost" afterLogin "s" "" [0] false .empty established (by decide)
      (by decide)

end SecretsAdmin.Client
