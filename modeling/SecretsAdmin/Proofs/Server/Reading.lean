import SecretsAdmin.Proofs.Server.Serving

namespace SecretsAdmin.Server

/-!
# Which requests stand for which commands

A command about an identifier, a membership or a generator can only be asked for with one method
and at one kind of path.
-/

/-! ## What readers read -/

namespace CommandReader

private theorem map_eq_ok_iff
    {ε α β : Type}
    {change : α → β}
    {result : Except ε α}
    {value : β} :
    result.map change = .ok value ↔ ∃ found, result = .ok found ∧ change found = value := by
  cases result <;> simp [Except.map]

theorem plain_eq_ok_iff
    {request : Request}
    {known command : Command} :
    plain known request = .ok command ↔ known = command := by
  simp [plain]

theorem ofId_eq_ok_iff
    {request : Request}
    {make : Int64 → Command}
    {parameter : Parameter}
    {command : Command} :
    ofId make parameter request = .ok command ↔
      ∃ id, readId parameter = .ok id ∧ make id = command :=
  map_eq_ok_iff

theorem ofLink_eq_ok_iff
    {request : Request}
    {make : Link → Command}
    {member group : Parameter}
    {command : Command} :
    ofLink make member group request = .ok command ↔
      ∃ link : Link, readIds member group = .ok (link.member, link.group) ∧
        make link = command := by
  refine map_eq_ok_iff.trans ⟨?_, ?_⟩
  · rintro ⟨⟨first, second⟩, isRead, same⟩
    exact ⟨⟨first, second⟩, isRead, same⟩
  · rintro ⟨link, isRead, same⟩
    exact ⟨(link.member, link.group), isRead, same⟩

theorem ofName_eq_ok_iff
    {request : Request}
    {make : String → Command}
    {command : Command} :
    ofName make request = .ok command ↔
      ∃ name, readName request = .ok name ∧ make name = command :=
  map_eq_ok_iff

theorem ofBody_eq_ok_iff
    {α : Type}
    {request : Request}
    {make : α → Command}
    {codec : Json.Codec α}
    {command : Command} :
    ofBody make codec request = .ok command ↔
      ∃ value, readBody codec.read request = .ok value ∧ make value = command :=
  map_eq_ok_iff

/-- A query for a version is about one secret or about all. -/
theorem command_of_ofVersion
    {request : Request}
    {command : Command}
    (isRead : ofVersion request = .ok command) :
    command = .listSecrets ∨ ∃ name version, command = .findSecret name version := by
  unfold ofVersion at isRead
  cases found : readNameAndVersion request with
  | error rejection =>
      rw [found] at isRead
      cases isRead
  | ok pair =>
      rw [found] at isRead
      obtain ⟨name, version⟩ := pair
      cases name with
      | none =>
          cases isRead
          exact .inl rfl
      | some name =>
          cases isRead
          exact .inr ⟨name, version.getD "", rfl⟩

/-- Without a query all secrets are asked for. -/
theorem ofVersion_of_noQuery
    {request : Request}
    (noQuery : request.query = "") :
    ofVersion request = .ok .listSecrets := by
  unfold ofVersion readNameAndVersion readQuery
  rw [noQuery]
  rfl

/-- The body of a request to a generator holds the parameters of one secret. -/
theorem ofParameters_eq_ok_iff
    {request : Request}
    {parameter : Parameter}
    {command : Command} :
    ofParameters parameter request = .ok command ↔
      ∃ generator parameters,
        parameter.text = .ok generator ∧
          readBody (Json.readValue Json.greatestDepth) request = .ok parameters ∧
          .generate generator [parameters] = command := by
  unfold ofParameters
  cases parameter.text with
  | error rejection => simp [bind, Except.bind]
  | ok generator =>
      cases readBody (Json.readValue Json.greatestDepth) request <;>
        simp [bind, Except.bind, pure, Except.pure]

theorem ofBatch_eq_ok_iff
    {request : Request}
    {parameter : Parameter}
    {command : Command} :
    ofBatch parameter request = .ok command ↔
      ∃ generator parameters,
        parameter.text = .ok generator ∧
          readBody (Json.readArray (Json.readValue (Json.greatestDepth - 1))) request =
            .ok parameters ∧
          .generate generator parameters = command := by
  unfold ofBatch
  cases parameter.text with
  | error rejection => simp [bind, Except.bind]
  | ok generator =>
      cases readBody (Json.readArray (Json.readValue (Json.greatestDepth - 1))) request <;>
        simp [bind, Except.bind, pure, Except.pure]

end CommandReader

/-- A body is read exactly when it is declared as JSON, not too long, and holds a value. -/
theorem readBody_eq_ok_iff
    {α : Type}
    {read : Json.Reader α}
    {request : Request}
    {value : α} :
    readBody read request = .ok value ↔
      declaresJson request.headers = true ∧
        request.body.length ≤ greatestLength ∧
        Json.parse read request.body = .ok value := by
  unfold readBody
  split
  next undeclared => simp_all
  next declared =>
    split
    next tooLong =>
      simp only [reduceCtorEq, false_iff]
      omega
    next fits =>
      have declares : declaresJson request.headers = true := by simpa using declared
      have short : request.body.length ≤ greatestLength := by omega
      cases Json.parse read request.body <;> simp [declares, short]

/-! ## Methods and paths -/

/-- The method with which a command is asked for. -/
def Command.method : Command → String
  | createGroup _ | createSecret _ | createClient _ | generate _ _ => "POST"
  | enrollClient _ | grantSecret _ => "PUT"
  | deleteGroup _ | deleteSecret _ | deleteClient _ | evictClient _ | revokeSecret _ => "DELETE"
  | _ => "GET"

/-- Whether a command is asked for at a resource, whose path names the objects of the command. -/
def Command.IsAt (resource : Resource) : Command → Prop
  | tellUser => resource = .user
  | listGroups => resource = .groupList
  | findGroup _ | createGroup _ => resource = .groups
  | showGroup id | deleteGroup id =>
      ∃ parameter, resource = .group parameter ∧ readId parameter = .ok id
  | listSecrets | findSecret _ _ | createSecret _ => resource = .secrets
  | listVersions _ => resource = .versions
  | showSecret id | deleteSecret id =>
      ∃ parameter, resource = .secret parameter ∧ readId parameter = .ok id
  | generate generator _ =>
      ∃ parameter,
        (resource = .generator parameter ∨ resource = .batch parameter) ∧
          parameter.text = .ok generator
  | listClients => resource = .clientList
  | findClient _ | createClient _ => resource = .clients
  | showClient id | deleteClient id =>
      ∃ parameter, resource = .client parameter ∧ readId parameter = .ok id
  | enrollClient link | evictClient link =>
      ∃ member group,
        resource = .clientMembership member group ∧
          readIds member group = .ok (link.member, link.group)
  | grantSecret link | revokeSecret link =>
      ∃ member group,
        resource = .secretMembership member group ∧
          readIds member group = .ok (link.member, link.group)

open CommandReader

/-- What a reader of a resource reads is asked for with its method, and at this resource. -/
theorem Resource.method_and_isAt
    {resource : Resource}
    {method : String}
    {read : CommandReader}
    {request : Request}
    {command : Command}
    (reader : resource.reader? method = some read)
    (isRead : read request = .ok command) :
    method = command.method ∧ command.IsAt resource := by
  unfold Resource.reader? at reader
  split at reader <;>
    simp only [Option.some.injEq, reduceCtorEq] at reader <;>
    subst reader
  case h_7 =>
    obtain rfl | ⟨_, _, rfl⟩ := command_of_ofVersion isRead <;> exact ⟨rfl, rfl⟩
  case h_12 =>
    obtain ⟨_, _, generator, -, rfl⟩ := ofParameters_eq_ok_iff.mp isRead
    exact ⟨rfl, _, .inl rfl, generator⟩
  case h_13 =>
    obtain ⟨_, _, generator, -, rfl⟩ := ofBatch_eq_ok_iff.mp isRead
    exact ⟨rfl, _, .inr rfl, generator⟩
  all_goals
    simp only [plain_eq_ok_iff, ofId_eq_ok_iff, ofLink_eq_ok_iff, ofName_eq_ok_iff,
      ofBody_eq_ok_iff] at isRead
  all_goals
    obtain ⟨_, isRead, rfl⟩ := isRead
    first
    | exact ⟨rfl, rfl⟩
    | exact ⟨rfl, _, rfl, isRead⟩
    | exact ⟨rfl, _, _, rfl, isRead⟩

/-- A command is only asked for with its method and at a resource of its objects. -/
theorem Request.isAt_of_command?
    {request : Request}
    {command : Command}
    (asked : request.command? = some command) :
    request.servedMethod = command.method ∧
      ∃ resource,
        Route.ofPath? request.path = some (.administration resource) ∧
          command.IsAt resource := by
  obtain ⟨resource, read, route, reader, isRead⟩ := request.reader_of_command? asked
  obtain ⟨method, isAt⟩ := Resource.method_and_isAt reader isRead
  exact ⟨method, resource, route, isAt⟩

end SecretsAdmin.Server
