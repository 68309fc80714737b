import Mathlib.Data.List.Induction
import SecretsAdmin.Proofs.Server.Integrity
import SecretsAdmin.Proofs.Server.Reading

namespace SecretsAdmin.Server

/-!
# Memberships

A member is listed in a group, and the group with it, exactly when the history has a request that
put it there and none since that took it out, deleted it or deleted the group. Clients and secrets
are in groups in the same way, so each statement is about a kind of members.
-/

/-! ## Kinds of members -/

/-- The kinds of members that a group has. -/
inductive MemberKind where
  | client
  | secret
  deriving DecidableEq, Repr

namespace MemberKind

/-- The memberships of a kind. -/
@[simp] def links : MemberKind → Store → Links
  | client => Store.clientLinks
  | secret => Store.secretLinks

/-- The resource of a member. -/
def resource : MemberKind → Parameter → Resource
  | client => .client
  | secret => .secret

/-- The resource of a membership. -/
def membership : MemberKind → Parameter → Parameter → Resource
  | client => .clientMembership
  | secret => .secretMembership

/-- The command to put a member into a group. -/
@[simp] def put : MemberKind → Link → Command
  | client => .enrollClient
  | secret => .grantSecret

/-- The command to take a member out of a group. -/
@[simp] def take : MemberKind → Link → Command
  | client => .evictClient
  | secret => .revokeSecret

/-- The command to delete a member. -/
@[simp] def delete : MemberKind → Int64 → Command
  | client => .deleteClient
  | secret => .deleteSecret

end MemberKind

/-! ## Requests about memberships -/

namespace Request

/-- Whether a request goes to the resource of an identifier. -/
def AtId
    (request : Request)
    (resource : Parameter → Resource)
    (id : Int64) :
    Prop :=
  ∃ parameter,
    Route.ofPath? request.path = some (.administration (resource parameter)) ∧
      readId parameter = .ok id

/-- Whether a request goes to the resource of a member and a group. -/
def AtLink
    (request : Request)
    (resource : Parameter → Parameter → Resource)
    (link : Link) :
    Prop :=
  ∃ member group,
    Route.ofPath? request.path = some (.administration (resource member group)) ∧
      readIds member group = .ok (link.member, link.group)

variable {request : Request} {kind : MemberKind} {link : Link} {id : Int64}

/-- A request is served by another method than its own only if it asks for a head. -/
private theorem servedMethod_eq_iff
    {method : String}
    (notGet : method ≠ "GET")
    (notHead : method ≠ "HEAD") :
    request.servedMethod = method ↔ request.method = method := by
  unfold servedMethod
  split
  next isHead => simp [isHead, notGet.symm, notHead.symm]
  next => rfl

/-- A command about an identifier is asked for exactly at the resource that has it. -/
private theorem command?_atId_iff
    {make : Int64 → Command}
    {resource : Parameter → Resource}
    (reader :
      ∀ parameter, (resource parameter).reader? (make id).method =
        some (CommandReader.ofId make parameter))
    (isAt_iff :
      ∀ other, (make id).IsAt other ↔
        ∃ parameter, other = resource parameter ∧ readId parameter = .ok id) :
    request.command? = some (make id) ↔
      request.servedMethod = (make id).method ∧ request.AtId resource id := by
  constructor
  · intro asked
    obtain ⟨method, other, route, isAt⟩ := isAt_of_command? asked
    obtain ⟨parameter, rfl, isRead⟩ := (isAt_iff other).mp isAt
    exact ⟨method, parameter, route, isRead⟩
  · rintro ⟨method, parameter, route, isRead⟩
    exact command?_of_reader route (method ▸ reader parameter)
      (CommandReader.ofId_eq_ok_iff.mpr ⟨id, isRead, rfl⟩)

/-- A command about a membership is asked for exactly at the resource of the membership. -/
private theorem command?_atLink_iff
    {make : Link → Command}
    {resource : Parameter → Parameter → Resource}
    (reader :
      ∀ member group, (resource member group).reader? (make link).method =
        some (CommandReader.ofLink make member group))
    (isAt_iff :
      ∀ other, (make link).IsAt other ↔
        ∃ member group,
          other = resource member group ∧
            readIds member group = .ok (link.member, link.group)) :
    request.command? = some (make link) ↔
      request.servedMethod = (make link).method ∧ request.AtLink resource link := by
  constructor
  · intro asked
    obtain ⟨method, other, route, isAt⟩ := isAt_of_command? asked
    obtain ⟨member, group, rfl, isRead⟩ := (isAt_iff other).mp isAt
    exact ⟨method, member, group, route, isRead⟩
  · rintro ⟨method, member, group, route, isRead⟩
    exact command?_of_reader route (method ▸ reader member group)
      (CommandReader.ofLink_eq_ok_iff.mpr ⟨link, isRead, rfl⟩)

/-- The requests that put a member into a group. -/
theorem command?_put_iff :
    request.command? = some (kind.put link) ↔
      request.method = "PUT" ∧ request.AtLink kind.membership link := by
  rw [← servedMethod_eq_iff (by decide) (by decide)]
  cases kind with
  | client => exact command?_atLink_iff (fun _ _ => rfl) fun _ => .rfl
  | secret => exact command?_atLink_iff (fun _ _ => rfl) fun _ => .rfl

theorem command?_take_iff :
    request.command? = some (kind.take link) ↔
      request.method = "DELETE" ∧ request.AtLink kind.membership link := by
  rw [← servedMethod_eq_iff (by decide) (by decide)]
  cases kind with
  | client => exact command?_atLink_iff (fun _ _ => rfl) fun _ => .rfl
  | secret => exact command?_atLink_iff (fun _ _ => rfl) fun _ => .rfl

theorem command?_delete_iff :
    request.command? = some (kind.delete id) ↔
      request.method = "DELETE" ∧ request.AtId kind.resource id := by
  rw [← servedMethod_eq_iff (by decide) (by decide)]
  cases kind with
  | client => exact command?_atId_iff (fun _ => rfl) fun _ => .rfl
  | secret => exact command?_atId_iff (fun _ => rfl) fun _ => .rfl

theorem command?_deleteGroup_iff :
    request.command? = some (.deleteGroup id) ↔
      request.method = "DELETE" ∧ request.AtId .group id := by
  rw [← servedMethod_eq_iff (by decide) (by decide)]
  exact command?_atId_iff (fun _ => rfl) fun _ => .rfl

end Request

/-! ## Exchanges about memberships -/

namespace Exchange

/-- Whether an exchange puts a member into a group. -/
def Puts
    (exchange : Exchange)
    (kind : MemberKind)
    (link : Link) :
    Prop :=
  exchange.request.method = "PUT" ∧
    exchange.request.AtLink kind.membership link ∧
    exchange.response.status = 200

/-- Whether an exchange takes a member out of a group, or deletes the one or the other. -/
def Takes
    (exchange : Exchange)
    (kind : MemberKind)
    (link : Link) :
    Prop :=
  exchange.request.method = "DELETE" ∧
    (exchange.request.AtLink kind.membership link ∧ exchange.response.status = 200 ∨
      exchange.request.AtId kind.resource link.member ∧ exchange.response.status = 204 ∨
      exchange.request.AtId .group link.group ∧ exchange.response.status = 204)

end Exchange

/-- Whether the last exchange that puts a member into a group has none after it that takes it. -/
def History.Leaves
    (history : History)
    (kind : MemberKind)
    (link : Link) :
    Prop :=
  ∃ earlier last later,
    history = earlier ++ last :: later ∧
      last.Puts kind link ∧
      ∀ exchange ∈ later, ¬exchange.Puts kind link ∧ ¬exchange.Takes kind link

/-- An exchange leaves a membership that it makes, and one that it does not take. -/
theorem History.leaves_concat_iff
    {history : History}
    {exchange : Exchange}
    {kind : MemberKind}
    {link : Link} :
    History.Leaves (history ++ [exchange]) kind link ↔
      exchange.Puts kind link ∨ history.Leaves kind link ∧ ¬exchange.Takes kind link := by
  constructor
  · rintro ⟨earlier, last, later, split, puts, keep⟩
    obtain rfl | ⟨front, final, rfl⟩ := List.eq_nil_or_concat later
    · obtain ⟨rfl, rfl⟩ := List.append_inj' split rfl |>.imp id (List.singleton_inj.mp)
      exact .inl puts
    · rw [List.concat_eq_append] at split keep
      rw [← List.cons_append, ← List.append_assoc] at split
      obtain ⟨rfl, rfl⟩ := List.append_inj' split rfl |>.imp id (List.singleton_inj.mp)
      exact .inr ⟨⟨earlier, last, front, rfl, puts, fun other isLater =>
        keep other (List.mem_append_left _ isLater)⟩, (keep exchange (by simp)).2⟩
  · rintro (puts | ⟨⟨earlier, last, later, rfl, puts, keep⟩, stays⟩)
    · exact ⟨history, exchange, [], rfl, puts, nofun⟩
    · by_cases again : exchange.Puts kind link
      · exact ⟨_, exchange, [], rfl, again, nofun⟩
      · refine ⟨earlier, last, later ++ [exchange], by simp, puts, fun other isLater => ?_⟩
        obtain isLater | isLast := List.mem_append.mp isLater
        · exact keep other isLater
        · rw [List.mem_singleton.mp isLast]
          exact ⟨again, stays⟩

namespace Store

/-! ## What a step does to memberships -/

@[simp] private theorem status_denied
    (denial : Denial) :
    denial.status ≠ 200 ∧ denial.status ≠ 204 := by
  cases denial <;> decide

/-- Secrets that are generated are in no group. -/
theorem Generates.links
    {user : String}
    {store after : Store}
    {inputs : List TemplateInput}
    {secrets : List Secret}
    (generates : Generates user store inputs secrets after)
    (kind : MemberKind) :
    kind.links after = kind.links store := by
  induction generates with
  | done => rfl
  | next first _ inductionHypothesis =>
      obtain ⟨-, -, rfl, rfl⟩ := generateOne_eq_ok_iff.mp first
      rw [inductionHypothesis]
      cases kind <;> rfl

/--
What a command does to a membership, by the status that answers it. What is created is linked to
nothing, and the links that are there do not change.
-/
theorem execute_links
    {store after : Store}
    {user : String}
    {command : Command}
    {answer : Answer}
    (executed : store.execute user command = (answer, after))
    (kind : MemberKind)
    (link : Link) :
    link ∈ (kind.links after).keys ↔
      command = kind.put link ∧ answer.response.status = 200 ∨
        link ∈ (kind.links store).keys ∧
          ¬(command = kind.take link ∧ answer.response.status = 200 ∨
            command = kind.delete link.member ∧ answer.response.status = 204 ∨
            command = .deleteGroup link.group ∧ answer.response.status = 204) := by
  have refused (command : Command) (denial : Denial) :
      link ∈ (kind.links store).keys ↔
        command = kind.put link ∧ (Answer.denied denial).response.status = 200 ∨
          link ∈ (kind.links store).keys ∧
            ¬(command = kind.take link ∧ (Answer.denied denial).response.status = 200 ∨
              command = kind.delete link.member ∧ (Answer.denied denial).response.status = 204 ∨
              command = .deleteGroup link.group ∧
                (Answer.denied denial).response.status = 204) := by
    simp [Answer.response, bare]
  cases command with
  | deleteGroup id =>
      obtain ⟨succeeded, rfl⟩ | ⟨denial, -, rfl, rfl⟩ := answerChanged_cases executed
      · obtain ⟨-, rfl⟩ := deleteGroup_eq_ok_iff.mp succeeded
        cases kind <;>
          simp [withoutGroup, Links.mem_withoutGroup_iff, Answer.response, bare]
      · exact refused _ denial
  | deleteClient id =>
      obtain ⟨succeeded, rfl⟩ | ⟨denial, -, rfl, rfl⟩ := answerChanged_cases executed
      · obtain ⟨-, rfl⟩ := deleteClient_eq_ok_iff.mp succeeded
        cases kind <;>
          simp [withoutClient, Links.mem_withoutMember_iff, Answer.response, bare]
      · exact refused _ denial
  | deleteSecret id =>
      obtain ⟨succeeded, rfl⟩ | ⟨denial, -, rfl, rfl⟩ := answerChanged_cases executed
      · obtain ⟨-, rfl⟩ := deleteSecret_eq_ok_iff.mp succeeded
        cases kind <;>
          simp [withoutSecret, Links.mem_withoutMember_iff, Answer.response, bare]
      · exact refused _ denial
  | enrollClient other =>
      obtain ⟨succeeded, rfl⟩ | ⟨denial, -, rfl, rfl⟩ := answerChanged_cases executed
      · obtain ⟨-, -, rfl⟩ := changeClientLink_eq_ok_iff.mp succeeded
        cases kind <;>
          simp [withClientLinks, OrderedMap.mem_keys_insert_iff, eq_comm (a := other),
            Answer.response, bare]
      · exact refused _ denial
  | evictClient other =>
      obtain ⟨succeeded, rfl⟩ | ⟨denial, -, rfl, rfl⟩ := answerChanged_cases executed
      · obtain ⟨-, -, rfl⟩ := changeClientLink_eq_ok_iff.mp succeeded
        cases kind <;>
          simp [withClientLinks, OrderedMap.mem_keys_erase_iff, eq_comm (a := other),
            Answer.response, bare]
      · exact refused _ denial
  | grantSecret other =>
      obtain ⟨succeeded, rfl⟩ | ⟨denial, -, rfl, rfl⟩ := answerChanged_cases executed
      · obtain ⟨-, -, rfl⟩ := changeSecretLink_eq_ok_iff.mp succeeded
        cases kind <;>
          simp [withSecretLinks, OrderedMap.mem_keys_insert_iff, eq_comm (a := other),
            Answer.response, bare]
      · exact refused _ denial
  | revokeSecret other =>
      obtain ⟨succeeded, rfl⟩ | ⟨denial, -, rfl, rfl⟩ := answerChanged_cases executed
      · obtain ⟨-, -, rfl⟩ := changeSecretLink_eq_ok_iff.mp succeeded
        cases kind <;>
          simp [withSecretLinks, OrderedMap.mem_keys_erase_iff, eq_comm (a := other),
            Answer.response, bare]
      · exact refused _ denial
  | createGroup input =>
      obtain ⟨_, succeeded, -⟩ | ⟨_, -, -, rfl⟩ := answerCreated_cases executed
      · obtain ⟨-, -, rfl, -⟩ := createGroup_eq_ok_iff.mp succeeded
        cases kind <;> simp [withGroup]
      · cases kind <;> simp
  | createClient input =>
      obtain ⟨_, succeeded, -⟩ | ⟨_, -, -, rfl⟩ := answerCreated_cases executed
      · obtain ⟨-, -, rfl, -⟩ := createClient_eq_ok_iff.mp succeeded
        cases kind <;> simp [withClient]
      · cases kind <;> simp
  | createSecret input =>
      obtain ⟨_, succeeded, -⟩ | ⟨_, -, -, rfl⟩ := answerCreated_cases executed
      · obtain ⟨-, -, -, rfl, -⟩ := createSecret_eq_ok_iff.mp succeeded
        cases kind <;> simp [withSecret]
      · cases kind <;> simp
  | generate generator parameters =>
      obtain ⟨_, outcome⟩ := generate_of_execute executed
      obtain ⟨_, _, generates, -⟩ := exists_generates_of_generate outcome
      rw [generates.links]
      cases kind <;> simp
  | _ =>
      cases executed
      cases kind <;> simp

/-- What a request does to a membership. -/
theorem serve_links
    (store : Store)
    (token : String)
    (request : Request)
    (kind : MemberKind)
    (link : Link) :
    link ∈ (kind.links (store.serve token request).2).keys ↔
      Exchange.Puts ⟨request, (store.serve token request).1⟩ kind link ∨
        link ∈ (kind.links store).keys ∧
          ¬Exchange.Takes ⟨request, (store.serve token request).1⟩ kind link := by
  have served := store.serve_served token request
  generalize (store.serve token request).2 = after at served ⊢
  generalize (store.serve token request).1 = response at served ⊢
  cases served with
  | refused failure =>
      have notDone : response.status ≠ 200 := by omega
      have notRemoved : response.status ≠ 204 := by omega
      simp [Exchange.Puts, Exchange.Takes, notDone, notRemoved]
  | begun route login =>
      obtain ⟨-, rfl⟩ := login_eq_ok_iff.mp login
      cases kind <;> simp [Exchange.Puts, Exchange.Takes, Request.AtLink, route]
  | @obeyed _ command _ _ _ known asked executed status =>
      have isCommand :
          ∀ other, command = other ↔ request.command? = some other := by
        intro other
        rw [asked, Option.some.injEq]
      rw [execute_links executed kind link]
      simp only [isCommand, Request.command?_put_iff, Request.command?_take_iff,
        Request.command?_delete_iff, Request.command?_deleteGroup_iff, Exchange.Puts,
        Exchange.Takes, status, and_assoc, and_or_left]

/-! ## Details -/

/-- Whether the detail of a group lists a member. -/
def ListsMember (store : Store) : MemberKind → Link → Prop
  | .client, link =>
      ∃ detail,
        store.groupDetail? link.group = some detail ∧
          link.member ∈ detail.clients.map Client.id
  | .secret, link =>
      ∃ detail,
        store.groupDetail? link.group = some detail ∧
          link.member ∈ detail.secrets.map Secret.id

/-- Whether the detail of a member lists a group. -/
def ListsGroup (store : Store) : MemberKind → Link → Prop
  | .client, link =>
      ∃ detail,
        store.clientDetail? link.member = some detail ∧ link.group ∈ detail.groups.map Group.id
  | .secret, link =>
      ∃ detail,
        store.secretDetail? link.member = some detail ∧ link.group ∈ detail.groups.map Group.id

/--
The detail of an identifier lists another one exactly if they are linked, provided that the
detail of any record does and that no identifier is linked without a record.
-/
theorem OwnIds.exists_detail_iff
    {α Detail : Type}
    {records : OrderedMap Int64 α}
    {idOf : α → Int64}
    {id other : Int64}
    (own : OwnIds records idOf)
    (view : α → Detail)
    (listed : Detail → List Int64)
    (linked : Int64 → Prop)
    (known : linked id → id ∈ records.keys)
    (viewed : ∀ record, other ∈ listed (view record) ↔ linked (idOf record)) :
    (∃ detail, (records.find? id).map view = some detail ∧ other ∈ listed detail) ↔
      linked id := by
  constructor
  · rintro ⟨detail, shown, isListed⟩
    obtain ⟨record, found, rfl⟩ := Option.map_eq_some_iff.mp shown
    rw [viewed, own id record found] at isListed
    exact isListed
  · intro isLinked
    have isThere := OrderedMap.contains_iff_mem_keys.mpr (known isLinked)
    obtain ⟨record, found⟩ := Option.isSome_iff_exists.mp isThere
    refine ⟨view record, by rw [found, Option.map_some], ?_⟩
    rw [viewed, own id record found]
    exact isLinked

/-- In a consistent store, the detail of a group lists the members that are linked to it. -/
theorem Consistent.listsMember_iff
    {store : Store}
    {kind : MemberKind}
    {link : Link}
    (consistent : store.Consistent) :
    store.ListsMember kind link ↔ link ∈ (kind.links store).keys := by
  cases kind with
  | client =>
      exact consistent.groups.exists_detail_iff store.detailOfGroup (·.clients.map Client.id)
        (fun group => ⟨link.member, group⟩ ∈ store.clientLinks.keys)
        (fun isLink => (consistent.clientLinks _ isLink).2)
        fun group => (consistent.clientsInGroup group.id).mem_iff link.member
  | secret =>
      exact consistent.groups.exists_detail_iff store.detailOfGroup (·.secrets.map Secret.id)
        (fun group => ⟨link.member, group⟩ ∈ store.secretLinks.keys)
        (fun isLink => (consistent.secretLinks _ isLink).2)
        fun group => (consistent.secretsInGroup group.id).mem_iff link.member

theorem Consistent.listsGroup_iff
    {store : Store}
    {kind : MemberKind}
    {link : Link}
    (consistent : store.Consistent) :
    store.ListsGroup kind link ↔ link ∈ (kind.links store).keys := by
  cases kind with
  | client =>
      exact consistent.clients.exists_detail_iff store.detailOfClient (·.groups.map Group.id)
        (fun client => ⟨client, link.group⟩ ∈ store.clientLinks.keys)
        (fun isLink => (consistent.clientLinks _ isLink).1)
        fun client => (consistent.groupsOfClient client.id).mem_iff link.group
  | secret =>
      exact consistent.secrets.exists_detail_iff store.detailOfSecret (·.groups.map Group.id)
        (fun secret => ⟨secret, link.group⟩ ∈ store.secretLinks.keys)
        (fun isLink => (consistent.secretLinks _ isLink).1)
        fun secret => (consistent.groupsOfSecret secret.id).mem_iff link.group

/-! ## Runs -/

/--
After a run, exactly those memberships are there that the history leaves. The induction is on the
last request, since a history grows at its end.
-/
theorem run_links
    (arrivals : List Arrival)
    (kind : MemberKind)
    (link : Link) :
    link ∈ (kind.links (fresh.run arrivals).2).keys ↔
      (fresh.run arrivals).1.Leaves kind link := by
  induction arrivals using List.reverseRecOn with
  | nil =>
      refine iff_of_false (by cases kind <;> exact nofun) ?_
      rintro ⟨earlier, last, later, split, -⟩
      simp at split
  | append_singleton earlier last inductionHypothesis =>
      rw [run_concat, serve_links, inductionHypothesis, History.leaves_concat_iff]

/--
After a run, a member and a group list each other in their details exactly when the history leaves
the membership. And whatever request comes next, a membership is there after it exactly if the
exchange puts the member into the group, or if it was there and the exchange does not take it.
-/
theorem details_follow_history
    (arrivals : List Arrival) :
    (∀ kind link,
      ((fresh.run arrivals).2.ListsMember kind link ↔
          (fresh.run arrivals).1.Leaves kind link) ∧
        ((fresh.run arrivals).2.ListsGroup kind link ↔
          (fresh.run arrivals).1.Leaves kind link)) ∧
      ∀ token request kind link,
        link ∈ (kind.links ((fresh.run arrivals).2.serve token request).2).keys ↔
          Exchange.Puts ⟨request, ((fresh.run arrivals).2.serve token request).1⟩ kind link ∨
            link ∈ (kind.links (fresh.run arrivals).2).keys ∧
              ¬Exchange.Takes ⟨request, ((fresh.run arrivals).2.serve token request).1⟩
                kind link := by
  have consistent := Reachable.consistent ⟨arrivals, rfl⟩
  refine ⟨fun kind link => ?_, serve_links _⟩
  rw [consistent.listsMember_iff, consistent.listsGroup_iff, and_self]
  exact run_links arrivals kind link

end Store

end SecretsAdmin.Server
