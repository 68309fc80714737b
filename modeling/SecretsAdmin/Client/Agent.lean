import SecretsAdmin.Client.Connection
import SecretsAdmin.Http.MediaType
import SecretsAdmin.Http.Target

namespace SecretsAdmin.Client

/-!
# Agents

An agent carries requests over a network connection. It makes a response of the bytes that come
back, and never loses a status that tells of a failure: a body that cannot be read then counts as
empty, and bytes that are not UTF-8 are replaced. Without a failure the body has to be UTF-8.
-/

/-- What a server sends back; its headers are some that agents accept. -/
structure Delivery where
  status : Nat
  headers : List (String × Octets)
  body : Octets
  /-- The length that the server declares, if it is not that of the body. -/
  declaredLength : Option Nat := none
  deriving DecidableEq, Repr

namespace Delivery

/-- The length that the body is said to have. -/
def length (delivery : Delivery) : Nat :=
  delivery.declaredLength.getD delivery.body.length

/-- Whether a response with the status has a body. -/
def hasBody (delivery : Delivery) : Bool :=
  delivery.status != 204 && delivery.status != 304

/-- The greatest length of a body that an agent reads. -/
def greatestLength : Nat := 10485760

/--
The bytes of the body as they come, or what stops the agent from reading them. No coding of the
content is undone.
-/
def content (delivery : Delivery) : Except String Octets :=
  if !delivery.hasBody then
    .ok []
  else if greatestLength < delivery.length then
    .error "the response body is larger than the limit"
  else if delivery.body.length < delivery.length then
    .error "the peer disconnected"
  else
    .ok (delivery.body.take delivery.length)

/-- The bytes that belong to the body. -/
def message (delivery : Delivery) : Octets :=
  if delivery.hasBody then delivery.body.take delivery.length else []

/-- Whether the whole body arrives and is not too long. -/
def IsWhole (delivery : Delivery) : Prop :=
  delivery.hasBody = true →
    delivery.length ≤ greatestLength ∧ delivery.length ≤ delivery.body.length

/-- A body is read exactly if all of it arrives and it is not too long. -/
theorem content_eq_ok_iff
    {delivery : Delivery}
    {octets : Octets} :
    delivery.content = .ok octets ↔ delivery.IsWhole ∧ octets = delivery.message := by
  unfold content IsWhole message
  cases delivery.hasBody with
  | false => simp [eq_comm]
  | true =>
      simp only [Bool.not_true, Bool.false_eq_true, if_false, if_true, forall_const]
      split
      next tooLong => simp [Nat.not_le.mpr tooLong]
      next notTooLong =>
        split
        next cutShort => simp [Nat.not_le.mpr cutShort]
        next arrived => simp [Nat.not_lt.mp notTooLong, Nat.not_lt.mp arrived, eq_comm]

/-- All headers of a response; the connection and the length come first. -/
def allHeaders (delivery : Delivery) : List (String × Octets) :=
  let length :=
    if delivery.hasBody then
      [("content-length", Utf8.encode (toString delivery.length))]
    else
      []
  ("connection", Utf8.encode "close") :: length ++ delivery.headers

end Delivery

/--
How an agent reads what a server sends back. An agent of the caller may follow redirects; it does so
before there is a delivery, which is then that of the last server.
-/
structure Agent where
  /-- Whether the statuses of failures, 400 to 599, are reported alone, without headers and body. -/
  reportsFailuresAlone : Bool := false
  /--
  The bytes of a body, or what stops the agent from reading them. An agent may give up where others
  do not, for instance when its time is up, and it may undo a coding of the content.
  -/
  read : Delivery → Except String Octets := Delivery.content

/-- A name of a header in small letters. -/
def lowerName (name : String) : String :=
  String.ofList (name.toList.map Char.toLower)

/-- Put the headers of a name behind the first one of that name; the budget is as long. -/
def groupHeaders
    {α : Type} :
    (budget : List (String × α)) → List (String × α) → List (String × α)
  | _ :: budget, first :: rest =>
      let same := rest.filter fun header => header.1 == first.1
      let others := rest.filter fun header => header.1 != first.1
      first :: same ++ groupHeaders budget others
  | _, headers => headers

/-- Bytes without blanks and tabs at both ends. -/
def trimOctets (octets : Octets) : Octets :=
  let isSpare (octet : UInt8) : Bool := octet == 0x20 || octet == 0x09
  ((octets.dropWhile isSpare).reverse.dropWhile isSpare).reverse

/-- Headers with names in small letters, each name at one place, and with trimmed values. -/
def tidyHeaders (headers : List (String × Octets)) : List (String × Octets) :=
  let tidy := headers.map fun header => (lowerName header.1, trimOctets header.2)
  groupHeaders tidy tidy

/-- The headers whose values are visible characters. -/
def visibleHeaders (headers : List (String × Octets)) : Http.Headers :=
  headers.filterMap fun header =>
    match Utf8.decode? header.2 with
    | some value => if Http.isVisible value then some (header.1, value) else none
    | none => none

/-- The text of a body with a status, given the bytes or what stops the agent from reading them. -/
def bodyText
    (status : Nat)
    (content : Except String Octets) :
    Except Error String :=
  match content with
  | .ok octets =>
      if 400 ≤ status then
        .ok (Utf8.decodeLossy octets)
      else
        (Utf8.decode octets).mapError fun defect => .unreadableResponse defect.message
  | .error reason => if 400 ≤ status then .ok "" else .error (.transport reason)

namespace Agent

/-- The response that an agent makes of what a server sends back. -/
def receive
    (agent : Agent)
    (delivery : Delivery) :
    Except Error Http.Response :=
  if agent.reportsFailuresAlone ∧ 400 ≤ delivery.status ∧ delivery.status < 600 then
    .ok ⟨delivery.status, [], ""⟩
  else do
    let body ← bodyText delivery.status (agent.read delivery)
    return ⟨delivery.status, visibleHeaders (tidyHeaders delivery.allHeaders), body⟩

/-- Whether an agent can send a header: a name of plain signs, a value without controls. -/
def canSend (header : String × String) : Bool :=
  !header.1.isEmpty &&
    header.1.toList.all Http.MediaType.isToken &&
    header.2.toList.all fun character =>
      (0x20 ≤ character.toNat && character.toNat != 0x7F) || character == '\t'

/-- Whether a text may be the address of a request: visible, over a scheme that agents know. -/
def isAddress (url : String) : Bool :=
  match Url.cutScheme? url.toList with
  | some (scheme, '/' :: '/' :: authority) =>
      (scheme == "http" || scheme == "https") && !authority.isEmpty &&
        url.toList.all fun character => 0x21 ≤ character.toNat && character.toNat != 0x7F
  | _ => false

/-- What arrives at a server when an agent sends a request, if it does. -/
def send? (request : Http.Request) : Option Http.Request :=
  if isAddress request.url ∧ request.headers.all canSend then
    let body :=
      match request.method with
      | .get | .delete => none
      | .post | .put => request.body
    some { request with url := String.ofList (Http.locator request.url), body }
  else
    none

/-- The transport of an agent to a server that answers requests with deliveries. -/
def transport
    {σ : Type}
    (agent : Agent)
    (serve : Http.Request → σ → Delivery × σ) :
    Transport σ where
  exchange request state :=
    match send? request with
    | none => (.error (.transport "the request cannot be sent"), state)
    | some arriving =>
        let (delivery, state) := serve arriving state
        (agent.receive delivery, state)

/-- The transport of an agent on a machine without a network: no exchange succeeds. -/
def offline {σ : Type} : Transport σ where
  exchange _ state :=
    (.error (.transport "io: Network is unreachable (os error 101)"), state)

end Agent

end SecretsAdmin.Client
