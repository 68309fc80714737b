import SecretsAdmin.Proofs.Json.Collecting
import SecretsAdmin.Proofs.Json.Record

namespace SecretsAdmin.Json

/-!
# Reading records from any object

A record is assembled from the members of an object, whatever their order: a member that is no
field is skipped, a field that comes again is refused, and in the end no required field may be
missing.
-/

variable {Record : Type}

/-- What a field finds is what its codec finds, put into the record. -/
theorem Field.alone_of
    {Value : Type}
    (name : String)
    (presence : Presence)
    (codec : Codec Value)
    (get : Record → Value)
    (set : Value → Record → Record)
    (written : List Char) :
    alone (Field.of name presence codec get set).read written =
      (alone codec.read written).map set := by
  simp only [alone, Field.of]
  cases codec.read (octets written) <;> rfl

namespace Schema

variable {schema : Schema Record}

/-! ## Objects -/

/-- What becomes of a draft with a member. -/
def turn
    (schema : Schema Record)
    (draft : Draft Record)
    (member : Member) :
    Option (Draft Record) :=
  match schema.field? member.name with
  | none => some draft
  | some field =>
      if draft.seen.contains member.name then
        none
      else
        (alone field.read member.value).map fun set =>
          ⟨set draft.record, member.name :: draft.seen⟩

/-- The record of the members of an object. -/
def assemble
    (schema : Schema Record)
    (members : List Member) :
    Option Record :=
  (members.foldlM schema.turn ⟨schema.blank, []⟩).bind fun draft =>
    if (schema.missing? draft).isSome then none else some draft.record

/-- A member that no field asks for is read past. -/
private theorem decides_skipValue
    {written : List Char}
    (isJson : IsJson written)
    (draft : Draft Record) :
    Decides (fun unread => (skipValue unread).map fun unread => (draft, unread)) written
      (some draft) := by
  intro before rest areBlank ends
  show Except.map _ (skipValue _) = _
  rw [isJson.skipValue areBlank ends]
  rfl

private theorem takesTurn_readField
    (areDecisive : ∀ field ∈ schema.fields, IsDecisive field.read)
    {member : Member}
    (isJson : IsJson member.value) :
    TakesTurn schema.readField schema.turn member := by
  intro before after rest draft blankBefore blankAfter ends
  unfold readField turn
  cases found : schema.field? member.name with
  | none => exact (decides_skipValue isJson draft).readMember blankBefore blankAfter ends
  | some field =>
      dsimp only
      split
      next => exact ⟨_, rfl⟩
      next =>
        have isField := List.mem_of_find?_eq_some found
        exact ((areDecisive field isField member.value isJson).readMember blankBefore blankAfter
          ends).andThen fun _ => rfl

private theorem skips_read (unread : Octets) :
    schema.read (skipBlanks unread) = schema.read unread := by
  simp only [read, skipBlanks_skipBlanks]

/-- A record is read from an object as it is assembled from the members. -/
theorem decides_read
    (areDecisive : ∀ field ∈ schema.fields, IsDecisive field.read)
    {written : List Char}
    {members : List Member}
    (isObject : IsObject written members) :
    Decides schema.read written (schema.assemble members) := by
  refine .of_begins skips_read isObject.isJson.begins fun rest _ => ?_
  obtain ⟨inside, encoded, gives⟩ :=
    isObject.gives_readMembers
      (fun member isMember => takesTurn_readField areDecisive (isObject.2 member isMember))
      ⟨schema.blank, []⟩ rest
  rw [encoded]
  show Gives rest _ (schema.readObject inside)
  unfold readObject
  refine gives.bind fun draft => ?_
  dsimp only
  cases schema.missing? draft with
  | none => exact rfl
  | some field => exact ⟨_, rfl⟩

/-! ## Arrays -/

private theorem closeArray_fails
    {unread others : Octets}
    {octet : UInt8}
    (skipped : skipBlanks unread = octet :: others)
    (notEnd : octet ≠ 0x5D) :
    ∃ failure, closeArray unread = .error failure := by
  unfold closeArray
  rw [skipped]
  split
  next same => cases same
  next same => exact absurd (List.cons.inj same).1 notEnd
  next => split <;> exact ⟨_, rfl⟩
  next => exact ⟨_, rfl⟩

/-- An array does not end before an element. -/
private theorem closeArray_cons
    {first : Bool}
    {written item : List Char}
    {items : List (List Char)}
    (areLeft : AreLeft first written (item :: items))
    (begins : Begins item)
    (rest : Octets) :
    ∃ failure, closeArray (octets written ++ 0x5D :: rest) = .error failure := by
  cases first with
  | true =>
      have ⟨octet, more, encoded, _, notEnd, _⟩ := begins
      obtain ⟨behind, -, skipped⟩ := AreListed.exists_first areLeft begins
      have skipped := skipped (0x5D :: rest)
      rw [encoded, List.cons_append] at skipped
      exact closeArray_fails skipped notEnd
  | false =>
      obtain ⟨listed, -, comma⟩ := AreBehind.exists_comma areLeft
      exact closeArray_fails (comma (0x5D :: rest)) (by decide)

/-- The record of the elements of an array, each of which stands at the place of a field. -/
def arrange (record : Record) : List (Field Record) → List (List Char) → Option Record
  | [], [] => some record
  | [], _ :: _ => none
  | field :: fields, [] =>
      if field.presence = .defaulted then arrange record fields [] else none
  | field :: fields, item :: items =>
      (alone field.read item).bind fun set => arrange (set record) fields items

/-- Behind the last field the array has to end. -/
private theorem gives_readPositions_nil
    (schema : Schema Record)
    (index : Nat)
    {written : List Char}
    {items : List (List Char)}
    (areLeft : AreLeft (index == 0) written items)
    (areJson : ∀ item ∈ items, IsJson item)
    (record : Record)
    (rest : Octets) :
    Gives rest (arrange record [] items)
      (schema.readPositions index record [] (octets written ++ 0x5D :: rest)) := by
  cases items with
  | nil =>
      have closed : closeArray (octets written ++ 0x5D :: rest) = .ok rest := by
        rw [closeArray, skipBlanks_octets areLeft.blank]
        rfl
      rw [readPositions, closed]
      rfl
  | cons item items =>
      obtain ⟨failure, failed⟩ :=
        closeArray_cons areLeft (areJson item List.mem_cons_self).begins rest
      rw [readPositions, failed]
      exact ⟨failure, rfl⟩

/-- Fields are read by position as the elements are arranged. -/
private theorem gives_readPositions
    (schema : Schema Record)
    {fields : List (Field Record)}
    (areDecisive : ∀ field ∈ fields, IsDecisive field.read)
    (index : Nat)
    {written : List Char}
    {items : List (List Char)}
    (areLeft : AreLeft (index == 0) written items)
    (areJson : ∀ item ∈ items, IsJson item)
    (record : Record)
    (rest : Octets) :
    Gives rest (arrange record fields items)
      (schema.readPositions index record fields (octets written ++ 0x5D :: rest)) := by
  induction fields generalizing index written items record with
  | nil => exact schema.gives_readPositions_nil index areLeft areJson record rest
  | cons field fields inductionHypothesis =>
      obtain ⟨isDecisive, areOthers⟩ := List.forall_mem_cons.mp areDecisive
      cases items with
      | nil =>
          have others :=
            inductionHypothesis areOthers (index + 1) (AreBehind.nil .nil) nofun record
          rw [readPositions, nextElement_nil areLeft, arrange]
          simp only [bind, Except.bind]
          split
          next => exact others
          next => exact ⟨_, rfl⟩
      | cons item items =>
          obtain ⟨isJson, areOtherJson⟩ := List.forall_mem_cons.mp areJson
          obtain ⟨behind, others, next⟩ := nextElement_cons areLeft isJson.begins
          have element := isDecisive item isJson [] _ .nil (others.ends 0x5D (.inl rfl) rest)
          simp only [octets_nil, List.nil_append] at element
          rw [readPositions, next, arrange]
          cases found : alone field.read item with
          | none =>
              obtain ⟨failure, failed⟩ := found ▸ element
              simp only [bind, Except.bind, failed]
              exact ⟨_, rfl⟩
          | some set =>
              rw [found] at element
              simp only [bind, Except.bind, show field.read _ = .ok (set, _) from element]
              exact inductionHypothesis areOthers (index + 1) others areOtherJson (set record)

/-- A record is read from an array as its elements are arranged. -/
theorem decides_read_array
    (areDecisive : ∀ field ∈ schema.fields, IsDecisive field.read)
    {written : List Char}
    {items : List (List Char)}
    (isArray : IsArray written items) :
    Decides schema.read written (arrange schema.blank schema.fields items) := by
  have begins := isArray.isJson.begins
  obtain ⟨⟨inside, areListed, rfl⟩, areJson⟩ := isArray
  refine .of_begins skips_read begins fun rest _ => ?_
  rw [octets_cons, octets_append, List.append_assoc, List.append_assoc]
  exact schema.gives_readPositions areDecisive 0 areListed areJson schema.blank rest

/-- A record is read in the same way wherever it stands, if its fields are. -/
theorem isDecisive_read
    (areDecisive : ∀ field ∈ schema.fields, IsDecisive field.read) :
    IsDecisive schema.read := by
  intro written isJson
  obtain ⟨octet, others, encoded, shape⟩ := isJson.shape
  by_cases isCurly : octet = 0x7B
  · obtain ⟨members, isObject⟩ := shape.isObject isCurly
    exact (decides_read areDecisive isObject).settles
  by_cases isSquare : octet = 0x5B
  · obtain ⟨items, isArray⟩ := shape.isArray isSquare
    exact (decides_read_array areDecisive isArray).settles
  refine .of_fails skips_read isJson.begins fun rest _ => ?_
  rw [encoded, List.cons_append, read, skipBlanks_cons shape.notBlank]
  split
  next same => exact absurd (List.cons.inj same).1 isSquare
  next same => exact absurd (List.cons.inj same).1 isCurly
  next => exact mismatch_fails _ _

end Schema

end SecretsAdmin.Json
