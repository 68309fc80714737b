import SecretsAdmin.OrderedMap
import SecretsAdmin.Proofs.Json.Deciding

namespace SecretsAdmin.Json

/-!
# Reading arrays and objects

What an array or object is read as follows from its elements or members, one after the other.
The readers go on from one to the next with what is left between the brackets.
-/

variable {α σ : Type}

/-- Whether items are left to read between brackets, the first ones or those behind another. -/
def AreLeft
    (first : Bool)
    (written : List Char)
    (items : List (List Char)) :
    Prop :=
  if first then AreListed written items else AreBehind written items

/-- Where no item is left, there are only blanks. -/
theorem AreLeft.blank
    {first : Bool}
    {written : List Char}
    (areLeft : AreLeft first written []) :
    AreBlank written := by
  cases first
  · obtain ⟨areBlank⟩ : AreBehind written [] := areLeft
    exact areBlank
  · obtain ⟨areBlank⟩ : AreListed written [] := areLeft
    exact areBlank

/-- Every item has a comma before it, so there are no more items than bytes. -/
private theorem AreBehind.length_le
    {behind : List Char}
    {items : List (List Char)}
    (areBehind : AreBehind behind items) :
    items.length ≤ (octets behind).length := by
  induction areBehind with
  | nil => exact Nat.zero_le _
  | cons _ _ _ inductionHypothesis =>
      have isComma : (String.utf8EncodeChar ',').length = 1 := rfl
      simp only [octets_append, octets_cons, List.length_append, List.length_cons]
      omega

/-- A budget as long as what is between brackets and the closing one suffices for all items. -/
theorem AreListed.length_lt
    {written : List Char}
    {items : List (List Char)}
    (areListed : AreListed written items)
    (closing : UInt8)
    (rest : Octets) :
    items.length < (0 :: (octets written ++ closing :: rest)).length := by
  cases areListed with
  | nil => simp
  | cons _ others =>
      have enough := others.length_le
      simp only [octets_append, List.length_append, List.length_cons]
      omega

/-! ## Elements -/

/-- Where no element is left, the list ends. -/
theorem nextElement_nil
    {first : Bool}
    {written : List Char}
    (areLeft : AreLeft first written [])
    (rest : Octets) :
    nextElement first (octets written ++ 0x5D :: rest) = .ok (false, 0x5D :: rest) := by
  rw [nextElement, skipBlanks_octets areLeft.blank]
  rfl

/-- The reader moves to the next element, behind which the others are left. -/
theorem nextElement_cons
    {first : Bool}
    {written item : List Char}
    {items : List (List Char)}
    (areLeft : AreLeft first written (item :: items))
    (begins : Begins item) :
    ∃ behind,
      AreBehind behind items ∧
        ∀ rest,
          nextElement first (octets written ++ 0x5D :: rest) =
            .ok (true, octets item ++ (octets behind ++ 0x5D :: rest)) := by
  have ⟨octet, more, encoded, _, notEnd, _⟩ := begins
  cases first with
  | true =>
      obtain ⟨behind, others, skipped⟩ := AreListed.exists_first areLeft begins
      refine ⟨behind, others, fun rest => ?_⟩
      rw [nextElement, skipped, encoded, List.cons_append]
      split
      next same => cases same
      next same => exact absurd (List.cons.inj same).1 notEnd
      next same =>
        obtain ⟨rfl, rfl⟩ := List.cons.inj same
        rfl
  | false =>
      obtain ⟨listed, areListed, comma⟩ := AreBehind.exists_comma areLeft
      obtain ⟨behind, others, skipped⟩ := areListed.exists_first begins
      refine ⟨behind, others, fun rest => ?_⟩
      rw [nextElement, comma]
      split
      next same => cases same
      next same => exact absurd (List.cons.inj same).1 (by decide)
      next same =>
        obtain ⟨rfl, rfl⟩ := List.cons.inj same
        simp only [Bool.false_eq_true, if_false, if_true]
        rw [skipped, encoded, List.cons_append]
        split
        next same => cases same
        next same => exact absurd (List.cons.inj same).1 notEnd
        next => rfl

/-- The first element that is not read decides about all of them. -/
private theorem map_mapM_cons
    (read : Reader α)
    (item : List Char)
    (items : List (List Char))
    (found : List α) :
    ((item :: items).mapM (alone read)).map (found.reverse ++ ·) =
      (alone read item).bind fun value =>
        (items.mapM (alone read)).map ((value :: found).reverse ++ ·) := by
  rw [List.mapM_cons]
  cases alone read item with
  | none => rfl
  | some value => cases items.mapM (alone read) <;> simp

/--
The elements that are left are read one after the other, up to the bracket. Every element takes one
byte of the budget, so the budget outlasts the elements.
-/
private theorem gives_readElements
    {read : Reader α}
    {items : List (List Char)}
    (begins : ∀ item ∈ items, Begins item)
    (settles : ∀ item ∈ items, Settles read item)
    (index : Nat)
    {written : List Char}
    (areLeft : AreLeft (index == 0) written items)
    (found : List α)
    {budget : Octets}
    (enough : items.length < budget.length)
    (rest : Octets) :
    Gives (0x5D :: rest) ((items.mapM (alone read)).map (found.reverse ++ ·))
      (readElements read index found budget (octets written ++ 0x5D :: rest)) := by
  induction items generalizing index written found budget with
  | nil =>
      cases budget with
      | nil => simp at enough
      | cons octet budget =>
          rw [readElements, nextElement_nil areLeft]
          show Except.ok (found.reverse, 0x5D :: rest) = .ok (found.reverse ++ [], 0x5D :: rest)
          rw [List.append_nil]
  | cons item items inductionHypothesis =>
      obtain ⟨isBegun, areBegun⟩ := List.forall_mem_cons.mp begins
      obtain ⟨isSettled, areSettled⟩ := List.forall_mem_cons.mp settles
      cases budget with
      | nil => simp at enough
      | cons octet budget =>
          obtain ⟨behind, others, next⟩ := nextElement_cons areLeft isBegun
          have element := isSettled [] _ .nil (others.ends 0x5D (.inl rfl) rest)
          rw [octets_nil, List.nil_append] at element
          rw [map_mapM_cons, readElements, next]
          simp only [bind, Except.bind]
          cases outcome : alone read item with
          | none =>
              obtain ⟨failure, failed⟩ := outcome ▸ element
              rw [failed]
              exact ⟨_, rfl⟩
          | some value =>
              rw [outcome] at element
              rw [show read _ = .ok (value, _) from element]
              exact inductionHypothesis areBegun areSettled (index + 1) others (value :: found)
                (by simpa using enough)

private theorem skips_readArray
    {read : Reader α}
    (unread : Octets) :
    readArray read (skipBlanks unread) = readArray read unread := by
  simp only [readArray, skipBlanks_skipBlanks]

/-- An array is read as what its elements are read as, unless one of them is not. -/
theorem decides_readArray
    {read : Reader α}
    {written : List Char}
    {items : List (List Char)}
    (isArray : IsArray written items)
    (settles : ∀ item ∈ items, Settles read item) :
    Decides (readArray read) written (items.mapM (alone read)) := by
  have begins := isArray.isJson.begins
  obtain ⟨⟨inside, areListed, rfl⟩, areJson⟩ := isArray
  refine .of_begins skips_readArray begins fun rest _ => ?_
  have elements :=
    gives_readElements (fun item member => (areJson item member).begins) settles 0 areListed []
      (areListed.length_lt 0x5D rest) rest
  rw [List.reverse_nil, show ([] ++ · : List α → List α) = id from rfl, Option.map_id] at elements
  rw [octets_cons, octets_append, List.append_assoc, List.append_assoc]
  exact elements.close fun _ => rfl

/-- Values that are found in all items are found in the list of them. -/
private theorem mapM_eq_some
    {items : List (List Char)}
    {values : List α}
    {read : Reader α}
    (finds : List.Forall₂ (fun item value => alone read item = some value) items values) :
    items.mapM (alone read) = some values := by
  induction finds with
  | nil => rfl
  | cons isFound _ inductionHypothesis =>
      rw [List.mapM_cons, isFound, inductionHypothesis]
      rfl

/-- Whether characters write a list: an array of what writes its elements. -/
def SpellsList
    (Spells : List Char → α → Prop)
    (written : List Char)
    (values : List α) :
    Prop :=
  ∃ items, IsArray written items ∧ List.Forall₂ Spells items values

/-- A list is read as the values that its elements write. -/
theorem SpellsList.decides
    {Spells : List Char → α → Prop}
    {read : Reader α}
    {written : List Char}
    {values : List α}
    (spells : SpellsList Spells written values)
    (decides : ∀ item value, Spells item value → Decides read item (some value)) :
    Decides (readArray read) written (some values) := by
  obtain ⟨items, isArray, areSpelled⟩ := spells
  have finds := areSpelled.imp fun item value spells => (decides item value spells).alone
  rw [← mapM_eq_some finds]
  refine decides_readArray isArray fun item member => ?_
  obtain ⟨value, -, spells⟩ := exists_of_forall₂ areSpelled member
  exact (decides item value spells).settles

/-- A list is read or refused by its elements alone. -/
theorem isDecisive_readArray
    {read : Reader α}
    (isDecisive : IsDecisive read) :
    IsDecisive (readArray read) := by
  intro written isJson
  obtain ⟨octet, others, encoded, shape⟩ := isJson.shape
  by_cases isBracket : octet = 0x5B
  · obtain ⟨items, isArray⟩ := shape.isArray isBracket
    exact (decides_readArray isArray fun item member =>
      isDecisive item (isArray.2 item member)).settles
  · refine .of_fails skips_readArray isJson.begins fun rest _ => ?_
    rw [encoded, List.cons_append, readArray, skipBlanks_cons shape.notBlank]
    split
    next same => exact absurd (List.cons.inj same).1 isBracket
    next => exact mismatch_fails _ _

/-! ## Members -/

/-- Where no member is left, the object ends. -/
private theorem nextKey_nil
    {first : Bool}
    {written : List Char}
    (areLeft : AreLeft first written [])
    (rest : Octets) :
    nextKey first (octets written ++ 0x7D :: rest) = .ok (none, 0x7D :: rest) := by
  unfold nextKey
  dsimp only
  rw [skipBlanks_octets areLeft.blank]
  rfl

/-- The bytes of a member behind its name: a colon between blanks, the value, and a rest. -/
def Member.behindName
    (member : Member)
    (before after : List Char)
    (rest : Octets) :
    Octets :=
  octets before ++ 0x3A :: (octets after ++ (octets member.value ++ rest))

/-- The name of a member is scanned as a string. -/
private theorem SpellsMember.scanText
    {written : List Char}
    {member : Member}
    (spells : SpellsMember written member) :
    ∃ before after,
      AreBlank before ∧ AreBlank after ∧
        ∀ rest, ∃ inside,
          octets written ++ rest = 0x22 :: inside ∧
            Json.scanText inside = .ok (member.name, member.behindName before after rest) := by
  obtain ⟨name, before, after, isName, blankBefore, blankAfter, rfl⟩ := spells
  refine ⟨before, after, blankBefore, blankAfter, fun rest => ?_⟩
  obtain ⟨inside, encoded, scanned⟩ := isName.scanText (member.behindName before after rest)
  refine ⟨inside, ?_, scanned⟩
  rw [← encoded, Member.behindName]
  simp only [octets_append, octets_cons, List.append_assoc]
  rfl

/-- The reader moves behind the name of the next member, with the others left. -/
private theorem nextKey_cons
    {first : Bool}
    {written item : List Char}
    {items : List (List Char)}
    {member : Member}
    (areLeft : AreLeft first written (item :: items))
    (spells : SpellsMember item member) :
    ∃ before after behind,
      AreBlank before ∧ AreBlank after ∧ AreBehind behind items ∧
        ∀ rest,
          nextKey first (octets written ++ 0x7D :: rest) =
            .ok (some member.name,
              member.behindName before after (octets behind ++ 0x7D :: rest)) := by
  obtain ⟨before, after, blankBefore, blankAfter, scanned⟩ := spells.scanText
  cases first with
  | true =>
      obtain ⟨behind, others, skipped⟩ := AreListed.exists_first areLeft spells.begins
      refine ⟨before, after, behind, blankBefore, blankAfter, others, fun rest => ?_⟩
      obtain ⟨inside, encoded, scanned⟩ := scanned (octets behind ++ 0x7D :: rest)
      unfold nextKey
      dsimp only
      rw [skipped, encoded]
      show Except.mapError _ (scanText inside >>= fun found => .ok (some found.1, found.2)) = _
      rw [scanned]
      rfl
  | false =>
      obtain ⟨listed, areListed, comma⟩ := AreBehind.exists_comma areLeft
      obtain ⟨behind, others, skipped⟩ := areListed.exists_first spells.begins
      refine ⟨before, after, behind, blankBefore, blankAfter, others, fun rest => ?_⟩
      obtain ⟨inside, encoded, scanned⟩ := scanned (octets behind ++ 0x7D :: rest)
      unfold nextKey
      dsimp only
      rw [comma]
      split
      next same => cases same
      next same => exact absurd (List.cons.inj same).1 (by decide)
      next same =>
        obtain ⟨rfl, rfl⟩ := List.cons.inj same
        simp only [Bool.false_eq_true, if_false, if_true]
        rw [skipped, encoded]
        show Except.mapError _ (scanText inside >>= fun found => .ok (some found.1, found.2)) = _
        rw [scanned]
        rfl

/-- Whether a step takes a member as an outcome for each state says. -/
def TakesTurn
    (step : String → σ → Reader σ)
    (turn : σ → Member → Option σ)
    (member : Member) :
    Prop :=
  ∀ before after rest state, AreBlank before → AreBlank after → Ends rest →
    Gives rest (turn state member)
      (step member.name state (member.behindName before after rest))

/-- The members that are left are read one after the other, up to the bracket. -/
private theorem gives_readMembers
    {step : String → σ → Reader σ}
    {turn : σ → Member → Option σ}
    {items : List (List Char)}
    {members : List Member}
    (spells : List.Forall₂ SpellsMember items members)
    (takes : ∀ member ∈ members, TakesTurn step turn member)
    (first : Bool)
    {written : List Char}
    (areLeft : AreLeft first written items)
    (state : σ)
    {budget : Octets}
    (enough : items.length < budget.length)
    (rest : Octets) :
    Gives (0x7D :: rest) (members.foldlM turn state)
      (readMembers step first state budget (octets written ++ 0x7D :: rest)) := by
  induction spells generalizing first written state budget with
  | nil =>
      cases budget with
      | nil => simp at enough
      | cons octet budget =>
          rw [readMembers, nextKey_nil areLeft]
          rfl
  | @cons item member items members isSpelled _ inductionHypothesis =>
      obtain ⟨isTaken, areTaken⟩ := List.forall_mem_cons.mp takes
      cases budget with
      | nil => simp at enough
      | cons octet budget =>
          obtain ⟨before, after, behind, blankBefore, blankAfter, others, next⟩ :=
            nextKey_cons areLeft isSpelled
          rw [readMembers, next, List.foldlM_cons]
          refine (isTaken before after _ state blankBefore blankAfter
            (others.ends 0x7D (.inr rfl) rest)).bind fun state => ?_
          exact inductionHypothesis areTaken false others state (by simpa using enough)

/-- The members of an object are read one after the other, between its brackets. -/
theorem IsObject.gives_readMembers
    {step : String → σ → Reader σ}
    {turn : σ → Member → Option σ}
    {written : List Char}
    {members : List Member}
    (isObject : IsObject written members)
    (takes : ∀ member ∈ members, TakesTurn step turn member)
    (state : σ)
    (rest : Octets) :
    ∃ inside,
      octets written ++ rest = 0x7B :: inside ∧
        Gives (0x7D :: rest) (members.foldlM turn state)
          (readMembers step true state (0 :: inside) inside) := by
  obtain ⟨⟨items, ⟨inside, areListed, rfl⟩, spells⟩, -⟩ := isObject
  refine ⟨octets inside ++ 0x7D :: rest, ?_,
    Json.gives_readMembers spells takes true areListed state (areListed.length_lt 0x7D rest) rest⟩
  rw [octets_cons, octets_append, List.append_assoc, List.append_assoc]
  rfl

/-- The value of a member is read behind its colon. -/
theorem Decides.readMember
    {read : Reader α}
    {member : Member}
    {outcome : Option α}
    (decides : Decides read member.value outcome)
    {before after : List Char}
    {rest : Octets}
    (blankBefore : AreBlank before)
    (blankAfter : AreBlank after)
    (ends : Ends rest) :
    Gives rest outcome
      (Json.readMember member.name read (member.behindName before after rest)) := by
  have colon :
      expectColon (member.behindName before after rest) =
        .ok (octets after ++ (octets member.value ++ rest)) := by
    rw [Member.behindName, expectColon, skipBlanks_octets blankBefore]
    rfl
  rw [Json.readMember, colon]
  exact (decides after rest blankAfter ends).mapError _

/-! ## Dictionaries -/

/-- What becomes of a dictionary with a member: its value has to be a string. -/
private def insertText
    (found : OrderedMap String String)
    (member : Member) :
    Option (OrderedMap String String) :=
  (alone readText member.value).map (found.insert member.name)

/-- A member with a string is put into the map; any other one is refused. -/
private theorem takesTurn_insertText
    {member : Member}
    (isJson : IsJson member.value) :
    TakesTurn
      (fun name found unread => do
        let (value, unread) ← readMember name readText unread
        return (found.insert name value, unread))
      insertText member := by
  intro before after rest found blankBefore blankAfter ends
  exact ((isDecisive_readText member.value isJson).readMember blankBefore blankAfter ends).andThen
    fun _ => rfl

private theorem skips_readDictionary (unread : Octets) :
    readDictionary (skipBlanks unread) = readDictionary unread := by
  simp only [readDictionary, skipBlanks_skipBlanks]

/-- A dictionary is read from any object, unless a value is no string. -/
private theorem decides_readDictionary
    {written : List Char}
    {members : List Member}
    (isObject : IsObject written members) :
    Decides readDictionary written (members.foldlM insertText .empty) := by
  refine .of_begins skips_readDictionary isObject.isJson.begins fun rest _ => ?_
  obtain ⟨inside, encoded, gives⟩ :=
    isObject.gives_readMembers
      (fun member isMember => takesTurn_insertText (isObject.2 member isMember)) .empty rest
  rw [encoded]
  exact gives.close fun _ => rfl

/-- A map is read or refused by its members alone. -/
theorem isDecisive_readDictionary : IsDecisive readDictionary := by
  intro written isJson
  obtain ⟨octet, others, encoded, shape⟩ := isJson.shape
  by_cases isBracket : octet = 0x7B
  · obtain ⟨members, isObject⟩ := shape.isObject isBracket
    exact (decides_readDictionary isObject).settles
  · refine .of_fails skips_readDictionary isJson.begins fun rest _ => ?_
    rw [encoded, List.cons_append, readDictionary, skipBlanks_cons shape.notBlank]
    split
    next same => exact absurd (List.cons.inj same).1 isBracket
    next => exact mismatch_fails _ _

/--
Whether characters write a dictionary: an object of strings. Of several members with one name
the last one counts.
-/
def SpellsDictionary
    (written : List Char)
    (map : OrderedMap String String) :
    Prop :=
  ∃ members entries,
    IsObject written members ∧
      List.Forall₂
        (fun member entry => member.name = entry.1 ∧ SpellsText member.value entry.2)
        members entries ∧
      map = .ofList entries

/-- Members that are all strings are put into the map in their order. -/
private theorem foldlM_insertText
    {members : List Member}
    {entries : List (String × String)}
    (areEntries :
      List.Forall₂
        (fun member entry => member.name = entry.1 ∧ SpellsText member.value entry.2)
        members entries)
    (found : OrderedMap String String) :
    members.foldlM insertText found =
      some (entries.foldl (fun map entry => map.insert entry.1 entry.2) found) := by
  induction areEntries generalizing found with
  | nil => rfl
  | cons isEntry _ inductionHypothesis =>
      obtain ⟨sameName, spells⟩ := isEntry
      rw [List.foldlM_cons, insertText, spells.decides.alone, sameName]
      exact inductionHypothesis _

/-- A dictionary is read as what is written. -/
theorem SpellsDictionary.decides
    {written : List Char}
    {map : OrderedMap String String}
    (spells : SpellsDictionary written map) :
    Decides readDictionary written (some map) := by
  obtain ⟨members, entries, isObject, areEntries, rfl⟩ := spells
  have decides := decides_readDictionary isObject
  rw [foldlM_insertText areEntries] at decides
  exact decides

end SecretsAdmin.Json
