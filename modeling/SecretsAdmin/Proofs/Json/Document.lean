import Mathlib.Data.List.Forall2
import SecretsAdmin.OrderedMap.Lemmas
import SecretsAdmin.Proofs.Json.Number
import SecretsAdmin.Proofs.Json.Text

namespace SecretsAdmin.Json

/-!
# Reading printed documents

What a reader finds where a document is printed, whatever comes after the document. Elements and
members carry this from the inside of arrays and objects to the outside.
-/

variable {α σ : Type}

/-- Whether a reader finds a value where a document is printed. -/
structure Reads
    (read : Reader α)
    (document : Json)
    (value : α) :
    Prop where
  /-- The text begins with a byte that is neither blank nor the end of an array. -/
  begins :
    ∃ octet others,
      Utf8.encode document.print = octet :: others ∧
        isBlankOctet octet = false ∧
        octet ≠ 0x5D
  reads :
    ∀ {rest},
      Follows rest → read (Utf8.encode document.print ++ rest) = .ok (value, rest)

/-- A document that is all of a text is read from the text. -/
theorem Reads.parse
    {read : Reader α}
    {document : Json}
    {value : α}
    (reads : Reads read document value) :
    Json.parse read (Utf8.encode document.print) = .ok value := by
  have whole : read (Utf8.encode document.print ++ []) = .ok (value, []) := reads.reads nofun
  rw [List.append_nil] at whole
  rw [Json.parse, whole]
  rfl

/-! ## Simple values -/

/-- A string is read up to its closing quote, whatever stands behind it. -/
theorem reads_text (text : String) :
    Reads readText (.text text) text where
  begins := by
    obtain ⟨printed, same, -⟩ := scanText_printText text []
    rw [List.append_nil] at same
    exact ⟨0x22, printed, same, rfl, by decide⟩
  reads {rest} _ := by
    obtain ⟨printed, same, scanned⟩ := scanText_printText text rest
    rw [print, same]
    exact scanned

/-- A truth value is read from its word. -/
theorem reads_boolean (value : Bool) :
    Reads readBoolean (.boolean value) value := by
  cases value with
  | true => exact ⟨⟨_, _, rfl, rfl, by decide⟩, fun _ => rfl⟩
  | false => exact ⟨⟨_, _, rfl, rfl, by decide⟩, fun _ => rfl⟩

/-- A number of 64 bits is read from its digits, with its sign. -/
theorem reads_integer (number : Int64) :
    Reads readInteger (.integer number.toInt) number where
  begins := encode_integer number.toInt
  reads := readInteger_print number

/-- A string is no `null`, so a reader of it also finds it where `null` is allowed. -/
theorem reads_optionalText (text : String) :
    Reads (readOptional readText) (.text text) (some text) where
  begins := (reads_text text).begins
  reads {rest} follows := by
    have reads := (reads_text text).reads follows
    obtain ⟨printed, same, -⟩ := scanText_printText text rest
    rw [print, same] at reads ⊢
    show (readText (0x22 :: printed) >>= fun found => .ok (some found.1, found.2)) = _
    rw [reads]
    rfl

private theorem encode_comma : Utf8.encode "," = [0x2C] := rfl

private theorem encode_colon : Utf8.encode ":" = [0x3A] := rfl

/-! ## Arrays -/

/-- The text of elements behind the first: each with a comma before it. -/
def moreElements (documents : List Json) : Octets :=
  documents.flatMap fun document => 0x2C :: Utf8.encode document.print

/-- Elements are printed one after the other, the first one without a comma before it. -/
theorem encode_printElements
    (first : Json)
    (others : List Json) :
    Utf8.encode (printElements (first :: others)) =
      Utf8.encode first.print ++ moreElements others := by
  induction others generalizing first with
  | nil => simp [printElements, moreElements]
  | cons second others inductionHypothesis =>
      rw [printElements, Utf8.encode_append, Utf8.encode_append, inductionHypothesis]
      · simp [moreElements, encode_comma]
      · simp

/-- The first element is found where the list begins. -/
private theorem nextElement_first
    {read : Reader α}
    {document : Json}
    {value : α}
    (reads : Reads read document value)
    (rest : Octets) :
    nextElement true (Utf8.encode document.print ++ rest) =
      .ok (true, Utf8.encode document.print ++ rest) := by
  obtain ⟨octet, others, encoded, notBlank, notEnd⟩ := reads.begins
  rw [encoded, List.cons_append, nextElement, skipBlanks_cons notBlank]
  split
  next isEmpty => cases isEmpty
  next isEnd => exact absurd (List.cons.inj isEnd).1 notEnd
  next isSame =>
    obtain ⟨rfl, rfl⟩ := List.cons.inj isSame
    rfl

/-- Any other element is found behind its comma. -/
private theorem nextElement_more
    {read : Reader α}
    {document : Json}
    {value : α}
    (reads : Reads read document value)
    (rest : Octets) :
    nextElement false (0x2C :: (Utf8.encode document.print ++ rest)) =
      .ok (true, Utf8.encode document.print ++ rest) := by
  obtain ⟨octet, others, encoded, notBlank, notEnd⟩ := reads.begins
  have skipped := skipBlanks_cons notBlank (others ++ rest)
  rw [encoded, List.cons_append]
  rw [nextElement, skipBlanks_cons (by decide)]
  split
  next isEmpty => cases isEmpty
  next isEnd => exact absurd (List.cons.inj isEnd).1 (by decide)
  next isComma =>
    obtain ⟨rfl, rfl⟩ := List.cons.inj isComma
    simp only [Bool.false_eq_true, if_false, if_true]
    rw [skipped]
    split
    next isEmpty => cases isEmpty
    next isEnd => exact absurd (List.cons.inj isEnd).1 notEnd
    next => rfl

/-- Behind an element stands a comma or the end of the array, so the element is all read. -/
private theorem follows_moreElements
    (documents : List Json)
    (rest : Octets) :
    Follows (moreElements documents ++ 0x5D :: rest) := by
  cases documents with
  | nil => exact fun octet isHead => .inr (.inl (Option.some.inj isHead).symm)
  | cons first others => exact fun octet isHead => .inl (Option.some.inj isHead).symm

/--
The reader of elements goes through elements behind the first, up to the bracket. Every element
takes one byte of the budget, so the budget outlasts the elements.
-/
private theorem readElements_more
    {read : Reader α}
    {documents : List Json}
    {values : List α}
    (reads : List.Forall₂ (Reads read) documents values)
    (index : Nat)
    (found : List α)
    {budget : Octets}
    (enough : documents.length < budget.length)
    (rest : Octets) :
    readElements read (index + 1) found budget (moreElements documents ++ 0x5D :: rest) =
      .ok (found.reverse ++ values, 0x5D :: rest) := by
  induction reads generalizing index found budget with
  | nil =>
      cases budget with
      | nil => simp at enough
      | cons octet budget =>
        simp only [moreElements, List.flatMap_nil, List.nil_append, List.append_nil]
        rfl
  | @cons document value documents values isRead others inductionHypothesis =>
      cases budget with
      | nil => simp at enough
      | cons octet budget =>
        have next := nextElement_more isRead (moreElements documents ++ 0x5D :: rest)
        have element := isRead.reads (follows_moreElements documents rest)
        have split :
            moreElements (document :: documents) ++ 0x5D :: rest =
              0x2C :: (Utf8.encode document.print ++ (moreElements documents ++ 0x5D :: rest)) := by
          simp [moreElements]
        rw [split, readElements, show (index + 1 == 0) = false from rfl, next]
        simp only [bind, Except.bind, element]
        rw [inductionHypothesis (index + 1) (value :: found) (by simpa using enough)]
        simp

/-- Every element but the first takes a byte at least. -/
private theorem length_le_moreElements (documents : List Json) :
    documents.length ≤ (moreElements documents).length := by
  induction documents with
  | nil => exact Nat.le.refl
  | cons first others inductionHypothesis =>
      simp only [moreElements, List.flatMap_cons, List.length_append, List.length_cons] at *
      omega

/-- A list is printed between its brackets. -/
private theorem encode_array (documents : List Json) :
    Utf8.encode (print (.array documents)) =
      0x5B :: (Utf8.encode (printElements documents) ++ [0x5D]) := by
  rw [print, Utf8.encode_append, Utf8.encode_append]
  rfl

/-- An array is read as the values of its elements. -/
theorem reads_array
    {read : Reader α}
    {documents : List Json}
    {values : List α}
    (reads : List.Forall₂ (Reads read) documents values) :
    Reads (readArray read) (.array documents) values where
  begins := ⟨0x5B, _, encode_array documents, rfl, by decide⟩
  reads {rest} _ := by
    have body :
        readArrayBody read
            (Utf8.encode (printElements documents) ++ 0x5D :: rest) = .ok (values, rest) := by
      cases reads with
      | nil => rfl
      | @cons document value documents values isRead others =>
          have next := nextElement_first isRead (moreElements documents ++ 0x5D :: rest)
          have element := isRead.reads (follows_moreElements documents rest)
          have enough := length_le_moreElements documents
          rw [encode_printElements, List.append_assoc, readArrayBody, readElements,
            show (0 == 0) = true from rfl, next]
          simp only [bind, Except.bind, element]
          rw [readElements_more others]
          · rfl
          · simp
            omega
    rw [encode_array, List.cons_append, List.append_assoc]
    exact body

/-! ## Objects -/

/-- The text of a member: its name, a colon and its value. -/
def memberText (member : String × Json) : Octets :=
  Utf8.encode (printText member.1) ++ 0x3A :: Utf8.encode member.2.print

/-- The text of members behind the first: each with a comma before it. -/
def moreMembers (members : List (String × Json)) : Octets :=
  members.flatMap fun member => 0x2C :: memberText member

/-- Members are printed one after the other, the first one without a comma before it. -/
theorem encode_printMembers
    (first : String × Json)
    (others : List (String × Json)) :
    Utf8.encode (printMembers (first :: others)) = memberText first ++ moreMembers others := by
  induction others generalizing first with
  | nil =>
      rw [printMembers, Utf8.encode_append, Utf8.encode_append]
      simp [memberText, moreMembers, encode_colon]
  | cons second others inductionHypothesis =>
      obtain ⟨name, value⟩ := first
      rw [printMembers, Utf8.encode_append, Utf8.encode_append, Utf8.encode_append,
        Utf8.encode_append, inductionHypothesis]
      · simp [memberText, moreMembers, encode_comma, encode_colon]
      · simp

/--
Whether a step takes the members of an object in turn, from one state to another: the value of
each is read where it is printed.
-/
inductive Takes (step : String → σ → Reader σ) : List (String × Json) → σ → σ → Prop where
  | nil
      {state : σ} :
      Takes step [] state state
  | cons
      {name : String}
      {value : Json}
      {members : List (String × Json)}
      {state between after : σ}
      (takes :
        ∀ {rest},
          Follows rest →
            step name state (0x3A :: (Utf8.encode value.print ++ rest)) = .ok (between, rest))
      (others : Takes step members between after) :
      Takes step ((name, value) :: members) state after

/-- Behind the value of a member stands a comma or the end of the object. -/
private theorem follows_moreMembers
    (members : List (String × Json))
    (rest : Octets) :
    Follows (moreMembers members ++ 0x7D :: rest) := by
  cases members with
  | nil => exact fun octet isHead => .inr (.inr (Option.some.inj isHead).symm)
  | cons first others => exact fun octet isHead => .inl (Option.some.inj isHead).symm

/-- The first name is found where the object begins. -/
private theorem nextKey_first
    (name : String)
    (rest : Octets) :
    nextKey true (Utf8.encode (printText name) ++ rest) = .ok (some name, rest) := by
  obtain ⟨printed, same, scanned⟩ := scanText_printText name rest
  rw [same]
  show Except.mapError _ (scanText printed >>= fun found => .ok (some found.1, found.2)) = _
  rw [scanned]
  rfl

/-- Any other name is found behind its comma. -/
private theorem nextKey_more
    (name : String)
    (rest : Octets) :
    nextKey false (0x2C :: (Utf8.encode (printText name) ++ rest)) = .ok (some name, rest) := by
  obtain ⟨printed, same, scanned⟩ := scanText_printText name rest
  rw [same]
  show Except.mapError _ (scanText printed >>= fun found => .ok (some found.1, found.2)) = _
  rw [scanned]
  rfl

/-- The members behind the first are taken one by one, up to the end of the object. -/
private theorem readMembers_more
    {step : String → σ → Reader σ}
    {members : List (String × Json)}
    {state after : σ}
    (takes : Takes step members state after)
    {budget : Octets}
    (enough : members.length < budget.length)
    (rest : Octets) :
    readMembers step false state budget (moreMembers members ++ 0x7D :: rest) =
      .ok (after, 0x7D :: rest) := by
  induction takes generalizing budget with
  | nil =>
      cases budget with
      | nil => simp at enough
      | cons octet budget => rfl
  | @cons name value members state between after taken others inductionHypothesis =>
      cases budget with
      | nil => simp at enough
      | cons octet budget =>
        have split :
            moreMembers ((name, value) :: members) ++ 0x7D :: rest =
              0x2C :: (Utf8.encode (printText name) ++
                (0x3A :: (Utf8.encode value.print ++ (moreMembers members ++ 0x7D :: rest)))) := by
          simp [moreMembers, memberText]
        rw [split, readMembers, nextKey_more]
        simp only [bind, Except.bind, taken (follows_moreMembers members rest)]
        exact inductionHypothesis (by simpa using enough)

/-- Every member takes a byte at least, so the text is a budget for them. -/
private theorem length_le_moreMembers (members : List (String × Json)) :
    members.length ≤ (moreMembers members).length := by
  induction members with
  | nil => exact Nat.le.refl
  | cons first others inductionHypothesis =>
      simp only [moreMembers, List.flatMap_cons, List.length_append, List.length_cons] at *
      omega

/-- The reader of members goes through all members of an object, up to the bracket. -/
theorem readMembers_printMembers
    {step : String → σ → Reader σ}
    {members : List (String × Json)}
    {state after : σ}
    (takes : Takes step members state after)
    (rest : Octets) :
    readMembers step true state
        (0 :: (Utf8.encode (printMembers members) ++ 0x7D :: rest))
        (Utf8.encode (printMembers members) ++ 0x7D :: rest) =
      .ok (after, 0x7D :: rest) := by
  cases takes with
  | nil => rfl
  | @cons name value members state between after taken others =>
      have enough := length_le_moreMembers members
      have split :
          Utf8.encode (printMembers ((name, value) :: members)) ++ 0x7D :: rest =
            Utf8.encode (printText name) ++
              (0x3A :: (Utf8.encode value.print ++ (moreMembers members ++ 0x7D :: rest))) := by
        rw [encode_printMembers]
        simp [memberText]
      rw [split, readMembers, nextKey_first]
      simp only [bind, Except.bind, taken (follows_moreMembers members rest)]
      refine readMembers_more others ?_ rest
      simp
      omega

/-- An object is printed between its brackets. -/
theorem encode_object (members : List (String × Json)) :
    Utf8.encode (print (.object members)) =
      0x7B :: (Utf8.encode (printMembers members) ++ [0x7D]) := by
  rw [print, Utf8.encode_append, Utf8.encode_append]
  rfl

/-- A member whose value is read is read from the colon on. -/
theorem readMember_print
    {read : Reader α}
    {document : Json}
    {value : α}
    (reads : Reads read document value)
    (name : String)
    {rest : Octets}
    (follows : Follows rest) :
    readMember name read (0x3A :: (Utf8.encode document.print ++ rest)) = .ok (value, rest) := by
  show Except.mapError _ (read (Utf8.encode document.print ++ rest)) = _
  rw [reads.reads follows]
  rfl

/-- The entries of a dictionary come in one after the other. -/
private theorem takes_entries
    (entries : List (String × String))
    (found : OrderedMap String String) :
    Takes
      (fun name found unread => do
        let (value, unread) ← readMember name readText unread
        return (found.insert name value, unread))
      (entries.map fun entry => (entry.1, .text entry.2))
      found
      (entries.foldl (fun map entry => map.insert entry.1 entry.2) found) := by
  induction entries generalizing found with
  | nil => exact .nil
  | cons first others inductionHypothesis =>
      refine .cons (fun follows => ?_) (inductionHypothesis (found.insert first.1 first.2))
      rw [readMember_print (reads_text first.2) first.1 follows]
      rfl

/-- A dictionary is read from what is written for it. -/
theorem reads_dictionary (map : OrderedMap String String) :
    Reads readDictionary (Codec.dictionary.write map) map where
  begins := ⟨0x7B, _, encode_object _, rfl, by decide⟩
  reads {rest} _ := by
    have entries := readMembers_printMembers (takes_entries map.entries .empty) rest
    have whole : map.entries.foldl (fun map entry => map.insert entry.1 entry.2) .empty = map :=
      map.ofList_entries
    rw [whole] at entries
    rw [Codec.dictionary, encode_object, List.cons_append, List.append_assoc]
    exact congrArg
      (fun result => result >>= fun found => do return (found.1, ← closeObject found.2))
      entries

end SecretsAdmin.Json
