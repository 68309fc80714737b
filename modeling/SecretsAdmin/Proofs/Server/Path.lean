import SecretsAdmin.Model.Identifier
import SecretsAdmin.Proofs.Json.Number
import SecretsAdmin.Proofs.Url.Target
import SecretsAdmin.Server.Route

namespace SecretsAdmin.Server

/-!
# Paths of resources

The segments that a client puts into an address are the ones by which the server finds the
resource, and the digits of an identifier are read as that identifier.
-/

/-! ## Routes -/

/-- A path below the common first segment leads to the resource of the other segments. -/
theorem Route.ofPath?_segmentsText
    {segments : List String}
    (noSlash : ∀ segment ∈ segments, '/' ∉ segment.toList)
    (notLogin : segments ≠ ["login"]) :
    Route.ofPath? (Url.segmentsText ("admin" :: segments)) =
      (Resource.ofSegments? segments).map .administration := by
  have parts :
      ((Url.segmentsText ("admin" :: segments)).toList.splitOn '/').map String.ofList =
        "" :: "admin" :: segments := by
    rw [Url.splitOn_segmentsText]
    · simp
    · exact List.forall_mem_cons.mpr ⟨by decide, noSlash⟩
  unfold Route.ofPath?
  rw [parts]
  split
  next isLogin => exact absurd (by simpa using isLogin) notLogin
  next others _ isSame =>
    cases isSame
    rfl
  next isOther => exact absurd rfl (isOther segments)

/-! ## Identifiers -/

section Identifier

variable {kind : Model.Kind}

private theorem isDigit_of_mem_toDigits
    {number : Nat}
    {digit : Char}
    (member : digit ∈ Nat.toDigits 10 number) :
    digit.isDigit = true :=
  Nat.isDigit_of_mem_toDigits (by decide) (by decide) member

/-- An identifier is written in digits, maybe after a minus sign. -/
private theorem sign_or_digit
    {id : Model.Identifier kind}
    {character : Char}
    (member : character ∈ id.text.toList) :
    character = '-' ∨ character.isDigit = true := by
  rw [Model.Identifier.text, Json.toString_int] at member
  split at member
  next => exact .inr (isDigit_of_mem_toDigits member)
  next =>
    rcases List.mem_cons.mp member with isSign | inDigits
    · exact .inl isSign
    · exact .inr (isDigit_of_mem_toDigits inDigits)

theorem plain_text (id : Model.Identifier kind) :
    Url.IsPlain id.text := by
  intro character member
  rcases sign_or_digit member with rfl | isDigit
  · decide
  · have areDigits :
        ∀ number < 0x3A, 0x30 ≤ number → Char.ofNat number ∈ Url.plainCharacters := by
      decide
    simp only [Char.isDigit, Bool.and_eq_true, decide_eq_true_eq] at isDigit
    have least : 0x30 ≤ character.toNat := UInt32.le_iff_toNat_le.mp isDigit.1
    have greatest : character.toNat ≤ 0x39 := UInt32.le_iff_toNat_le.mp isDigit.2
    have isPlain := areDigits character.toNat (by omega) least
    rwa [Char.ofNat_toNat] at isPlain

/-- An identifier behind a plain word makes a plain path. -/
theorem plain_withId
    {word : String}
    (plain : Url.IsPlain word)
    (id : Model.Identifier kind) :
    ∀ segment ∈ [word, id.text], Url.IsPlain segment :=
  List.forall_mem_cons.mpr ⟨plain, List.forall_mem_singleton.mpr (plain_text id)⟩

/-- The path of a membership is plain. -/
theorem plain_membership
    {other : Model.Kind}
    {word : String}
    (plain : Url.IsPlain word)
    (member : Model.Identifier kind)
    (group : Model.Identifier other) :
    ∀ segment ∈ ["memberships", word, member.text, "groups", group.text],
      Url.IsPlain segment := by
  simp only [List.forall_mem_cons]
  exact ⟨by decide, plain, plain_text member, by decide, plain_text group, nofun⟩

theorem text_ne_empty (id : Model.Identifier kind) :
    id.text ≠ "" := by
  rw [Model.Identifier.text, ← String.toList_inj.ne, Json.toString_int]
  split
  next => exact Nat.toDigits_ne_nil
  next => exact List.cons_ne_nil _ _

/-- No identifier is taken for the word by which versions are asked for. -/
theorem text_ne_versions (id : Model.Identifier kind) :
    id.text ≠ "versions" := by
  intro same
  have member : 'v' ∈ id.text.toList := by
    rw [same]
    decide
  rcases sign_or_digit member with isSign | isDigit
  · exact absurd isSign (by decide)
  · exact absurd isDigit (by decide)

private theorem foldl_digits
    (digits : List Char)
    (number : Nat) :
    digits.foldl (fun (number : Int) digit => number * 10 + (digit.toNat - 0x30 : Nat)) number =
      Nat.ofDigitChars 10 digits number := by
  induction digits generalizing number with
  | nil => rfl
  | cons first rest inductionHypothesis =>
      rw [List.foldl_cons, Nat.ofDigitChars_cons, ← inductionHypothesis]
      congr 1
      have zero : '0'.toNat = 0x30 := rfl
      rw [zero]
      omega

/-- The text of an identifier stands for the identifier. -/
theorem id?_text (id : Model.Identifier kind) :
    id? id.text = some id.number := by
  have least := id.number.le_toInt
  have less := id.number.toInt_lt
  have inRange : Json.isInt64 id.number.toInt = true := by
    simp only [Json.isInt64, Bool.and_eq_true, decide_eq_true_eq]
    omega
  have areDigits (number : Nat) :
      ¬((Nat.toDigits 10 number).isEmpty = true ∨
        (!(Nat.toDigits 10 number).all Char.isDigit) = true) := by
    have isAll : (Nat.toDigits 10 number).all Char.isDigit = true :=
      List.all_eq_true.mpr fun _ member => isDigit_of_mem_toDigits member
    simp [isAll, Nat.toDigits_ne_nil]
  have unsigned (number : Nat) (mark : Char) (others : List Char) (isSign : mark.isDigit = false) :
      Nat.toDigits 10 number ≠ mark :: others := by
    intro same
    have isDigit := isDigit_of_mem_toDigits (same ▸ List.mem_cons_self)
    simp_all
  unfold id?
  split
  next negative digits isCut =>
    have cut :
        ∃ number : Nat,
          digits = Nat.toDigits 10 number ∧
            (if negative = true then -(number : Int) else number) = id.number.toInt := by
      rw [Model.Identifier.text, Json.toString_int] at isCut
      by_cases isNatural : 0 ≤ id.number.toInt
      · rw [if_pos isNatural] at isCut
        split at isCut
        next others isSame => exact absurd isSame (unsigned _ _ _ (by decide))
        next others isSame => exact absurd isSame (unsigned _ _ _ (by decide))
        next =>
          cases isCut
          exact ⟨id.number.toInt.toNat, rfl, Int.toNat_of_nonneg isNatural⟩
      · rw [if_neg isNatural] at isCut
        cases isCut
        exact ⟨(-id.number.toInt).toNat, rfl, by simp; omega⟩
    obtain ⟨number, rfl, isValue⟩ := cut
    have magnitude := foldl_digits (Nat.toDigits 10 number) 0
    rw [Nat.ofDigitChars_ten_toDigits, Int.natCast_zero] at magnitude
    rw [if_neg (areDigits number)]
    dsimp only
    rw [magnitude, isValue, if_pos inRange, Int64.ofInt_toInt]

/-- The text of an identifier arrives in a path as it is. -/
theorem text_parameter
    (id : Model.Identifier kind)
    (name : String) :
    Parameter.text ⟨name, id.text⟩ = .ok id.text := by
  rw [Parameter.text, (plain_text id).percentDecode_eq, Utf8.decode?_encode]

theorem readId_text
    (id : Model.Identifier kind)
    (name : String) :
    readId ⟨name, id.text⟩ = .ok id.number := by
  simp only [readId, text_parameter, bind, Except.bind, id?_text]

/-- Two identifiers in a path are read in their order. -/
theorem readIds_text
    {other : Model.Kind}
    (first : Model.Identifier kind)
    (second : Model.Identifier other)
    (firstName secondName : String) :
    readIds ⟨firstName, first.text⟩ ⟨secondName, second.text⟩ =
      .ok (first.number, second.number) := by
  simp only [readIds, text_parameter, bind, Except.bind, id?_text]

/-- A command about the identifier in a path is about that identifier. -/
theorem CommandReader.ofId_text
    (make : Int64 → Command)
    (id : Model.Identifier kind)
    (name : String)
    (request : Request) :
    CommandReader.ofId make ⟨name, id.text⟩ request = .ok (make id.number) := by
  rw [ofId, readId_text]
  rfl

/-- A command about two identifiers in a path is about both in their order. -/
theorem CommandReader.ofLink_text
    {other : Model.Kind}
    (make : Link → Command)
    (member : Model.Identifier kind)
    (group : Model.Identifier other)
    (memberName groupName : String)
    (request : Request) :
    CommandReader.ofLink make ⟨memberName, member.text⟩ ⟨groupName, group.text⟩ request =
      .ok (make ⟨member.number, group.number⟩) := by
  rw [ofLink, readIds_text]
  rfl

end Identifier

end SecretsAdmin.Server
