import SecretsAdmin.Url.Parse

namespace SecretsAdmin.Url

/-!
# Authorities end where their text ends

What is read as an authority has a text without the characters that end an authority: the slash
before the path, the question mark before the query and the number sign before the fragment.
-/

/-- Whether no character ends an authority. -/
def Undivided (characters : List Char) : Prop :=
  ∀ character ∈ characters, character ≠ '/' ∧ character ≠ '?' ∧ character ≠ '#'

instance (characters : List Char) : Decidable (Undivided characters) :=
  decidable_of_iff
    (characters.all (fun character => !(['/', '?', '#'].contains character)) = true)
    (by simp [Undivided])

namespace Undivided

/-- Texts that hold no divider hold none when they are put together. -/
theorem append
    {left right : List Char}
    (isLeft : Undivided left)
    (isRight : Undivided right) :
    Undivided (left ++ right) :=
  List.forall_mem_append.mpr ⟨isLeft, isRight⟩

/-- Parts that hold no divider can be put together with a separator that is none. -/
theorem intercalate
    {separator : List Char}
    {parts : List (List Char)}
    (isSeparator : Undivided separator)
    (areParts : ∀ part ∈ parts, Undivided part) :
    Undivided (separator.intercalate parts) := by
  induction parts with
  | nil => nofun
  | cons first rest inductionHypothesis =>
      have isFirst := areParts first List.mem_cons_self
      have isRest :=
        inductionHypothesis fun part member => areParts part (List.mem_cons_of_mem _ member)
      cases rest with
      | nil => simpa using isFirst
      | cons second rest =>
          rw [List.intercalate_cons_cons]
          exact (isFirst.append isSeparator).append isRest

/-- The same holds of strings. -/
theorem intercalate_text
    {separator : String}
    {parts : List String}
    (isSeparator : Undivided separator.toList)
    (areParts : ∀ part ∈ parts, Undivided part.toList) :
    Undivided (separator.intercalate parts).toList := by
  rw [String.toList_intercalate]
  refine intercalate isSeparator fun part member => ?_
  obtain ⟨text, isPart, rfl⟩ := List.mem_map.mp member
  exact areParts text isPart

end Undivided

/-! ## Numbers -/

/-- The digits of a number in a base up to sixteen hold no divider. -/
theorem undivided_toDigits
    {base : Nat}
    (isBase : 1 < base)
    (small : base ≤ 16)
    (number : Nat) :
    Undivided (Nat.toDigits base number) := by
  have isDigit : ∀ digit < 16, Undivided [Nat.digitChar digit] := by
    simp only [Undivided, List.mem_singleton, forall_eq]
    decide
  induction number using Nat.strongRecOn with
  | ind number inductionHypothesis =>
      by_cases isLess : number < base
      · rw [Nat.toDigits_of_lt_base isLess]
        exact isDigit number (by omega)
      · rw [Nat.toDigits_of_base_le isBase (by omega)]
        have isSmaller : number / base < number := Nat.div_lt_self (by omega) isBase
        have isRemainder : number % base < base := Nat.mod_lt number (by omega)
        exact (inductionHypothesis _ isSmaller).append (isDigit _ (by omega))

/-- The digits of a number are no dividers. -/
theorem undivided_toString (number : Nat) :
    Undivided (toString number).toList := by
  rw [Nat.toString_eq_repr, Nat.toList_repr]
  exact undivided_toDigits (by decide) (by decide) number

/-! ## Percent-encoding -/

/-- A byte that is written with a percent sign is no divider any more. -/
theorem undivided_percentTriple (octet : UInt8) :
    Undivided (percentTriple octet) := by
  have isDigit : ∀ digit < 16, Undivided [Hex.upperDigit digit] := by
    simp only [Undivided, List.mem_singleton, forall_eq]
    decide
  have small := octet.toNat_lt
  have isSign : Undivided ['%'] := by
    simp only [Undivided, List.mem_singleton, forall_eq]
    decide
  exact (isSign.append (isDigit (octet.toNat / 16) (by omega))).append
    (isDigit (octet.toNat % 16) (by omega))

/-- An encoded text holds a divider only where the set lets one of the text through. -/
theorem undivided_percentEncode
    {set : EncodeSet}
    {characters : List Char}
    (shown : ∀ character ∈ characters, set character = false → Undivided [character]) :
    Undivided (percentEncode set characters) := by
  intro other isOther
  obtain ⟨character, member, isPart⟩ := List.mem_flatMap.mp isOther
  unfold percentCharacter at isPart
  split at isPart
  next isShown =>
    simp only [Bool.and_eq_true, Bool.not_eq_true'] at isShown
    exact shown character member isShown.2 other isPart
  next =>
    obtain ⟨octet, -, inTriple⟩ := List.mem_flatMap.mp isPart
    exact undivided_percentTriple octet other inTriple

/-! ## Hosts -/

/-- Characters that pass a test are no dividers, if no divider passes it. -/
private theorem undivided_of_all
    {characters : List Char}
    (passes : Char → Prop)
    (all : ∀ character ∈ characters, passes character)
    (slash : ¬passes '/')
    (question : ¬passes '?')
    (number : ¬passes '#') :
    Undivided characters := by
  intro character member
  have isPassed := all character member
  refine ⟨?_, ?_, ?_⟩ <;> rintro rfl <;> contradiction

/-- The numbers of an address have only points between them. -/
theorem undivided_ipv4 (address : Nat) :
    Undivided (Ipv4.text address).toList := by
  refine Undivided.intercalate_text (by simp [Undivided]) fun part member => ?_
  obtain ⟨weight, -, rfl⟩ := List.mem_map.mp member
  exact undivided_toString _

/-- The groups of an address have only colons between them. -/
theorem undivided_ipv6 (groups : List Nat) :
    Undivided (Ipv6.text groups).toList := by
  have areGroups (groups : List Nat) : Undivided (Ipv6.groupsText groups).toList := by
    refine Undivided.intercalate_text (by simp [Undivided]) fun part member => ?_
    obtain ⟨group, -, rfl⟩ := List.mem_map.mp member
    rw [Hex.plain, String.toList_ofList]
    exact undivided_toDigits (by decide) (by decide) group
  unfold Ipv6.text
  dsimp only
  split
  · rw [String.toList_append, String.toList_append]
    exact ((areGroups _).append (by simp [Undivided])).append (areGroups _)
  · exact areGroups groups

/-- What is read between brackets is an address. -/
private theorem undivided_bracketed
    {written : List Char}
    {host : Host}
    (parsed : Host.parseBracketed written = .ok host) :
    Undivided host.text.toList := by
  unfold Host.parseBracketed at parsed
  split at parsed
  · split at parsed
    next groups _ =>
      cases parsed
      rw [Host.text, String.toList_append, String.toList_append]
      exact ((by simp [Undivided] : Undivided "[".toList).append (undivided_ipv6 groups)).append
        (by simp [Undivided])
    next => cases parsed
  · cases parsed

/-- A name that holds a divider is no name of a domain. -/
private theorem undivided_domainName
    {written name : List Char}
    (isName : Host.domainName? written = some name) :
    Undivided name := by
  unfold Host.domainName? at isName
  obtain ⟨decoded, -, isName⟩ := Option.bind_eq_some_iff.mp isName
  dsimp only at isName
  split at isName
  next => cases isName
  next noneForbidden =>
    split at isName
    next =>
      cases isName
      refine undivided_of_all (fun character => Host.isForbiddenInDomain character = false)
        (fun character member => ?_) (by decide) (by decide) (by decide)
      simp only [List.any_eq_true, not_exists, not_and, Bool.not_eq_true, Bool.or_eq_false_iff]
        at noneForbidden
      exact (noneForbidden character member).1
    next => cases isName

/-- A host under a special scheme holds no divider. -/
theorem undivided_parseSpecial
    {written : List Char}
    {host : Host}
    (parsed : Host.parseSpecial written = .ok host) :
    Undivided host.text.toList := by
  unfold Host.parseSpecial at parsed
  split at parsed
  next => exact undivided_bracketed parsed
  next =>
    split at parsed
    next => cases parsed
    next => cases parsed
    next name _ isName =>
      split at parsed
      · split at parsed
        next address _ =>
          cases parsed
          exact undivided_ipv4 address
        next => cases parsed
      · cases parsed
        rw [Host.text, String.toList_ofList]
        exact undivided_domainName isName

/-- A host under another scheme holds no divider. -/
theorem undivided_parsePlain
    {written : List Char}
    {host : Host}
    (parsed : Host.parsePlain written = .ok host) :
    Undivided host.text.toList := by
  unfold Host.parsePlain at parsed
  split at parsed
  next => exact undivided_bracketed parsed
  next =>
    split at parsed
    next => cases parsed
    next noneForbidden =>
      cases parsed
      rw [Host.text, String.toList_ofList]
      refine undivided_percentEncode fun character member _ => ?_
      refine undivided_of_all (fun character => Host.isForbidden character = false)
        (fun other isSame => ?_) (by decide) (by decide) (by decide)
      simp only [List.any_eq_true, not_exists, not_and, Bool.not_eq_true] at noneForbidden
      exact List.mem_singleton.mp isSame ▸ noneForbidden character member

/-! ## Authorities -/

/-- An authority holds no divider if none of its parts holds one. -/
private theorem undivided_authority
    {authority : Authority}
    (username : Undivided authority.username.toList)
    (password : ∀ password ∈ authority.password, Undivided password.toList)
    (host : Undivided authority.host.text.toList) :
    Undivided authority.text.toList := by
  have isColon : Undivided ":".toList := by simp [Undivided]
  have credentials :
      Undivided (authority.username ++
        (authority.password.map (":" ++ ·)).getD "").toList := by
    rw [String.toList_append]
    refine username.append ?_
    cases isPassword : authority.password with
    | none => nofun
    | some given =>
        rw [Option.map_some, Option.getD_some, String.toList_append]
        exact isColon.append (password given isPassword)
  have port :
      Undivided ((authority.port.map fun port => ":" ++ toString port).getD "").toList := by
    cases authority.port with
    | none => nofun
    | some number =>
        rw [Option.map_some, Option.getD_some, String.toList_append]
        exact isColon.append (undivided_toString number)
  unfold Authority.text
  dsimp only
  rw [String.toList_append, String.toList_append, String.toList_append]
  refine ((credentials.append ?_).append host).append port
  split <;> simp [Undivided]

/-- All dividers in credentials are percent-encoded. -/
private theorem undivided_userinfo (characters : List Char) :
    Undivided (String.ofList (percentEncode .userinfo characters)).toList := by
  rw [String.toList_ofList]
  refine undivided_percentEncode fun character _ isShown => ?_
  exact undivided_of_all (fun character => EncodeSet.userinfo character = false)
    (fun other isSame => List.mem_singleton.mp isSame ▸ isShown) (by decide) (by decide)
    (by decide)

/-- A username and a password come out of an address encoded, so they hold no divider. -/
private theorem undivided_credentials (characters : List Char) :
    Undivided (readCredentials characters).1.toList ∧
      ∀ password ∈ (readCredentials characters).2, Undivided password.toList := by
  unfold readCredentials
  dsimp only
  split
  next => exact ⟨undivided_userinfo _, nofun⟩
  next => exact ⟨undivided_userinfo _, nofun⟩
  next => exact ⟨undivided_userinfo _, fun _ isPassword =>
    Option.some.inj isPassword ▸ undivided_userinfo _⟩

/-- What succeeds in two steps succeeds in each. -/
theorem exists_of_bind_eq_ok
    {ε α β : Type}
    {first : Except ε α}
    {second : α → Except ε β}
    {value : β}
    (succeeded : first >>= second = .ok value) :
    ∃ found, first = .ok found ∧ second found = .ok value := by
  cases first with
  | error error => cases succeeded
  | ok found => exact ⟨found, rfl, succeeded⟩

/-- The host that is read before a port holds no divider. -/
private theorem undivided_hostAndPort
    {scheme : String}
    {characters : List Char}
    {found : Host × Option Nat}
    (read : readHostAndPort scheme characters = .ok found) :
    Undivided found.1.text.toList := by
  unfold readHostAndPort at read
  dsimp only at read
  split at read
  next =>
    obtain ⟨host, parsed, read⟩ := exists_of_bind_eq_ok read
    split at read
    next => cases read
    next =>
      obtain ⟨port, -, read⟩ := exists_of_bind_eq_ok read
      cases read
      exact undivided_parsePlain parsed
  next =>
    split at read
    next => cases read
    next =>
      obtain ⟨host, parsed, read⟩ := exists_of_bind_eq_ok read
      obtain ⟨port, -, read⟩ := exists_of_bind_eq_ok read
      cases read
      exact undivided_parseSpecial parsed

/-- What is read as an authority holds no divider. -/
theorem undivided_readAuthority
    {scheme : String}
    {characters : List Char}
    {followed : Bool}
    {authority : Authority}
    (read : readAuthority scheme characters followed = .ok authority) :
    Undivided authority.text.toList := by
  unfold readAuthority at read
  split at read
  next =>
    obtain ⟨found, isHost, read⟩ := exists_of_bind_eq_ok read
    cases read
    exact undivided_authority nofun nofun (undivided_hostAndPort isHost)
  next =>
    split at read
    next => cases read
    next =>
      obtain ⟨found, isHost, read⟩ := exists_of_bind_eq_ok read
      cases read
      exact undivided_authority nofun nofun (undivided_hostAndPort isHost)
  next credentials rest _ _ =>
    have written := undivided_credentials credentials
    generalize readCredentials credentials = pair at written read
    obtain ⟨username, password⟩ := pair
    obtain ⟨⟨host, port⟩, isHost, read⟩ := exists_of_bind_eq_ok read
    dsimp only at read
    split at read
    next => cases read
    next =>
      cases read
      exact undivided_authority written.1 written.2 (undivided_hostAndPort isHost)

/-! ## Addresses -/

/-- Whether the scheme and the authority of an address end where their text ends. -/
structure WellDivided (url : Url) : Prop where
  scheme : ∀ character ∈ url.scheme.toList, character ≠ ':'
  schemeUndivided : Undivided url.scheme.toList
  authority : ∀ authority ∈ url.authority, Undivided authority.text.toList
  /-- Only a path that follows no authority needs a guard. -/
  unguarded : url.authority ≠ none → url.guarded = false

/-- A character that is made small is a letter then, and others stay as they are. -/
private theorem toLower_eq_or
    (character : Char) :
    character.toLower = character ∨ 0x61 ≤ character.toLower.toNat := by
  unfold Char.toLower
  split
  next isUpper =>
    right
    have isLess : 0x41 ≤ character.val.toNat := UInt32.le_iff_toNat_le.mp isUpper.1
    have isBound : character.val.toNat ≤ 0x5A := UInt32.le_iff_toNat_le.mp isUpper.2
    have difference : ('a'.val - 'A'.val).toNat = 0x20 := by decide
    rw [← Char.toNat_val, UInt32.toNat_add, difference]
    omega
  next => exact .inl rfl

/--
No colon and no divider stands in a scheme. No divider is a part of a scheme, and no letter becomes
one when it is made small.
-/
private theorem wellDivided_cutScheme
    {characters rest : List Char}
    {scheme : String}
    (cut : cutScheme? characters = some (scheme, rest)) :
    (∀ character ∈ scheme.toList, character ≠ ':') ∧ Undivided scheme.toList := by
  unfold cutScheme? at cut
  obtain ⟨⟨written, after⟩, -, cut⟩ := Option.bind_eq_some_iff.mp cut
  dsimp only at cut
  split at cut
  next => cases cut
  next first others isWritten =>
    split at cut
    next areParts =>
      cases cut
      have noPart :
          ∀ mark ∈ [':', '/', '?', '#'],
            (!(mark.isAlphanum || "+-.".toList.contains mark) && mark.toNat < 0x61) = true :=
        List.all_eq_true.mp (by decide)
      have differs :
          ∀ character ∈ first :: others, ∀ mark ∈ [':', '/', '?', '#'],
            character.toLower ≠ mark := by
        rintro character member mark isMark rfl
        have unlike := noPart _ isMark
        rw [Bool.and_eq_true, Bool.not_eq_true', decide_eq_true_eq] at unlike
        obtain ⟨isNoPart, isSmall⟩ := unlike
        have isPart :
            (character.isAlphanum || "+-.".toList.contains character) = true := by
          rcases List.mem_cons.mp member with rfl | later
          · simp [Char.isAlphanum, areParts.1]
          · exact List.all_eq_true.mp areParts.2 character later
        rcases toLower_eq_or character with same | isLarge
        · rw [same, isPart] at isNoPart
          cases isNoPart
        · exact absurd isLarge (Nat.not_le.mpr isSmall)
      rw [String.toList_ofList, isWritten]
      refine ⟨fun other isOther => ?_, fun other isOther => ?_⟩
      all_goals
        obtain ⟨character, member, rfl⟩ := List.mem_map.mp isOther
        have isDifferent := differs character member
        simp_all
    next => cases cut

/-- The own machine has an empty host. -/
private theorem undivided_ownMachine :
    Undivided ownMachine.text.toList := by
  have empty : ownMachine.text = "" := rfl
  simp [Undivided, empty]

/-- The authority of a file is that of the own machine or a host. -/
private theorem undivided_readFileAuthority
    {characters : List Char}
    {found : Authority × List String}
    (read : readFileAuthority characters = .ok found) :
    Undivided found.1.text.toList := by
  unfold readFileAuthority at read
  dsimp only at read
  split at read
  next =>
    cases read
    exact undivided_ownMachine
  next =>
    split at read
    next =>
      cases read
      exact undivided_ownMachine
    next =>
      obtain ⟨host, parsed, read⟩ := exists_of_bind_eq_ok read
      split at read
      next =>
        cases read
        exact undivided_ownMachine
      next =>
        cases read
        unfold readFileOn
        dsimp only
        split
        next => exact undivided_ownMachine
        next => exact undivided_authority nofun nofun (undivided_parseSpecial parsed)

/-- The host of a file is read like that of other addresses. -/
private theorem undivided_readFile
    {characters : List Char}
    {found : Authority × List String}
    (read : readFile characters = .ok found) :
    Undivided found.1.text.toList := by
  unfold readFile at read
  dsimp only at read
  split at read
  next =>
    obtain ⟨⟨authority, segments⟩, isFound, read⟩ := exists_of_bind_eq_ok read
    cases read
    have isUndivided := undivided_readFileAuthority isFound
    exact isUndivided
  next =>
    cases read
    exact undivided_ownMachine

/-- What is read as an address is well divided. -/
theorem wellDivided_of_parse
    {text : String}
    {url : Url}
    (parsed : Url.parse text = .ok url) :
    url.WellDivided := by
  unfold Url.parse at parsed
  split at parsed
  next => cases parsed
  next scheme rest cut =>
    obtain ⟨noColon, isScheme⟩ := wellDivided_cutScheme cut
    dsimp only at parsed
    split at parsed
    next =>
      obtain ⟨⟨authority, segments⟩, read, parsed⟩ := exists_of_bind_eq_ok parsed
      cases parsed
      refine ⟨noColon, isScheme, ?_, fun _ => rfl⟩
      rintro _ ⟨⟩
      obtain ⟨found, isFound, read⟩ := exists_of_bind_eq_ok read
      cases read
      exact undivided_readAuthority isFound
    next =>
      obtain ⟨⟨authority, segments⟩, read, parsed⟩ := exists_of_bind_eq_ok parsed
      cases parsed
      refine ⟨noColon, isScheme, ?_, fun _ => rfl⟩
      rintro _ ⟨⟩
      exact undivided_readFile read
    next =>
      obtain ⟨⟨authority, guarded, path⟩, read, parsed⟩ := exists_of_bind_eq_ok parsed
      cases parsed
      unfold readOther at read
      dsimp only at read
      split at read
      next =>
        obtain ⟨found, isFound, read⟩ := exists_of_bind_eq_ok read
        cases read
        refine ⟨noColon, isScheme, ?_, fun _ => rfl⟩
        rintro _ ⟨⟩
        exact undivided_readAuthority isFound
      next =>
        cases read
        exact ⟨noColon, isScheme, nofun, fun named => absurd rfl named⟩
      next =>
        cases read
        exact ⟨noColon, isScheme, nofun, fun named => absurd rfl named⟩

end SecretsAdmin.Url
