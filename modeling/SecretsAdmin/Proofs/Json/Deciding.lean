import SecretsAdmin.Proofs.Json.Skipping

namespace SecretsAdmin.Json

/-!
# Reading JSON texts

A reader treats a JSON text the same wherever it stands: it either fails, or finds a value and
stops right behind the text. What it finds is settled by the text alone, and for arrays and
objects by their elements and members.
-/

variable {α β σ : Type} {rest : Octets}

/-! ## Outcomes -/

/-- Whether a reading ends as an outcome says: before a rest with a value, or in a failure. -/
def Gives
    (rest : Octets)
    (outcome : Option α)
    (result : Except Failure (α × Octets)) :
    Prop :=
  match outcome with
  | some value => result = .ok (value, rest)
  | none => ∃ failure, result = .error failure

/-- What is read first decides how the reading goes on. -/
theorem Gives.bind
    {after : Octets}
    {outcome : Option α}
    {result : Except Failure (α × Octets)}
    {next : α → Option β}
    {goOn : α × Octets → Except Failure (β × Octets)}
    (gives : Gives rest outcome result)
    (goesOn : ∀ value, Gives after (next value) (goOn (value, rest))) :
    Gives after (outcome.bind next) (result >>= goOn) := by
  cases outcome with
  | none =>
      obtain ⟨failure, rfl⟩ := gives
      exact ⟨failure, rfl⟩
  | some value =>
      rw [show result = .ok (value, rest) from gives]
      exact goesOn value

/-- What is read may be changed by what follows, if this does not fail. -/
theorem Gives.andThen
    {after : Octets}
    {outcome : Option α}
    {result : Except Failure (α × Octets)}
    {change : α → β}
    {goOn : α × Octets → Except Failure (β × Octets)}
    (gives : Gives rest outcome result)
    (goesOn : ∀ value, goOn (value, rest) = .ok (change value, after)) :
    Gives after (outcome.map change) (result >>= goOn) := by
  cases outcome with
  | none =>
      obtain ⟨failure, rfl⟩ := gives
      exact ⟨failure, rfl⟩
  | some value =>
      rw [show result = .ok (value, rest) from gives]
      exact goesOn value

/-- What is read stays when the rest is only moved on. -/
theorem Gives.close
    {after : Octets}
    {outcome : Option α}
    {result : Except Failure (α × Octets)}
    {goOn : α × Octets → Except Failure (α × Octets)}
    (gives : Gives rest outcome result)
    (closes : ∀ value, goOn (value, rest) = .ok (value, after)) :
    Gives after outcome (result >>= goOn) := by
  have closed : Gives after (outcome.map id) (result >>= goOn) := gives.andThen closes
  rwa [Option.map_id] at closed

/-- A value may be changed without the rest. -/
theorem Gives.map
    {outcome : Option α}
    {result : Except Failure (α × Octets)}
    (gives : Gives rest outcome result)
    (change : α → β) :
    Gives rest (outcome.map change) (result.map fun (value, unread) => (change value, unread)) := by
  cases outcome with
  | none =>
      obtain ⟨failure, rfl⟩ := gives
      exact ⟨failure, rfl⟩
  | some value =>
      rw [show result = .ok (value, rest) from gives]
      rfl

/-- Whatever a failure is made of, it stays one. -/
theorem Gives.mapError
    {outcome : Option α}
    {result : Except Failure (α × Octets)}
    (gives : Gives rest outcome result)
    (change : Failure → Failure) :
    Gives rest outcome (result.mapError change) := by
  cases outcome with
  | none =>
      obtain ⟨failure, rfl⟩ := gives
      exact ⟨_, rfl⟩
  | some value =>
      rw [show result = .ok (value, rest) from gives]
      rfl

/-- Whether a reader has an outcome for characters wherever they stand. -/
def Decides
    (read : Reader α)
    (written : List Char)
    (outcome : Option α) :
    Prop :=
  ∀ before rest, AreBlank before → Ends rest →
    Gives rest outcome (read (octets before ++ (octets written ++ rest)))

/-- What a reader finds in characters that stand alone. -/
def alone
    (read : Reader α)
    (written : List Char) :
    Option α :=
  (read (octets written)).toOption.map (·.1)

/-- What a reader finds wherever characters stand, it also finds in them alone. -/
theorem Decides.alone
    {read : Reader α}
    {written : List Char}
    {outcome : Option α}
    (decides : Decides read written outcome) :
    Json.alone read written = outcome := by
  have gives := decides [] [] .nil nofun
  rw [octets_nil, List.nil_append, List.append_nil] at gives
  cases outcome with
  | none =>
      obtain ⟨failure, failed⟩ := gives
      rw [Json.alone, failed]
      rfl
  | some value =>
      rw [Json.alone, show read (octets written) = .ok (value, []) from gives]
      rfl

/-- Whether a reader treats characters the same wherever they stand. -/
abbrev Settles
    (read : Reader α)
    (written : List Char) :
    Prop :=
  Decides read written (alone read written)

/-- A reader with an outcome for a text finds the same in the text alone. -/
theorem Decides.settles
    {read : Reader α}
    {written : List Char}
    {outcome : Option α}
    (decides : Decides read written outcome) :
    Settles read written := by
  show Decides read written (Json.alone read written)
  rw [decides.alone]
  exact decides

/-- Whether a reader treats every JSON text the same wherever it stands. -/
def IsDecisive (read : Reader α) : Prop :=
  ∀ written, IsJson written → Settles read written

/-- Readers that skip blanks first are left with the text itself. -/
theorem Decides.of_begins
    {read : Reader α}
    {written : List Char}
    {outcome : Option α}
    (skips : ∀ unread, read (skipBlanks unread) = read unread)
    (begins : Begins written)
    (gives : ∀ rest, Ends rest → Gives rest outcome (read (octets written ++ rest))) :
    Decides read written outcome := by
  intro before rest areBlank ends
  rw [← skips, skipBlanks_octets areBlank, begins.skipBlanks]
  exact gives rest ends

/-- A reader that fails at characters wherever they stand treats them the same. -/
theorem Settles.of_fails
    {read : Reader α}
    {written : List Char}
    (skips : ∀ unread, read (skipBlanks unread) = read unread)
    (begins : Begins written)
    (fails : ∀ rest, Ends rest → ∃ failure, read (octets written ++ rest) = .error failure) :
    Settles read written :=
  have decides : Decides read written none := .of_begins skips begins fails
  decides.settles

/-- A value that a reader finds may be changed, wherever the text stands. -/
theorem Decides.map
    {read : Reader α}
    {written : List Char}
    {outcome : Option α}
    (decides : Decides read written outcome)
    (change : α → β) :
    Decides (fun unread => (read unread).map fun (value, unread) => (change value, unread))
      written (outcome.map change) :=
  fun before rest areBlank ends => (decides before rest areBlank ends).map change

/-- Blanks at the end of a source end a value. -/
private theorem ends_octets
    {blanks : List Char}
    (areBlank : AreBlank blanks) :
    Ends (octets blanks) := by
  have ends := (AreBehind.nil areBlank).ends 0x5D (.inl rfl) []
  cases same : octets blanks with
  | nil => exact nofun
  | cons first others =>
      rw [same] at ends
      exact ends

section Parse

variable {read : Reader α} {written before after : List Char}

/-- What a reader finds in a text, it finds in a source that holds it between blanks. -/
theorem Decides.parse_eq
    {value : α}
    (decides : Decides read written (some value))
    (blankBefore : AreBlank before)
    (blankAfter : AreBlank after) :
    Json.parse read (octets (before ++ (written ++ after))) = .ok value := by
  have skipped : skipBlanks (octets after ++ []) = [] := skipBlanks_octets blankAfter []
  rw [List.append_nil] at skipped
  have found : read _ = .ok (value, octets after) :=
    decides before (octets after) blankBefore (ends_octets blankAfter)
  rw [Json.parse, octets_append, octets_append, found]
  simp only [bind, Except.bind, expectEnd, skipped]
  rfl

/-- Where a reader fails at a text, it fails at a source that holds it between blanks. -/
theorem Decides.parse_fails
    (decides : Decides read written none)
    (blankBefore : AreBlank before)
    (blankAfter : AreBlank after) :
    ∃ failure, Json.parse read (octets (before ++ (written ++ after))) = .error failure := by
  obtain ⟨failure, failed⟩ := decides before (octets after) blankBefore (ends_octets blankAfter)
  rw [Json.parse, octets_append, octets_append, failed]
  exact ⟨failure, rfl⟩

end Parse

/-! ## Simple values -/

/-- Where another thing is wanted, a reader fails. -/
theorem mismatch_fails
    (wanted : Wanted)
    (unread : Octets) :
    ∃ failure, (mismatch wanted unread : Except Failure α) = .error failure := by
  have bound {γ : Type} (result : Except Failure γ) (fault : γ → Failure) :
      ∃ failure, (result >>= fun found => (.error (fault found) : Except Failure α)) =
        .error failure := by
    cases result <;> exact ⟨_, rfl⟩
  unfold mismatch
  dsimp only
  split
  case h_9 =>
    split
    · exact bound _ _
    · exact ⟨_, rfl⟩
  all_goals first | exact ⟨_, rfl⟩ | exact bound _ _

private theorem skips_readText (unread : Octets) :
    readText (skipBlanks unread) = readText unread := by
  simp only [readText, skipBlanks_skipBlanks]

/-- A string is read as its text. -/
theorem SpellsText.decides
    {written : List Char}
    {text : String}
    (spells : SpellsText written text) :
    Decides readText written (some text) := by
  refine .of_begins skips_readText (IsJson.text spells).begins fun rest _ => ?_
  obtain ⟨inside, encoded, scanned⟩ := spells.scanText rest
  rw [encoded]
  exact scanned

/-- Whether a JSON text is a string is seen by its first byte. -/
theorem isDecisive_readText : IsDecisive readText := by
  intro written isJson
  obtain ⟨octet, others, encoded, shape⟩ := isJson.shape
  by_cases isQuote : octet = 0x22
  · obtain ⟨text, spells⟩ := shape.isText isQuote
    exact spells.decides.settles
  · refine .of_fails skips_readText isJson.begins fun rest _ => ?_
    rw [encoded, List.cons_append, readText, skipBlanks_cons shape.notBlank]
    split
    next same => exact absurd (List.cons.inj same).1 isQuote
    next => exact mismatch_fails _ _

/-- A string is found in a JSON text exactly if the text writes it. -/
theorem alone_readText_eq_some_iff
    {written : List Char}
    (isJson : IsJson written)
    {text : String} :
    alone readText written = some text ↔ SpellsText written text := by
  refine ⟨fun isFound => ?_, fun spells => spells.decides.alone⟩
  obtain ⟨octet, others, encoded, shape⟩ := isJson.shape
  by_cases isQuote : octet = 0x22
  · obtain ⟨other, spells⟩ := shape.isText isQuote
    rw [spells.decides.alone] at isFound
    exact Option.some.inj isFound ▸ spells
  · have unread : ∃ failure, readText (octets written) = .error failure := by
      rw [encoded, readText, skipBlanks_cons shape.notBlank]
      split
      next same => exact absurd (List.cons.inj same).1 isQuote
      next => exact mismatch_fails _ _
    obtain ⟨failure, failed⟩ := unread
    rw [alone, failed] at isFound
    cases isFound

/-- Whether characters write a truth value. -/
def SpellsBoolean (written : List Char) (value : Bool) : Prop :=
  written = if value then ['t', 'r', 'u', 'e'] else ['f', 'a', 'l', 's', 'e']

private theorem skips_readBoolean (unread : Octets) :
    readBoolean (skipBlanks unread) = readBoolean unread := by
  simp only [readBoolean, skipBlanks_skipBlanks]

/-- The word for a truth value is read as the value. -/
theorem SpellsBoolean.decides
    {written : List Char}
    {value : Bool}
    (spells : SpellsBoolean written value) :
    Decides readBoolean written (some value) := by
  subst spells
  cases value with
  | true => exact .of_begins skips_readBoolean IsJson.true.begins fun _ _ => rfl
  | false => exact .of_begins skips_readBoolean IsJson.false.begins fun _ _ => rfl

/-- Whether a JSON text is a truth value is seen by its first byte. -/
theorem isDecisive_readBoolean : IsDecisive readBoolean := by
  intro written isJson
  obtain ⟨octet, others, encoded, shape⟩ := isJson.shape
  by_cases isTrue : octet = 0x74
  · have spells : SpellsBoolean written true := shape.isTrue isTrue
    exact spells.decides.settles
  by_cases isFalse : octet = 0x66
  · have spells : SpellsBoolean written false := shape.isFalse isFalse
    exact spells.decides.settles
  refine .of_fails skips_readBoolean isJson.begins fun rest _ => ?_
  rw [encoded, List.cons_append, readBoolean, skipBlanks_cons shape.notBlank]
  split
  next same => exact absurd (List.cons.inj same).1 isTrue
  next same => exact absurd (List.cons.inj same).1 isFalse
  next => exact mismatch_fails _ _

/-! ## Whole numbers -/

private theorem skips_readInteger (unread : Octets) :
    readInteger (skipBlanks unread) = readInteger unread := by
  simp only [readInteger, skipBlanks_skipBlanks]

/-- A whole number of 64 bits is written as a number without fraction and exponent. -/
theorem SpellsInteger.isNumber
    {written : List Char}
    {number : Int64}
    (spells : SpellsInteger written number) :
    IsNumber written := by
  obtain ⟨whole, isWhole, ⟨rfl, -⟩ | ⟨rfl, -, -⟩⟩ := spells
  · exact ⟨[], written, [], [], List.mem_cons_self, isWhole, .inl rfl, .inl rfl, by simp⟩
  · exact ⟨['-'], whole, [], [], by simp, isWhole, .inl rfl, .inl rfl, by simp⟩

/-- The digits of a whole number are read as the number, up to where they end. -/
theorem SpellsInteger.decides
    {written : List Char}
    {number : Int64}
    (spells : SpellsInteger written number) :
    Decides readInteger written (some number) :=
  .of_begins skips_readInteger (IsJson.number spells.isNumber).begins fun _ ends =>
    spells.read ends

/-- Whether a scanned number is refused where a whole number is wanted. -/
private def IsRefused (result : Except Failure (Number × Octets)) : Prop :=
  ∃ failure, (do
    let (number, unread) ← result
    checkInteger number unread) = .error failure

/-- A double is no whole number, in range or not. -/
private theorem isRefused_finishReal
    (negative : Bool)
    (significand : Nat)
    (power : Int)
    (unread : Octets) :
    IsRefused (finishReal negative significand power unread) := by
  unfold finishReal
  split <;> exact ⟨_, rfl⟩

/-- An exponent ends in a failure or in a double, never in a whole number. -/
private theorem isRefused_scanExponent
    (negative : Bool)
    (significand : Nat)
    (power : Int)
    (unread : Octets) :
    IsRefused (scanExponent negative significand power unread) := by
  unfold scanExponent
  dsimp only
  split
  next => exact ⟨_, rfl⟩
  next =>
    split
    next =>
      split
      next => exact isRefused_finishReal _ _ _ _
      next => split <;> split <;> exact ⟨_, rfl⟩
    next => exact ⟨_, rfl⟩

/-- What follows a fraction makes no whole number of it. -/
private theorem isRefused_scanOptionalExponent
    (negative : Bool)
    (significand : Nat)
    (power : Int)
    (unread : Octets) :
    IsRefused (scanOptionalExponent negative significand power unread) := by
  unfold scanOptionalExponent
  split
  next => exact isRefused_scanExponent _ _ _ _
  next => exact isRefused_scanExponent _ _ _ _
  next => exact isRefused_finishReal _ _ _ _

/-- A number with a fraction or an exponent is no whole number. -/
private theorem isRefused_scanAfterWhole
    {fraction exponent : List Char}
    (isFraction : IsFraction fraction)
    (isExponent : IsExponent exponent)
    (notEmpty : fraction ++ exponent ≠ [])
    (negative : Bool)
    (significand dropped : Nat)
    (rest : Octets) :
    IsRefused
      (scanAfterWhole negative significand dropped (octets (fraction ++ exponent) ++ rest)) := by
  obtain rfl | ⟨digits, areDigits, rfl⟩ := isFraction
  · obtain rfl | ⟨letter, sign, digits, isLetter, -, -, rfl⟩ := isExponent
    · exact absurd rfl notEmpty
    · rcases List.mem_pair.mp isLetter with rfl | rfl
      all_goals exact isRefused_scanExponent _ _ _ _
  · obtain ⟨octet, others, encoded, digit, -⟩ := areDigits.cons
    rw [List.cons_append, octets_cons, octets_append, encoded]
    show IsRefused (if isDigit octet = true then _ else _)
    rw [if_pos digit]
    exact isRefused_scanOptionalExponent _ _ _ _

/-- A whole number as one of 64 bits, if it fits. -/
private def whole? (value : Int) : Option Int64 :=
  if isInt64 value then some (Int64.ofInt value) else none

/-- A whole number that was scanned is taken if it fits. -/
private theorem gives_checkInteger
    (value : Int)
    (rest : Octets) :
    Gives rest (whole? value) (checkInteger (.integer value) rest) := by
  unfold checkInteger whole?
  dsimp only
  split
  · exact rfl
  · exact ⟨_, rfl⟩

/-- A number without fraction and exponent has an outcome that its digits settle. -/
private theorem exists_outcome
    (negative : Bool)
    (significand dropped : Nat) :
    ∃ outcome, ∀ rest, Ends rest →
      Gives rest outcome (do
        let (number, unread) ← scanAfterWhole negative significand dropped rest
        checkInteger number unread) := by
  by_cases areDropped : dropped ≠ 0
  · refine ⟨none, fun rest ends => ?_⟩
    rw [scanAfterWhole_ends ends, if_pos areDropped]
    exact isRefused_finishReal _ _ _ _
  by_cases isNatural : negative = false
  · refine ⟨whole? significand, fun rest ends => ?_⟩
    rw [scanAfterWhole_ends ends, if_neg areDropped, if_pos isNatural]
    exact gives_checkInteger _ rest
  by_cases inRange : 1 ≤ significand ∧ significand ≤ 0x8000000000000000
  · refine ⟨whole? (-significand), fun rest ends => ?_⟩
    rw [scanAfterWhole_ends ends, if_neg areDropped, if_neg isNatural, if_pos inRange]
    exact gives_checkInteger _ rest
  · refine ⟨none, fun rest ends => ?_⟩
    rw [scanAfterWhole_ends ends, if_neg areDropped, if_neg isNatural, if_neg inRange]
    exact isRefused_finishReal _ _ _ _

/-- A number is taken as a whole one or refused by its own characters, whatever follows. -/
private theorem IsNumber.settles
    {written : List Char}
    (isNumber : IsNumber written) :
    Settles readInteger written := by
  have begins := (IsJson.number isNumber).begins
  obtain ⟨sign, whole, fraction, exponent, isSign, isWhole, isFraction, isExponent, rfl⟩ :=
    isNumber
  obtain ⟨gathered, others, scanned, -⟩ := scanNumber_whole isWhole (!sign.isEmpty)
  have read (rest : Octets) (ends : Ends rest) :
      readInteger (octets (sign ++ (whole ++ (fraction ++ exponent))) ++ rest) = (do
        let (number, unread) ←
          scanAfterWhole (!sign.isEmpty) gathered others
            (octets (fraction ++ exponent) ++ rest)
        checkInteger number unread) := by
    rw [← List.append_assoc, octets_append, List.append_assoc,
      readInteger_signed sign isSign isWhole, scanned _ (isFraction.endsDigits isExponent ends)]
  by_cases isEmpty : fraction ++ exponent = []
  · obtain ⟨outcome, gives⟩ := exists_outcome (!sign.isEmpty) gathered others
    have decides : Decides readInteger _ outcome :=
      .of_begins skips_readInteger begins fun rest ends => by
        rw [read rest ends, isEmpty]
        exact gives rest ends
    exact decides.settles
  · refine .of_fails skips_readInteger begins fun rest ends => ?_
    rw [read rest ends]
    exact isRefused_scanAfterWhole isFraction isExponent isEmpty _ _ _ rest

/-- Whether a JSON text is a whole number of 64 bits is settled by its own characters. -/
theorem isDecisive_readInteger : IsDecisive readInteger := by
  intro written isJson
  obtain ⟨octet, others, encoded, shape⟩ := isJson.shape
  by_cases begins : octet = 0x2D ∨ isDigit octet = true
  · exact (shape.isNumber begins).settles
  · rw [not_or] at begins
    refine .of_fails skips_readInteger isJson.begins fun rest _ => ?_
    rw [encoded, List.cons_append, readInteger, skipBlanks_cons shape.notBlank]
    split
    next same => exact absurd (List.cons.inj same).1 begins.1
    next same =>
      obtain ⟨rfl, rfl⟩ := List.cons.inj same
      rw [if_neg begins.2]
      exact mismatch_fails _ _
    next same => cases same

/-! ## Values that may be absent -/

/-- Whether characters write a value, or `null` for its absence. -/
def SpellsNullable
    (Spells : List Char → α → Prop)
    (written : List Char)
    (value : Option α) :
    Prop :=
  match value with
  | none => written = ['n', 'u', 'l', 'l']
  | some value => Spells written value

section Optional

variable {read : Reader α}

private theorem skips_readOptional (unread : Octets) :
    readOptional read (skipBlanks unread) = readOptional read unread := by
  simp only [readOptional, skipBlanks_skipBlanks]

/-- The word for nothing is read as nothing. -/
private theorem decides_null : Decides (readOptional read) ['n', 'u', 'l', 'l'] (some none) :=
  .of_begins skips_readOptional IsJson.null.begins fun _ _ => rfl

/-- A text that is not `null` is read as without that choice. -/
private theorem Decides.optional
    {written : List Char}
    {outcome : Option α}
    (decides : Decides read written outcome)
    (begins : Begins written)
    (notNull : (octets written).head? ≠ some 0x6E) :
    Decides (readOptional read) written (outcome.map some) := by
  refine .of_begins skips_readOptional begins fun rest ends => ?_
  have gives := decides [] rest .nil ends
  rw [octets_nil, List.nil_append] at gives
  have same :
      readOptional read (octets written ++ rest) =
        (read (octets written ++ rest)).map fun (value, unread) => (some value, unread) := by
    rw [readOptional, begins.skipBlanks]
    split
    next same =>
      obtain ⟨octet, others, encoded, -⟩ := begins
      rw [encoded] at same notNull
      exact absurd (congrArg some (List.cons.inj same).1) notNull
    next => cases read (octets written ++ rest) <;> rfl
  rw [same]
  exact gives.map some

/-- A choice of `null` does not make a reader less decisive. -/
theorem isDecisive_readOptional
    (isDecisive : IsDecisive read) :
    IsDecisive (readOptional read) := by
  intro written isJson
  obtain ⟨octet, others, encoded, shape⟩ := isJson.shape
  by_cases isNull : octet = 0x6E
  · rw [shape.isNull isNull]
    exact decides_null.settles
  · refine ((isDecisive written isJson).optional isJson.begins ?_).settles
    rw [encoded]
    exact fun same => isNull (Option.some.inj same)

/-- A text that may be absent is read as what is written. -/
theorem SpellsNullable.decidesText
    {written : List Char}
    {value : Option String}
    (spells : SpellsNullable SpellsText written value) :
    Decides (readOptional readText) written (some value) := by
  cases value with
  | none =>
      obtain rfl : written = _ := spells
      exact decides_null
  | some text =>
      have isText : SpellsText written text := spells
      obtain ⟨others, encoded⟩ := isText.begins
      refine isText.decides.optional (IsJson.text isText).begins ?_
      rw [encoded]
      exact fun same => absurd (Option.some.inj same) (by decide)

/-- A string or `null` is found in a JSON text exactly if the text writes it. -/
theorem alone_readOptionalText_eq_some_iff
    {written : List Char}
    (isJson : IsJson written)
    {value : Option String} :
    alone (readOptional readText) written = some value ↔
      SpellsNullable SpellsText written value := by
  refine ⟨fun isFound => ?_, fun spells => spells.decidesText.alone⟩
  obtain ⟨octet, others, encoded, shape⟩ := isJson.shape
  by_cases isNull : octet = 0x6E
  · obtain rfl := shape.isNull isNull
    rw [decides_null.alone] at isFound
    cases isFound
    rfl
  · have decides := (isDecisive_readText written isJson).optional isJson.begins <| by
      rw [encoded]
      exact fun same => isNull (Option.some.inj same)
    rw [decides.alone] at isFound
    obtain ⟨text, isText, rfl⟩ := Option.map_eq_some_iff.mp isFound
    exact (alone_readText_eq_some_iff isJson).mp isText

end Optional

end SecretsAdmin.Json
