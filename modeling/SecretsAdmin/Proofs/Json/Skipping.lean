import SecretsAdmin.Proofs.Json.Layout

namespace SecretsAdmin.Json

/-!
# Skipping JSON texts

Whatever JSON stands next is skipped as a whole. The skipping goes step by step on a budget; a
text that is passed at some cost in steps has at least as many bytes, so the budget suffices.
-/

variable {rest : Octets}

/-! ## Strings and numbers -/

/-- What the skipping of a string awaits where its scanner awaits something. -/
private def TextState.skipped : TextState → SkipState
  | .plain => .plain
  | .escape => .escape
  | .digits due value _ => .digits due value.isSome
  | .pairBackslash _ => .plain
  | .pairLetter _ => .escape

/-- An escape that the scanner accepts is valid for the skipping too. -/
private theorem digitsStep_skipped
    {due : Nat}
    {value high : Option Nat}
    {octet : UInt8}
    {state : TextState}
    {found others : Octets}
    (step : digitsStep due value high octet = .ok (state, found)) :
    skipText (.digits due value.isSome) (octet :: others) = skipText state.skipped others := by
  rw [skipText]
  unfold digitsStep at step
  by_cases isLast : due ≤ 1
  · simp only [isLast, if_true] at step ⊢
    cases value with
    | none => cases step
    | some value =>
        cases digit : Hex.value? octet.toNat with
        | none => simp [digit] at step
        | some number =>
            simp only [digit, Option.bind_eq_bind, Option.bind_some] at step
            unfold closeEscape at step
            cases high with
            | none =>
                dsimp only at step
                split at step
                · cases step
                · split at step <;> cases step <;> rfl
            | some high =>
                dsimp only at step
                split at step <;> cases step
                rfl
  · simp only [isLast, if_false, Except.ok.injEq, Prod.mk.injEq] at step ⊢
    obtain ⟨rfl, -⟩ := step
    cases value <;> cases digit : Hex.value? octet.toNat <;> rfl

/-- A string that is scanned is also skipped. -/
private theorem skipText_of_scan
    {source gathered unread : Octets}
    {state : TextState}
    {text : String}
    (scanned : scanTextFrom source state gathered unread = .ok (text, rest)) :
    skipText state.skipped unread = .ok rest := by
  fun_induction scanTextFrom source state gathered unread with
  | case2 =>
      unfold finishText at scanned
      split at scanned <;> cases scanned
      rfl
  | case5 _ octet _ notQuote notBackslash notControl inductionHypothesis =>
      show skipText .plain (octet :: _) = _
      rw [skipText, if_neg notQuote, if_neg notBackslash, if_neg notControl]
      exact inductionHypothesis scanned
  | case7 _ octet _ notLetter _ isEscape inductionHypothesis =>
      show skipText .escape (octet :: _) = _
      rw [skipText, if_neg notLetter, isEscape]
      exact inductionHypothesis scanned
  | case9 _ _ _ _ _ _ _ _ step inductionHypothesis =>
      exact (digitsStep_skipped step).trans (inductionHypothesis scanned)
  | case3 _ _ _ inductionHypothesis => exact inductionHypothesis scanned
  | case6 _ _ inductionHypothesis => exact inductionHypothesis scanned
  | case11 _ _ _ inductionHypothesis => exact inductionHypothesis scanned
  | case13 _ _ _ inductionHypothesis => exact inductionHypothesis scanned
  | case1 | case4 | case8 | case10 | case12 | case14 => cases scanned

/-- A string is skipped from the byte behind its quote on. -/
theorem SpellsText.skip
    {written : List Char}
    {text : String}
    (spells : SpellsText written text)
    (rest : Octets) :
    ∃ inside,
      octets written ++ rest = 0x22 :: inside ∧ skipText .plain inside = .ok rest := by
  obtain ⟨inside, encoded, scanned⟩ := spells.scanText rest
  exact ⟨inside, encoded, skipText_of_scan scanned⟩

/-- Behind a fraction stands no digit. -/
private theorem IsExponent.endsDigits
    {exponent : List Char}
    (isExponent : IsExponent exponent)
    (ends : Ends rest) :
    EndsDigits (octets exponent ++ rest) := by
  obtain rfl | ⟨letter, sign, digits, isLetter, -, -, rfl⟩ := isExponent
  · exact ends.endsDigits
  · rcases List.mem_pair.mp isLetter with rfl | rfl
    all_goals
      intro octet isHead
      obtain rfl := Option.some.inj isHead
      rfl

/-- Behind the whole part of a number stands no digit. -/
theorem IsFraction.endsDigits
    {fraction exponent : List Char}
    (isFraction : IsFraction fraction)
    (isExponent : IsExponent exponent)
    (ends : Ends rest) :
    EndsDigits (octets (fraction ++ exponent) ++ rest) := by
  obtain rfl | ⟨digits, -, rfl⟩ := isFraction
  · exact isExponent.endsDigits ends
  · intro octet isHead
    obtain rfl := Option.some.inj isHead
    rfl

theorem AreDigits.cons
    {digits : List Char}
    (areDigits : AreDigits digits) :
    ∃ octet others,
      octets digits = octet :: octets others ∧ isDigit octet = true ∧
        ∀ digit ∈ others, digit.isDigit = true := by
  obtain ⟨notEmpty, areDigits⟩ := areDigits
  obtain ⟨first, others, rfl⟩ := List.exists_cons_of_ne_nil notEmpty
  obtain ⟨octet, encoded, isDigit, -⟩ := octet_of_digit (areDigits first List.mem_cons_self)
  refine ⟨octet, others, ?_, isDigit,
    fun digit member => areDigits digit (List.mem_cons_of_mem _ member)⟩
  rw [octets_cons, encoded, List.singleton_append]

/-- The digits of an exponent are skipped behind its sign. -/
private theorem skipExponent_digits
    {sign digits : List Char}
    (isSign : sign ∈ [[], ['+'], ['-']])
    (areDigits : AreDigits digits)
    (ends : Ends rest) :
    skipExponent (octets (sign ++ digits) ++ rest) = .ok rest := by
  obtain ⟨octet, others, encoded, digit, areOthers⟩ := areDigits.cons
  have dropped : (octets others ++ rest).dropWhile isDigit = rest :=
    dropWhile_digits areOthers ends.endsDigits
  simp only [List.mem_cons, List.not_mem_nil, or_false] at isSign
  rcases isSign with rfl | rfl | rfl
  · rw [List.nil_append, encoded, List.cons_append]
    unfold skipExponent
    split
    next same => exact absurd (List.cons.inj same).1 (digit_ne digit rfl)
    next same => exact absurd (List.cons.inj same).1 (digit_ne digit rfl)
    next => simp only [digit, if_true, dropped]
  all_goals
    rw [octets_append, encoded, List.append_assoc, List.cons_append]
    show (if isDigit octet = true then _ else _) = _
    rw [if_pos digit, dropped]

private theorem skipOptionalExponent_ends
    (ends : Ends rest) :
    skipOptionalExponent rest = .ok rest := by
  unfold skipOptionalExponent
  split
  next => exact absurd rfl ends.endsNumber.2.1
  next => exact absurd rfl ends.endsNumber.2.2
  next => rfl

private theorem IsExponent.skip
    {exponent : List Char}
    (isExponent : IsExponent exponent)
    (ends : Ends rest) :
    skipOptionalExponent (octets exponent ++ rest) = .ok rest := by
  obtain rfl | ⟨letter, sign, digits, isLetter, isSign, areDigits, rfl⟩ := isExponent
  · exact skipOptionalExponent_ends ends
  · rcases List.mem_pair.mp isLetter with rfl | rfl
    all_goals exact skipExponent_digits isSign areDigits ends

/--
What stands behind the whole part of a number is skipped. A point begins neither an exponent nor the
end of a value.
-/
private theorem skipAfterWhole_fraction
    {fraction exponent : List Char}
    (isFraction : IsFraction fraction)
    (isExponent : IsExponent exponent)
    (ends : Ends rest) :
    skipAfterWhole (octets (fraction ++ exponent) ++ rest) = .ok rest := by
  have skipped := isExponent.skip ends
  obtain rfl | ⟨digits, areDigits, rfl⟩ := isFraction
  · rw [List.nil_append]
    unfold skipAfterWhole
    split
    next others same =>
      obtain rfl | ⟨letter, _, _, isLetter, -, -, rfl⟩ := isExponent
      · rw [octets_nil, List.nil_append] at same
        rw [same] at ends
        exact absurd rfl ends.endsNumber.1
      · rcases List.mem_pair.mp isLetter with rfl | rfl <;>
          exact absurd (List.cons.inj same).1 (by decide)
    next => exact skipped
  · obtain ⟨octet, others, encoded, digit, areOthers⟩ := areDigits.cons
    have dropped := dropWhile_digits areDigits.2 (isExponent.endsDigits ends)
    rw [encoded, List.cons_append] at dropped
    rw [List.cons_append, octets_cons, octets_append, encoded, List.append_assoc,
      List.append_assoc, List.cons_append]
    show (if isDigit octet = true then skipOptionalExponent ((octet :: _).dropWhile isDigit)
      else _) = _
    rw [if_pos digit, dropped, skipped]

private theorem skipNumber_whole
    {whole : List Char}
    (isWhole : IsWhole whole)
    (ends : EndsDigits rest) :
    skipNumber (octets whole ++ rest) = skipAfterWhole rest := by
  obtain ⟨first, octet, digits, rfl, encoded, digit, -, areDigits, leading⟩ := isWhole.cons
  rw [octets_cons, encoded, List.append_assoc, List.singleton_append]
  unfold skipNumber
  by_cases isZero : octet = 0x30
  · obtain rfl := leading isZero
    simp only [isZero, if_true, octets_nil, List.nil_append]
    cases rest with
    | nil => rfl
    | cons next others => simp only [ends next rfl, Bool.false_eq_true, if_false]
  · simp only [isZero, if_false, digit, if_true, dropWhile_digits areDigits ends]

/-- A number is skipped, its sign included. -/
private theorem IsNumber.skip
    {written : List Char}
    (isNumber : IsNumber written)
    (ends : Ends rest) :
    skipScalar (octets written ++ rest) = .ok rest := by
  obtain ⟨sign, whole, fraction, exponent, isSign, isWhole, isFraction, isExponent, rfl⟩ :=
    isNumber
  have skipped : skipNumber (octets (whole ++ (fraction ++ exponent)) ++ rest) = .ok rest := by
    rw [octets_append, List.append_assoc,
      skipNumber_whole isWhole (isFraction.endsDigits isExponent ends),
      skipAfterWhole_fraction isFraction isExponent ends]
  rcases List.mem_pair.mp isSign with rfl | rfl
  · obtain ⟨first, octet, digits, rfl, encoded, digit, -⟩ := isWhole.cons
    rw [List.nil_append]
    rw [List.cons_append, octets_cons, encoded, List.append_assoc,
      List.singleton_append] at skipped ⊢
    unfold skipScalar
    split
    next same => exact absurd (List.cons.inj same).1 (digit_ne digit rfl)
    next same => exact absurd (List.cons.inj same).1 (digit_ne digit rfl)
    next same => exact absurd (List.cons.inj same).1 (digit_ne digit rfl)
    next same => exact absurd (List.cons.inj same).1 (digit_ne digit rfl)
    next same => exact absurd (List.cons.inj same).1 (digit_ne digit rfl)
    next same => cases same
    next same =>
      obtain ⟨rfl, rfl⟩ := List.cons.inj same
      rw [if_pos digit, skipped]
  · exact skipped

/-! ## Costs -/

/--
Whether the skipping goes from one point to another at a cost: with a budget that is at least as
long, it goes on from there with what is left of the budget.
-/
def Passes
    (cost : Nat)
    (point next : SkipPoint) :
    Prop :=
  ∀ budget : Octets, cost ≤ budget.length →
    skipFrom budget point = skipFrom (budget.drop cost) next

theorem Passes.trans
    {first second : Nat}
    {point between next : SkipPoint}
    (before : Passes first point between)
    (after : Passes second between next) :
    Passes (first + second) point next := by
  intro budget enough
  rw [before budget (by omega), after (budget.drop first) (by rw [List.length_drop]; omega),
    List.drop_drop]

/-- A step costs one byte of the budget. -/
theorem Passes.step
    {point next : SkipPoint}
    (notDone : point.isDone = false)
    (steps : point.step = .ok next) :
    Passes 1 point next := by
  intro budget enough
  cases budget with
  | nil => simp at enough
  | cons octet budget =>
      rw [skipFrom, notDone, steps]
      rfl

/-- Whether characters at a place are skipped, at a cost below the number of their bytes. -/
def Skips (place : SkipPlace) (written : List Char) : Prop :=
  ∀ before stack rest, AreBlank before → Ends rest →
    ∃ cost ≤ (octets written).length,
      Passes cost
        ⟨place, stack, octets before ++ (octets written ++ rest)⟩
        ⟨.after, stack, rest⟩

/-- A value that is no array and no object is skipped in one step. -/
private theorem Skips.scalar
    {written : List Char}
    {octet : UInt8}
    {others : Octets}
    (encoded : octets written = octet :: others)
    (notBlank : isBlankOctet octet = false)
    (notOpening : octet ≠ 0x5B ∧ octet ≠ 0x7B)
    (skipped : ∀ rest, Ends rest → skipScalar (octets written ++ rest) = .ok rest) :
    Skips .value written := by
  intro before stack rest areBlank ends
  have skipped := skipped rest ends
  rw [encoded, List.cons_append] at skipped ⊢
  refine ⟨1, by simp, .step rfl ?_⟩
  unfold SkipPoint.step
  dsimp only
  rw [skipBlanks_octets areBlank, skipBlanks_cons notBlank]
  split
  next same => exact absurd (List.cons.inj same).1 notOpening.1
  next same => exact absurd (List.cons.inj same).1 notOpening.2
  next =>
    rw [skipped]
    rfl

/-! ## Brackets -/

namespace Bracket

/-- The character that opens a bracket. -/
private def opens : Bracket → Char
  | square => '['
  | curly => '\x7b'

/-- The character that closes a bracket. -/
private def closes : Bracket → Char
  | square => ']'
  | curly => '\x7d'

/-- What stands next inside a bracket. -/
private def inside : Bracket → SkipPlace
  | square => .value
  | curly => .key

private theorem octets_closes (bracket : Bracket) :
    octets [bracket.closes] = [bracket.closing] := by
  cases bracket <;> rfl

private theorem isBlankOctet_closing (bracket : Bracket) :
    isBlankOctet bracket.closing = false := by
  cases bracket <;> rfl

private theorem closing_eq (bracket : Bracket) :
    bracket.closing = 0x5D ∨ bracket.closing = 0x7D := by
  cases bracket
  · exact .inl rfl
  · exact .inr rfl

end Bracket

/-- Behind an item the skipping goes on to the end of the bracket. -/
private theorem passes_behind
    {bracket : Bracket}
    {behind : List Char}
    {items : List (List Char)}
    (areBehind : AreBehind behind items)
    (skips : ∀ item ∈ items, Skips bracket.inside item)
    (outer : List Bracket)
    (rest : Octets) :
    ∃ cost ≤ (octets behind).length + 1,
      Passes cost
        ⟨.after, bracket :: outer, octets behind ++ bracket.closing :: rest⟩
        ⟨.after, outer, rest⟩ := by
  induction areBehind with
  | nil areBlank =>
      refine ⟨1, by omega, .step rfl ?_⟩
      show leaveValue bracket outer _ = _
      unfold leaveValue
      rw [skipBlanks_octets areBlank, skipBlanks_cons bracket.isBlankOctet_closing]
      cases bracket <;> rfl
  | @cons after before item behind items blankAfter blankBefore others inductionHypothesis =>
      obtain ⟨isSkipped, areSkipped⟩ := List.forall_mem_cons.mp skips
      obtain ⟨others', cheap, passes⟩ := inductionHypothesis areSkipped
      obtain ⟨cost, cheapItem, passesItem⟩ :=
        isSkipped before (bracket :: outer) (octets behind ++ bracket.closing :: rest) blankBefore
          (others.ends _ bracket.closing_eq rest)
      have comma :
          Passes 1
            ⟨.after, bracket :: outer,
              octets (after ++ ',' :: (before ++ (item ++ behind))) ++ bracket.closing :: rest⟩
            ⟨bracket.inside, bracket :: outer,
              octets before ++ (octets item ++ (octets behind ++ bracket.closing :: rest))⟩ := by
        refine .step rfl ?_
        show leaveValue bracket outer _ = _
        unfold leaveValue
        rw [octets_append, octets_cons, List.append_assoc, List.append_assoc,
          skipBlanks_octets blankAfter, octets_append, octets_append, List.append_assoc,
          List.append_assoc]
        cases bracket <;> rfl
      refine ⟨1 + cost + others', ?_, (comma.trans passesItem).trans passes⟩
      rw [octets_append, octets_cons, octets_append, octets_append]
      simp only [List.length_append]
      have isComma : (String.utf8EncodeChar ',').length = 1 := rfl
      omega

/-- An opening bracket is entered. -/
private theorem step_opens
    {before : List Char}
    (areBlank : AreBlank before)
    (bracket : Bracket)
    (stack : List Bracket)
    (unread : Octets) :
    SkipPoint.step ⟨.value, stack, octets before ++ (octets [bracket.opens] ++ unread)⟩ =
      enterBracket bracket stack unread := by
  unfold SkipPoint.step
  dsimp only
  rw [skipBlanks_octets areBlank]
  cases bracket <;> rfl

/-- What is entered begins with an item, unless the bracket is closed at once. -/
private theorem enterBracket_begins
    {bracket : Bracket}
    {item : List Char}
    (begins : Begins item)
    {unread rest : Octets}
    (skipped : skipBlanks unread = octets item ++ rest)
    (stack : List Bracket) :
    enterBracket bracket stack unread =
      .ok ⟨bracket.inside, bracket :: stack, octets item ++ rest⟩ := by
  obtain ⟨octet, more, encoded, -, notSquare, notCurly⟩ := begins
  unfold enterBracket
  rw [skipped, encoded, List.cons_append]
  cases bracket
  · simp only [Bracket.closing, notSquare, if_false]
    rfl
  · simp only [Bracket.closing, notCurly, if_false]
    rfl

/-- A bracket is skipped whose items are. -/
private theorem Skips.bracket
    (bracket : Bracket)
    {written : List Char}
    {items : List (List Char)}
    (encloses : Encloses bracket.opens bracket.closes written items)
    (begins : ∀ item ∈ items, Begins item)
    (skips : ∀ item ∈ items, Skips bracket.inside item) :
    Skips .value written := by
  obtain ⟨inside, areListed, rfl⟩ := encloses
  intro before stack rest areBlank ends
  have split :
      octets (bracket.opens :: (inside ++ [bracket.closes])) =
        octets [bracket.opens] ++ (octets inside ++ [bracket.closing]) := by
    rw [← List.singleton_append, octets_append, octets_append, bracket.octets_closes]
  have isShort : (octets [bracket.opens]).length = 1 := by
    cases bracket <;> rfl
  rw [split, List.append_assoc, List.append_assoc]
  simp only [List.length_append, isShort, List.singleton_append, List.length_singleton]
  cases areListed with
  | nil blankInside =>
      refine ⟨1, by omega, .step rfl ?_⟩
      rw [step_opens areBlank, enterBracket, skipBlanks_octets blankInside,
        skipBlanks_cons bracket.isBlankOctet_closing]
      simp only [if_true]
  | @cons blanks item behind items blankBefore others =>
      obtain ⟨isSkipped, areSkipped⟩ := List.forall_mem_cons.mp skips
      have isBegun := begins item List.mem_cons_self
      obtain ⟨costBehind, cheapBehind, passesBehind⟩ := passes_behind others areSkipped stack rest
      obtain ⟨cost, cheap, passes⟩ :=
        isSkipped [] (bracket :: stack) (octets behind ++ bracket.closing :: rest) .nil
          (others.ends _ bracket.closing_eq rest)
      have opened :
          Passes 1
            ⟨.value, stack,
              octets before ++ (octets [bracket.opens] ++
                (octets (blanks ++ (item ++ behind)) ++ bracket.closing :: rest))⟩
            ⟨bracket.inside, bracket :: stack,
              octets item ++ (octets behind ++ bracket.closing :: rest)⟩ := by
        refine .step rfl ?_
        rw [step_opens areBlank]
        refine enterBracket_begins isBegun ?_ stack
        rw [octets_append, octets_append, List.append_assoc, List.append_assoc,
          skipBlanks_octets blankBefore, isBegun.skipBlanks]
      refine ⟨1 + cost + costBehind, ?_, (opened.trans passes).trans passesBehind⟩
      rw [octets_append, octets_append]
      simp only [List.length_append]
      omega

/-- A member is skipped, its name first, whose value is. -/
private theorem Skips.member
    {written : List Char}
    {member : Member}
    (spells : SpellsMember written member)
    (skips : Skips .value member.value) :
    Skips .key written := by
  obtain ⟨name, before, after, isName, blankBefore, blankAfter, rfl⟩ := spells
  intro blanks stack rest areBlank ends
  obtain ⟨cost, cheap, passes⟩ := skips after stack rest blankAfter ends
  have colon :
      Passes 1
        ⟨.key, stack,
          octets blanks ++ (octets (name ++ (before ++ ':' :: (after ++ member.value))) ++ rest)⟩
        ⟨.value, stack, octets after ++ (octets member.value ++ rest)⟩ := by
    refine .step rfl ?_
    obtain ⟨inside, encoded, skipped⟩ :=
      isName.skip (octets (before ++ ':' :: (after ++ member.value)) ++ rest)
    rw [octets_append, List.append_assoc, encoded]
    unfold SkipPoint.step skipKey
    dsimp only
    rw [skipBlanks_octets areBlank, skipBlanks_cons rfl]
    simp only [skipped, bind, Except.bind]
    rw [octets_append, octets_cons, List.append_assoc, skipBlanks_octets blankBefore,
      octets_append, List.append_assoc, List.append_assoc]
    rfl
  refine ⟨1 + cost, ?_, colon.trans passes⟩
  obtain ⟨others, encoded⟩ := isName.begins
  rw [octets_append, encoded, octets_append, octets_cons, octets_append]
  simp only [List.length_append, List.length_cons]
  omega

/-! ## Values -/

/-- Every JSON text is skipped. -/
private theorem IsJson.skips
    {written : List Char}
    (isJson : IsJson written) :
    Skips .value written := by
  induction isJson with
  | null => exact .scalar rfl rfl (by decide) fun _ _ => rfl
  | true => exact .scalar rfl rfl (by decide) fun _ _ => rfl
  | false => exact .scalar rfl rfl (by decide) fun _ _ => rfl
  | number isNumber =>
      obtain ⟨octet, others, encoded, rfl | digit⟩ := isNumber.begins
      · exact .scalar encoded rfl (by decide) fun _ => isNumber.skip
      · exact .scalar encoded (isBlankOctet_of_digit digit)
          ⟨digit_ne digit rfl, digit_ne digit rfl⟩ fun _ => isNumber.skip
  | text spells =>
      obtain ⟨others, encoded⟩ := spells.begins
      refine .scalar encoded rfl (by decide) fun rest _ => ?_
      obtain ⟨inside, same, skipped⟩ := spells.skip rest
      rw [same]
      exact skipped
  | array encloses areJson inductionHypothesis =>
      exact .bracket .square encloses (fun item member => (areJson item member).begins)
        inductionHypothesis
  | @object written items members encloses spells areJson inductionHypothesis =>
      refine .bracket .curly encloses (fun item isItem => ?_) fun item isItem => ?_
      · obtain ⟨member, -, isSpelled⟩ := exists_of_forall₂ spells isItem
        exact isSpelled.begins
      · obtain ⟨member, isMember, isSpelled⟩ := exists_of_forall₂ spells isItem
        exact .member isSpelled (inductionHypothesis member isMember)

/-- Whatever JSON stands next is skipped, and no more. -/
theorem IsJson.skipValue
    {written before : List Char}
    (isJson : IsJson written)
    (areBlank : AreBlank before)
    (ends : Ends rest) :
    Json.skipValue (octets before ++ (octets written ++ rest)) = .ok rest := by
  obtain ⟨cost, cheap, passes⟩ := isJson.skips before [] rest areBlank ends
  unfold Json.skipValue
  rw [passes _ (by simp; omega)]
  cases left : List.drop cost (0 :: (octets before ++ (octets written ++ rest))) with
  | nil =>
      rw [List.drop_eq_nil_iff] at left
      simp at left
      omega
  | cons octet budget => rfl

end SecretsAdmin.Json
