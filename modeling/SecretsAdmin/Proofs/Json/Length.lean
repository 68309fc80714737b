import SecretsAdmin.Json.Read

namespace SecretsAdmin.Json

/-!
# Lengths of arrays

Every element of an array takes at least one byte, so an array has no more elements than its text
has bytes.
-/

theorem length_skipBlanks_le (unread : Octets) :
    (skipBlanks unread).length ≤ unread.length :=
  (List.dropWhile_suffix isBlankOctet).length_le

/-- No more elements are found than the budget has bytes. -/
theorem length_readElements_le
    {α : Type}
    {read : Reader α}
    {index : Nat}
    {found elements : List α}
    {budget unread rest : Octets}
    (isRead : readElements read index found budget unread = .ok (elements, rest)) :
    elements.length ≤ found.length + budget.length := by
  induction budget generalizing index found unread with
  | nil =>
      rw [readElements] at isRead
      cases isRead
  | cons _ budget inductionHypothesis =>
      rw [readElements] at isRead
      cases moved : nextElement (index == 0) unread with
      | error failure =>
          rw [moved] at isRead
          cases isRead
      | ok place =>
          rw [moved] at isRead
          obtain ⟨more, unread⟩ := place
          cases more with
          | false =>
              cases isRead
              simp
          | true =>
              simp only [bind, Except.bind] at isRead
              split at isRead
              next => contradiction
              next element _ _ =>
                have later := inductionHypothesis isRead
                simp only [List.length_cons] at later ⊢
                omega

private theorem bind_ne_ok
    {α β : Type}
    {scanned : Except Failure β}
    {next : β → Except Failure α}
    (fails : ∀ found value, next found ≠ .ok value)
    (value : α) :
    scanned.bind next ≠ .ok value := by
  cases scanned with
  | error failure => exact nofun
  | ok found => exact fails found value

/-- A value of another type than is wanted is never read. -/
theorem mismatch_ne_ok
    {α : Type}
    (wanted : Wanted)
    (unread : Octets)
    (value : α) :
    mismatch wanted unread ≠ .ok value := by
  unfold mismatch
  split
  case h_1 | h_7 | h_8 => exact nofun
  case h_9 =>
    split
    · refine bind_ne_ok (fun _ _ => ?_) value
      exact nofun
    · exact nofun
  all_goals
    refine bind_ne_ok (fun _ _ => ?_) value
    exact nofun

/-- An array has no more elements than its text has bytes. -/
theorem length_readArray_le
    {α : Type}
    {read : Reader α}
    {unread rest : Octets}
    {elements : List α}
    (isRead : readArray read unread = .ok (elements, rest)) :
    elements.length ≤ unread.length := by
  unfold readArray at isRead
  split at isRead
  next inside opened =>
    have shorter := length_skipBlanks_le unread
    rw [opened, List.length_cons] at shorter
    unfold readArrayBody at isRead
    cases outcome : readElements read 0 [] (0 :: inside) inside with
    | error failure =>
        rw [outcome] at isRead
        cases isRead
    | ok place =>
        obtain ⟨found, unclosed⟩ := place
        have bound := length_readElements_le outcome
        simp only [List.length_nil, List.length_cons] at bound
        rw [outcome] at isRead
        cases closed : closeArray unclosed with
        | error failure =>
            simp [bind, Except.bind, closed] at isRead
        | ok unread =>
            simp only [bind, Except.bind, closed, pure, Except.pure, Except.ok.injEq,
              Prod.mk.injEq] at isRead
            rw [← isRead.1]
            omega
  next =>
    exact absurd isRead (mismatch_ne_ok _ _ _)

/-- A text that holds a value and nothing else begins with the value. -/
theorem exists_read_of_parse
    {α : Type}
    {read : Reader α}
    {source : Octets}
    {value : α}
    (parsed : parse read source = .ok value) :
    ∃ rest, read source = .ok (value, rest) := by
  unfold parse at parsed
  cases outcome : read source with
  | error failure =>
      rw [outcome] at parsed
      cases parsed
  | ok found =>
      obtain ⟨other, rest⟩ := found
      rw [outcome] at parsed
      cases ended : expectEnd rest with
      | error failure => simp [bind, Except.bind, ended] at parsed
      | ok _ =>
          simp only [bind, Except.bind, ended, pure, Except.pure, Except.ok.injEq] at parsed
          exact ⟨rest, by rw [parsed]⟩

end SecretsAdmin.Json
