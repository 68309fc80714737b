namespace SecretsAdmin.Text

/-!
# Blank characters

The characters with the Unicode property `White_Space`, and the removal of them from both ends
of a text.
-/

/-- Whether a character has the Unicode property `White_Space`. -/
def isBlank (character : Char) : Bool :=
  let code := character.toNat
  (0x09 ≤ code && code ≤ 0x0D) ||
    code == 0x20 || code == 0x85 || code == 0xA0 || code == 0x1680 ||
    (0x2000 ≤ code && code ≤ 0x200A) ||
    code == 0x2028 || code == 0x2029 || code == 0x202F || code == 0x205F ||
    code == 0x3000

/-- Remove blanks from both ends of a list of characters. -/
def trimBlanks (characters : List Char) : List Char :=
  ((characters.dropWhile isBlank).reverse.dropWhile isBlank).reverse

/-- Without blanks nothing is removed. -/
theorem trimBlanks_eq_self
    {characters : List Char}
    (noBlank : characters.all (fun character => !isBlank character) = true) :
    trimBlanks characters = characters := by
  have kept
      {characters : List Char}
      (noBlank : characters.all (fun character => !isBlank character) = true) :
      characters.dropWhile isBlank = characters := by
    cases characters with
    | nil => rfl
    | cons first rest =>
        rw [List.all_cons, Bool.and_eq_true, Bool.not_eq_true'] at noBlank
        rw [List.dropWhile_cons, noBlank.1]
        rfl
  unfold trimBlanks
  rw [kept noBlank, kept (by rwa [List.all_reverse]), List.reverse_reverse]

end SecretsAdmin.Text
