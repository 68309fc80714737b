import Mathlib.Data.List.Basic
import SecretsAdmin.Proofs.Text.Utf8

namespace SecretsAdmin.Utf8

/-!
# What is read was written in UTF-8

Bytes decode to a text only if they are the bytes of the text: the strict reading is the inverse of
writing, on all byte strings. What a lenient reading makes of such bytes is the same text.
-/

/-! ## Encodings under way -/

/-- The value of an encoding with more of its bytes. -/
def valueWith (value : Nat) (more : Octets) : Nat :=
  more.foldl (fun value octet => value * 64 + (octet.toNat - 0x80)) value

namespace Pending

/-- Whether bytes are those that an encoding still lacks. -/
structure Lacks (pending : Pending) (octet : UInt8) (more : Octets) : Prop where
  lowest : pending.lowest ≤ octet.toNat
  highest : octet.toNat ≤ pending.highest
  due : pending.due = more.length + 1
  more : ∀ other ∈ more, 0x80 ≤ other.toNat ∧ other.toNat ≤ 0xBF

/--
Whether bytes begin the encoding under way: with whatever it still lacks, they are the bytes of a
character.
-/
structure Continues (pending : Pending) (front : Octets) : Prop where
  due : 0 < pending.due
  completed :
    ∀ octet more,
      pending.Lacks octet more →
        String.utf8EncodeChar (Char.ofNat (valueWith pending.value (octet :: more))) =
          front ++ octet :: more

end Pending

/-- A number that is no surrogate is the value of the character that it stands for. -/
private theorem toNat_ofNat
    {value : Nat}
    (small : value < 0x110000)
    (isScalar : ¬(0xD800 ≤ value ∧ value ≤ 0xDFFF)) :
    (Char.ofNat value).val.toNat = value := by
  have valid : value.isValidChar := by
    simp only [Nat.isValidChar]
    omega
  rw [Char.ofNat, dif_pos valid]
  rfl

private theorem ofNat_eq
    {number : Nat}
    (octet : UInt8)
    (same : number = octet.toNat) :
    UInt8.ofNat number = octet := by
  rw [same, UInt8.ofNat_toNat]

/-! The first byte says how many are due, and the range of the second leaves out the values that no
character has. -/

private theorem continues_two
    {octet : UInt8}
    (least : 0xC2 ≤ octet.toNat)
    (less : octet.toNat < 0xE0) :
    Pending.Continues ⟨1, 1, 0x80, 0xBF, octet.toNat - 0xC0⟩ [octet] where
  due := Nat.one_pos
  completed second more lacks := by
    obtain ⟨lowest, highest, due, -⟩ := lacks
    dsimp only at lowest highest due
    obtain rfl : more = [] := List.length_eq_zero_iff.mp (by omega)
    dsimp only [valueWith, List.foldl_cons, List.foldl_nil]
    generalize isValue : (octet.toNat - 0xC0) * 64 + (second.toNat - 0x80) = value
    unfold String.utf8EncodeChar
    rw [toNat_ofNat (by omega) (by omega)]
    dsimp only
    rw [if_neg (by omega), if_pos (by omega), ofNat_eq octet (by omega),
      ofNat_eq second (by omega)]
    rfl

private theorem continues_three
    {octet : UInt8}
    (least : 0xE0 ≤ octet.toNat)
    (less : octet.toNat < 0xF0) :
    Pending.Continues
      ⟨1, 2,
        if octet.toNat = 0xE0 then 0xA0 else 0x80,
        if octet.toNat = 0xED then 0x9F else 0xBF,
        octet.toNat - 0xE0⟩
      [octet] where
  due := Nat.two_pos
  completed second more lacks := by
    obtain ⟨lowest, highest, due, isMore⟩ := lacks
    dsimp only at lowest highest due
    have isLowest : 0x80 ≤ second.toNat ∧ (octet.toNat = 0xE0 → 0xA0 ≤ second.toNat) := by
      split at lowest <;> omega
    have isHighest : second.toNat ≤ 0xBF ∧ (octet.toNat = 0xED → second.toNat ≤ 0x9F) := by
      split at highest <;> omega
    clear lowest highest
    obtain ⟨third, rfl⟩ : ∃ third, more = [third] := List.length_eq_one_iff.mp (by omega)
    have isThird := isMore third List.mem_cons_self
    dsimp only [valueWith, List.foldl_cons, List.foldl_nil]
    generalize isValue :
      ((octet.toNat - 0xE0) * 64 + (second.toNat - 0x80)) * 64 + (third.toNat - 0x80) = value
    unfold String.utf8EncodeChar
    rw [toNat_ofNat (by omega) (by omega)]
    dsimp only
    rw [if_neg (by omega), if_neg (by omega), if_pos (by omega),
      ofNat_eq octet (by omega), ofNat_eq second (by omega),
      ofNat_eq third (by omega)]
    rfl

private theorem continues_four
    {octet : UInt8}
    (least : 0xF0 ≤ octet.toNat)
    (less : octet.toNat < 0xF5) :
    Pending.Continues
      ⟨1, 3,
        if octet.toNat = 0xF0 then 0x90 else 0x80,
        if octet.toNat = 0xF4 then 0x8F else 0xBF,
        octet.toNat - 0xF0⟩
      [octet] where
  due := Nat.succ_pos 2
  completed second more lacks := by
    obtain ⟨lowest, highest, due, isMore⟩ := lacks
    dsimp only at lowest highest due
    have isLowest : 0x80 ≤ second.toNat ∧ (octet.toNat = 0xF0 → 0x90 ≤ second.toNat) := by
      split at lowest <;> omega
    have isHighest : second.toNat ≤ 0xBF ∧ (octet.toNat = 0xF4 → second.toNat ≤ 0x8F) := by
      split at highest <;> omega
    clear lowest highest
    obtain ⟨third, fourth, rfl⟩ : ∃ third fourth, more = [third, fourth] :=
      List.length_eq_two.mp (by omega)
    have isThird := isMore third List.mem_cons_self
    have isFourth := isMore fourth (by simp)
    dsimp only [valueWith, List.foldl_cons, List.foldl_nil]
    generalize isValue :
      (((octet.toNat - 0xF0) * 64 + (second.toNat - 0x80)) * 64 + (third.toNat - 0x80)) * 64 +
        (fourth.toNat - 0x80) = value
    unfold String.utf8EncodeChar
    rw [toNat_ofNat (by omega) (by omega)]
    dsimp only
    rw [if_neg (by omega), if_neg (by omega), if_neg (by omega),
      ofNat_eq octet (by omega), ofNat_eq second (by omega),
      ofNat_eq third (by omega), ofNat_eq fourth (by omega)]
    rfl

/-- With one more of the bytes that it lacks, an encoding is under way or is that of a character. -/
theorem Pending.Continues.next
    {pending : Pending}
    {front : Octets}
    {octet : UInt8}
    (continues : pending.Continues front)
    (least : pending.lowest ≤ octet.toNat)
    (greatest : octet.toNat ≤ pending.highest) :
    let value := pending.value * 64 + (octet.toNat - 0x80)
    if pending.due ≤ 1 then
      String.utf8EncodeChar (Char.ofNat value) = front ++ [octet]
    else
      Pending.Continues ⟨pending.width + 1, pending.due - 1, 0x80, 0xBF, value⟩
        (front ++ [octet]) := by
  have due := continues.due
  dsimp only
  split
  next isLast =>
    have isDue : pending.due = 1 := by omega
    have whole := continues.completed octet [] ⟨least, greatest, isDue, nofun⟩
    rwa [valueWith, List.foldl_cons, List.foldl_nil] at whole
  next isMore =>
    refine ⟨Nat.sub_pos_of_lt (Nat.not_le.mp isMore), fun second more lacks => ?_⟩
    have isDue : pending.due - 1 = more.length + 1 := lacks.due
    have whole := continues.completed octet (second :: more)
      ⟨least, greatest, by rw [List.length_cons]; omega,
        List.forall_mem_cons.mpr ⟨⟨lacks.lowest, lacks.highest⟩, lacks.more⟩⟩
    rw [valueWith, List.foldl_cons] at whole
    rw [List.append_assoc, List.singleton_append]
    exact whole

/-! ## What was found -/

namespace Progress

/--
Whether the bytes so far are those of the characters that were found and of the encoding under way,
if nothing but characters was found.
-/
def AccountsFor (progress : Progress) (octets : Octets) : Prop :=
  ∀ latest : List Char,
    progress.found = latest.map Piece.scalar →
      match progress.pending with
      | none => octets = latest.reverse.flatMap String.utf8EncodeChar
      | some pending =>
          ∃ front,
            pending.Continues front ∧
              octets = latest.reverse.flatMap String.utf8EncodeChar ++ front

/-- A character is accounted for by its bytes. -/
private theorem accountsFor_scalar
    {found : List Piece}
    {octets front : Octets}
    {character : Char}
    (isFront :
      ∀ latest : List Char,
        found = latest.map Piece.scalar →
          ∃ before,
            octets = latest.reverse.flatMap String.utf8EncodeChar ++ before ∧
              String.utf8EncodeChar character = before ++ front) :
    AccountsFor ⟨.scalar character :: found, none⟩ (octets ++ front) := by
  intro latest isFound
  cases latest with
  | nil => cases isFound
  | cons last others =>
      obtain ⟨isLast, isOthers⟩ := List.cons.inj isFound
      obtain ⟨before, isOctets, isCharacter⟩ := isFront others isOthers
      cases isLast
      rw [isOctets, List.reverse_cons, List.flatMap_append, List.flatMap_singleton, isCharacter,
        List.append_assoc]

/-- Where bytes are at fault, nothing has to be accounted for. -/
private theorem accountsFor_malformed
    {found : List Piece}
    {width : Nat}
    {pending : Option Pending}
    {octets : Octets} :
    AccountsFor ⟨.malformed width :: found, pending⟩ octets := by
  intro latest isFound
  cases latest <;> cases isFound

/-- The byte with which a piece begins is accounted for, whatever it begins. -/
private theorem accountsFor_start
    {found : List Piece}
    {octets : Octets}
    (accounts : AccountsFor ⟨found, none⟩ octets)
    (octet : UInt8) :
    (start found octet.toNat).AccountsFor (octets ++ [octet]) := by
  have begins
      {pending : Pending}
      (continues : pending.Continues [octet]) :
      AccountsFor ⟨found, some pending⟩ (octets ++ [octet]) := by
    intro latest isFound
    exact ⟨[octet], continues, by rw [accounts latest isFound]⟩
  by_cases isAscii : octet.toNat < 0x80
  · have isOctet : String.utf8EncodeChar (Char.ofNat octet.toNat) = [octet] := by
      have same : (Char.ofNat octet.toNat).toNat = octet.toNat :=
        toNat_ofNat (by omega) (by omega)
      rw [utf8EncodeChar_of_ascii (by omega), same, UInt8.ofNat_toNat]
    rw [start, if_pos isAscii]
    refine accountsFor_scalar fun latest isFound => ⟨[], ?_, isOctet⟩
    rw [accounts latest isFound, List.append_nil]
  by_cases isTail : octet.toNat < 0xC2
  · rw [start, if_neg isAscii, if_pos isTail]
    exact accountsFor_malformed
  by_cases isTwo : octet.toNat < 0xE0
  · rw [start_of_two found (by omega) isTwo]
    exact begins (continues_two (by omega) isTwo)
  by_cases isThree : octet.toNat < 0xF0
  · rw [start_of_three found (by omega) isThree]
    exact begins (continues_three (by omega) isThree)
  by_cases isFour : octet.toNat < 0xF5
  · rw [start_of_four found (by omega) isFour]
    exact begins (continues_four (by omega) isFour)
  · rw [start, if_neg isAscii, if_neg isTail, if_neg isTwo, if_neg isThree, if_neg isFour]
    exact accountsFor_malformed

/-- One more byte is accounted for as those before it are. -/
theorem AccountsFor.advance
    {progress : Progress}
    {octets : Octets}
    (accounts : progress.AccountsFor octets)
    (octet : UInt8) :
    (progress.advance octet).AccountsFor (octets ++ [octet]) := by
  obtain ⟨found, pending⟩ := progress
  cases pending with
  | none => exact accountsFor_start accounts octet
  | some pending =>
      unfold Progress.advance
      dsimp only
      split
      next inRange =>
        split
        next isLast =>
          refine accountsFor_scalar fun latest isFound => ?_
          obtain ⟨front, continues, isOctets⟩ := accounts latest isFound
          have completed := continues.next inRange.1 inRange.2
          dsimp only at completed
          rw [if_pos isLast] at completed
          exact ⟨front, isOctets, completed⟩
        next isMore =>
          intro latest isFound
          obtain ⟨front, continues, isOctets⟩ := accounts latest isFound
          have further := continues.next inRange.1 inRange.2
          dsimp only at further
          rw [if_neg isMore] at further
          exact ⟨front ++ [octet], further, by rw [isOctets, List.append_assoc]⟩
      next => exact accountsFor_start accountsFor_malformed octet

/-- All bytes are accounted for, one after the other. -/
theorem AccountsFor.foldl
    {progress : Progress}
    {front : Octets}
    (accounts : progress.AccountsFor front)
    (octets : Octets) :
    (octets.foldl Progress.advance progress).AccountsFor (front ++ octets) := by
  induction octets generalizing progress front with
  | nil => rwa [List.append_nil]
  | cons octet rest inductionHypothesis =>
      have whole := inductionHypothesis (accounts.advance octet)
      rwa [List.append_assoc, List.singleton_append] at whole

end Progress

/-! ## Strict and lenient readings -/

/-- Bytes that are divided into characters alone are those of the characters. -/
theorem eq_of_pieces
    {octets : Octets}
    {characters : List Char}
    (isPieces : pieces octets = characters.map Piece.scalar) :
    octets = characters.flatMap String.utf8EncodeChar := by
  have begun : Progress.AccountsFor ⟨[], none⟩ [] := by
    intro latest isFound
    obtain rfl : latest = [] := by simpa using isFound.symm
    rfl
  have accounts := begun.foldl octets
  unfold pieces Progress.finish at isPieces
  unfold Progress.AccountsFor at accounts
  split at isPieces
  next isDone =>
    have isFound := List.reverse_eq_iff.mp isPieces
    rw [← List.map_reverse] at isFound
    have same := accounts _ isFound
    rw [isDone, List.reverse_reverse] at same
    exact same
  next pending _ =>
    have member : Piece.truncated pending.width ∈ characters.map Piece.scalar := by
      rw [← isPieces]
      simp
    obtain ⟨character, -, same⟩ := List.mem_map.mp member
    cases same

private theorem gather_eq_ok
    {gathered result : List Char}
    {offset : Nat}
    {found : List Piece}
    (isGathered : gather gathered offset found = .ok result) :
    ∃ characters : List Char,
      found = characters.map Piece.scalar ∧ result = characters.reverse ++ gathered := by
  induction found generalizing gathered offset with
  | nil =>
      cases isGathered
      exact ⟨[], rfl, rfl⟩
  | cons piece rest inductionHypothesis =>
      cases piece with
      | scalar character =>
          rw [gather] at isGathered
          obtain ⟨characters, rfl, rfl⟩ := inductionHypothesis isGathered
          exact ⟨character :: characters, rfl, by simp⟩
      | malformed width => cases isGathered
      | truncated width => cases isGathered

/-- Bytes decode to a text exactly if they are the bytes of the text. -/
theorem decode_eq_ok_iff
    {octets : Octets}
    {text : String} :
    decode octets = .ok text ↔ encode text = octets := by
  constructor
  · intro decoded
    unfold decode at decoded
    cases isGathered : gather [] 0 (pieces octets) with
    | error defect =>
        rw [isGathered] at decoded
        cases decoded
    | ok result =>
        rw [isGathered] at decoded
        cases decoded
        obtain ⟨characters, isPieces, rfl⟩ := gather_eq_ok isGathered
        dsimp only
        rw [List.append_nil, List.reverse_reverse, encode_ofList, eq_of_pieces isPieces]
  · rintro rfl
    exact decode_encode text

/-- Bytes do not decode exactly if they are the bytes of no text. -/
theorem exists_decode_eq_error_iff
    {octets : Octets} :
    (∃ defect, decode octets = .error defect) ↔ ∀ text, encode text ≠ octets := by
  cases decoded : decode octets with
  | ok text =>
      refine ⟨nofun, fun isNone => ?_⟩
      exact absurd (decode_eq_ok_iff.mp decoded) (isNone text)
  | error defect =>
      refine ⟨fun _ text isText => ?_, fun _ => ⟨defect, rfl⟩⟩
      rw [decode_eq_ok_iff.mpr isText] at decoded
      cases decoded

end SecretsAdmin.Utf8
